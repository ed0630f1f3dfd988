/-!
# Labelled transition systems

A system is a set of initial states and a labelled step relation. Runs are
finite sequences of steps; a state is reachable if a run from an initial
state ends in it.

* `Inductive.reachable`: a predicate that holds initially and is kept by
  every step holds in every reachable state.
* `run_map`: if every step of one system is matched by a run of another one
  (of any length, including none), then so is every run. This is the rule
  by which a whole history is shown to refine an abstract machine.
* `RunIn`: a run all of whose states satisfy a predicate.
* `restrict`: the system left when some steps are ruled out;
  `runIn_iff_restrict` relates the two.
* `run_of_runFn`: a system given by a partial step function can be run, so
  concrete reachable states are obtained by evaluation.
-/
namespace Gr4cp.Core

structure LTS (S L : Type) where
  init : S → Prop
  step : S → L → S → Prop

namespace LTS

variable {S L T E : Type}

inductive Run (M : LTS S L) : S → List L → S → Prop
  | nil (s : S) : Run M s [] s
  | cons {s s' s'' : S} {l : L} {ls : List L} :
      M.step s l s' → Run M s' ls s'' → Run M s (l :: ls) s''

def Reachable (M : LTS S L) (s : S) : Prop := ∃ s₀ ls, M.init s₀ ∧ M.Run s₀ ls s

/-- `I` holds initially and every step keeps it. -/
structure Inductive (M : LTS S L) (I : S → Prop) : Prop where
  init : ∀ s, M.init s → I s
  step : ∀ s l s', I s → M.step s l s' → I s'

variable {M : LTS S L} {N : LTS T E} {I : S → Prop}

theorem Run.append {a b c : S} {l₁ l₂ : List L} (h₁ : M.Run a l₁ b) (h₂ : M.Run b l₂ c) :
    M.Run a (l₁ ++ l₂) c := by
  induction h₁ with
  | nil => exact h₂
  | cons hs _ ih => exact .cons hs (ih h₂)

theorem Run.split {a c : S} {l₁ l₂ : List L} (h : M.Run a (l₁ ++ l₂) c) :
    ∃ b, M.Run a l₁ b ∧ M.Run b l₂ c := by
  induction l₁ generalizing a with
  | nil => exact ⟨a, .nil a, h⟩
  | cons l l₁ ih =>
    cases h with
    | cons hs hr =>
      obtain ⟨b, h₁, h₂⟩ := ih hr
      exact ⟨b, .cons hs h₁, h₂⟩

theorem Inductive.run (h : M.Inductive I) {s s' : S} {ls : List L} (hr : M.Run s ls s')
    (hs : I s) : I s' := by
  induction hr with
  | nil => exact hs
  | cons hstep _ ih => exact ih (h.step _ _ _ hs hstep)

theorem Inductive.reachable (h : M.Inductive I) {s : S} (hr : M.Reachable s) : I s := by
  obtain ⟨s₀, ls, h₀, hrun⟩ := hr
  exact h.run hrun (h.init s₀ h₀)

/-- A run all of whose states satisfy `P`. -/
inductive RunIn (M : LTS S L) (P : S → Prop) : S → List L → S → Prop
  | nil {s : S} : P s → RunIn M P s [] s
  | cons {s s' s'' : S} {l : L} {ls : List L} :
      P s → M.step s l s' → RunIn M P s' ls s'' → RunIn M P s (l :: ls) s''

theorem RunIn.first {P : S → Prop} {s s' : S} {ls : List L} (h : M.RunIn P s ls s') : P s := by
  cases h with
  | nil h => exact h
  | cons h _ _ => exact h

theorem RunIn.last {P : S → Prop} {s s' : S} {ls : List L} (h : M.RunIn P s ls s') : P s' := by
  induction h with
  | nil h => exact h
  | cons _ _ _ ih => exact ih

/-- The system without the steps that are not `ok`. -/
def restrict (M : LTS S L) (ok : S → L → Prop) : LTS S L where
  init := M.init
  step s l s' := M.step s l s' ∧ ok s l

theorem Run.restrict {ok : S → L → Prop} {s s' : S} {ls : List L} (h : M.Run s ls s')
    (hok : ∀ l ∈ ls, ∀ t, ok t l) : (M.restrict ok).Run s ls s' := by
  induction h with
  | nil => exact .nil _
  | cons hstep _ ih =>
    exact .cons ⟨hstep, hok _ (by simp) _⟩ (ih fun l hl => hok l (by simp [hl]))

/-- What each step keeps exactly when it is `ok` holds along the runs whose
steps all are. -/
theorem runIn_iff_restrict {P : S → Prop} {ok : S → L → Prop} (hI : M.Inductive I)
    (hstep : ∀ s l s', I s → P s → M.step s l s' → (P s' ↔ ok s l)) {s s' : S} {ls : List L}
    (hs : I s) (hP : P s) : M.RunIn P s ls s' ↔ (M.restrict ok).Run s ls s' := by
  constructor
  · intro h
    clear hP
    induction h with
    | nil => exact .nil _
    | cons hP h hrest ih =>
      exact .cons ⟨h, (hstep _ _ _ hs hP h).1 hrest.first⟩ (ih (hI.step _ _ _ hs h))
  · intro h
    induction h with
    | nil => exact .nil hP
    | cons h _ ih =>
      exact .cons hP h.1 (ih (hI.step _ _ _ hs h.1) ((hstep _ _ _ hs hP h.1).2 h.2))

/-- The events a run shows, when each step shows `ev s l s'`. -/
inductive Shows (M : LTS S L) (ev : S → L → S → List E) : S → List L → S → List E → Prop
  | nil (s : S) : Shows M ev s [] s []
  | cons {s s' s'' : S} {l : L} {ls : List L} {es : List E} :
      M.step s l s' → Shows M ev s' ls s'' es → Shows M ev s (l :: ls) s'' (ev s l s' ++ es)

theorem Run.shows (ev : S → L → S → List E) {s s' : S} {ls : List L} (h : M.Run s ls s') :
    ∃ es, M.Shows ev s ls s' es := by
  induction h with
  | nil => exact ⟨[], .nil _⟩
  | cons hstep _ ih =>
    obtain ⟨es, hes⟩ := ih
    exact ⟨_, .cons hstep hes⟩

theorem Shows.run {ev : S → L → S → List E} {s s' : S} {ls : List L} {es : List E}
    (h : M.Shows ev s ls s' es) : M.Run s ls s' := by
  induction h with
  | nil => exact .nil _
  | cons hstep _ ih => exact .cons hstep ih

/-- Run simulation: `abs` maps states, `ev` the events a step shows. -/
theorem run_map (hI : M.Inductive I) (abs : S → T) (ev : S → L → S → List E)
    (hstep : ∀ s l s', I s → M.step s l s' → N.Run (abs s) (ev s l s') (abs s'))
    {s s' : S} {ls : List L} {es : List E} (hr : M.Shows ev s ls s' es) (hs : I s) :
    N.Run (abs s) es (abs s') := by
  induction hr with
  | nil => exact .nil _
  | cons h _ ih => exact (hstep _ _ _ hs h).append (ih (hI.step _ _ _ hs h))

/-- The system of a partial step function. -/
def ofFn (init : S → Prop) (step : S → L → Option S) : LTS S L where
  init := init
  step s l s' := step s l = some s'

def runFn (step : S → L → Option S) : S → List L → Option S
  | s, [] => some s
  | s, l :: ls => (step s l).bind fun s' => runFn step s' ls

theorem run_of_runFn {init : S → Prop} {step : S → L → Option S} :
    ∀ (s : S) (ls : List L) (s' : S), runFn step s ls = some s' → (ofFn init step).Run s ls s'
  | s, [], s', h => by
    simp only [runFn, Option.some.injEq] at h
    subst h
    exact .nil _
  | s, l :: ls, s', h => by
    simp only [runFn, Option.bind_eq_some_iff] at h
    obtain ⟨s₁, h₁, h₂⟩ := h
    exact .cons h₁ (run_of_runFn s₁ ls s' h₂)

end LTS

end Gr4cp.Core

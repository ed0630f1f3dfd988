import Mathlib.Logic.Function.Basic
import Gr4ControlPlane.Core.Prog

/-!
# Pools of threads

`Prog.next` is one atomic step of a program. A `Pool` runs at most one
program per index over a shared state, in any interleaving; `calls` starts
the body of a call on the index that owns it, when that index is free.

`Sat.next` is the step rule of `Sat`. `pool_inductive` is the thread-modular
rule: if the body of every call, started in a view that satisfies `idle`,
satisfies `Sat` with a postcondition that gives `idle` back, then in every
reachable state every free index satisfies `idle` and every running program
satisfies `Sat`; if moreover each of a thread's steps keeps `always` of its
own view, then `always` holds of every index in every reachable state, also
in the middle of calls.
-/
namespace Gr4cp.Core

namespace Prog

variable {σ Q : Type} {A : Q → Type} {ε α : Type}

/-- One atomic step; a program that has returned has none. -/
def next (ans : ∀ q, A q) : Prog σ Q A ε α → σ → Option (Prog σ Q A ε α × σ)
  | .ret _, _ => none
  | .act u n, s => some (n s, u s)
  | .ask q n, s => some (n (ans q), s)

/-- A step of the first part is a step of the whole. -/
theorem next_bind {β : Type} {ans : ∀ q, A q} {p p' : Prog σ Q A ε α} {s s' : σ}
    (h : p.next ans s = some (p', s')) (f : α → Prog σ Q A ε β) :
    (p >>= f).next ans s = some (p' >>= f, s') := by
  cases p with
  | ret r => cases h
  | act u n => cases h; rfl
  | ask q n => cases h; rfl

section

variable {ι V : Type} {view : ι → σ → V} {keep : σ → σ → Prop} {i : ι}
  {post : Except ε α → V → Prop} {p p' : Prog σ Q A ε α} {s s' : σ}

theorem Sat.next {ans : ∀ q, A q} (hk : ∀ t, keep t t) (h : Sat view keep i post p s)
    (hn : p.next ans s = some (p', s')) :
    Sat view keep i post p' s' ∧ (∀ j, j ≠ i → view j s' = view j s) ∧ keep s s' := by
  cases p with
  | ret r => cases hn
  | act u n =>
    cases hn
    obtain ⟨hf, hkeep, hsat⟩ := h s rfl
    exact ⟨hsat, hf, hkeep⟩
  | ask q n =>
    cases hn
    exact ⟨h (ans q), fun _ _ => rfl, hk s⟩

end

end Prog

/-- At most one running program per index. -/
structure Pool (ι σ Q : Type) (A : Q → Type) (ε α : Type) where
  shared : σ
  running : ι → Option (Prog σ Q A ε α)

namespace Pool

variable {ι σ Q C V : Type} {A : Q → Type} {ε α : Type} [DecidableEq ι]

inductive Lbl (ι C Q : Type) (A : Q → Type) where
  | call (c : C)
  | step (i : ι) (ans : ∀ q, A q)
  | finish (i : ι)

def step (owner : C → ι) (body : C → Prog σ Q A ε α) (s : Pool ι σ Q A ε α) :
    Lbl ι C Q A → Option (Pool ι σ Q A ε α)
  | .call c =>
    match s.running (owner c) with
    | none => some { s with running := Function.update s.running (owner c) (some (body c)) }
    | some _ => none
  | .step i ans =>
    match s.running i with
    | none => none
    | some p => (p.next ans s.shared).map fun (p', t) =>
        { shared := t, running := Function.update s.running i (some p') }
  | .finish i =>
    match s.running i with
    | some (.ret _) => some { s with running := Function.update s.running i none }
    | _ => none

/-- The pool with nothing running and an initial shared state. -/
def calls (owner : C → ι) (body : C → Prog σ Q A ε α) (s₀ : σ) :
    LTS (Pool ι σ Q A ε α) (Lbl ι C Q A) :=
  LTS.ofFn (fun s => s = ⟨s₀, fun _ => none⟩) (step owner body)

section Rule

variable (view : ι → σ → V) (keep : ι → σ → σ → Prop) (idle always : ι → V → Prop)

/-- The local assertion of index `i`. -/
def Local (s : Pool ι σ Q A ε α) (i : ι) : Prop :=
  match s.running i with
  | none => idle i (view i s.shared)
  | some p => p.Sat view (keep i) i (fun _ v => idle i v) s.shared

/-- What the thread-modular rule establishes. -/
structure Inv (s : Pool ι σ Q A ε α) : Prop where
  loc : ∀ i, Local view keep idle s i
  always : ∀ i, always i (view i s.shared)

variable {view keep idle always} {owner : C → ι} {body : C → Prog σ Q A ε α} {s₀ : σ}

omit [DecidableEq ι] in
/-- An index keeps its local assertion while its own program and its view
stay as they are. -/
theorem Local.frame {s s' : Pool ι σ Q A ε α} {i : ι} (h : Local view keep idle s i)
    (hr : s'.running i = s.running i) (hv : view i s'.shared = view i s.shared) :
    Local view keep idle s' i := by
  unfold Local at h ⊢
  rw [hr]
  cases hp : s.running i with
  | none => rw [hp] at h; rwa [hv]
  | some p => rw [hp] at h; exact h.congr hv

omit [DecidableEq ι] in
theorem Inv.next {s : Pool ι σ Q A ε α} (hI : Inv view keep idle always s)
    (hrefl : ∀ i t, keep i t t) {i : ι} {ans : ∀ q, A q} {p p' : Prog σ Q A ε α} {t : σ}
    (hr : s.running i = some p) (hn : p.next ans s.shared = some (p', t)) :
    p'.Sat view (keep i) i (fun _ v => idle i v) t ∧
      (∀ j, j ≠ i → view j t = view j s.shared) ∧ keep i s.shared t := by
  have hsat := hI.loc i
  simp only [Local, hr] at hsat
  exact hsat.next (hrefl i) hn

theorem pool_inductive (hidle : ∀ i, idle i (view i s₀)) (halways : ∀ i, always i (view i s₀))
    (hrefl : ∀ i s, keep i s s)
    (hkeep : ∀ i s s', keep i s s' → always i (view i s) → always i (view i s'))
    (hbody : ∀ c s, idle (owner c) (view (owner c) s) →
      (body c).Sat view (keep (owner c)) (owner c) (fun _ v => idle (owner c) v) s) :
    (calls owner body s₀).Inductive (Inv view keep idle always) where
  init := by
    rintro s rfl
    exact ⟨hidle, halways⟩
  step := by
    intro s l s' hI hs
    change step owner body s l = some s' at hs
    cases l with
    | call c =>
      simp only [step] at hs
      cases hr : s.running (owner c) with
      | some p => simp [hr] at hs
      | none =>
        simp only [hr, Option.some.injEq] at hs
        subst hs
        refine ⟨fun i => ?_, hI.always⟩
        by_cases hi : i = owner c
        · subst hi
          have hidle := hI.loc (owner c)
          simp only [Local, hr] at hidle
          simpa only [Local, Function.update_self] using hbody c s.shared hidle
        · exact (hI.loc i).frame (Function.update_of_ne hi _ _) rfl
    | step i ans =>
      simp only [step] at hs
      cases hr : s.running i with
      | none => simp [hr] at hs
      | some p =>
        simp only [hr, Option.map_eq_some_iff] at hs
        obtain ⟨⟨p', t⟩, hn, rfl⟩ := hs
        obtain ⟨hsat', hframe, hk⟩ := hI.next hrefl hr hn
        refine ⟨fun j => ?_, fun j => ?_⟩
        · by_cases hj : j = i
          · subst hj
            simpa only [Local, Function.update_self] using hsat'
          · exact (hI.loc j).frame (Function.update_of_ne hj _ _) (hframe j hj)
        · by_cases hj : j = i
          · subst hj
            exact hkeep j _ _ hk (hI.always j)
          · have := hI.always j
            rwa [← hframe j hj] at this
    | finish i =>
      simp only [step] at hs
      split at hs
      · rename_i r hr
        simp only [Option.some.injEq] at hs
        subst hs
        refine ⟨fun j => ?_, hI.always⟩
        by_cases hj : j = i
        · subst hj
          have hsat := hI.loc j
          simp only [Local, hr] at hsat
          simpa only [Local, Function.update_self, Prog.Sat] using hsat
        · exact (hI.loc j).frame (Function.update_of_ne hj _ _) rfl
      · cases hs

/-- A view changes only by a step of its own thread. -/
theorem Inv.step_frame {s s' : Pool ι σ Q A ε α} {l : Lbl ι C Q A}
    (hI : Inv view keep idle always s) (hrefl : ∀ i t, keep i t t)
    (hs : (calls owner body s₀).step s l s') {j : ι} (hl : ∀ ans, l ≠ .step j ans) :
    view j s'.shared = view j s.shared := by
  change step owner body s l = some s' at hs
  cases l with
  | call c =>
    simp only [step] at hs
    split at hs
    · simp only [Option.some.injEq] at hs
      subst hs
      rfl
    · cases hs
  | step i ans =>
    simp only [step] at hs
    cases hr : s.running i with
    | none => simp [hr] at hs
    | some p =>
      simp only [hr, Option.map_eq_some_iff] at hs
      obtain ⟨⟨p', t⟩, hn, rfl⟩ := hs
      refine (hI.next hrefl hr hn).2.1 j ?_
      rintro rfl
      exact hl ans rfl
  | finish i =>
    simp only [step] at hs
    split at hs
    · simp only [Option.some.injEq] at hs
      subst hs
      rfl
    · cases hs

end Rule

end Pool

end Gr4cp.Core

import Gr4ControlPlane.Core.LTS

/-!
# Systems that come to an end

A system whose every step lowers a rank has no infinite run; if moreover
every state that is not finished has a step, no run can stop before it has
finished.

* `Ranked.length_le`: a run is no longer than the rank it starts with.
* `Maximal`: a run that cannot be continued.
* `Ends.maximal`: a maximal run of a system that is ranked and never stuck
  has finished; `Ranked.maximal_exists`: there is one from every state.
-/
namespace Gr4cp.Core.LTS

variable {S L : Type} {M : LTS S L} {I finished : S → Prop} {rank : S → Nat}

/-- From a state of the invariant every step lowers the rank. -/
def Ranked (M : LTS S L) (I : S → Prop) (rank : S → Nat) : Prop :=
  ∀ s l s', I s → M.step s l s' → rank s' < rank s

/-- From a state of the invariant that is not finished there is a step. -/
def NeverStuck (M : LTS S L) (I finished : S → Prop) : Prop :=
  ∀ s, I s → ¬ finished s → ∃ l s', M.step s l s'

/-- A run that cannot be continued. -/
structure Maximal (M : LTS S L) (s : S) (ls : List L) (s' : S) : Prop where
  run : M.Run s ls s'
  last : ∀ l s'', ¬ M.step s' l s''

theorem Ranked.length_le (h : M.Ranked I rank) (hI : M.Inductive I) {s s' : S} {ls : List L}
    (hr : M.Run s ls s') (hs : I s) : ls.length + rank s' ≤ rank s := by
  induction hr with
  | nil => simp
  | cons hstep _ ih =>
    have hlt := h _ _ _ hs hstep
    have hle := ih (hI.step _ _ _ hs hstep)
    rw [List.length_cons]
    omega

/-- A system that always comes to an end. -/
structure Ends (M : LTS S L) (I finished : S → Prop) (rank : S → Nat) : Prop where
  inv : M.Inductive I
  ranked : M.Ranked I rank
  free : M.NeverStuck I finished

theorem Ends.maximal (h : M.Ends I finished rank) {s s' : S} {ls : List L}
    (hr : M.Maximal s ls s') (hs : I s) : finished s' := by
  apply Classical.byContradiction
  intro hnot
  obtain ⟨l, s'', hstep⟩ := h.free s' (h.inv.run hr.run hs) hnot
  exact hr.last l s'' hstep

/-- Every state of the invariant is the start of a run that cannot be
continued. -/
theorem Ranked.maximal_exists (h : M.Ranked I rank) (hI : M.Inductive I) {s : S} (hs : I s) :
    ∃ ls s', M.Maximal s ls s' := by
  -- induction on the rank of the state
  obtain ⟨n, hn⟩ : ∃ n, rank s ≤ n := ⟨rank s, Nat.le_refl _⟩
  induction n generalizing s with
  | zero =>
    refine ⟨[], s, .nil s, fun l s' hstep => ?_⟩
    have hlt := h s l s' hs hstep
    omega
  | succ n ih =>
    by_cases hstep : ∃ l s', M.step s l s'
    · obtain ⟨l, s', hstep⟩ := hstep
      have hlt := h s l s' hs hstep
      obtain ⟨ls, s'', hrun, hlast⟩ := ih (hI.step s l s' hs hstep) (by omega)
      exact ⟨l :: ls, s'', .cons hstep hrun, hlast⟩
    · exact ⟨[], s, .nil s, fun l s' h' => hstep ⟨l, s', h'⟩⟩

theorem Run.unrestrict {ok : S → L → Prop} {s s' : S} {ls : List L}
    (h : (M.restrict ok).Run s ls s') : M.Run s ls s' := by
  induction h with
  | nil => exact .nil _
  | cons hstep _ ih => exact .cons hstep.1 ih

end Gr4cp.Core.LTS

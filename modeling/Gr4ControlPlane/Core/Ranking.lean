import Gr4ControlPlane.Core.Bytes
import Mathlib.Data.List.Destutter
import Mathlib.Data.List.Lex
import Mathlib.Data.List.Nodup
import Mathlib.Data.Prod.Lex

/-!
# Sorting, and the best of each key

`sort` is `std::sort` by a comparator. `Compares less place` says that the
comparator compares places in a linear order; when no two elements share a
place, the sorted list is strictly sorted and is the same for every
permutation of the input. `sortUnique` adds `std::unique`: its result is
strictly sorted and depends on nothing but which elements there are.

`BestOf` relates the elements seen so far to the list kept of them: one
element for each key, better than every other one of its key. It holds of
nothing, and of a new element that is added (`push`) when its key is new and
put in the place of the listed one (`improve`) when it is better.
-/
namespace Gr4cp.Core

/-! ## The order of byte strings -/

/-- The bytes as numbers, which Mathlib orders lexicographically. -/
def Str.code (s : Str) : List ℕ := s.map UInt8.toNat

theorem Str.code_injective : Function.Injective Str.code :=
  List.map_injective_iff.2 fun _ _ h => UInt8.toNat_inj.1 h

theorem Str.lt_iff (s t : Str) : Str.lt s t = true ↔ s.code < t.code := by
  induction t generalizing s with
  | nil => simp [Str.lt, Str.le, Str.code]
  | cons b t ih =>
    cases s with
    | nil => simp [Str.lt, Str.le, Str.code]
    | cons a s =>
      have ih := ih s
      simp only [Str.lt, Str.le, Str.code, List.map_cons, List.cons_lt_cons_iff] at ih ⊢
      by_cases h : b = a
      · simp [h, ih]
      · have hne : b.toNat ≠ a.toNat := fun he => h (UInt8.toNat_inj.1 he)
        simp only [h, if_false, Bool.not_eq_true', decide_eq_false_iff_not, UInt8.lt_iff_toNat_lt]
        omega

namespace Ranking

variable {α κ ρ : Type}

/-! ## Sorting -/

/-- `std::sort` by a comparator. It leaves open how elements of one place
follow each other; here they keep their order. -/
def sort (less : α → α → Bool) (l : List α) : List α := l.mergeSort fun a b => !less b a

/-- The comparator is the order of the places. -/
def Compares [LinearOrder ρ] (less : α → α → Bool) (place : α → ρ) : Prop :=
  ∀ a b, less a b = true ↔ place a < place b

section Sorting

variable [LinearOrder ρ] {less : α → α → Bool} {place : α → ρ} {l l' : List α}

theorem sort_perm (less : α → α → Bool) (l : List α) : (sort less l).Perm l :=
  List.mergeSort_perm l _

theorem Compares.not_iff (h : Compares less place) (a b : α) :
    (!less b a) = true ↔ place a ≤ place b := by
  rw [Bool.not_eq_true', ← Bool.not_eq_true, h b a, not_lt]

theorem sort_sorted (h : Compares less place) (l : List α) :
    (sort less l).Pairwise fun a b => place a ≤ place b := by
  have htrans : ∀ a b c, (!less b a) = true → (!less c b) = true → (!less c a) = true := by
    simp only [h.not_iff]
    exact fun a b c => le_trans
  have htotal : ∀ a b, ((!less b a) || (!less a b)) = true := by
    simp only [Bool.or_eq_true, h.not_iff]
    exact fun a b => le_total _ _
  exact (List.pairwise_mergeSort htrans htotal l).imp fun hab => (h.not_iff _ _).1 hab

/-- Strictly sorted, when no two elements share a place. -/
theorem sort_strict (h : Compares less place) (hl : (l.map place).Nodup) :
    (sort less l).Pairwise fun a b => place a < place b := by
  have hne : (sort less l).Pairwise fun a b => place a ≠ place b :=
    List.pairwise_map.1 ((sort_perm less l).map place |>.nodup_iff.2 hl)
  exact (sort_sorted h l).imp₂ (fun a b hle hn => lt_of_le_of_ne hle hn) hne

/-- The order in which the elements come does not matter. -/
theorem sort_eq_of_perm (h : Compares less place) (hl : (l.map place).Nodup) (hp : l.Perm l') :
    sort less l = sort less l' := by
  have hl' : (l'.map place).Nodup := (hp.map place).nodup_iff.1 hl
  refine List.Perm.eq_of_pairwise (fun a b _ _ hab hba => ?_) (sort_strict h hl)
    (sort_strict h hl') ((sort_perm less l).trans (hp.trans (sort_perm less l').symm))
  exact absurd (lt_trans hab hba) (lt_irrefl _)

end Sorting

/-! ## Each once -/

section Unique

variable [DecidableEq α] [LinearOrder ρ] {less : α → α → Bool} {place : α → ρ} {l l' : List α}

/-- `std::sort`, then `std::unique`. -/
def sortUnique (less : α → α → Bool) (l : List α) : List α := (sort less l).destutter (· ≠ ·)

theorem sortUnique_eq_dedup (h : Compares less place) (hinj : Function.Injective place)
    (l : List α) : sortUnique less l = (sort less l).dedup := by
  have hanti : Std.Antisymm fun a b : α => place a ≤ place b :=
    ⟨fun a b hab hba => hinj (le_antisymm hab hba)⟩
  exact (sort_sorted h l).destutter_eq_dedup

theorem mem_sortUnique (h : Compares less place) (hinj : Function.Injective place) {a : α} :
    a ∈ sortUnique less l ↔ a ∈ l := by
  rw [sortUnique_eq_dedup h hinj, List.mem_dedup, (sort_perm less l).mem_iff]

theorem sortUnique_strict (h : Compares less place) (hinj : Function.Injective place)
    (l : List α) : (sortUnique less l).Pairwise fun a b => place a < place b := by
  have hnodup : (sortUnique less l).Nodup := by
    rw [sortUnique_eq_dedup h hinj]
    exact List.nodup_dedup _
  have hsorted := (sort_sorted h l).sublist (List.destutter_sublist (· ≠ ·) (sort less l))
  exact hsorted.imp₂ (fun a b hle hne => lt_of_le_of_ne hle fun he => hne (hinj he)) hnodup

/-- Neither the order nor the number of occurrences matters. -/
theorem sortUnique_congr (h : Compares less place) (hinj : Function.Injective place)
    (hmem : ∀ a, a ∈ l ↔ a ∈ l') : sortUnique less l = sortUnique less l' := by
  have hstrict := sortUnique_strict h hinj
  have hnodup : ∀ m : List α, (sortUnique less m).Nodup := fun m =>
    (hstrict m).imp fun hlt he => absurd (he ▸ hlt) (lt_irrefl _)
  have hperm : (sortUnique less l).Perm (sortUnique less l') :=
    (List.perm_ext_iff_of_nodup (hnodup l) (hnodup l')).2 fun a => by
      rw [mem_sortUnique h hinj, mem_sortUnique h hinj, hmem]
  refine hperm.eq_of_pairwise (fun a b _ _ hab hba => ?_) (hstrict l) (hstrict l')
  exact absurd (lt_trans hab hba) (lt_irrefl _)

end Unique

/-! ## The best of each key -/

section Best

variable (key : α → κ) (better : α → α → Bool)

/-- The first element with the key of `x` gives way to `x` if `x` is
better. -/
def improve [DecidableEq κ] (x : α) : List α → List α
  | [] => []
  | y :: l => if key y = key x then (if better x y then x else y) :: l else y :: improve x l

/-- `listed` has the best of each key seen. -/
structure BestOf (seen listed : List α) : Prop where
  nodup : (listed.map key).Nodup
  keys : ∀ k, k ∈ listed.map key ↔ k ∈ seen.map key
  best : ∀ x ∈ listed, x ∈ seen ∧ ∀ y ∈ seen, key y = key x → y ≠ x → better x y = true

variable {key better} {x : α} {l seen listed listed' : List α}

@[simp] theorem map_key_improve [DecidableEq κ] : (improve key better x l).map key = l.map key := by
  induction l with
  | nil => rfl
  | cons y l ih =>
    unfold improve
    by_cases hk : key y = key x
    · by_cases hb : better x y = true <;> simp [hk, hb]
    · simp [hk, ih]

theorem mem_improve [DecidableEq κ] {z : α} (hl : (l.map key).Nodup)
    (hz : z ∈ improve key better x l) :
    (z ∈ l ∧ (key z = key x → better x z = false)) ∨
      (z = x ∧ ∃ y ∈ l, key y = key x ∧ better x y = true) := by
  induction l with
  | nil => cases hz
  | cons y l ih =>
    rw [List.map_cons, List.nodup_cons] at hl
    unfold improve at hz
    by_cases hk : key y = key x
    · rw [if_pos hk, List.mem_cons] at hz
      rcases hz with hz | hz
      · by_cases hb : better x y = true
        · rw [if_pos hb] at hz
          exact .inr ⟨hz, y, by simp, hk, hb⟩
        · rw [if_neg hb] at hz
          subst hz
          exact .inl ⟨by simp, fun _ => by simpa using hb⟩
      · refine .inl ⟨List.mem_cons_of_mem _ hz, fun he => ?_⟩
        -- no other element has the key of `y`
        exact absurd (List.mem_map.2 ⟨z, hz, he.trans hk.symm⟩) hl.1
    · rw [if_neg hk, List.mem_cons] at hz
      rcases hz with rfl | hz
      · exact .inl ⟨by simp, fun he => absurd he hk⟩
      · rcases ih hl.2 hz with ⟨hm, hb⟩ | ⟨rfl, w, hw, hk', hb⟩
        · exact .inl ⟨List.mem_cons_of_mem _ hm, hb⟩
        · exact .inr ⟨rfl, w, List.mem_cons_of_mem _ hw, hk', hb⟩

namespace BestOf

theorem nil : BestOf key better [] [] := ⟨by simp, by simp, by simp⟩

/-- An element with a new key is added. -/
theorem push (h : BestOf key better seen listed) (hx : key x ∉ listed.map key) :
    BestOf key better (seen ++ [x]) (listed ++ [x]) where
  nodup := by
    rw [List.map_append, List.map_singleton]
    refine List.nodup_append.2 ⟨h.nodup, by simp, fun a ha b hb he => hx ?_⟩
    rwa [← List.mem_singleton.1 hb, ← he]
  keys k := by
    have := h.keys k
    simp only [List.map_append, List.mem_append, List.map_singleton] at this ⊢
    rw [this]
  best z hz := by
    have hseen : ∀ y ∈ seen, key y ≠ key x := fun y hy he =>
      hx ((h.keys _).2 (List.mem_map.2 ⟨y, hy, he⟩))
    rw [List.mem_append, List.mem_singleton] at hz
    rcases hz with hz | rfl
    · obtain ⟨hm, hbest⟩ := h.best z hz
      refine ⟨by simp [hm], fun y hy hk hne => ?_⟩
      rw [List.mem_append, List.mem_singleton] at hy
      rcases hy with hy | rfl
      · exact hbest y hy hk hne
      · exact absurd hk.symm (hseen z hm)
    · refine ⟨by simp, fun y hy hk hne => ?_⟩
      rw [List.mem_append, List.mem_singleton] at hy
      rcases hy with hy | rfl
      · exact absurd hk (hseen y hy)
      · exact absurd rfl hne

variable [LinearOrder ρ] {rank : α → ρ}

/-- An element with a listed key takes the place of the listed one if it is
better. -/
theorem improve [DecidableEq κ] (hb : Compares better rank) (h : BestOf key better seen listed)
    (hx : key x ∈ listed.map key) (hrank : ∀ y ∈ seen, rank y ≠ rank x) :
    BestOf key better (seen ++ [x]) (improve key better x listed) where
  nodup := by simpa using h.nodup
  keys k := by
    have hk := h.keys k
    have hkx := (h.keys _).1 hx
    rw [map_key_improve, hk, List.map_append, List.mem_append, List.map_singleton,
      List.mem_singleton]
    exact ⟨.inl, fun hor => hor.elim id fun he => he ▸ hkx⟩
  best z hz := by
    rcases mem_improve h.nodup hz with ⟨hm, hnot⟩ | ⟨rfl, w, hw, hkw, hbw⟩
    · -- the listed one stays
      obtain ⟨hs, hbest⟩ := h.best z hm
      refine ⟨by simp [hs], fun y hy hk hne => ?_⟩
      rw [List.mem_append, List.mem_singleton] at hy
      rcases hy with hy | rfl
      · exact hbest y hy hk hne
      · have hle : rank z ≤ rank y := by
          rw [← hb.not_iff, hnot hk.symm]
          rfl
        exact (hb z y).2 (lt_of_le_of_ne hle (hrank z hs))
    · -- the listed one gives way, and what it beat is beaten too
      refine ⟨by simp, fun y hy hk hne => ?_⟩
      rw [List.mem_append, List.mem_singleton] at hy
      rcases hy with hy | rfl
      · by_cases hyw : y = w
        · exact hyw ▸ hbw
        · have hwy := (h.best w hw).2 y hy (hk.trans hkw.symm) hyw
          exact (hb z y).2 (lt_trans ((hb z w).1 hbw) ((hb w y).1 hwy))
      · exact absurd rfl hne

/-- Neither list need be in this order. -/
theorem perm {seen' : List α} (h : BestOf key better seen listed) (hs : seen.Perm seen')
    (hl : listed.Perm listed') : BestOf key better seen' listed' where
  nodup := (hl.map key).nodup_iff.1 h.nodup
  keys k := by rw [← (hl.map key).mem_iff, ← (hs.map key).mem_iff, h.keys]
  best x hx := by
    obtain ⟨hm, hbest⟩ := h.best x (hl.mem_iff.2 hx)
    exact ⟨hs.mem_iff.1 hm, fun y hy => hbest y (hs.mem_iff.2 hy)⟩

/-- Every key seen has one listed element. -/
theorem existsUnique (h : BestOf key better seen listed) {y : α} (hy : y ∈ seen) :
    ∃! x, x ∈ listed ∧ key x = key y := by
  obtain ⟨x, hx, hk⟩ := List.mem_map.1 ((h.keys (key y)).2 (List.mem_map_of_mem hy))
  refine ⟨x, ⟨hx, hk⟩, fun z hz => ?_⟩
  exact List.inj_on_of_nodup_map h.nodup hz.1 hx (hz.2.trans hk.symm)

/-- Listed is what is better than all others of its key. -/
theorem mem_iff (hb : Compares better rank) (h : BestOf key better seen listed) :
    x ∈ listed ↔ x ∈ seen ∧ ∀ y ∈ seen, key y = key x → y ≠ x → better x y = true := by
  refine ⟨h.best x, fun hx => ?_⟩
  obtain ⟨z, ⟨hz, hk⟩, -⟩ := h.existsUnique hx.1
  obtain ⟨hzs, hzb⟩ := h.best z hz
  by_cases he : z = x
  · exact he ▸ hz
  · have hxz := (hb x z).1 (hx.2 z hzs hk he)
    have hzx := (hb z x).1 (hzb x hx.1 hk.symm (Ne.symm he))
    exact absurd (lt_trans hxz hzx) (lt_irrefl _)

end BestOf

end Best

end Ranking

end Gr4cp.Core

import Mathlib.Data.Finset.Insert
import Mathlib.Data.Finset.Erase
import Mathlib.Logic.Function.Basic

/-!
# Tokens held under keys

Tokens are taken from a common stock, each for a key, and a key gives back
all it holds at once. `Inv` is what the stock and the keys agree on: a token
is taken exactly when some key holds it, no two keys hold the same, and no key
holds one twice.
-/
namespace Gr4cp.Core.Holdings

variable {K α : Type}

structure Inv (held : K → List α) (taken : Finset α) : Prop where
  nodup : ∀ k, (held k).Nodup
  apart : ∀ k k' x, x ∈ held k → x ∈ held k' → k = k'
  mem_iff : ∀ x, x ∈ taken ↔ ∃ k, x ∈ held k

theorem inv_empty : Inv (fun _ : K => ([] : List α)) ∅ where
  nodup _ := List.nodup_nil
  apart _ _ _ h := by cases h
  mem_iff _ := by simp

/-- When no key holds anything, the stock is whole. -/
theorem Inv.taken_eq_empty {held : K → List α} {taken : Finset α} (h : Inv held taken)
    (hnone : ∀ k, held k = []) : taken = ∅ := by
  refine Finset.eq_empty_of_forall_notMem fun x hx => ?_
  obtain ⟨k, hk⟩ := (h.mem_iff x).1 hx
  rw [hnone k] at hk
  cases hk

variable [DecidableEq K] [DecidableEq α] {held : K → List α} {taken : Finset α}

/-- A fresh token is taken for a key. -/
theorem Inv.acquire (h : Inv held taken) (k : K) {x : α} (hx : x ∉ taken) :
    Inv (Function.update held k (held k ++ [x])) (insert x taken) := by
  have hfree : ∀ k', x ∉ held k' := fun k' hmem => hx ((h.mem_iff x).2 ⟨k', hmem⟩)
  have hmem : ∀ k' y, y ∈ Function.update held k (held k ++ [x]) k' ↔
      y ∈ held k' ∨ (k' = k ∧ y = x) := by
    intro k' y
    by_cases hk : k' = k
    · subst hk
      simp
    · simp [hk]
  refine ⟨fun k' => ?_, fun k₁ k₂ y h₁ h₂ => ?_, fun y => ?_⟩
  · by_cases hk : k' = k
    · subst hk
      rw [Function.update_self, List.nodup_append]
      refine ⟨h.nodup k', by simp, ?_⟩
      intro a ha b hb heq
      rw [List.mem_singleton] at hb
      exact hfree k' (hb ▸ heq ▸ ha)
    · rw [Function.update_of_ne hk]
      exact h.nodup k'
  · rw [hmem] at h₁ h₂
    rcases h₁ with h₁ | ⟨hk₁, hy⟩
    · rcases h₂ with h₂ | ⟨-, hy⟩
      · exact h.apart k₁ k₂ y h₁ h₂
      · exact absurd (hy ▸ h₁) (hfree k₁)
    · rcases h₂ with h₂ | ⟨hk₂, -⟩
      · exact absurd (hy ▸ h₂) (hfree k₂)
      · rw [hk₁, hk₂]
  · simp only [hmem, Finset.mem_insert, h.mem_iff]
    constructor
    · intro hy
      obtain hy | ⟨k', hy⟩ := hy
      · exact ⟨k, .inr ⟨rfl, hy⟩⟩
      · exact ⟨k', .inl hy⟩
    · intro hy
      obtain ⟨k', hy | ⟨-, hy⟩⟩ := hy
      · exact .inr ⟨k', hy⟩
      · exact .inl hy

theorem mem_foldl_erase {tokens : List α} {y : α} :
    y ∈ tokens.foldl Finset.erase taken ↔ y ∈ taken ∧ y ∉ tokens := by
  induction tokens generalizing taken with
  | nil => simp
  | cons x tokens ih =>
    rw [List.foldl_cons, ih, Finset.mem_erase, List.mem_cons]
    tauto

/-- A key gives back what it holds. -/
theorem Inv.release (h : Inv held taken) (k : K) :
    Inv (Function.update held k []) ((held k).foldl Finset.erase taken) := by
  have hmem : ∀ k' y, y ∈ Function.update held k [] k' ↔ y ∈ held k' ∧ k' ≠ k := by
    intro k' y
    by_cases hk : k' = k
    · subst hk
      simp
    · simp [hk]
  refine ⟨fun k' => ?_, fun k₁ k₂ y h₁ h₂ => ?_, fun y => ?_⟩
  · by_cases hk : k' = k
    · subst hk
      simp
    · rw [Function.update_of_ne hk]
      exact h.nodup k'
  · exact h.apart k₁ k₂ y ((hmem k₁ y).1 h₁).1 ((hmem k₂ y).1 h₂).1
  · simp only [hmem, mem_foldl_erase, h.mem_iff]
    constructor
    · intro hy
      obtain ⟨⟨k', hy⟩, hnot⟩ := hy
      exact ⟨k', hy, fun hk => hnot (hk ▸ hy)⟩
    · intro hy
      obtain ⟨k', hy, hne⟩ := hy
      exact ⟨⟨k', hy⟩, fun hheld => hne (h.apart k' k y hy hheld)⟩

end Gr4cp.Core.Holdings

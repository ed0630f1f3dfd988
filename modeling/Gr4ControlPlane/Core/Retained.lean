/-!
# Items that are tried once

A loop goes over items and tries those it has not retained before. An item
that is held is retained for good; one that is passed over, or at which the
loop throws, may be taken out again and is then tried at the next call, or
may be spoiled: it stays retained without being held.

* `visit_visited`: what a call does, whatever the items and however each of
  them turns out. No item is ever held twice, and an item that is retained
  but not held was spoiled.
* `visit_ok_iff`: exactly when a call returns.
* `Comes.spoils`: the item a call ends at, if it is spoiled, stays retained;
  `Visited.stuck`: such an item is never held.
* `visit_congr`: what would come of the items that are retained is all the
  same.
-/
namespace Gr4cp.Core

/-- What comes of an item that is tried. -/
inductive Tried (ε : Type) where
  | held
  /-- not retained, and the loop goes on -/
  | passed
  /-- not retained, and thrown -/
  | failed (e : ε)
  /-- retained, and thrown -/
  | spoiled (e : ε)
  deriving DecidableEq, Repr

structure Retained (α : Type) where
  held : List α
  retained : List α
  deriving DecidableEq, Repr

namespace Retained

variable {α ε : Type}

def empty : Retained α := ⟨[], []⟩

/-- Every item held is retained, and held once. -/
structure Inv (s : Retained α) : Prop where
  nodup : s.held.Nodup
  within : ∀ x ∈ s.held, x ∈ s.retained

theorem inv_empty : (empty : Retained α).Inv := ⟨List.nodup_nil, fun _ h => by cases h⟩

/-- The loop comes to an item that it tries. -/
structure Comes (attempt : α → Tried ε) (xs : List α) (s : Retained α) (x : α) : Prop where
  new : x ∉ s.retained
  first : ∃ front back, xs = front ++ x :: back ∧
    ∀ y ∈ front, y ∈ s.retained ∨ attempt y = .held ∨ attempt y = .passed

theorem Comes.mem {attempt : α → Tried ε} {xs : List α} {s : Retained α} {x : α}
    (h : Comes attempt xs s x) : x ∈ xs := by
  obtain ⟨front, back, rfl, -⟩ := h.first
  simp

theorem comes_head {attempt : α → Tried ε} {s : Retained α} {x : α} (hx : x ∉ s.retained)
    (xs : List α) : Comes attempt (x :: xs) s x where
  new := hx
  first := ⟨[], xs, rfl, nofun⟩

/-- The loop comes to what it comes to behind an item it goes on after. -/
theorem Comes.cons {attempt : α → Tried ε} {xs : List α} {s s' : Retained α} {x y : α}
    (h : Comes attempt xs s' x) (hkept : ∀ z ∈ s.retained, z ∈ s'.retained)
    (hback : ∀ z ∈ s'.retained, z ∈ s.retained ∨ attempt z = .held)
    (hy : y ∈ s.retained ∨ attempt y = .held ∨ attempt y = .passed) :
    Comes attempt (y :: xs) s x where
  new hx := h.new (hkept x hx)
  first := by
    obtain ⟨front, back, rfl, hfront⟩ := h.first
    refine ⟨y :: front, back, rfl, fun z hz => ?_⟩
    obtain rfl | hz := List.mem_cons.1 hz
    · exact hy
    · obtain hretained | hgone := hfront z hz
      · exact (hback z hretained).imp_right .inl
      · exact .inr hgone

/-- The same behind an item that is held from now on. -/
theorem Comes.behind {attempt : α → Tried ε} {xs : List α} {s : Retained α} {x y : α}
    (h : Comes attempt xs { held := s.held ++ [y], retained := y :: s.retained } x)
    (hy : attempt y = .held) : Comes attempt (y :: xs) s x := by
  refine h.cons (fun _ h => List.mem_cons_of_mem _ h) (fun z hz => ?_) (.inr (.inl hy))
  obtain rfl | hz := List.mem_cons.1 hz
  · exact .inr hy
  · exact .inl hz

/-- What a call does. -/
structure Visited (attempt : α → Tried ε) (xs : List α) (s : Retained α) (result : Except ε Unit)
    (s' : Retained α) : Prop where
  inv : s'.Inv
  grows : (∀ x ∈ s.held, x ∈ s'.held) ∧ ∀ x ∈ s.retained, x ∈ s'.retained
  held : ∀ x ∈ s'.held, x ∈ s.held ∨ (x ∈ xs ∧ x ∉ s.retained ∧ attempt x = .held)
  retained : ∀ x ∈ s'.retained, x ∈ s.retained ∨ x ∈ s'.held ∨
    (Comes attempt xs s x ∧ ∃ e, result = .error e ∧ attempt x = .spoiled e)
  complete : result = .ok () → ∀ x ∈ xs, x ∈ s'.retained ∨ attempt x = .passed
  raised : ∀ e, result = .error e → ∃ x, Comes attempt xs s x ∧
    (attempt x = .failed e ∨ attempt x = .spoiled e)

/-- What is retained without being held stays so. -/
theorem Visited.stuck {attempt : α → Tried ε} {xs : List α} {s s' : Retained α}
    {result : Except ε Unit} (h : Visited attempt xs s result s') {x : α} (hx : x ∈ s.retained)
    (hnot : x ∉ s.held) : x ∈ s'.retained ∧ x ∉ s'.held := by
  refine ⟨h.grows.2 x hx, fun hheld => ?_⟩
  obtain hold | ⟨-, hnew, -⟩ := h.held x hheld
  · exact hnot hold
  · exact hnew hx

theorem visited_stop {attempt : α → Tried ε} {x : α} {s : Retained α} (h : s.Inv)
    (hx : x ∉ s.retained) (xs : List α) {e : ε} (hfailed : attempt x = .failed e) :
    Visited attempt (x :: xs) s (.error e) s where
  inv := h
  grows := ⟨fun _ h => h, fun _ h => h⟩
  held _ h := .inl h
  retained _ h := .inl h
  complete h := by cases h
  raised e' h := by
    cases h
    exact ⟨x, comes_head hx xs, .inl hfailed⟩

theorem visited_spoil {attempt : α → Tried ε} {x : α} {s : Retained α} (h : s.Inv)
    (hx : x ∉ s.retained) (xs : List α) {e : ε} (hspoiled : attempt x = .spoiled e) :
    Visited attempt (x :: xs) s (.error e) { s with retained := x :: s.retained } where
  inv := ⟨h.nodup, fun y hy => List.mem_cons_of_mem _ (h.within y hy)⟩
  grows := ⟨fun _ h => h, fun _ h => List.mem_cons_of_mem _ h⟩
  held _ h := .inl h
  retained y hy := by
    obtain rfl | hy := List.mem_cons.1 hy
    · exact .inr (.inr ⟨comes_head hx xs, e, rfl, hspoiled⟩)
    · exact .inl hy
  complete h := by cases h
  raised e' h := by
    cases h
    exact ⟨x, comes_head hx xs, .inr hspoiled⟩

/-- An item that leaves the state as it is. -/
theorem Visited.skip {attempt : α → Tried ε} {x : α} {xs : List α} {s s' : Retained α}
    {result : Except ε Unit} (h : Visited attempt xs s result s')
    (hx : x ∈ s.retained ∨ attempt x = .passed) : Visited attempt (x :: xs) s result s' where
  inv := h.inv
  grows := h.grows
  held y hy := (h.held y hy).imp_right fun hnew => ⟨List.mem_cons_of_mem _ hnew.1, hnew.2⟩
  retained y hy := (h.retained y hy).imp_right <| .imp_right <| .imp_left fun hcomes =>
    hcomes.cons (fun _ h => h) (fun _ h => .inl h) (hx.imp_right .inr)
  complete hok y hy := by
    obtain rfl | hy := List.mem_cons.1 hy
    · exact hx.imp_left (h.grows.2 y)
    · exact h.complete hok y hy
  raised e he := by
    obtain ⟨y, hcomes, hthrown⟩ := h.raised e he
    exact ⟨y, hcomes.cons (fun _ h => h) (fun _ h => .inl h) (hx.imp_right .inr), hthrown⟩

/-- An item that is held from now on. -/
theorem Visited.hold {attempt : α → Tried ε} {x : α} {xs : List α} {s s' : Retained α}
    {result : Except ε Unit}
    (h : Visited attempt xs { held := s.held ++ [x], retained := x :: s.retained } result s')
    (hnew : x ∉ s.retained) (hx : attempt x = .held) :
    Visited attempt (x :: xs) s result s' where
  inv := h.inv
  grows := ⟨fun y hy => h.grows.1 y (List.mem_append_left _ hy),
    fun y hy => h.grows.2 y (List.mem_cons_of_mem _ hy)⟩
  held y hy := by
    obtain hold | ⟨hmem, hlater, hheld⟩ := h.held y hy
    · obtain hold | hone := List.mem_append.1 hold
      · exact .inl hold
      · rw [List.mem_singleton] at hone
        subst hone
        exact .inr ⟨by simp, hnew, hx⟩
    · exact .inr ⟨List.mem_cons_of_mem _ hmem,
        fun hold => hlater (List.mem_cons_of_mem _ hold), hheld⟩
  retained y hy := by
    obtain hold | hheld | ⟨hcomes, hspoiled⟩ := h.retained y hy
    · obtain rfl | hold := List.mem_cons.1 hold
      · exact .inr (.inl (h.grows.1 y (by simp)))
      · exact .inl hold
    · exact .inr (.inl hheld)
    · exact .inr (.inr ⟨hcomes.behind hx, hspoiled⟩)
  complete hok y hy := by
    obtain rfl | hy := List.mem_cons.1 hy
    · exact .inl (h.grows.2 y (by simp))
    · exact h.complete hok y hy
  raised e he := by
    obtain ⟨y, hcomes, hthrown⟩ := h.raised e he
    exact ⟨y, hcomes.behind hx, hthrown⟩

variable [DecidableEq α]

def visit (attempt : α → Tried ε) : List α → Retained α → Except ε Unit × Retained α
  | [], s => (.ok (), s)
  | x :: xs, s =>
    if x ∈ s.retained then visit attempt xs s
    else
      match attempt x with
      | .held => visit attempt xs { held := s.held ++ [x], retained := x :: s.retained }
      | .passed => visit attempt xs s
      | .failed e => (.error e, s)
      | .spoiled e => (.error e, { s with retained := x :: s.retained })

theorem visit_visited (attempt : α → Tried ε) (xs : List α) {s : Retained α} (h : s.Inv) :
    Visited attempt xs s (visit attempt xs s).1 (visit attempt xs s).2 := by
  induction xs generalizing s with
  | nil =>
    exact
      { inv := h
        grows := ⟨fun _ h => h, fun _ h => h⟩
        held := fun _ h => .inl h
        retained := fun _ h => .inl h
        complete := fun _ _ h => by cases h
        raised := fun _ h => by cases h }
  | cons x xs ih =>
    unfold visit
    by_cases hx : x ∈ s.retained
    · rw [if_pos hx]
      exact (ih h).skip (.inl hx)
    · rw [if_neg hx]
      cases hattempt : attempt x with
      | held =>
        refine (ih ⟨?_, ?_⟩).hold hx hattempt
        · rw [List.nodup_append]
          refine ⟨h.nodup, by simp, ?_⟩
          intro y hy z hz heq
          rw [List.mem_singleton] at hz
          exact hx (h.within x (hz ▸ heq ▸ hy))
        · intro y hy
          obtain hy | hy := List.mem_append.1 hy
          · exact List.mem_cons_of_mem _ (h.within y hy)
          · exact List.mem_cons.2 (.inl (List.mem_singleton.1 hy))
      | passed => exact (ih h).skip (.inr hattempt)
      | failed e => exact visited_stop h hx xs hattempt
      | spoiled e => exact visited_spoil h hx xs hattempt

/-- A call returns when every item it tries is held or passed over. -/
theorem visit_ok_iff (attempt : α → Tried ε) (xs : List α) {s : Retained α} (h : s.Inv) :
    (visit attempt xs s).1 = .ok () ↔
      ∀ x ∈ xs, x ∈ s.retained ∨ attempt x = .held ∨ attempt x = .passed := by
  have hvisited := visit_visited attempt xs h
  cases hresult : (visit attempt xs s).1 with
  | ok u =>
    refine iff_of_true rfl fun x hx => ?_
    obtain hretained | hpassed := hvisited.complete hresult x hx
    · obtain hold | hheld | ⟨-, e, he, -⟩ := hvisited.retained x hretained
      · exact .inl hold
      · obtain hold | ⟨-, -, hnew⟩ := hvisited.held x hheld
        · exact .inl (h.within x hold)
        · exact .inr (.inl hnew)
      · rw [hresult] at he
        cases he
    · exact .inr (.inr hpassed)
  | error e =>
    refine iff_of_false nofun fun hall => ?_
    obtain ⟨x, hcomes, hthrown⟩ := hvisited.raised e hresult
    obtain hold | hheld | hpassed := hall x hcomes.mem
    · exact hcomes.new hold
    · rcases hthrown with h | h <;> simp [hheld] at h
    · rcases hthrown with h | h <;> simp [hpassed] at h

/-- A spoiled item that a call comes to is where it ends. -/
theorem Comes.spoils {attempt : α → Tried ε} {xs : List α} {s : Retained α} {x : α} {e : ε}
    (h : Comes attempt xs s x) (hspoiled : attempt x = .spoiled e) :
    (visit attempt xs s).1 = .error e ∧ x ∈ (visit attempt xs s).2.retained := by
  obtain ⟨front, back, rfl, hfront⟩ := h.first
  have hnew := h.new
  clear h
  induction front generalizing s with
  | nil =>
    rw [List.nil_append, visit, if_neg hnew, hspoiled]
    exact ⟨rfl, by simp⟩
  | cons y front ih =>
    rw [List.cons_append, visit]
    have hrest : ∀ z ∈ front, z ∈ s.retained ∨ attempt z = .held ∨ attempt z = .passed :=
      fun z hz => hfront z (List.mem_cons_of_mem _ hz)
    obtain hold | hheld | hpassed := hfront y (by simp)
    · rw [if_pos hold]
      exact ih hrest hnew
    · split
      · exact ih hrest hnew
      · rw [hheld]
        refine ih (fun z hz => (hrest z hz).imp_left (List.mem_cons_of_mem _)) ?_
        intro hx
        obtain rfl | hx := List.mem_cons.1 hx
        · rw [hspoiled] at hheld
          cases hheld
        · exact hnew hx
    · split
      · exact ih hrest hnew
      · rw [hpassed]
        exact ih hrest hnew

/-- What is retained is not tried. -/
theorem visit_congr {attempt attempt' : α → Tried ε} {xs : List α} {s : Retained α}
    (h : ∀ x ∈ xs, x ∉ s.retained → attempt x = attempt' x) :
    visit attempt xs s = visit attempt' xs s := by
  induction xs generalizing s with
  | nil => rfl
  | cons x xs ih =>
    unfold visit
    by_cases hx : x ∈ s.retained
    · rw [if_pos hx, if_pos hx]
      exact ih fun y hy => h y (List.mem_cons_of_mem _ hy)
    · rw [if_neg hx, if_neg hx, ← h x (by simp) hx,
        ih fun y hy => h y (List.mem_cons_of_mem _ hy),
        ih fun y hy hnew => h y (List.mem_cons_of_mem _ hy)
          fun hold => hnew (List.mem_cons_of_mem _ hold)]

end Retained

end Gr4cp.Core

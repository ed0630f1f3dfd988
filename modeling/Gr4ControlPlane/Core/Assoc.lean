/-!
# Maps as association lists

`List.lookup` reads a map kept as a list of key/value pairs, the first pair
of a key being the one that counts. `insertOrAssign` replaces the value of
a key in place or adds the key at the end, so the order of the other keys is
untouched; `contains` is `lookup … |>.isSome`.

The lemmas say what a lookup sees after each operation; none of them needs
the keys to be unique.
-/
namespace Gr4cp.Core.Assoc

variable {α β : Type} [BEq α]

def contains (m : List (α × β)) (k : α) : Bool := (m.lookup k).isSome

def insertOrAssign (k : α) (v : β) : List (α × β) → List (α × β)
  | [] => [(k, v)]
  | (k', v') :: m => if k == k' then (k', v) :: m else (k', v') :: insertOrAssign k v m

/-- What is there already may be assigned again. -/
theorem insertOrAssign_of_lookup {k : α} {v : β} {m : List (α × β)} (h : m.lookup k = some v) :
    insertOrAssign k v m = m := by
  induction m with
  | nil => cases h
  | cons p m ih =>
    obtain ⟨k', v'⟩ := p
    rw [List.lookup_cons] at h
    unfold insertOrAssign
    split at h
    · rename_i hk
      cases h
      simp [hk]
    · rename_i hk
      simp [hk, ih h]

variable [LawfulBEq α]

theorem mem_of_lookup {k : α} {v : β} {m : List (α × β)} (h : m.lookup k = some v) :
    (k, v) ∈ m := by
  obtain ⟨before, after, rfl, -⟩ := List.lookup_eq_some_iff.1 h
  simp

theorem lookup_eq_none {k : α} {m : List (α × β)} (h : k ∉ m.map (·.1)) : m.lookup k = none := by
  rw [List.lookup_eq_none_iff]
  intro p hp
  rw [bne_iff_ne]
  intro hk
  exact h (List.mem_map.2 ⟨p, hp, hk.symm⟩)

/-- A new key goes to the end. -/
theorem insertOrAssign_new {k : α} {v : β} {m : List (α × β)} (h : k ∉ m.map (·.1)) :
    insertOrAssign k v m = m ++ [(k, v)] := by
  induction m with
  | nil => rfl
  | cons p m ih =>
    obtain ⟨k', v'⟩ := p
    simp only [List.map_cons, List.mem_cons, not_or] at h
    simp [insertOrAssign, h.1, ih h.2]

@[simp] theorem lookup_insertOrAssign_self (k : α) (v : β) (m : List (α × β)) :
    (insertOrAssign k v m).lookup k = some v := by
  induction m with
  | nil => simp [insertOrAssign]
  | cons p m ih =>
    obtain ⟨k', v'⟩ := p
    unfold insertOrAssign
    by_cases h : k == k'
    · simp [h, List.lookup_cons]
    · simp [h, List.lookup_cons, ih]

theorem lookup_insertOrAssign_of_ne {k k' : α} (h : k' ≠ k) (v : β) (m : List (α × β)) :
    (insertOrAssign k v m).lookup k' = m.lookup k' := by
  have hb : (k' == k) = false := by simpa using h
  induction m with
  | nil => simp [insertOrAssign, List.lookup_cons, hb]
  | cons p m ih =>
    obtain ⟨k₀, v₀⟩ := p
    unfold insertOrAssign
    by_cases hk : k == k₀
    · have hk₀ : (k' == k₀) = false := by rwa [← eq_of_beq hk]
      simp [hk, List.lookup_cons, hk₀]
    · simp only [hk, Bool.false_eq_true, if_false, List.lookup_cons]
      split
      · rfl
      · exact ih

/-- Assigned one after the other, a key has the value it was given last. -/
theorem lookup_foldl_insertOrAssign (entries m : List (α × β)) (k : α) :
    (entries.foldl (fun m entry => insertOrAssign entry.1 entry.2 m) m).lookup k =
      (entries.reverse.lookup k).or (m.lookup k) := by
  induction entries generalizing m with
  | nil => simp
  | cons entry entries ih =>
    obtain ⟨k₀, v₀⟩ := entry
    rw [List.foldl_cons, ih, List.reverse_cons, List.lookup_append, Option.or_assoc]
    congr 1
    by_cases hk : k = k₀
    · subst hk
      simp
    · have hb : (k == k₀) = false := by simpa using hk
      simp [List.lookup_cons, hb, lookup_insertOrAssign_of_ne hk]

end Gr4cp.Core.Assoc

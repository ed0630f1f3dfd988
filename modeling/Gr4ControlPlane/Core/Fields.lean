/-!
# Lists of named fields

A field list holds values under names, several under one name when need be;
`key` is what names are compared by. `set` leaves one value under a name,
and `setAll` sets one field after the other.

* `values_setAll`: a name that is set has the last value it is set to, any
  other the values it had.
-/
namespace Gr4cp.Core.Fields

variable {α β κ : Type} [DecidableEq κ] (key : α → κ)

/-- The values under a name, in order. -/
def values (fields : List (α × β)) (name : α) : List β :=
  (fields.filter fun field => key field.1 = key name).map (·.2)

/-- Every field of that name gives way to one, at the end. -/
def set (fields : List (α × β)) (name : α) (value : β) : List (α × β) :=
  fields.filter (fun field => key field.1 ≠ key name) ++ [(name, value)]

def setAll (fields : List (α × β)) : List (α × β) → List (α × β)
  | [] => fields
  | (name, value) :: new => setAll (set key fields name value) new

@[simp] theorem values_append (a b : List (α × β)) (name : α) :
    values key (a ++ b) name = values key a name ++ values key b name := by
  simp [values]

theorem values_cons_of_eq {name name' : α} (h : key name' = key name) (value : β)
    (fields : List (α × β)) :
    values key ((name', value) :: fields) name = value :: values key fields name := by
  simp [values, h]

theorem values_cons_of_ne {name name' : α} (h : key name' ≠ key name) (value : β)
    (fields : List (α × β)) :
    values key ((name', value) :: fields) name = values key fields name := by
  simp [values, h]

/-- Leaving out other names is not seen under this one. -/
theorem values_filter {p : α × β → Bool} {name : α}
    (h : ∀ field, key field.1 = key name → p field = true) (fields : List (α × β)) :
    values key (fields.filter p) name = values key fields name := by
  unfold values
  rw [List.filter_filter]
  congr 1
  refine List.filter_congr fun field _ => ?_
  by_cases hkey : key field.1 = key name
  · simp [hkey, h field hkey]
  · simp [hkey]

theorem values_filter_none {p : α × β → Bool} {name : α}
    (h : ∀ field, key field.1 = key name → p field = false) (fields : List (α × β)) :
    values key (fields.filter p) name = [] := by
  unfold values
  rw [List.filter_filter, List.map_eq_nil_iff, List.filter_eq_nil_iff]
  intro field _ hboth
  simp only [Bool.and_eq_true, decide_eq_true_eq] at hboth
  rw [h field hboth.1] at hboth
  cases hboth.2

theorem values_set_self {name name' : α} (h : key name = key name') (fields : List (α × β))
    (value : β) : values key (set key fields name value) name' = [value] := by
  unfold set
  rw [values_append, values_filter_none, values_cons_of_eq key h]
  · rfl
  · intro field hfield
    simp [hfield, h]

theorem values_set_of_ne {name name' : α} (h : key name ≠ key name') (fields : List (α × β))
    (value : β) : values key (set key fields name value) name' = values key fields name' := by
  unfold set
  rw [values_append, values_filter, values_cons_of_ne key h]
  · exact List.append_nil _
  · intro field hfield
    simp only [ne_eq, decide_eq_true_eq]
    intro heq
    exact h (heq.symm.trans hfield)

/-- Under each name, the last value it is set to. -/
theorem values_setAll (fields new : List (α × β)) (name : α) :
    values key (setAll key fields new) name =
      match (values key new name).getLast? with
      | some value => [value]
      | none => values key fields name := by
  induction new generalizing fields with
  | nil => rfl
  | cons field new ih =>
    obtain ⟨name', value⟩ := field
    rw [setAll, ih]
    by_cases h : key name' = key name
    · rw [values_set_self key h, values_cons_of_eq key h]
      cases values key new name with
      | nil => rfl
      | cons v vs => rw [List.getLast?_cons_cons, List.getLast?_eq_some_getLast (by simp)]
    · rw [values_set_of_ne key h, values_cons_of_ne key h]

end Gr4cp.Core.Fields

import Mathlib.Algebra.Group.Nat.Defs
import Gr4ControlPlane.Core.Json

/-!
# JSON as text

The writer and the reader of the JSON library are not part of the
repository; `JsonText` is the pair of functions the code calls. What the
code relies on is `JsonText.Lawful`: the writer returns exactly on values
whose texts are UTF-8, and the reader takes what it wrote for the same
value. An integer may come back in the other of the two integer types, and
an object with its members in another order. `JsonText.Conforms` adds what
holds of every JSON library: a number that is not finite is written as
`null`, the empty text is no JSON text, and neither is the text of an object
whose end is cut off.
-/
namespace Gr4cp.Core

/-- Neither infinite nor a NaN: the exponent is not all ones. -/
def Double.isFinite (d : Double) : Bool := decide (d.bits.toNat / 2 ^ 52 % 2 ^ 11 ≠ 2 ^ 11 - 1)

namespace Json

/-- A text in the value itself that is not UTF-8. -/
def badText : Json → Bool
  | .str s => !Utf8.valid s
  | .obj members => members.any fun member => !Utf8.valid member.1
  | _ => false

/-- A value that JSON text has no form for. -/
def textless : Json → Bool
  | .float d => !d.isFinite
  | .binary _ => true
  | _ => false

end Json

/-- `dump()` and `nlohmann::json::parse`; `none` is a throw. -/
structure JsonText where
  dump : JsonValue → Option Str
  parse : Str → Option JsonValue

structure JsonText.Lawful (t : JsonText) : Prop where
  dumps : ∀ j, (∃ text, t.dump j = some text) ↔ j.json.any Json.badText = false
  reads : ∀ j text, j.json.any Json.textless = false → t.dump j = some text →
    ∃ j', t.parse text = some j' ∧ Json.Same j.json j'.json

namespace Json

/-! ## Every value is the same as itself -/

mutual

theorem same_refl : ∀ j : Json, j.any repeatsKey = false → Same j j
  | .null, _ | .bool _, _ | .int _, _ | .uint _, _ | .float _, _ | .str _, _ | .binary _, _ => rfl
  | .arr items, h => by
    simp only [any, repeatsKey, Bool.false_or] at h
    exact sameItems_refl items h
  | .obj members, h => by
    simp only [any, repeatsKey, Bool.or_eq_false_iff, Bool.not_eq_false', decide_eq_true_eq] at h
    exact same_obj (inStep_refl members h.2) h.1

theorem sameItems_refl : ∀ items : List Json, anyItem repeatsKey items = false →
    SameItems items items
  | [], _ => trivial
  | j :: items, h => by
    simp only [anyItem, Bool.or_eq_false_iff] at h
    exact ⟨same_refl j h.1, sameItems_refl items h.2⟩

theorem inStep_refl : ∀ members : List (Str × Json), anyMember repeatsKey members = false →
    InStep members members
  | [], _ => .nil
  | (key, j) :: members, h => by
    simp only [anyMember, Bool.or_eq_false_iff] at h
    exact .cons (same_refl j h.1) (inStep_refl members h.2)

end

/-! ## What is written -/

mutual

/-- Numbers that are not finite become `null`. -/
def nulled : Json → Json
  | .float d => if d.isFinite then .float d else .null
  | .arr items => .arr (nulledItems items)
  | .obj members => .obj (nulledMembers members)
  | j => j

def nulledItems : List Json → List Json
  | [] => []
  | j :: items => nulled j :: nulledItems items

def nulledMembers : List (Str × Json) → List (Str × Json)
  | [] => []
  | (key, j) :: members => (key, nulled j) :: nulledMembers members

end

theorem nulledMembers_eq (members : List (Str × Json)) :
    nulledMembers members = members.map fun m => (m.1, m.2.nulled) := by
  induction members with
  | nil => rfl
  | cons m members ih => rw [nulledMembers, ih, List.map_cons]

theorem nulledMembers_keys (members : List (Str × Json)) :
    (nulledMembers members).map (·.1) = members.map (·.1) := by
  rw [nulledMembers_eq, List.map_map]
  rfl

mutual

/-- What has a text is written as it is. -/
theorem nulled_eq : ∀ j : Json, j.any textless = false → nulled j = j
  | .null, _ | .bool _, _ | .int _, _ | .uint _, _ | .str _, _ | .binary _, _ => rfl
  | .float d, h => by
    simp only [any, textless, Bool.not_eq_false'] at h
    rw [nulled, if_pos h]
  | .arr items, h => by
    simp only [any, textless, Bool.false_or] at h
    rw [nulled, nulledItems_eq items h]
  | .obj members, h => by
    simp only [any, textless, Bool.false_or] at h
    rw [nulled, nulledMembers_self members h]

theorem nulledItems_eq : ∀ items : List Json, anyItem textless items = false →
    nulledItems items = items
  | [], _ => rfl
  | j :: items, h => by
    simp only [anyItem, Bool.or_eq_false_iff] at h
    rw [nulledItems, nulled_eq j h.1, nulledItems_eq items h.2]

theorem nulledMembers_self : ∀ members : List (Str × Json), anyMember textless members = false →
    nulledMembers members = members
  | [], _ => rfl
  | (key, j) :: members, h => by
    simp only [anyMember, Bool.or_eq_false_iff] at h
    rw [nulledMembers, nulled_eq j h.1, nulledMembers_self members h.2]

end

mutual

theorem nulled_nulled : ∀ j : Json, j.nulled.nulled = j.nulled
  | .null | .bool _ | .int _ | .uint _ | .str _ | .binary _ => rfl
  | .float d => by
    cases h : d.isFinite <;> simp [nulled, h]
  | .arr items => by
    simp only [nulled, nulledItems_nulled items]
  | .obj members => by
    simp only [nulled, nulledMembers_nulled members]

theorem nulledItems_nulled : ∀ items : List Json,
    nulledItems (nulledItems items) = nulledItems items
  | [] => rfl
  | j :: items => by
    simp only [nulledItems, nulled_nulled j, nulledItems_nulled items]

theorem nulledMembers_nulled : ∀ members : List (Str × Json),
    nulledMembers (nulledMembers members) = nulledMembers members
  | [] => rfl
  | (key, j) :: members => by
    simp only [nulledMembers, nulled_nulled j, nulledMembers_nulled members]

end

/-- `p` does not see whether a number is finite. -/
structure Blind (p : Json → Bool) : Prop where
  float : ∀ d, p (.float d) = p .null
  arr : ∀ items, p (.arr (nulledItems items)) = p (.arr items)
  obj : ∀ members, p (.obj (nulledMembers members)) = p (.obj members)

mutual

theorem Blind.nulled_any {p : Json → Bool} (h : Blind p) : ∀ j : Json, (nulled j).any p = j.any p
  | .null | .bool _ | .int _ | .uint _ | .str _ | .binary _ => rfl
  | .float d => by
    unfold nulled
    split
    · rfl
    · exact (h.float d).symm
  | .arr items => by
    rw [nulled, any, any, h.arr, h.nulledItems_any items]
  | .obj members => by
    rw [nulled, any, any, h.obj, h.nulledMembers_any members]

theorem Blind.nulledItems_any {p : Json → Bool} (h : Blind p) :
    ∀ items : List Json, anyItem p (nulledItems items) = anyItem p items
  | [] => rfl
  | j :: items => by
    rw [nulledItems, anyItem, anyItem, h.nulled_any j, h.nulledItems_any items]

theorem Blind.nulledMembers_any {p : Json → Bool} (h : Blind p) :
    ∀ members : List (Str × Json), anyMember p (nulledMembers members) = anyMember p members
  | [] => rfl
  | (_, j) :: members => by
    rw [nulledMembers, anyMember, anyMember, h.nulled_any j, h.nulledMembers_any members]

end

theorem blind_repeatsKey : Blind repeatsKey where
  float _ := rfl
  arr _ := rfl
  obj members := by simp only [repeatsKey, nulledMembers_keys]

theorem blind_badText : Blind badText where
  float _ := rfl
  arr _ := rfl
  obj members := by
    rw [badText, badText, nulledMembers_eq, List.any_map]
    rfl

theorem nulled_keys {j : Json} (h : j.any repeatsKey = false) : j.nulled.any repeatsKey = false :=
  (blind_repeatsKey.nulled_any j).trans h

theorem nulled_badText (j : Json) : j.nulled.any badText = j.any badText :=
  blind_badText.nulled_any j

theorem nulled_ofFields (fields : List (Str × Option Json)) :
    (ofFields fields).nulled = ofFields (fields.map fun f => (f.1, f.2.map nulled)) := by
  unfold ofFields
  rw [nulled, nulledMembers_eq, List.map_filterMap, List.filterMap_map]
  congr 2
  funext field
  cases hvalue : field.2 <;> simp [hvalue]

end Json

/-- The value a text of `j` stands for. -/
def JsonValue.nulled (j : JsonValue) : JsonValue := ⟨j.json.nulled, Json.nulled_keys j.keys⟩

structure JsonText.Conforms (t : JsonText) : Prop extends t.Lawful where
  nulls : ∀ j, t.dump j = t.dump j.nulled
  empty : t.parse [] = none
  whole : ∀ j text p, j.json.isObject = true → t.dump j = some text → p <+: text → p ≠ text →
    t.parse p = none

end Gr4cp.Core

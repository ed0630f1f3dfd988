import Gr4ControlPlane.Core.Assoc
import Gr4ControlPlane.Core.Utf8

/-!
# JSON values

The value type of the JSON library: integers are held as `int64` or, when
the literal has no sign, as `uint64`; larger numbers are floats. An object
is a map, so its keys are distinct; `JsonValue` carries that fact at every
depth.

`any` asks whether a predicate holds of a value or of anything inside it;
`Same` is equality of values, with integers compared as numbers.
`dumpString` is the text of a string; the library's writer throws on one
that is not UTF-8.
-/
namespace Gr4cp.Core

inductive Json where
  | null
  | bool (b : Bool)
  | int (i : Int64)
  | uint (u : UInt64)
  | float (d : Double)
  | str (s : Str)
  | arr (items : List Json)
  | obj (members : List (Str × Json))
  | binary (bytes : Str)
  deriving Repr

namespace Json

mutual

/-- `p` holds of the value or of one inside it. -/
def any (p : Json → Bool) : Json → Bool
  | .arr items => p (.arr items) || anyItem p items
  | .obj members => p (.obj members) || anyMember p members
  | j => p j

def anyItem (p : Json → Bool) : List Json → Bool
  | [] => false
  | j :: items => any p j || anyItem p items

def anyMember (p : Json → Bool) : List (Str × Json) → Bool
  | [] => false
  | (_, j) :: members => any p j || anyMember p members

end

def isObject : Json → Bool
  | .obj _ => true
  | _ => false

def member (key : Str) : Json → Option Json
  | .obj members => members.lookup key
  | _ => none

/-- An object with a key twice, which the library never builds. -/
def repeatsKey : Json → Bool
  | .obj members => !decide (members.map (·.1)).Nodup
  | _ => false

theorem anyItem_eq (p : Json → Bool) (items : List Json) :
    anyItem p items = items.any fun j => j.any p := by
  induction items with
  | nil => rfl
  | cons j items ih => rw [anyItem, ih, List.any_cons]

theorem anyMember_eq (p : Json → Bool) (members : List (Str × Json)) :
    anyMember p members = members.any fun m => m.2.any p := by
  induction members with
  | nil => rfl
  | cons m members ih => rw [anyMember, ih, List.any_cons]

mutual

theorem any_or (p q : Json → Bool) : ∀ j, any (fun j => p j || q j) j = (any p j || any q j)
  | .null | .bool _ | .int _ | .uint _ | .float _ | .str _ | .binary _ => rfl
  | .arr items => by
    simp only [any, anyItem_or p q items]
    grind
  | .obj members => by
    simp only [any, anyMember_or p q members]
    grind

theorem anyItem_or (p q : Json → Bool) :
    ∀ items, anyItem (fun j => p j || q j) items = (anyItem p items || anyItem q items)
  | [] => rfl
  | j :: items => by
    simp only [anyItem, any_or p q j, anyItem_or p q items]
    grind

theorem anyMember_or (p q : Json → Bool) :
    ∀ members, anyMember (fun j => p j || q j) members = (anyMember p members || anyMember q members)
  | [] => rfl
  | (_, j) :: members => by
    simp only [anyMember, any_or p q j, anyMember_or p q members]
    grind

end

/-! ## The same value -/

/-- The number an integer is, held either way. -/
def integer : Json → Option Int
  | .int i => some i.toInt
  | .uint u => some u.toNat
  | _ => none

mutual

/-- The same value: the same keys at every depth, in any order, and for
every integer the same number. -/
def Same : Json → Json → Prop
  | .null, j => j = .null
  | .bool b, j => j = .bool b
  | .int i, j => j.integer = some i.toInt
  | .uint u, j => j.integer = some (u.toNat : Int)
  | .float d, j => j = .float d
  | .str s, j => j = .str s
  | .arr items, .arr items' => SameItems items items'
  | .obj members, .obj members' =>
    SameMembers members members' ∧ ∀ key ∈ members'.map (·.1), key ∈ members.map (·.1)
  | .binary bytes, j => j = .binary bytes
  | _, _ => False

def SameItems : List Json → List Json → Prop
  | [], [] => True
  | j :: items, j' :: items' => Same j j' ∧ SameItems items items'
  | _, _ => False

/-- Each member is found, with the same value. -/
def SameMembers : List (Str × Json) → List (Str × Json) → Prop
  | [], _ => True
  | (key, j) :: members, members' =>
    (∃ j', members'.lookup key = some j' ∧ Same j j') ∧ SameMembers members members'

end

/-- The same members, one by one. -/
inductive InStep : List (Str × Json) → List (Str × Json) → Prop
  | nil : InStep [] []
  | cons {key j j' members members'} (head : Same j j') (tail : InStep members members') :
      InStep ((key, j) :: members) ((key, j') :: members')

theorem InStep.keys {members members' : List (Str × Json)} (h : InStep members members') :
    members'.map (·.1) = members.map (·.1) := by
  induction h with
  | nil => rfl
  | cons _ _ ih => simp [ih]

/-- Objects with the same members one by one are the same. -/
theorem same_obj {members members' : List (Str × Json)} (h : InStep members members')
    (hkeys : (members.map (·.1)).Nodup) : Same (.obj members) (.obj members') := by
  have hgen : ∀ {rest rest'}, InStep rest rest' → ∀ before,
      ((before ++ rest').map (·.1)).Nodup → SameMembers rest (before ++ rest') := by
    intro rest rest' hrest
    induction hrest with
    | nil =>
      intro _ _
      trivial
    | @cons key j j' rest rest' head tail ih =>
      intro before hnodup
      refine ⟨⟨j', ?_, head⟩, ?_⟩
      · rw [List.map_append, List.map_cons, List.nodup_append] at hnodup
        have hnew : key ∉ before.map (·.1) := fun hmem =>
          hnodup.2.2 _ hmem _ List.mem_cons_self rfl
        rw [List.lookup_append, Assoc.lookup_eq_none hnew, List.lookup_cons_self]
        rfl
      · rw [List.append_cons] at hnodup ⊢
        exact ih _ hnodup
  rw [← h.keys] at hkeys
  refine ⟨hgen h [] hkeys, fun key hkey => ?_⟩
  rw [← h.keys]
  exact hkey

/-- `Same`, where there are values. -/
def SameOption : Option Json → Option Json → Prop
  | some j, some j' => Same j j'
  | none, none => True
  | _, _ => False

theorem sameOption_cases {α : Type} {write : α → Json} {field : Option α} {found : Option Json}
    (h : SameOption (field.map write) found) :
    (field = none ∧ found = none) ∨
      ∃ a j, field = some a ∧ found = some j ∧ Same (write a) j := by
  cases field with
  | none =>
    cases found with
    | none => exact .inl ⟨rfl, rfl⟩
    | some j => cases h
  | some a =>
    cases found with
    | none => cases h
    | some j => exact .inr ⟨a, j, rfl, rfl, h⟩

/-- What holds nowhere in a value holds nowhere in a member. -/
theorem any_member {p : Json → Bool} {j found : Json} {key : Str} (h : j.any p = false)
    (hmember : j.member key = some found) : found.any p = false := by
  cases j with
  | obj members =>
    simp only [any, Bool.or_eq_false_iff, anyMember_eq] at h
    simpa using List.any_eq_false.1 h.2 _ (Assoc.mem_of_lookup hmember)
  | _ => cases hmember

theorem sameMembers_mem {members members' : List (Str × Json)} (h : SameMembers members members')
    {key : Str} {j : Json} (hmem : (key, j) ∈ members) :
    ∃ j', members'.lookup key = some j' ∧ Same j j' := by
  induction members with
  | nil => cases hmem
  | cons member members ih =>
    obtain ⟨hhead, htail⟩ := h
    obtain heq | hmem := List.mem_cons.1 hmem
    · rw [← heq] at hhead
      exact hhead
    · exact ih htail hmem

/-- What a key finds in the same object is the same. -/
theorem same_member {j j' : Json} (h : Same j j') (key : Str) (hobj : j.isObject = true) :
    SameOption (j.member key) (j'.member key) := by
  cases j with
  | obj members =>
    cases j' with
    | obj members' =>
      obtain ⟨hmembers, hkeys⟩ := h
      show SameOption (members.lookup key) (members'.lookup key)
      cases hlookup : members.lookup key with
      | some value =>
        obtain ⟨value', hvalue', hsame⟩ :=
          sameMembers_mem hmembers (Assoc.mem_of_lookup hlookup)
        rw [hvalue']
        exact hsame
      | none =>
        have hnew : key ∉ members'.map (·.1) := by
          intro hkey
          obtain ⟨member, hmember, rfl⟩ := List.mem_map.1 (hkeys key hkey)
          exact absurd (List.lookup_eq_none_iff.1 hlookup member hmember) (by simp)
        rw [Assoc.lookup_eq_none hnew]
        trivial
    | _ => cases h
  | _ => cases hobj

theorem same_member_none {j j' : Json} (h : Same j j') {key : Str} (hobj : j.isObject = true)
    (hkey : j.member key = none) : j'.member key = none := by
  have hsame := same_member h key hobj
  rw [hkey] at hsame
  cases hfound : j'.member key with
  | none => rfl
  | some found =>
    rw [hfound] at hsame
    cases hsame

/-- What is found in an object is found in the same object. -/
theorem same_member_some {j j' : Json} (h : Same j j') {key : Str} {value : Json}
    (hkey : j.member key = some value) : ∃ value', j'.member key = some value' ∧
      Same value value' := by
  have hobj : j.isObject = true := by
    cases j with
    | obj => rfl
    | _ => cases hkey
  have hsame := same_member h key hobj
  rw [hkey] at hsame
  cases hfound : j'.member key with
  | none =>
    rw [hfound] at hsame
    cases hsame
  | some found =>
    rw [hfound] at hsame
    exact ⟨found, rfl, hsame⟩

theorem same_member_str {j j' : Json} (h : Same j j') {key s : Str}
    (hkey : j.member key = some (.str s)) : j'.member key = some (.str s) := by
  obtain ⟨found, hfound, hsame⟩ := same_member_some h hkey
  rw [hfound]
  exact congrArg some hsame

/-! ## Objects from fields -/

/-- The object with the fields that have a value. -/
def ofFields (fields : List (Str × Option Json)) : Json :=
  .obj (fields.filterMap fun field => field.2.map fun value => (field.1, value))

theorem ofFields_keys (fields : List (Str × Option Json)) :
    ((fields.filterMap fun field => field.2.map fun value => (field.1, value)).map (·.1)).Sublist
      (fields.map (·.1)) := by
  induction fields with
  | nil => exact .slnil
  | cons field fields ih =>
    obtain ⟨key, value⟩ := field
    cases value with
    | none => exact ih.cons key
    | some value => exact ih.cons_cons key

/-- A field is found under its key. -/
theorem member_ofFields {fields : List (Str × Option Json)} (hkeys : (fields.map (·.1)).Nodup)
    {key : Str} {value : Option Json} (hmem : (key, value) ∈ fields) :
    (ofFields fields).member key = value := by
  obtain ⟨before, after, rfl⟩ := List.append_of_mem hmem
  rw [List.map_append, List.map_cons, List.nodup_append, List.nodup_cons] at hkeys
  obtain ⟨-, ⟨hafter, -⟩, hbefore⟩ := hkeys
  show List.lookup key (List.filterMap _ _) = value
  have hfirst : List.lookup key
      (before.filterMap fun field => field.2.map fun value => (field.1, value)) = none :=
    Assoc.lookup_eq_none fun h =>
      hbefore _ ((ofFields_keys before).subset h) _ List.mem_cons_self rfl
  rw [List.filterMap_append, List.lookup_append, hfirst, Option.none_or, List.filterMap_cons]
  cases value with
  | none => exact Assoc.lookup_eq_none fun h => hafter ((ofFields_keys after).subset h)
  | some value => exact List.lookup_cons_self

/-- What holds neither of the object nor in any field holds nowhere. -/
theorem any_ofFields {p : Json → Bool} {fields : List (Str × Option Json)}
    (hself : p (ofFields fields) = false)
    (hvalues : ∀ field ∈ fields, ∀ j, field.2 = some j → j.any p = false) :
    (ofFields fields).any p = false := by
  unfold ofFields at hself ⊢
  rw [any, hself, anyMember_eq, Bool.false_or, List.any_eq_false]
  intro member hmember
  obtain ⟨field, hfield, hvalue⟩ := List.mem_filterMap.1 hmember
  obtain ⟨j, hj, rfl⟩ := Option.map_eq_some_iff.1 hvalue
  simpa using hvalues field hfield j hj

end Json

/-! ## Text -/

/-- How the writer writes a byte of a string. -/
def escapeByte (c : UInt8) : Str :=
  if c = 0x08 then str "\\b"
  else if c = 0x09 then str "\\t"
  else if c = 0x0A then str "\\n"
  else if c = 0x0C then str "\\f"
  else if c = 0x0D then str "\\r"
  else if c = 0x22 then [0x5C, 0x22]
  else if c = 0x5C then [0x5C, 0x5C]
  else if c < 0x20 then str "\\u00" ++ [hexDigit (c.toNat / 16), hexDigit (c.toNat % 16)]
  else [c]

/-- `dump()` of a string; `none` is `type_error` 316. -/
def dumpString (s : Str) : Option Str :=
  if Utf8.valid s then some ([0x22] ++ s.flatMap escapeByte ++ [0x22]) else none

/-- A value whose objects have distinct keys. -/
structure JsonValue where
  json : Json
  keys : json.any Json.repeatsKey = false

end Gr4cp.Core

import Gr4ControlPlane.L3Runtime.GraphContent

/-!
# The name of a block in the two layers

The domain layer derives the instance name of a managed block
(`normalizeStreamBlock`); the runtime layer rewrites the block and then
looks for a binding by a name it reads back (`normalizeBlock`, then
`injectionName`). Here both are written out by key, as the first string that
is there and not empty.

* `instanceName_eq`, `injectionName_normalizeBlock`: what the two layers
  compute.
* `namesMeet_iff`: for a block with a domain name, when the runtime finds it
  under that name, key by key.
-/
namespace Gr4cp.Runtime

open Gr4cp.Core Gr4cp.Domain

/-- A string that is there and not empty. -/
def present (o : Option Str) : Option Str := o.filter fun s => !s.isEmpty

theorem nonEmptyString_eq (m : PropertyMap) (key : Str) :
    nonEmptyString m key = present (parameterString m key) := rfl

theorem present_of_absent {o : Option Str} (h : absentOrEmpty o = true) : present o = none := by
  cases o with
  | none => rfl
  | some s => simp_all [absentOrEmpty, present]

theorem present_of_not_absent {o : Option Str} (h : absentOrEmpty o = false) : present o = o := by
  cases o with
  | none => rfl
  | some s => simp_all [absentOrEmpty, present]

theorem present_getD (o : Option Str) : (present o).getD [] = o.getD [] := by
  cases h : absentOrEmpty o with
  | false => rw [present_of_not_absent h]
  | true =>
    rw [present_of_absent h]
    cases o with
    | none => rfl
    | some s => exact (List.isEmpty_iff.1 h).symm

/-! ## The domain layer -/

/-- `instance_name`, else `name`, of the block itself. -/
def ownName (block : PropertyMap) : Option Str :=
  (nonEmptyString block (str "instance_name")).or (nonEmptyString block (str "name"))

/-- The studio node id counts when the block names its type apart from it. -/
def studioName (block : PropertyMap) : Option Str :=
  if Assoc.contains block (str "block") then nonEmptyString block (str "id") else none

/-- The name the domain layer derives, by key. -/
def authoredName (block : PropertyMap) : Option Str :=
  (nonEmptyString (mergedParameters block) (str "name")).or ((studioName block).or (ownName block))

theorem candidateName_present (block : PropertyMap) {start : Option Str}
    (h : absentOrEmpty start = true) :
    present (candidateName block [str "instance_name", str "name"] start) = ownName block := by
  have hone : ∀ start, absentOrEmpty start = true →
      present (candidateName block [str "name"] start) = nonEmptyString block (str "name") := by
    intro start hstart
    simp only [candidateName, nonEmptyString_eq, parameterString]
    cases block.lookup (str "name") with
    | none => exact present_of_absent hstart
    | some value => simp
  rw [candidateName]
  simp only [ownName, nonEmptyString_eq, parameterString]
  cases block.lookup (str "instance_name") with
  | none => simpa [present, nonEmptyString_eq, parameterString] using hone start h
  | some value =>
    cases hvalue : absentOrEmpty (valueToString value) with
    | true =>
      simpa [hvalue, present_of_absent hvalue, nonEmptyString_eq, parameterString] using
        hone _ hvalue
    | false =>
      obtain ⟨s, hs⟩ : ∃ s, valueToString value = some s := by
        cases hs : valueToString value with
        | none => simp [hs, absentOrEmpty] at hvalue
        | some s => exact ⟨s, rfl⟩
      simp only [hvalue, Bool.false_eq_true, if_false, Option.bind_some,
        present_of_not_absent hvalue]
      simp [hs]

/-- The instance name of a block the domain layer takes for one. -/
theorem instanceName_eq {block : PropertyMap} {nb : NormalizedBlock}
    (h : normalizeStreamBlock block = some nb) : nb.instanceName = (authoredName block).getD [] := by
  simp only [normalizeStreamBlock, Option.ite_none_left_eq_some, Option.some.injEq] at h
  obtain ⟨-, rfl⟩ := h
  dsimp only
  rw [← present_getD]
  congr 1
  cases hname : absentOrEmpty (parameterString (mergedParameters block) (str "name")) with
  | false =>
    simp only [Bool.false_and, Bool.false_eq_true, if_false, hname, authoredName, nonEmptyString_eq,
      present_of_not_absent hname]
    cases hs : parameterString (mergedParameters block) (str "name") with
    | none => simp [hs, absentOrEmpty] at hname
    | some s => rfl
  | true =>
    simp only [authoredName, nonEmptyString_eq, present_of_absent hname, Option.none_or, studioName,
      Bool.true_and]
    cases hid : absentOrEmpty (parameterString block (str "id")) with
    | true =>
      simp only [Bool.not_true, Bool.false_and, Bool.false_eq_true, if_false, hname, if_true,
        present_of_absent hid, ite_self, Option.none_or]
      exact candidateName_present block hname
    | false =>
      cases hblock : Assoc.contains block (str "block") with
      | true =>
        simp only [Bool.not_false, Bool.and_self, if_true, hid, Bool.false_eq_true, if_false,
          present_of_not_absent hid]
        cases hs : parameterString block (str "id") with
        | none => simp [hs, absentOrEmpty] at hid
        | some s => rfl
      | false =>
        simp only [Bool.and_false, Bool.false_eq_true, if_false, hname, if_true, Option.none_or]
        exact candidateName_present block hname

/-! ## The runtime layer -/

/-- The name under which the runtime finds a block, by key. -/
def runtimeName (block : PropertyMap) : Option Str :=
  let parameters := mergedParameters block
  if Assoc.contains parameters (str "name") then
    (nonEmptyString parameters (str "name")).or (nonEmptyString block (str "instance_name"))
  else (nonEmptyString block (str "id")).or (ownName block)

theorem insertOrAssign_ne_nil (key : Str) (value : Value) (m : PropertyMap) :
    Assoc.insertOrAssign key value m ≠ [] := by
  cases m with
  | nil => simp [Assoc.insertOrAssign]
  | cons entry m =>
    simp only [Assoc.insertOrAssign]
    split <;> simp

theorem fillMissing_eq_nil {raw parameters : PropertyMap} (h : fillMissing raw parameters = []) :
    parameters = [] := by
  induction raw generalizing parameters with
  | nil => exact h
  | cons entry raw ih =>
    simp only [fillMissing] at h
    split at h
    · exact ih h
    · exact absurd (ih h) (insertOrAssign_ne_nil _ _ _)

theorem lookup_assignBlockId {key : Str} (h : key ≠ str "id") (block : PropertyMap) :
    (assignBlockId block).lookup key = block.lookup key := by
  have hassign : ∀ value, (Assoc.insertOrAssign (str "id") value block).lookup key =
      block.lookup key := fun value => Assoc.lookup_insertOrAssign_of_ne h value block
  cases hblock : nonEmptyString block (str "block") with
  | some blockType => simp [assignBlockId, hblock, Assoc.contains, hassign]
  | none =>
    simp only [assignBlockId, hblock]
    split
    · rfl
    · cases nonEmptyString block (str "block_type") with
      | some blockType => exact hassign _
      | none => rfl

theorem mergedParameters_assignBlockId (block : PropertyMap) :
    mergedParameters (assignBlockId block) = mergedParameters block := by
  simp only [mergedParameters, mapAt,
    lookup_assignBlockId (show str "raw_parameters" ≠ str "id" by decide),
    lookup_assignBlockId (show str "parameters" ≠ str "id" by decide)]

theorem ownName_assignBlockId (block : PropertyMap) :
    ownName (assignBlockId block) = ownName block := by
  simp only [ownName, nonEmptyString, parameterString,
    lookup_assignBlockId (show str "instance_name" ≠ str "id" by decide),
    lookup_assignBlockId (show str "name" ≠ str "id" by decide)]

theorem firstName_eq (block : PropertyMap) :
    firstName block [str "instance_name", str "name"] = ownName block := by
  simp only [firstName, ownName]
  cases nonEmptyString block (str "instance_name") with
  | some name => rfl
  | none => cases nonEmptyString block (str "name") <;> rfl

/-- `name` is only written where there is none. -/
theorem assignName_eq (id : Option Str) (block parameters : PropertyMap) :
    assignName id block parameters =
      if Assoc.contains parameters (str "name") then parameters
      else
        match (present id).or (ownName block) with
        | some name => Assoc.insertOrAssign (str "name") (.str name) parameters
        | none => parameters := by
  rw [assignName, firstName_eq, show id.filter (fun s => !s.isEmpty) = present id from rfl]
  cases hname : Assoc.contains parameters (str "name") with
  | true => simp [hname]
  | false =>
    cases present id with
    | some s => simp [Assoc.contains]
    | none => cases ownName block <;> simp [hname]

/-- The parameters of a rewritten block, written back or not. -/
theorem parameters_normalizeBlock (block : PropertyMap) :
    mapAt (normalizeBlock block) (str "parameters") =
      assignName (parameterString block (str "id")) (assignBlockId block)
        (mergedParameters block) := by
  simp only [normalizeBlock, mergedParameters_assignBlockId]
  split
  · rename_i hempty
    rw [List.isEmpty_iff] at hempty
    have hmerged : mergedParameters block = [] := by
      rw [assignName_eq] at hempty
      split at hempty
      · exact hempty
      · split at hempty
        · exact absurd hempty (insertOrAssign_ne_nil _ _ _)
        · exact hempty
    rw [hempty, mapAt, lookup_assignBlockId (by decide)]
    exact fillMissing_eq_nil hmerged
  · simp [mapAt, getMap]

theorem lookup_normalizeBlock {key : Str} (hid : key ≠ str "id") (hparameters : key ≠ str "parameters")
    (block : PropertyMap) : (normalizeBlock block).lookup key = block.lookup key := by
  simp only [normalizeBlock]
  split
  · exact lookup_assignBlockId hid block
  · rw [Assoc.lookup_insertOrAssign_of_ne hparameters, lookup_assignBlockId hid]

/-- What `injectStreamBindings` makes of the name in the parameters. -/
theorem injectionName_present (block : PropertyMap) :
    present (injectionName block) =
      (present (parameterString (mapAt block (str "parameters")) (str "name"))).or
        (nonEmptyString block (str "instance_name")) := by
  simp only [injectionName]
  generalize parameterString (mapAt block (str "parameters")) (str "name") = name
  cases hname : absentOrEmpty name with
  | true =>
    simp only [if_true, present_of_absent hname, Option.none_or, nonEmptyString_eq, parameterString]
    cases block.lookup (str "instance_name") with
    | none => exact present_of_absent hname
    | some value => rfl
  | false =>
    simp only [Bool.false_eq_true, if_false, present_of_not_absent hname]
    cases name with
    | none => cases hname
    | some s => rfl

theorem present_present (o : Option Str) : present (present o) = present o := by
  simp [present, Option.filter_filter]

theorem present_ownName (block : PropertyMap) : present (ownName block) = ownName block := by
  simp only [ownName, nonEmptyString_eq]
  cases hinstance : present (parameterString block (str "instance_name")) with
  | none => simp [present_present]
  | some s => rw [Option.some_or, ← hinstance, present_present]

/-- The name the runtime reads back from a block it has rewritten. -/
theorem injectionName_normalizeBlock (block : PropertyMap) :
    present (injectionName (normalizeBlock block)) = runtimeName block := by
  have hinstance : nonEmptyString (normalizeBlock block) (str "instance_name") =
      nonEmptyString block (str "instance_name") := by
    simp only [nonEmptyString, parameterString,
      lookup_normalizeBlock (show str "instance_name" ≠ str "id" by decide)
        (show str "instance_name" ≠ str "parameters" by decide)]
  rw [injectionName_present, parameters_normalizeBlock, hinstance, assignName_eq, runtimeName,
    ownName_assignBlockId]
  cases hname : Assoc.contains (mergedParameters block) (str "name") with
  | true => rfl
  | false =>
    have habsent : parameterString (mergedParameters block) (str "name") = none := by
      simp only [Assoc.contains, Option.isSome_eq_false_iff, Option.isNone_iff_eq_none] at hname
      simp [parameterString, hname]
    simp only [Bool.false_eq_true, if_false, nonEmptyString_eq block (str "id")]
    cases hid : present (parameterString block (str "id")) with
    | some s =>
      have hs : present (some s) = some s := by rw [← hid, present_present]
      simp [parameterString, valueToString, hs]
    | none =>
      have hown := present_ownName block
      cases hname : ownName block with
      | some s =>
        rw [hname] at hown
        simp [parameterString, valueToString, hown]
      | none =>
        have hnone : nonEmptyString block (str "instance_name") = none := by
          simp only [ownName, Option.or_eq_none_iff] at hname
          exact hname.1
        simp [habsent, hnone, present]

/-! ## Where they meet -/

/-- The runtime finds a block under its domain name. With a name in the
parameters that is a string, both take it. With something else there, the
runtime takes `instance_name`, so the studio node id must not count or be the
same. With nothing there, the runtime takes the id before the block's own
name, so an id that is the block's type must not differ from it. -/
def NamesMeet (block : PropertyMap) : Prop :=
  let id := nonEmptyString block (str "id")
  let instanceName := nonEmptyString block (str "instance_name")
  if Assoc.contains (mergedParameters block) (str "name") then
    (nonEmptyString (mergedParameters block) (str "name")).isSome ∨
      (instanceName.isSome ∧
        (Assoc.contains block (str "block") → id = none ∨ id = instanceName))
  else id = none ∨ Assoc.contains block (str "block") ∨ ownName block = id

theorem namesMeet_iff {block : PropertyMap} {name : Str} (h : authoredName block = some name) :
    runtimeName block = some name ↔ NamesMeet block := by
  simp only [authoredName, studioName] at h
  simp only [runtimeName, NamesMeet]
  have hcontains : Assoc.contains (mergedParameters block) (str "name") = false →
      nonEmptyString (mergedParameters block) (str "name") = none := by
    intro hname
    simp only [Assoc.contains, Option.isSome_eq_false_iff, Option.isNone_iff_eq_none] at hname
    simp [nonEmptyString, parameterString, hname]
  cases hname : Assoc.contains (mergedParameters block) (str "name") with
  | false =>
    rw [hcontains hname, Option.none_or] at h
    simp only [Bool.false_eq_true, if_false]
    cases hid : nonEmptyString block (str "id") with
    | none => simpa [hid] using h
    | some id => cases hblock : Assoc.contains block (str "block") <;> grind
  | true =>
    simp only [if_true]
    cases hparam : nonEmptyString (mergedParameters block) (str "name") with
    | some s => simpa [hparam] using h
    | none =>
      simp only [hparam, Option.none_or, ownName] at h ⊢
      cases hinstance : nonEmptyString block (str "instance_name") with
      | none => simp
      | some own =>
        cases hblock : Assoc.contains block (str "block") with
        | false => simp_all
        | true => cases hid : nonEmptyString block (str "id") <;> grind

end Gr4cp.Runtime

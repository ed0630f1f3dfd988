import Gr4ControlPlane.L1Domain.BlockCatalog
import Gr4ControlPlane.L3Catalog.ElementType

/-!
# Port counts of collections (`catalog/gr4_block_catalog_provider.cpp`)

A port collection has no fixed number of ports, so the catalogue infers one
to draw and the bounds it must keep. The parameter that sizes the collection
is the first of a list of candidate names that some parameter bears; three of
these names bring the bounds 1 and 32. The count is the default of that
parameter, else the ports the block has now, else the lower bound. Only the
default is brought within the bounds.

* `metadata_consistent_iff`: the count lies within the bounds unless the
  collection is sized by a bounded parameter whose default is no `int` and
  the block has more than 32 ports now.
* `metadata_beyond_bounds`: a block for which the count is 40 and the upper
  bound 32.
-/
namespace Gr4cp.Catalog

open Gr4cp.Core Gr4cp.Domain

/-! ## Names of size parameters -/

/-- The parameters that have bounds. -/
def isPortCount (parameterName : Str) : Bool :=
  parameterName == str "n_inputs" || parameterName == str "n_outputs" ||
    parameterName == str "n_ports"

/-- mirrors src/catalog/gr4_block_catalog_provider.cpp:571-576 -/
def portCountLowerBound (parameterName : Str) : Option Int32 :=
  if isPortCount parameterName then some 1 else none

/-- mirrors src/catalog/gr4_block_catalog_provider.cpp:578-583 -/
def portCountUpperBound (parameterName : Str) : Option Int32 :=
  if isPortCount parameterName then some 32 else none

/-- mirrors src/catalog/gr4_block_catalog_provider.cpp:593-599 -/
def patterns (name : Str) : List Str :=
  [str "n_" ++ name, str "num_" ++ name, name, name ++ str "_count", str "count_" ++ name]

/-- `s.ends_with(suffix)` -/
def endsWith (s suffix : Str) : Bool := suffix.isSuffixOf s

/-- mirrors src/catalog/gr4_block_catalog_provider.cpp:602-610 -/
def singular (base : Str) : Str :=
  if 3 < base.length ∧ endsWith base (str "ies") then base.take (base.length - 3) ++ str "y"
  else if 1 < base.length ∧ endsWith base (str "s") then base.take (base.length - 1)
  else base

/-- mirrors src/catalog/gr4_block_catalog_provider.cpp:611-619 -/
def plural (base : Str) : Str :=
  if endsWith base (str "s") then base
  else if endsWith base (str "y") ∧ 1 < base.length then
    base.take (base.length - 1) ++ str "ies"
  else base ++ str "s"

/-- The names the size parameter of a collection may have, the first to be
tried first, each once.
mirrors src/catalog/gr4_block_catalog_provider.cpp:588-639 -/
def sizeParameterCandidates (collectionName : Str) (isInput : Bool) : List Str :=
  let base := collectionName
  (patterns base ++
    (if singular base ≠ base then patterns (singular base) else []) ++
    (if plural base ≠ base ∧ plural base ≠ singular base then patterns (plural base) else []) ++
    patterns (if isInput then str "in" else str "out") ++
    patterns (if isInput then str "input" else str "output") ++
    patterns (if isInput then str "inputs" else str "outputs")).eraseDups

/-- mirrors src/catalog/gr4_block_catalog_provider.cpp:585-654 -/
def inferCollectionSizeParameter (collectionName : Str) (isInput : Bool)
    (parameters : List BlockParameterDescriptor) : Option Str :=
  (sizeParameterCandidates collectionName isInput).find? fun candidate =>
    parameters.any fun parameter => parameter.name == candidate

/-! ## Counts -/

/-- mirrors src/catalog/gr4_block_catalog_provider.cpp:656-661 -/
def parameterDefaultInt (parameter : BlockParameterDescriptor) : Option Int32 :=
  match parameter.defaultValue with
  | .int n => some n
  | _ => none

/-- The default of the parameter a collection is sized by.
mirrors src/catalog/gr4_block_catalog_provider.cpp:708-714 -/
def sizeParameterDefault (collectionName : Str) (isInput : Bool)
    (parameters : List BlockParameterDescriptor) : Option Int32 :=
  match inferCollectionSizeParameter collectionName isInput parameters with
  | none => none
  | some sizeParameter =>
    match parameters.find? fun parameter => parameter.name == sizeParameter with
    | none => none
    | some parameter => parameterDefaultInt parameter

/-- mirrors src/catalog/gr4_block_catalog_provider.cpp:715-722 -/
def clampCount (minPortCount maxPortCount : Option Int32) (count : Int32) : Int32 :=
  let count :=
    match minPortCount with
    | some lo => if count < lo then lo else count
    | none => count
  match maxPortCount with
  | some hi => if 0 ≤ hi ∧ hi < count then hi else count
  | none => count

/-- `static_cast<int>` of a `std::size_t`. -/
def intOfSize (n : UInt64) : Int32 := Int32.ofNat n.toNat

/-- mirrors src/catalog/gr4_block_catalog_provider.cpp:702-734 -/
def inferCollectionRenderPortCount (collectionName : Str) (isInput : Bool)
    (parameters : List BlockParameterDescriptor) (currentCount : UInt64)
    (minPortCount maxPortCount : Option Int32) : Option Int32 :=
  match sizeParameterDefault collectionName isInput parameters with
  | some count => some (clampCount minPortCount maxPortCount count)
  | none =>
    if 0 < currentCount then some (intOfSize currentCount)
    else
      match minPortCount with
      | some lo => if 0 < lo then some lo else none
      | none => none

/-- mirrors src/catalog/gr4_block_catalog_provider.cpp:736-745 -/
structure CollectionMetadata where
  cardinalityKind : BlockPortCardinalityKind := .fixed
  currentPortCount : Option Int32 := none
  renderPortCount : Option Int32 := none
  minPortCount : Option Int32 := none
  maxPortCount : Option Int32 := none
  sizeParameter : Option Str := none
  handleNameTemplate : Option Str := none
  elementType : Option Str := none
  deriving DecidableEq

/-- A bound that the size parameter has, else the one of collections.
mirrors src/catalog/gr4_block_catalog_provider.cpp:769-776 -/
def boundOr (bound : Str → Option Int32) (sizeParameter : Option Str) (default : Int32) : Int32 :=
  ((sizeParameter.bind bound).getD default)

/-- mirrors src/catalog/gr4_block_catalog_provider.cpp:755-785 -/
def inferCollectionMetadata (collectionName blockId : Str) (isInput : Bool)
    (parameters : List BlockParameterDescriptor) (currentCount : UInt64) : CollectionMetadata :=
  let sizeParameter := inferCollectionSizeParameter collectionName isInput parameters
  let minPortCount :=
    boundOr portCountLowerBound sizeParameter (if currentCount = 0 then 0 else 1)
  let maxPortCount := boundOr portCountUpperBound sizeParameter (-1)
  { cardinalityKind := .dynamic
    currentPortCount := some (intOfSize currentCount)
    minPortCount := some minPortCount
    maxPortCount := some maxPortCount
    sizeParameter := sizeParameter
    handleNameTemplate := some (collectionName ++ str "#$\x7bindex\x7d")
    elementType := inferCollectionElementType blockId
    renderPortCount := inferCollectionRenderPortCount collectionName isInput parameters
      currentCount (some minPortCount) (some maxPortCount) }

/-! ## The parameter a collection is sized by -/

/-- `p` sizes the collection: its name is a candidate, no parameter bears a
candidate that is tried before it, and `p` is the first of that name. -/
def SizedBy (collectionName : Str) (isInput : Bool) (parameters : List BlockParameterDescriptor)
    (p : BlockParameterDescriptor) : Prop :=
  (∃ before after, sizeParameterCandidates collectionName isInput = before ++ p.name :: after ∧
    ∀ candidate ∈ before, ∀ q ∈ parameters, q.name ≠ candidate) ∧
  ∃ others rest, parameters = others ++ p :: rest ∧ ∀ q ∈ others, q.name ≠ p.name

theorem sizeParameter_of_sizedBy {collectionName : Str} {isInput : Bool}
    {parameters : List BlockParameterDescriptor} {p : BlockParameterDescriptor}
    (h : SizedBy collectionName isInput parameters p) :
    inferCollectionSizeParameter collectionName isInput parameters = some p.name ∧
      parameters.find? (fun q => q.name == p.name) = some p := by
  obtain ⟨⟨before, after, hcandidates, hbefore⟩, others, rest, hparameters, hothers⟩ := h
  have hp : p ∈ parameters := by
    rw [hparameters]
    exact List.mem_append_right _ (List.mem_cons_self ..)
  refine ⟨?_, ?_⟩
  · unfold inferCollectionSizeParameter
    rw [List.find?_eq_some_iff_append]
    refine ⟨List.any_eq_true.2 ⟨p, hp, beq_self_eq_true _⟩, before, after, hcandidates, ?_⟩
    intro candidate hc
    rw [Bool.not_eq_true', List.any_eq_false]
    intro q hq
    simpa using hbefore candidate hc q hq
  · rw [List.find?_eq_some_iff_append]
    refine ⟨beq_self_eq_true _, others, rest, hparameters, ?_⟩
    intro q hq
    simpa using hothers q hq

theorem sizedBy_of_sizeParameter {collectionName sizeParameter : Str} {isInput : Bool}
    {parameters : List BlockParameterDescriptor}
    (h : inferCollectionSizeParameter collectionName isInput parameters = some sizeParameter) :
    ∃ p, SizedBy collectionName isInput parameters p ∧ p.name = sizeParameter := by
  unfold inferCollectionSizeParameter at h
  rw [List.find?_eq_some_iff_append] at h
  obtain ⟨hany, before, after, hcandidates, hbefore⟩ := h
  obtain ⟨q, hq, hname⟩ := List.any_eq_true.1 hany
  cases hf : parameters.find? (fun q => q.name == sizeParameter) with
  | none => exact absurd hname (List.find?_eq_none.1 hf q hq)
  | some p =>
    obtain ⟨hp, others, rest, hparameters, hothers⟩ := List.find?_eq_some_iff_append.1 hf
    obtain rfl : p.name = sizeParameter := by simpa using hp
    refine ⟨p, ⟨⟨before, after, hcandidates, ?_⟩, others, rest, hparameters, ?_⟩, rfl⟩
    · intro candidate hc r hr
      have hnot := hbefore candidate hc
      rw [Bool.not_eq_true', List.any_eq_false] at hnot
      simpa using hnot r hr
    · intro r hr
      simpa using hothers r hr

/-! ## The count and its bounds -/

/-- The count to draw, where there is one, is not below the lower bound, and
not above the upper one unless that is negative. -/
def CollectionMetadata.Consistent (metadata : CollectionMetadata) : Prop :=
  ∀ count, metadata.renderPortCount = some count →
    (∀ lo, metadata.minPortCount = some lo → lo ≤ count) ∧
    ∀ hi, metadata.maxPortCount = some hi → 0 ≤ hi → count ≤ hi

theorem toInt_intOfSize {n : UInt64} (h : n.toNat ≤ 2147483647) :
    (intOfSize n).toInt = n.toNat :=
  Int32.toInt_ofNat_of_lt (by omega)

/-- The default is brought within bounds that leave room for a count. -/
theorem clampCount_within {lo hi : Int32} (h : 0 ≤ hi → lo ≤ hi) (count : Int32) :
    lo ≤ clampCount (some lo) (some hi) count ∧
      (0 ≤ hi → clampCount (some lo) (some hi) count ≤ hi) := by
  simp only [clampCount, Int32.le_iff_toInt_le, Int32.lt_iff_toInt_lt] at h ⊢
  split <;> split <;> omega

theorem boundOr_of_isPortCount {name : Str} (h : isPortCount name = true) (lo hi : Int32) :
    boundOr portCountLowerBound (some name) lo = 1 ∧
      boundOr portCountUpperBound (some name) hi = 32 := by
  simp [boundOr, portCountLowerBound, portCountUpperBound, h]

theorem boundOr_of_not_isPortCount {sizeParameter : Option Str}
    (h : ∀ name, sizeParameter = some name → isPortCount name = false) (lo hi : Int32) :
    boundOr portCountLowerBound sizeParameter lo = lo ∧
      boundOr portCountUpperBound sizeParameter hi = hi := by
  cases sizeParameter with
  | none => exact ⟨rfl, rfl⟩
  | some name => simp [boundOr, portCountLowerBound, portCountUpperBound, h name rfl]

theorem bounds_leave_room (sizeParameter : Option Str) (lo : Int32) :
    0 ≤ boundOr portCountUpperBound sizeParameter (-1) →
      boundOr portCountLowerBound sizeParameter lo ≤
        boundOr portCountUpperBound sizeParameter (-1) := by
  by_cases h : ∀ name, sizeParameter = some name → isPortCount name = false
  · rw [(boundOr_of_not_isPortCount h lo (-1)).2]
    intro hneg
    cases hneg
  · simp only [not_forall, Bool.not_eq_false] at h
    obtain ⟨name, rfl, hname⟩ := h
    obtain ⟨hlo, hhi⟩ := boundOr_of_isPortCount hname lo (-1)
    rw [hlo, hhi]
    intro _
    decide

theorem parameterDefaultInt_eq_none {p : BlockParameterDescriptor} :
    parameterDefaultInt p = none ↔ ∀ n, p.defaultValue ≠ .int n := by
  unfold parameterDefaultInt
  cases p.defaultValue <;> simp

theorem sizeParameterDefault_of_sizedBy {collectionName : Str} {isInput : Bool}
    {parameters : List BlockParameterDescriptor} {p : BlockParameterDescriptor}
    (h : SizedBy collectionName isInput parameters p) :
    sizeParameterDefault collectionName isInput parameters = parameterDefaultInt p := by
  obtain ⟨hs, hf⟩ := sizeParameter_of_sizedBy h
  unfold sizeParameterDefault
  rw [hs]
  simp only
  rw [hf]

section

variable {collectionName blockId : Str} {isInput : Bool}
  {parameters : List BlockParameterDescriptor} {currentCount : UInt64}

/-- A default is brought within the bounds. -/
theorem consistent_of_default {count : Int32}
    (h : sizeParameterDefault collectionName isInput parameters = some count) :
    (inferCollectionMetadata collectionName blockId isInput parameters currentCount).Consistent := by
  intro shown hshown
  simp only [inferCollectionMetadata, inferCollectionRenderPortCount, h, Option.some.injEq]
    at hshown ⊢
  subst hshown
  have hwithin := clampCount_within (bounds_leave_room
    (inferCollectionSizeParameter collectionName isInput parameters)
    (if currentCount = 0 then 0 else 1)) count
  refine ⟨?_, ?_⟩
  · intro lo hlo
    exact hlo ▸ hwithin.1
  · intro hi hhi
    exact hhi ▸ hwithin.2

/-- With no ports now, the lower bound is what is drawn. -/
theorem consistent_of_no_ports
    (h : sizeParameterDefault collectionName isInput parameters = none)
    (hcount : currentCount = 0) :
    (inferCollectionMetadata collectionName blockId isInput parameters currentCount).Consistent := by
  intro shown hshown
  subst hcount
  simp only [inferCollectionMetadata, inferCollectionRenderPortCount, h, Option.some.injEq,
    UInt64.lt_irrefl, if_false, if_true] at hshown ⊢
  split at hshown
  · obtain rfl := Option.some.inj hshown
    refine ⟨?_, ?_⟩
    · intro lo hlo
      exact hlo ▸ Int32.le_refl _
    · intro hi hhi
      exact hhi ▸ bounds_leave_room _ 0
  · cases hshown

/-- The ports the block has now are drawn as they are. -/
theorem consistent_of_current (hfit : currentCount.toNat ≤ 2147483647)
    (h : sizeParameterDefault collectionName isInput parameters = none)
    (hcount : currentCount ≠ 0) :
    (inferCollectionMetadata collectionName blockId isInput parameters currentCount).Consistent ↔
      ∀ name, inferCollectionSizeParameter collectionName isInput parameters = some name →
        isPortCount name = true → currentCount.toNat ≤ 32 := by
  have hpos : 0 < currentCount.toNat := by
    have := mt UInt64.toNat_inj.1 hcount
    rw [UInt64.toNat_zero] at this
    omega
  have hlt : 0 < currentCount := UInt64.lt_iff_toNat_lt.2 (by simpa using hpos)
  have hnow := toInt_intOfSize hfit
  simp only [CollectionMetadata.Consistent, inferCollectionMetadata,
    inferCollectionRenderPortCount, h, if_pos hlt, if_neg hcount,
    Option.some.injEq, forall_eq']
  generalize inferCollectionSizeParameter collectionName isInput parameters = sizeParameter
  by_cases hb : ∀ name, sizeParameter = some name → isPortCount name = false
  · obtain ⟨hlo, hhi⟩ := boundOr_of_not_isPortCount hb 1 (-1)
    rw [hlo, hhi]
    refine iff_of_true ⟨?_, fun hneg => absurd hneg (by decide)⟩ ?_
    · rw [Int32.le_iff_toInt_le, hnow, show (1 : Int32).toInt = 1 by decide]
      omega
    · intro name hname hport
      rw [hb name hname] at hport
      cases hport
  · simp only [not_forall, Bool.not_eq_false] at hb
    obtain ⟨name, rfl, hname⟩ := hb
    obtain ⟨hlo, hhi⟩ := boundOr_of_isPortCount hname 1 (-1)
    rw [hlo, hhi]
    refine ⟨?_, ?_⟩
    · intro hwithin _ _ _
      have hle := Int32.le_iff_toInt_le.1 (hwithin.2 (by decide))
      rw [hnow, show (32 : Int32).toInt = 32 by decide] at hle
      omega
    · intro hle
      have := hle name rfl hname
      rw [Int32.le_iff_toInt_le, Int32.le_iff_toInt_le (x := intOfSize _), hnow,
        show (1 : Int32).toInt = 1 by decide, show (32 : Int32).toInt = 32 by decide]
      exact ⟨by omega, fun _ => by omega⟩

end

theorem metadata_consistent_iff (collectionName blockId : Str) (isInput : Bool)
    (parameters : List BlockParameterDescriptor) {currentCount : UInt64}
    (hfit : currentCount.toNat ≤ 2147483647) :
    (inferCollectionMetadata collectionName blockId isInput parameters currentCount).Consistent ↔
      ¬∃ p, SizedBy collectionName isInput parameters p ∧ isPortCount p.name = true ∧
        (∀ n, p.defaultValue ≠ .int n) ∧ 32 < currentCount.toNat := by
  cases hd : sizeParameterDefault collectionName isInput parameters with
  | some count =>
    refine iff_of_true (consistent_of_default hd) ?_
    intro hex
    obtain ⟨p, hp, _, hno, _⟩ := hex
    rw [sizeParameterDefault_of_sizedBy hp, parameterDefaultInt_eq_none.2 hno] at hd
    cases hd
  | none =>
    by_cases hcount : currentCount = 0
    · refine iff_of_true (consistent_of_no_ports hd hcount) ?_
      intro hex
      obtain ⟨_, _, _, _, hlt⟩ := hex
      subst hcount
      cases hlt
    · rw [consistent_of_current hfit hd hcount]
      refine ⟨?_, ?_⟩
      · intro hle hex
        obtain ⟨p, hp, hname, _, hlt⟩ := hex
        have := hle p.name (sizeParameter_of_sizedBy hp).1 hname
        omega
      · intro hex name hsize hname
        obtain ⟨p, hp, rfl⟩ := sizedBy_of_sizeParameter hsize
        refine Nat.le_of_not_lt fun hlt => hex ⟨p, hp, hname, ?_, hlt⟩
        rw [← parameterDefaultInt_eq_none, ← sizeParameterDefault_of_sizedBy hp]
        exact hd

/-- A parameter `n_inputs` with no default. -/
def inputCount : BlockParameterDescriptor :=
  { name := str "n_inputs", type := str "uint32", summary := [] }

/-- 40 inputs are drawn as 40, and the bounds say at most 32. -/
theorem metadata_beyond_bounds :
    ¬(inferCollectionMetadata (str "in") (str "Adder<float>") true [inputCount] 40).Consistent := by
  intro h
  have hbound := (h 40 (by decide +kernel)).2 32 (by decide +kernel) (by decide)
  exact absurd hbound (by decide)

theorem metadata_thirty_two :
    (inferCollectionMetadata (str "in") (str "Adder<float>") true [inputCount] 32).Consistent :=
  (metadata_consistent_iff (str "in") (str "Adder<float>") true [inputCount] (by decide)).2
    fun hex => by
      obtain ⟨_, _, _, _, hlt⟩ := hex
      exact absurd hlt (by decide)

end Gr4cp.Catalog

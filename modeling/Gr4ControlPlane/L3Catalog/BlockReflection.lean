import Gr4ControlPlane.Core.JsonText
import Gr4ControlPlane.Core.Ranking
import Gr4ControlPlane.L1Domain.BlockCatalog
import Gr4ControlPlane.L1Domain.JsonReading

/-!
# Descriptors through the pipe (`catalog/gr4_block_catalog_provider.cpp`)

A block is reflected in a child process, which writes its descriptor as JSON
into a pipe; the parent parses it. Writer and parser go field by field, and
the parser passes over a field that is absent or of the wrong kind, so a
field the two disagree about would be lost without a word.

`reflection_survives`: none is. What the parent parses is the descriptor the
child wrote, for every descriptor whose canonical type is absent or not
empty and whose floating-point defaults are finite.
-/
namespace Gr4cp.Catalog

open Gr4cp.Core Gr4cp.Domain

/-! ## Writing -/

/-- mirrors src/catalog/gr4_block_catalog_provider.cpp:553-559 -/
def cardinalityKindToString : BlockPortCardinalityKind → Str
  | .fixed => str "fixed"
  | .dynamic => str "dynamic"

/-- mirrors src/catalog/gr4_block_catalog_provider.cpp:561-569 -/
def cardinalityKindFromString (value : Str) : Option BlockPortCardinalityKind :=
  if value = str "fixed" then some .fixed
  else if value = str "dynamic" then some .dynamic
  else none

def intToJson (n : Int32) : Json := .int n.toInt64

/-- mirrors src/catalog/gr4_block_catalog_provider.cpp:893-895 -/
def defaultToJson : BlockParameterDefault → Json
  | .null => .null
  | .bool b => .bool b
  | .int i => intToJson i
  | .double d => .float d
  | .str s => .str s

def portFields (port : BlockPortDescriptor) : List (Str × Option Json) :=
  [(str "name", some (.str port.name)),
    (str "type", some (.str port.type)),
    (str "cardinality_kind", some (.str (cardinalityKindToString port.cardinalityKind))),
    (str "current_port_count", port.currentPortCount.map intToJson),
    (str "render_port_count", port.renderPortCount.map intToJson),
    (str "min_port_count", port.minPortCount.map intToJson),
    (str "max_port_count", port.maxPortCount.map intToJson),
    (str "size_parameter", port.sizeParameter.map .str),
    (str "handle_name_template", port.handleNameTemplate.map .str)]

/-- mirrors src/catalog/gr4_block_catalog_provider.cpp:897-920 -/
def portToJson (port : BlockPortDescriptor) : Json := .ofFields (portFields port)

def labelsToJson (labels : StringMap) : Option Json :=
  if labels.entries.isEmpty then none
  else some (.obj (labels.entries.map fun entry => (entry.1, .str entry.2)))

/-- `defaultKey` is the key of the default value. -/
def parameterFields (defaultKey : Str) (parameter : BlockParameterDescriptor) :
    List (Str × Option Json) :=
  [(str "name", some (.str parameter.name)),
    (str "type", some (.str parameter.type)),
    (str "required", some (.bool parameter.required)),
    (defaultKey, some (defaultToJson parameter.defaultValue)),
    (str "summary", some (.str parameter.summary)),
    (str "runtime_mutability", parameter.runtimeMutability.map .str),
    (str "value_kind", parameter.valueKind.map .str),
    (str "enum_choices", parameter.enumChoices.map fun choices => .arr (choices.map .str)),
    (str "enum_type", parameter.enumType.map .str),
    (str "enum_labels", labelsToJson parameter.enumLabels),
    (str "enum_source", parameter.enumSource.map .str),
    (str "ui_hint", parameter.uiHint.map .str),
    (str "allow_custom_value", parameter.allowCustomValue.map .bool)]

/-- mirrors src/catalog/gr4_block_catalog_provider.cpp:922-953 -/
def parameterToJson (parameter : BlockParameterDescriptor) : Json :=
  .ofFields (parameterFields (str "default_value") parameter)

/-- `writeParameter` writes a parameter. -/
def blockFields (writeParameter : BlockParameterDescriptor → Json) (block : BlockDescriptor) :
    List (Str × Option Json) :=
  [(str "id", some (.str block.id)),
    (str "name", some (.str block.name)),
    (str "category", some (.str block.category)),
    (str "summary", some (.str block.summary)),
    (str "inputs", some (.arr (block.inputs.map portToJson))),
    (str "outputs", some (.arr (block.outputs.map portToJson))),
    (str "parameters", some (.arr (block.parameters.map writeParameter)))]

/-- mirrors src/catalog/gr4_block_catalog_provider.cpp:955-982 -/
def blockToTree (block : BlockDescriptor) : Json :=
  .ofFields (blockFields parameterToJson block ++
    [(str "canonical_type", block.canonicalType.map .str)])

/-! ## Parsing -/

/-- What the parser throws. -/
inductive PayloadError where
  /-- `nlohmann::json::parse_error` -/
  | syntaxError
  /-- `nlohmann::json::out_of_range` 403 -/
  | missing (key : Str)
  /-- `nlohmann::json::type_error` -/
  | wrongType
  /-- `CatalogLoadError` -/
  | unsupportedDefault
  deriving DecidableEq, Repr

/-- `value.at(key)` -/
def memberAt (value : Json) (key : Str) : Except PayloadError Json :=
  match value with
  | .obj members =>
    match members.lookup key with
    | some found => .ok found
    | none => .error (.missing key)
  | _ => .error .wrongType

/-- `get<std::string>()` -/
def getString : Json → Except PayloadError Str
  | .str s => .ok s
  | _ => .error .wrongType

/-- `get<bool>()` -/
def getBool : Json → Except PayloadError Bool
  | .bool b => .ok b
  | _ => .error .wrongType

/-- `get<int>()` of an integer keeps its low 32 bits. -/
def getInt (n : Int) : Int32 := Int32.ofInt n

/-- A field that counts when it is a string. -/
def stringField (value : Json) (key : Str) : Option Str :=
  match value.member key with
  | some (.str s) => some s
  | _ => none

/-- A field that counts when it is an integer. -/
def intField (value : Json) (key : Str) : Option Int32 :=
  ((value.member key).bind Json.integer).map getInt

/-- A field that counts when it is a boolean. -/
def boolField (value : Json) (key : Str) : Option Bool :=
  match value.member key with
  | some (.bool b) => some b
  | _ => none

/-- mirrors src/catalog/gr4_block_catalog_provider.cpp:984-1001 -/
def parseDefaultValue (value : Json) : Except PayloadError BlockParameterDefault :=
  match value with
  | .null => .ok .null
  | .bool b => .ok (.bool b)
  | .int i => .ok (.int (getInt i.toInt))
  | .uint u => .ok (.int (getInt u.toNat))
  | .float d => .ok (.double d)
  | .str s => .ok (.str s)
  | _ => .error .unsupportedDefault

/-- mirrors src/catalog/gr4_block_catalog_provider.cpp:1003-1031 -/
def parsePortDescriptor (value : Json) : Except PayloadError BlockPortDescriptor := do
  let name ← memberAt value (str "name") >>= getString
  let type ← memberAt value (str "type") >>= getString
  return {
    name
    type
    cardinalityKind :=
      ((stringField value (str "cardinality_kind")).bind cardinalityKindFromString).getD .fixed
    currentPortCount := intField value (str "current_port_count")
    renderPortCount := intField value (str "render_port_count")
    minPortCount := intField value (str "min_port_count")
    maxPortCount := intField value (str "max_port_count")
    sizeParameter := stringField value (str "size_parameter")
    handleNameTemplate := stringField value (str "handle_name_template") }

/-- `emplace`: a key that is there keeps its value. -/
def insertEntry (key value : Str) : List (Str × Str) → List (Str × Str)
  | [] => [(key, value)]
  | (key', value') :: entries =>
    if key = key' then (key', value') :: entries
    else if Str.lt key key' then (key, value) :: (key', value') :: entries
    else (key', value') :: insertEntry key value entries

theorem mem_insertEntry {key value : Str} {entries : List (Str × Str)} {entry : Str × Str}
    (h : entry ∈ insertEntry key value entries) : entry = (key, value) ∨ entry ∈ entries := by
  induction entries with
  | nil => exact .inl (List.mem_singleton.1 h)
  | cons first entries ih =>
    obtain ⟨key', value'⟩ := first
    unfold insertEntry at h
    split at h
    · exact .inr h
    · split at h
      · exact List.mem_cons.1 h
      · obtain rfl | hmem := List.mem_cons.1 h
        · exact .inr List.mem_cons_self
        · obtain heq | hmem := ih hmem
          · exact .inl heq
          · exact .inr (List.mem_cons_of_mem _ hmem)

theorem insertEntry_sorted (key value : Str) {entries : List (Str × Str)}
    (h : entries.Pairwise fun a b => Str.lt a.1 b.1 = true) :
    (insertEntry key value entries).Pairwise fun a b => Str.lt a.1 b.1 = true := by
  induction entries with
  | nil => exact List.pairwise_singleton _ _
  | cons first entries ih =>
    obtain ⟨key', value'⟩ := first
    obtain ⟨hfirst, hrest⟩ := List.pairwise_cons.1 h
    unfold insertEntry
    split
    · exact h
    · rename_i hne
      split
      · rename_i hlt
        refine List.pairwise_cons.2 ⟨fun entry hentry => ?_, h⟩
        obtain rfl | hmem := List.mem_cons.1 hentry
        · exact hlt
        · rw [Str.lt_iff] at hlt ⊢
          exact lt_trans hlt ((Str.lt_iff _ _).1 (hfirst entry hmem))
      · rename_i hge
        refine List.pairwise_cons.2 ⟨fun entry hentry => ?_, ih hrest⟩
        obtain rfl | hmem := mem_insertEntry hentry
        · rw [Str.lt_iff] at hge ⊢
          exact lt_of_le_of_ne (not_lt.1 hge) fun heq => hne (Str.code_injective heq).symm
        · exact hfirst entry hmem

/-- The map of a list of entries. -/
def toStringMap : List (Str × Str) → StringMap → StringMap
  | [], m => m
  | (key, value) :: entries, m =>
    toStringMap entries ⟨insertEntry key value m.entries, insertEntry_sorted key value m.sorted⟩

def getEntry (member : Str × Json) : Except PayloadError (Str × Str) :=
  (getString member.2).map fun value => (member.1, value)

/-- `get<std::map<std::string, std::string>>()` of an object, and the empty
map for anything else. -/
def labelsField (value : Json) (key : Str) : Except PayloadError StringMap :=
  match value.member key with
  | some (.obj members) => (members.mapM getEntry).map fun entries => toStringMap entries .empty
  | _ => .ok .empty

/-- `get<std::vector<std::string>>()` of an array. -/
def choicesField (value : Json) (key : Str) : Except PayloadError (Option (List Str)) :=
  match value.member key with
  | some (.arr items) => (items.mapM getString).map some
  | _ => .ok none

/-- mirrors src/catalog/gr4_block_catalog_provider.cpp:1033-1065 -/
def parseParameterDescriptor (value : Json) : Except PayloadError BlockParameterDescriptor := do
  let name ← memberAt value (str "name") >>= getString
  let type ← memberAt value (str "type") >>= getString
  let required ← memberAt value (str "required") >>= getBool
  let defaultValue ← memberAt value (str "default_value") >>= parseDefaultValue
  let summary ← memberAt value (str "summary") >>= getString
  let enumChoices ← choicesField value (str "enum_choices")
  let enumLabels ← labelsField value (str "enum_labels")
  return {
    name
    type
    required
    defaultValue
    summary
    runtimeMutability := stringField value (str "runtime_mutability")
    valueKind := stringField value (str "value_kind")
    enumChoices
    enumType := stringField value (str "enum_type")
    enumLabels
    enumSource := stringField value (str "enum_source")
    uiHint := stringField value (str "ui_hint")
    allowCustomValue := boolField value (str "allow_custom_value") }

/-- What a range-based `for` over a value goes through. -/
def elements : Json → List Json
  | .null => []
  | .arr items => items
  | .obj members => members.map (·.2)
  | value => [value]

/-- The loop over the elements of `value.at(key)`. -/
def parseEach {α : Type} (read : Json → Except PayloadError α) (value : Json) (key : Str) :
    Except PayloadError (List α) := do
  let found ← memberAt value key
  (elements found).mapM read

def parseTree (value : Json) : Except PayloadError BlockDescriptor := do
  let id ← memberAt value (str "id") >>= getString
  let name ← memberAt value (str "name") >>= getString
  let category ← memberAt value (str "category") >>= getString
  let summary ← memberAt value (str "summary") >>= getString
  let inputs ← parseEach parsePortDescriptor value (str "inputs")
  let outputs ← parseEach parsePortDescriptor value (str "outputs")
  let parameters ← parseEach parseParameterDescriptor value (str "parameters")
  return {
    id
    canonicalType := (stringField value (str "canonical_type")).filter (!·.isEmpty)
    name
    category
    summary
    inputs
    outputs
    parameters }

/-- mirrors src/catalog/gr4_block_catalog_provider.cpp:1067-1091 -/
def parseBlockDescriptor (t : JsonText) (payload : Str) : Except PayloadError BlockDescriptor :=
  match t.parse payload with
  | none => .error .syntaxError
  | some value => parseTree value.json

/-! ## Equality -/

/-- `==` of `double`: a NaN is equal to nothing, and the zeros are equal. -/
def sameDouble (a b : Double) : Bool :=
  let magnitude (d : Double) : Nat := d.bits.toNat % 2 ^ 63
  let isNan (d : Double) : Bool := decide (2047 * 2 ^ 52 < magnitude d)
  !isNan a && !isNan b && (a == b || (magnitude a == 0 && magnitude b == 0))

/-- `==` of the variant. -/
def sameDefault : BlockParameterDefault → BlockParameterDefault → Bool
  | .double a, .double b => sameDouble a b
  | a, b => a == b

/-- mirrors src/domain/block_catalog.cpp:5-11 -/
def samePort (left right : BlockPortDescriptor) : Bool :=
  left.name == right.name && left.type == right.type &&
    left.cardinalityKind == right.cardinalityKind &&
    left.currentPortCount == right.currentPortCount && left.minPortCount == right.minPortCount &&
    left.renderPortCount == right.renderPortCount && left.maxPortCount == right.maxPortCount &&
    left.sizeParameter == right.sizeParameter && left.handleNameTemplate == right.handleNameTemplate

/-- mirrors src/domain/block_catalog.cpp:13-20 -/
def sameParameter (left right : BlockParameterDescriptor) : Bool :=
  left.name == right.name && left.type == right.type && left.required == right.required &&
    sameDefault left.defaultValue right.defaultValue && left.summary == right.summary &&
    left.runtimeMutability == right.runtimeMutability && left.valueKind == right.valueKind &&
    left.enumChoices == right.enumChoices && left.enumType == right.enumType &&
    left.enumLabels == right.enumLabels && left.enumSource == right.enumSource &&
    left.uiHint == right.uiHint && left.allowCustomValue == right.allowCustomValue

/-- mirrors src/domain/block_catalog.cpp:22-26 -/
def sameBlock (left right : BlockDescriptor) : Bool :=
  left.id == right.id && left.canonicalType == right.canonicalType && left.name == right.name &&
    left.category == right.category && left.summary == right.summary &&
    left.inputs.isEqv right.inputs samePort && left.outputs.isEqv right.outputs samePort &&
    left.parameters.isEqv right.parameters sameParameter

/-! ## Label maps -/

theorem insertEntry_perm {key : Str} {entries : List (Str × Str)}
    (h : key ∉ entries.map (·.1)) (value : Str) :
    (insertEntry key value entries).Perm ((key, value) :: entries) := by
  induction entries with
  | nil => exact .refl _
  | cons first entries ih =>
    obtain ⟨key', value'⟩ := first
    simp only [List.map_cons, List.mem_cons, not_or] at h
    unfold insertEntry
    rw [if_neg h.1]
    split
    · exact .refl _
    · exact ((ih h.2).cons _).trans (.swap _ _ _)

theorem toStringMap_perm {entries : List (Str × Str)} {m : StringMap}
    (h : ((entries ++ m.entries).map (·.1)).Nodup) :
    (toStringMap entries m).entries.Perm (entries ++ m.entries) := by
  induction entries generalizing m with
  | nil => exact .refl _
  | cons entry entries ih =>
    obtain ⟨key, value⟩ := entry
    rw [List.cons_append, List.map_cons, List.nodup_cons] at h
    have hnew : key ∉ m.entries.map (·.1) := fun hmem =>
      h.1 (by rw [List.map_append]; exact List.mem_append_right _ hmem)
    have hinsert := insertEntry_perm hnew value
    have hmoved : (entries ++ insertEntry key value m.entries).Perm
        ((key, value) :: (entries ++ m.entries)) :=
      (hinsert.append_left entries).trans List.perm_middle
    have hkeys : ((entries ++ insertEntry key value m.entries).map (·.1)).Nodup :=
      (hmoved.map _).nodup_iff.2 (List.nodup_cons.2 h)
    exact (ih hkeys).trans hmoved

theorem StringMap_eq_of_perm {m m' : StringMap} (h : m.entries.Perm m'.entries) : m = m' := by
  have hentries : m.entries = m'.entries := by
    refine h.eq_of_pairwise (fun a b _ _ hab hba => ?_) m.sorted m'.sorted
    rw [Str.lt_iff] at hab hba
    exact absurd hba (lt_asymm hab)
  cases m
  cases m'
  cases hentries
  rfl

theorem StringMap_keys (m : StringMap) : (m.entries.map (·.1)).Nodup := by
  rw [List.Nodup, List.pairwise_map]
  refine m.sorted.imp fun {a b} hab heq => ?_
  rw [Str.lt_iff, heq] at hab
  exact lt_irrefl _ hab

theorem mapM_getEntry {members : List (Str × Json)} (h : ∀ m ∈ members, ∃ s, m.2 = .str s) :
    ∃ entries, members.mapM getEntry = .ok entries ∧
      members = entries.map fun entry => (entry.1, .str entry.2) := by
  induction members with
  | nil => exact ⟨[], rfl, rfl⟩
  | cons member members ih =>
    obtain ⟨key, value⟩ := member
    obtain ⟨hhead, htail⟩ := List.forall_mem_cons.1 h
    obtain ⟨s, rfl⟩ := hhead
    obtain ⟨entries, hentries, hmembers⟩ := ih htail
    refine ⟨(key, s) :: entries, ?_, by rw [List.map_cons, ← hmembers]⟩
    rw [List.mapM_cons, hentries]
    rfl

/-- Labels are read back, in whatever order they come. -/
theorem toStringMap_same {labels : StringMap} {members : List (Str × Json)}
    (hkeys : (members.map (·.1)).Nodup)
    (h : Json.Same (.obj (labels.entries.map fun entry => (entry.1, .str entry.2))) (.obj members)) :
    (members.mapM getEntry).map (fun entries => toStringMap entries .empty) = .ok labels := by
  obtain ⟨hmembers, hback⟩ := h
  have hfound : ∀ entry ∈ labels.entries, (entry.1, Json.str entry.2) ∈ members := by
    intro entry hentry
    obtain ⟨value, hvalue, hsame⟩ :=
      Json.sameMembers_mem hmembers (List.mem_map.2 ⟨entry, hentry, rfl⟩)
    rw [show value = .str entry.2 from hsame] at hvalue
    exact Assoc.mem_of_lookup hvalue
  -- a member is one of the labels, since its key is
  have hlabel : ∀ member ∈ members, ∃ entry ∈ labels.entries, member = (entry.1, .str entry.2) := by
    intro member hmember
    have hkey := hback member.1 (List.mem_map.2 ⟨member, hmember, rfl⟩)
    rw [List.map_map] at hkey
    obtain ⟨entry, hentry, heq⟩ := List.mem_map.1 hkey
    exact ⟨entry, hentry, List.inj_on_of_nodup_map hkeys hmember (hfound entry hentry) heq.symm⟩
  obtain ⟨entries, hentries, hlist⟩ := mapM_getEntry fun member hmember => by
    obtain ⟨entry, -, rfl⟩ := hlabel member hmember
    exact ⟨_, rfl⟩
  have hentryKeys : (entries.map (·.1)).Nodup := by
    rw [hlist, List.map_map] at hkeys
    exact hkeys
  have hperm : entries.Perm labels.entries := by
    refine (List.perm_ext_iff_of_nodup hentryKeys.of_map (StringMap_keys labels).of_map).2
      fun entry => ?_
    constructor
    · intro hentry
      obtain ⟨entry', hentry', heq⟩ := hlabel (entry.1, .str entry.2)
        (by rw [hlist]; exact List.mem_map.2 ⟨entry, hentry, rfl⟩)
      simp only [Prod.mk.injEq, Json.str.injEq] at heq
      rwa [Prod.ext heq.1 heq.2]
    · intro hentry
      have hmem := hfound entry hentry
      rw [hlist] at hmem
      obtain ⟨entry', hentry', heq⟩ := List.mem_map.1 hmem
      simp only [Prod.mk.injEq, Json.str.injEq] at heq
      rwa [← Prod.ext heq.1 heq.2]
  have hread : (toStringMap entries .empty).entries.Perm entries := by
    have hinserted : (toStringMap entries .empty).entries.Perm
        (entries ++ StringMap.empty.entries) := toStringMap_perm (by simpa [StringMap.empty])
    simpa [StringMap.empty] using hinserted
  rw [hentries]
  exact congrArg Except.ok (StringMap_eq_of_perm (hread.trans hperm))

/-! ## Fields -/

section Fields

variable {value : Json} {key : Str}

theorem stringField_same {field : Option Str}
    (h : Json.SameOption (field.map .str) (value.member key)) : stringField value key = field := by
  unfold stringField
  obtain ⟨rfl, hnone⟩ | ⟨s, j, rfl, hsome, hsame⟩ := Json.sameOption_cases h
  · rw [hnone]
  · rw [hsome, show j = .str s from hsame]

theorem boolField_same {field : Option Bool}
    (h : Json.SameOption (field.map .bool) (value.member key)) : boolField value key = field := by
  unfold boolField
  obtain ⟨rfl, hnone⟩ | ⟨b, j, rfl, hsome, hsame⟩ := Json.sameOption_cases h
  · rw [hnone]
  · rw [hsome, show j = .bool b from hsame]

theorem getInt_toInt64 (n : Int32) : getInt n.toInt64.toInt = n := by
  rw [Int32.toInt_toInt64]
  exact Int32.ofInt_toInt n

theorem intField_same {field : Option Int32}
    (h : Json.SameOption (field.map intToJson) (value.member key)) : intField value key = field := by
  unfold intField
  obtain ⟨rfl, hnone⟩ | ⟨n, j, rfl, hsome, hsame⟩ := Json.sameOption_cases h
  · rw [hnone]
    rfl
  · rw [hsome, Option.bind_some, show j.integer = some n.toInt64.toInt from hsame,
      Option.map_some, getInt_toInt64]

/-- A field that has to be there is there. -/
theorem memberAt_same {j : Json} (h : Json.SameOption (some j) (value.member key)) :
    ∃ found, value.member key = some found ∧ memberAt value key = .ok found ∧
      Json.Same j found := by
  cases hmember : value.member key with
  | none =>
    rw [hmember] at h
    cases h
  | some found =>
    rw [hmember] at h
    refine ⟨found, rfl, ?_, h⟩
    cases value with
    | obj members => simp only [memberAt, show members.lookup key = some found from hmember]
    | _ => cases hmember

theorem getString_same {s : Str} (h : Json.SameOption (some (.str s)) (value.member key)) :
    (memberAt value key >>= getString) = .ok s := by
  obtain ⟨found, -, hfound, hsame⟩ := memberAt_same h
  rw [hfound, show found = .str s from hsame]
  rfl

theorem getBool_same {b : Bool} (h : Json.SameOption (some (.bool b)) (value.member key)) :
    (memberAt value key >>= getBool) = .ok b := by
  obtain ⟨found, -, hfound, hsame⟩ := memberAt_same h
  rw [hfound, show found = .bool b from hsame]
  rfl

theorem parseDefaultValue_same {d : BlockParameterDefault} {found : Json}
    (h : Json.Same (defaultToJson d) found) : parseDefaultValue found = .ok d := by
  cases d with
  | null => rw [show found = .null from h]; rfl
  | bool b => rw [show found = .bool b from h]; rfl
  | int n =>
    replace h : found.integer = some n.toInt64.toInt := h
    cases found with
    | int i =>
      rw [parseDefaultValue, Option.some.inj h, getInt_toInt64]
    | uint u =>
      rw [parseDefaultValue, Option.some.inj h, getInt_toInt64]
    | _ => cases h
  | double d => rw [show found = .float d from h]; rfl
  | str s => rw [show found = .str s from h]; rfl

/-- An array written item by item is read item by item. -/
theorem mapM_same {α : Type} {write : α → Json} {read : Json → Except PayloadError α} {as : List α}
    (hread : ∀ a ∈ as, ∀ j, j.any Json.repeatsKey = false → Json.Same (write a) j → read j = .ok a)
    {items : List Json} (hkeys : Json.anyItem Json.repeatsKey items = false)
    (h : Json.SameItems (as.map write) items) : items.mapM read = .ok as := by
  induction as generalizing items with
  | nil =>
    cases items with
    | nil => rfl
    | cons _ _ => cases h
  | cons a as ih =>
    cases items with
    | nil => cases h
    | cons j items =>
      simp only [Json.anyItem, Bool.or_eq_false_iff] at hkeys
      obtain ⟨hhead, htail⟩ := List.forall_mem_cons.1 hread
      rw [List.mapM_cons, hhead j hkeys.1 h.1, ih htail hkeys.2 h.2]
      rfl

theorem same_arr {items : List Json} {j : Json} (h : Json.Same (.arr items) j) :
    ∃ items', j = .arr items' ∧ Json.SameItems items items' := by
  cases j with
  | arr items' => exact ⟨items', rfl, h⟩
  | _ => cases h

/-- An array that has to be there is read item by item. -/
theorem parseEach_same {α : Type} {write : α → Json} {read : Json → Except PayloadError α}
    {as : List α} (hkeys : value.any Json.repeatsKey = false)
    (hread : ∀ a ∈ as, ∀ j, j.any Json.repeatsKey = false → Json.Same (write a) j → read j = .ok a)
    (h : Json.SameOption (some (.arr (as.map write))) (value.member key)) :
    parseEach read value key = .ok as := by
  obtain ⟨found, hmember, hfound, hsame⟩ := memberAt_same h
  obtain ⟨items, rfl, hitems⟩ := same_arr hsame
  have hinner := Json.any_member hkeys hmember
  simp only [Json.any, Bool.or_eq_false_iff] at hinner
  unfold parseEach
  rw [hfound]
  exact mapM_same hread hinner.2 hitems

theorem choicesField_same {choices : Option (List Str)} (hkeys : value.any Json.repeatsKey = false)
    (h : Json.SameOption (choices.map fun choices => .arr (choices.map .str)) (value.member key)) :
    choicesField value key = .ok choices := by
  unfold choicesField
  obtain ⟨rfl, hnone⟩ | ⟨texts, j, rfl, hsome, hsame⟩ := Json.sameOption_cases h
  · rw [hnone]
  · obtain ⟨items, rfl, hitems⟩ := same_arr hsame
    have hread : items.mapM getString = .ok texts := by
      apply mapM_same _ _ hitems
      · intro s _ j _ hs
        rw [show j = .str s from hs]
        rfl
      · have hinner := Json.any_member hkeys hsome
        simp only [Json.any, Bool.or_eq_false_iff] at hinner
        exact hinner.2
    rw [hsome]
    show (items.mapM getString).map some = _
    rw [hread]
    rfl

theorem labelsField_same {labels : StringMap} (hkeys : value.any Json.repeatsKey = false)
    (h : Json.SameOption (labelsToJson labels) (value.member key)) :
    labelsField value key = .ok labels := by
  unfold labelsField
  unfold labelsToJson at h
  split at h
  · rename_i hempty
    have hlabels : labels = .empty := by
      apply StringMap_eq_of_perm
      rw [List.isEmpty_iff.1 hempty]
      exact .refl _
    cases hmember : value.member key with
    | none => rw [hlabels]
    | some j =>
      rw [hmember] at h
      cases h
  · cases hmember : value.member key with
    | none =>
      rw [hmember] at h
      cases h
    | some j =>
      rw [hmember] at h
      have hinner := Json.any_member hkeys hmember
      cases j with
      | obj members =>
        simp only [Json.any, Bool.or_eq_false_iff, Json.repeatsKey, Bool.not_eq_false',
          decide_eq_true_eq] at hinner
        exact toStringMap_same hinner.1 h
      | _ => cases h

theorem fields_same {fields : List (Str × Option Json)} (h : Json.Same (.ofFields fields) value)
    (hkeys : (fields.map (·.1)).Nodup) :
    ∀ field ∈ fields, Json.SameOption field.2 (value.member field.1) := by
  intro field hmem
  have := Json.same_member h field.1 rfl
  rwa [Json.member_ofFields hkeys hmem] at this

end Fields

/-! ## Records -/

section Records

variable {value : Json}

theorem portFields_keys (port : BlockPortDescriptor) : ((portFields port).map (·.1)).Nodup := by
  simp only [portFields, List.map_cons, List.map_nil]
  decide

theorem cardinalityKind_same (kind : BlockPortCardinalityKind) :
    cardinalityKindFromString (cardinalityKindToString kind) = some kind := by
  cases kind with
  | fixed => rfl
  | dynamic => rfl

theorem parsePortDescriptor_same {port : BlockPortDescriptor}
    (h : Json.Same (portToJson port) value) : parsePortDescriptor value = .ok port := by
  have hfields := fields_same h (portFields_keys port)
  simp only [portFields, List.forall_mem_cons] at hfields
  obtain ⟨hname, htype, hkind, hcurrent, hrender, hmin, hmax, hsize, htemplate, -⟩ := hfields
  have hkind : stringField value (str "cardinality_kind") =
      some (cardinalityKindToString port.cardinalityKind) := stringField_same hkind
  unfold parsePortDescriptor
  rw [getString_same hname, getString_same htype, hkind, intField_same hcurrent,
    intField_same hrender, intField_same hmin, intField_same hmax, stringField_same hsize,
    stringField_same htemplate, Option.bind_some, cardinalityKind_same]
  rfl

theorem parameterFields_keys (parameter : BlockParameterDescriptor) :
    ((parameterFields (str "default_value") parameter).map (·.1)).Nodup := by
  simp only [parameterFields, List.map_cons, List.map_nil]
  decide

theorem parseParameterDescriptor_same {parameter : BlockParameterDescriptor}
    (hkeys : value.any Json.repeatsKey = false) (h : Json.Same (parameterToJson parameter) value) :
    parseParameterDescriptor value = .ok parameter := by
  have hfields := fields_same h (parameterFields_keys parameter)
  simp only [parameterFields, List.forall_mem_cons] at hfields
  obtain ⟨hname, htype, hrequired, hdefault, hsummary, hmutability, hkind, hchoices, henumType,
    hlabels, hsource, hhint, hcustom, -⟩ := hfields
  have hdefault : (memberAt value (str "default_value") >>= parseDefaultValue) =
      .ok parameter.defaultValue := by
    obtain ⟨found, -, hfound, hsame⟩ := memberAt_same hdefault
    rw [hfound]
    exact parseDefaultValue_same hsame
  unfold parseParameterDescriptor
  rw [getString_same hname, getString_same htype, getBool_same hrequired, hdefault,
    getString_same hsummary, choicesField_same hkeys hchoices, labelsField_same hkeys hlabels,
    stringField_same hmutability, stringField_same hkind, stringField_same henumType,
    stringField_same hsource, stringField_same hhint, boolField_same hcustom]
  rfl

theorem blockFields_keys (block : BlockDescriptor) :
    ((blockFields parameterToJson block ++
      [(str "canonical_type", block.canonicalType.map Json.str)]).map (·.1)).Nodup := by
  simp only [blockFields, List.cons_append, List.nil_append, List.map_cons, List.map_nil]
  decide

/-- A canonical type that is not empty is kept. -/
theorem filter_canonical {canonicalType : Option Str} (h : canonicalType ≠ some []) :
    canonicalType.filter (!·.isEmpty) = canonicalType := by
  cases canonicalType with
  | none => rfl
  | some text =>
    have hne : text ≠ [] := fun heq => h (by rw [heq])
    rw [Option.filter_some, if_pos (by simpa using hne)]

theorem parseTree_same {block : BlockDescriptor} (hcanonical : block.canonicalType ≠ some [])
    (hkeys : value.any Json.repeatsKey = false) (h : Json.Same (blockToTree block) value) :
    parseTree value = .ok block := by
  have hfields := fields_same h (blockFields_keys block)
  simp only [blockFields, List.cons_append, List.nil_append, List.forall_mem_cons] at hfields
  obtain ⟨hid, hname, hcategory, hsummary, hinputs, houtputs, hparameters, htype, -⟩ := hfields
  have hport : ∀ (ports : List BlockPortDescriptor), ∀ port ∈ ports, ∀ j,
      j.any Json.repeatsKey = false → Json.Same (portToJson port) j →
        parsePortDescriptor j = .ok port := fun _ _ _ _ _ hsame => parsePortDescriptor_same hsame
  unfold parseTree
  rw [getString_same hid, getString_same hname, getString_same hcategory, getString_same hsummary,
    parseEach_same hkeys (hport _) hinputs, parseEach_same hkeys (hport _) houtputs,
    parseEach_same hkeys (fun _ _ _ => parseParameterDescriptor_same) hparameters,
    stringField_same htype, filter_canonical hcanonical]
  rfl

end Records

/-! ## The tree of a descriptor -/

/-- What `p` asks for is no null, boolean, integer, text or array, and no
object whose keys are distinct. -/
structure Passes (p : Json → Bool) : Prop where
  null : p .null = false
  bool : ∀ b, p (.bool b) = false
  int : ∀ i, p (.int i) = false
  str : ∀ s, p (.str s) = false
  arr : ∀ items, p (.arr items) = false
  obj : ∀ members, (members.map (·.1)).Nodup → p (.obj members) = false

theorem optional_passes {p : Json → Bool} {α : Type} {write : α → Json}
    (h : ∀ a, (write a).any p = false) (field : Option α) :
    ∀ j, field.map write = some j → j.any p = false := by
  intro j hj
  obtain ⟨a, -, rfl⟩ := Option.map_eq_some_iff.1 hj
  exact h a

section Trees

variable {p : Json → Bool} (hp : Passes p)

include hp

theorem Passes.ofFields {fields : List (Str × Option Json)} (hkeys : (fields.map (·.1)).Nodup)
    (hvalues : ∀ field ∈ fields, ∀ j, field.2 = some j → j.any p = false) :
    (Json.ofFields fields).any p = false :=
  Json.any_ofFields (hp.obj _ ((Json.ofFields_keys fields).nodup hkeys)) hvalues

theorem Passes.items {α : Type} {write : α → Json} {as : List α}
    (h : ∀ a ∈ as, (write a).any p = false) : (Json.arr (as.map write)).any p = false := by
  rw [Json.any, hp.arr, Json.anyItem_eq, Bool.false_or, List.any_map, List.any_eq_false]
  intro a ha
  simpa using h a ha

theorem portToJson_passes (port : BlockPortDescriptor) : (portToJson port).any p = false := by
  refine hp.ofFields (portFields_keys port) ?_
  simp only [portFields, List.forall_mem_cons, Option.some.injEq, forall_eq']
  have hint : ∀ n, (intToJson n).any p = false := fun n => hp.int _
  exact ⟨hp.str _, hp.str _, hp.str _, optional_passes hint _, optional_passes hint _,
    optional_passes hint _, optional_passes hint _, optional_passes hp.str _,
    optional_passes hp.str _, by simp⟩

theorem labelsToJson_passes (labels : StringMap) :
    ∀ j, labelsToJson labels = some j → j.any p = false := by
  intro j hj
  unfold labelsToJson at hj
  split at hj
  · cases hj
  · cases hj
    have hkeys := StringMap_keys labels
    rw [Json.any, hp.obj _ (by rw [List.map_map]; exact hkeys), Json.anyMember_eq, Bool.false_or,
      List.any_map, List.any_eq_false]
    intro entry _
    simpa [Json.any] using hp.str entry.2

theorem parameterToJson_passes {parameter : BlockParameterDescriptor}
    (hdouble : ∀ d, parameter.defaultValue = .double d → p (.float d) = false) :
    (parameterToJson parameter).any p = false := by
  have hdefault : (defaultToJson parameter.defaultValue).any p = false := by
    cases hvalue : parameter.defaultValue with
    | null => exact hp.null
    | bool b => exact hp.bool b
    | int n => exact hp.int _
    | double d => exact hdouble d hvalue
    | str s => exact hp.str s
  refine hp.ofFields (parameterFields_keys parameter) ?_
  simp only [parameterFields, List.forall_mem_cons, Option.some.injEq, forall_eq']
  have hchoices : ∀ choices : List Str, (Json.arr (choices.map .str)).any p = false := fun choices =>
    hp.items fun choice _ => hp.str choice
  exact ⟨hp.str _, hp.str _, hp.bool _, hdefault, hp.str _, optional_passes hp.str _,
    optional_passes hp.str _, optional_passes hchoices _, optional_passes hp.str _,
    labelsToJson_passes hp _, optional_passes hp.str _, optional_passes hp.str _,
    optional_passes hp.bool _, by simp⟩

theorem blockToTree_passes {block : BlockDescriptor}
    (hdouble : ∀ parameter ∈ block.parameters, ∀ d, parameter.defaultValue = .double d →
      p (.float d) = false) : (blockToTree block).any p = false := by
  refine hp.ofFields (blockFields_keys block) ?_
  simp only [blockFields, List.cons_append, List.nil_append, List.forall_mem_cons,
    Option.some.injEq, forall_eq']
  exact ⟨hp.str _, hp.str _, hp.str _, hp.str _, hp.items fun port _ => portToJson_passes hp port,
    hp.items fun port _ => portToJson_passes hp port,
    hp.items fun parameter hmem => parameterToJson_passes hp (hdouble parameter hmem),
    optional_passes hp.str _, by simp⟩

end Trees

theorem repeatsKey_passes : Passes Json.repeatsKey where
  null := rfl
  bool _ := rfl
  int _ := rfl
  str _ := rfl
  arr _ := rfl
  obj members h := by simpa [Json.repeatsKey] using h

theorem textless_passes : Passes Json.textless where
  null := rfl
  bool _ := rfl
  int _ := rfl
  str _ := rfl
  arr _ := rfl
  obj _ _ := rfl

/-- The JSON value of a descriptor.
mirrors src/catalog/gr4_block_catalog_provider.cpp:955-982 -/
def toJson (block : BlockDescriptor) : JsonValue :=
  ⟨blockToTree block, blockToTree_passes repeatsKey_passes fun _ _ _ _ => rfl⟩

/-! ## There and back -/

/-- The floating-point defaults are finite. -/
def FiniteDefaults (block : BlockDescriptor) : Prop :=
  ∀ parameter ∈ block.parameters, ∀ d, parameter.defaultValue = .double d → d.isFinite = true

theorem sameDouble_finite {d : Double} (h : d.isFinite = true) : sameDouble d d = true := by
  unfold Double.isFinite at h
  rw [decide_eq_true_eq] at h
  have hlt : d.bits.toNat < 2 ^ 64 := d.bits.toNat_lt
  have hnan : ¬ 2047 * 2 ^ 52 < d.bits.toNat % 2 ^ 63 := by omega
  unfold sameDouble
  dsimp only
  rw [decide_eq_false hnan, beq_self_eq_true]
  rfl

theorem isEqv_self {α : Type} {same : α → α → Bool} {as : List α}
    (h : ∀ a ∈ as, same a a = true) : as.isEqv as same = true := by
  induction as with
  | nil => rfl
  | cons a as ih =>
    obtain ⟨hhead, htail⟩ := List.forall_mem_cons.1 h
    rw [List.isEqv, hhead, ih htail]
    rfl

theorem sameBlock_finite {block : BlockDescriptor} (h : FiniteDefaults block) :
    sameBlock block block = true := by
  have hport : ∀ port, samePort port port = true := by simp [samePort]
  have hparameter : ∀ parameter ∈ block.parameters, sameParameter parameter parameter = true := by
    intro parameter hmem
    have hdefault : sameDefault parameter.defaultValue parameter.defaultValue = true := by
      cases hvalue : parameter.defaultValue with
      | double d => exact sameDouble_finite (h parameter hmem d hvalue)
      | _ => simp [sameDefault]
    simp [sameParameter, hdefault]
  simp [sameBlock, isEqv_self fun port _ => hport port, isEqv_self hparameter]

/-- **The pipe loses nothing.** For every lawful JSON library and every
descriptor whose canonical type is absent or not empty and whose
floating-point defaults are finite: the writer returns exactly when every
text of the descriptor is UTF-8, and what is parsed from what it wrote is
the descriptor itself, equal also by the comparison of the source. -/
theorem reflection_survives (t : JsonText) (ht : t.Lawful) (block : BlockDescriptor)
    (hcanonical : block.canonicalType ≠ some []) (hfinite : FiniteDefaults block) :
    ((∃ payload, t.dump (toJson block) = some payload) ↔
      (blockToTree block).any Json.badText = false) ∧
    ∀ payload, t.dump (toJson block) = some payload →
      parseBlockDescriptor t payload = .ok block ∧ sameBlock block block = true := by
  refine ⟨ht.dumps (toJson block), fun payload hpayload => ?_⟩
  have hdouble : ∀ parameter ∈ block.parameters, ∀ d, parameter.defaultValue = .double d →
      Json.textless (.float d) = false := by
    intro parameter hmem d hvalue
    rw [Json.textless, hfinite parameter hmem d hvalue]
    rfl
  obtain ⟨value, hvalue, hsame⟩ :=
    ht.reads (toJson block) payload (blockToTree_passes textless_passes hdouble) hpayload
  refine ⟨?_, sameBlock_finite hfinite⟩
  rw [parseBlockDescriptor, hvalue]
  exact parseTree_same hcanonical value.keys hsame

def inPort : BlockPortDescriptor where
  name := str "in"
  type := str "float32"
  cardinalityKind := .dynamic
  currentPortCount := some 2

def gainParameter : BlockParameterDescriptor where
  name := str "gain"
  type := str "float32"
  defaultValue := .double ⟨4607182418800017408⟩
  summary := []
  enumChoices := some []
  enumLabels := ⟨[(str "0", str "off"), (str "1", str "on")], by decide⟩

def gainBlock : BlockDescriptor where
  id := str "gr::basic::Gain<float32>"
  canonicalType := some (str "gr::basic::Gain")
  name := str "Gain"
  category := str "basic"
  summary := []
  inputs := [inPort]
  outputs := []
  parameters := [gainParameter]

/-- The library's text of its descriptor. -/
def gainText : Str :=
  str "\x7b\"canonical_type\":\"gr::basic::Gain\",\"category\":\"basic\"," ++
  str "\"id\":\"gr::basic::Gain<float32>\",\"inputs\":[\x7b\"cardinality_kind\":\"dynamic\"," ++
  str "\"current_port_count\":2,\"name\":\"in\",\"type\":\"float32\"\x7d],\"name\":\"Gain\"," ++
  str "\"outputs\":[],\"parameters\":[\x7b\"default_value\":1.0,\"enum_choices\":[]," ++
  str "\"enum_labels\":\x7b\"0\":\"off\",\"1\":\"on\"\x7d,\"name\":\"gain\",\"required\":false," ++
  str "\"summary\":\"\",\"type\":\"float32\"\x7d],\"summary\":\"\"\x7d"

/-- What the library reads in that text: the keys in their order, and a
number without a sign as `uint64`. -/
def gainValue : JsonValue where
  json := .obj [
    (str "canonical_type", .str (str "gr::basic::Gain")),
    (str "category", .str (str "basic")),
    (str "id", .str (str "gr::basic::Gain<float32>")),
    (str "inputs", .arr [.obj [
      (str "cardinality_kind", .str (str "dynamic")),
      (str "current_port_count", .uint 2),
      (str "name", .str (str "in")),
      (str "type", .str (str "float32"))]]),
    (str "name", .str (str "Gain")),
    (str "outputs", .arr []),
    (str "parameters", .arr [.obj [
      (str "default_value", .float ⟨4607182418800017408⟩),
      (str "enum_choices", .arr []),
      (str "enum_labels", .obj [(str "0", .str (str "off")), (str "1", .str (str "on"))]),
      (str "name", .str (str "gain")),
      (str "required", .bool false),
      (str "summary", .str []),
      (str "type", .str (str "float32"))]]),
    (str "summary", .str [])]
  keys := by decide

/-- Every field of the descriptor is found in it. -/
theorem gainValue_same : Json.Same (toJson gainBlock).json gainValue.json := by
  have hlabels : Json.Same (.obj (gainParameter.enumLabels.entries.map fun e => (e.1, .str e.2)))
      (.obj [(str "0", .str (str "off")), (str "1", .str (str "on"))]) :=
    ⟨⟨⟨_, rfl, rfl⟩, ⟨_, rfl, rfl⟩, trivial⟩, by decide⟩
  refine ⟨⟨⟨_, rfl, rfl⟩, ⟨_, rfl, rfl⟩, ⟨_, rfl, rfl⟩, ⟨_, rfl, rfl⟩, ⟨_, rfl, ?_, trivial⟩,
    ⟨_, rfl, trivial⟩, ⟨_, rfl, ?_, trivial⟩, ⟨_, rfl, rfl⟩, trivial⟩, by decide⟩
  · exact ⟨⟨⟨_, rfl, rfl⟩, ⟨_, rfl, rfl⟩, ⟨_, rfl, rfl⟩, ⟨_, rfl, rfl⟩, trivial⟩, by decide⟩
  · exact ⟨⟨⟨_, rfl, rfl⟩, ⟨_, rfl, rfl⟩, ⟨_, rfl, rfl⟩, ⟨_, rfl, rfl⟩, ⟨_, rfl, rfl⟩,
      ⟨_, rfl, trivial⟩, ⟨_, rfl, hlabels⟩, trivial⟩, by decide⟩

theorem gainBlock_survives :
    (∃ payload, (readingJson gainText (toJson gainBlock) gainValue).dump (toJson gainBlock) =
      some payload) ∧
    ∀ payload, (readingJson gainText (toJson gainBlock) gainValue).dump (toJson gainBlock) =
        some payload →
      parseBlockDescriptor (readingJson gainText (toJson gainBlock) gainValue) payload =
        .ok gainBlock ∧ sameBlock gainBlock gainBlock = true := by
  have hlawful : (readingJson gainText (toJson gainBlock) gainValue).Lawful :=
    readingJson_lawful (c := chr ':') (by decide +kernel) (by decide) gainValue_same
  have hfinite : FiniteDefaults gainBlock := by
    intro parameter hmem d hvalue
    obtain rfl := List.mem_singleton.1 hmem
    cases hvalue
    decide
  obtain ⟨hdumps, hreads⟩ :=
    reflection_survives _ hlawful gainBlock (by decide) hfinite
  exact ⟨hdumps.2 (by decide +kernel), hreads⟩

end Gr4cp.Catalog

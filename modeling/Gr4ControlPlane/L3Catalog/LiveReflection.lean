import Gr4ControlPlane.Core.Ranking
import Gr4ControlPlane.L3Catalog.BlockNaming
import Gr4ControlPlane.L3Catalog.CollectionPorts

/-!
# Reflecting a live block (`reflect_block`, `catalog/gr4_block_catalog_provider.cpp`)

The descriptor of a block is read off an instance of it: its settings become
the parameters, its dynamic ports the ports, its metadata the texts. GNU
Radio is not part of the repository; `BlockModel` is what is asked of an
instance once its settings are initialised.

* `reflectBlock_describes`: the instance is the one of the latest loader that
  makes one, and the registry's where none does. Whatever it is, the
  parameters are its settings, sorted and each once, every default is the
  setting's value and of the parameter's type; the ports are its ports in
  order, a collection sized by the parameter its name leads to; name,
  category and summary come from its author where the author gave any. The
  order in which the settings are iterated does not matter.
-/
namespace Gr4cp.Catalog

open Gr4cp.Core Gr4cp.Domain

/-! ## Values -/

/-- The element types of a tensor, apart from strings and values. -/
inductive PlainElement where
  | monostate | bool
  | int8 | int16 | int32 | int64 | uint8 | uint16 | uint32 | uint64
  | float32 | float64 | complexFloat32 | complexFloat64
  deriving DecidableEq, Repr

/-- `gr::pmt::Value`, with every alternative reflection tells apart. -/
inductive LiveValue where
  | null
  | bool (b : Bool)
  | signed (i : Int64)
  | unsigned (u : UInt64)
  | floating (d : Double)
  | complex
  | str (s : Str)
  | map (m : List (Str × LiveValue))
  /-- `gr::Tensor<std::pmr::string>` -/
  | strings (ss : List Str)
  /-- `gr::Tensor<gr::pmt::Value>` -/
  | values (vs : List LiveValue)
  | tensor (element : PlainElement)

namespace LiveValue

mutual

/-- What the rest of the control plane tells apart of a value. -/
def toValue : LiveValue → Value
  | .null => .null
  | .bool b => .bool b
  | .signed i => .int i
  | .unsigned u => .uint u
  | .floating d => .float d
  | .complex => .other 0
  | .str s => .str s
  | .map m => .map (toMembers m)
  | .strings _ => .other 1
  | .values vs => .tensor (toValues vs)
  | .tensor _ => .other 2

def toMembers : List (Str × LiveValue) → PropertyMap
  | [] => []
  | (key, value) :: m => (key, toValue value) :: toMembers m

def toValues : List LiveValue → List Value
  | [] => []
  | value :: vs => toValue value :: toValues vs

end

/-- mirrors src/catalog/gr4_block_catalog_provider.cpp:336-347 -/
def valueToString : LiveValue → Option Str
  | .str s => some s
  | _ => none

/-- `viewed` is whether a visitor is shown a string as a view.
mirrors src/catalog/gr4_block_catalog_provider.cpp:360-387 -/
def valueToStringList (viewed : Bool) : LiveValue → Option (List Str)
  | .strings ss => some ss
  | .values vs => vs.mapM valueToString
  | .str s => if viewed then some [s] else none
  | _ => none

/-- `value.is_map()` or `value.is_tensor()` -/
def isContainer : LiveValue → Bool
  | .map _ | .strings _ | .values _ | .tensor _ => true
  | _ => false

end LiveValue

/-! ## Parameters -/

/-- mirrors src/catalog/gr4_block_catalog_provider.cpp:448-464 -/
def vectorTypeName : PlainElement → Str
  | .bool => str "bool_vector"
  | .int8 | .int16 | .int32 | .int64 | .uint8 | .uint16 | .uint32 | .uint64 => str "int_vector"
  | .float32 => str "float32_vector"
  | .float64 => str "float64_vector"
  | .complexFloat32 => str "complex_float32_vector"
  | .complexFloat64 => str "complex_float64_vector"
  | .monostate => str "vector"

/-- mirrors src/catalog/gr4_block_catalog_provider.cpp:438-480 -/
def parameterTypeName : LiveValue → Str
  | .map _ => str "map"
  | .complex => str "complex"
  | .tensor element => vectorTypeName element
  | .strings _ => str "string_vector"
  | .values _ => str "value_vector"
  | .str _ => str "string"
  | .bool _ => str "bool"
  | .signed _ | .unsigned _ => str "int"
  | .floating _ => str "float"
  | .null => str "value"

/-- An integer that is no `int` has no default.
mirrors src/catalog/gr4_block_catalog_provider.cpp:482-505 -/
def parameterDefaultValue : LiveValue → BlockParameterDefault
  | .bool b => .bool b
  | .signed i =>
    if -2147483648 ≤ i.toInt ∧ i.toInt ≤ 2147483647 then .int (Int32.ofInt i.toInt) else .null
  | .unsigned u => if u.toNat ≤ 2147483647 then .int (Int32.ofNat u.toNat) else .null
  | .floating d => .double d
  | .str s => .str s
  | _ => .null

/-- mirrors src/catalog/gr4_block_catalog_provider.cpp:507-512 -/
def parameterValueKind (value : LiveValue) : Option Str :=
  if value.isContainer then none else some (str "scalar")

abbrev MetaInformation := List (Str × LiveValue)

/-- mirrors src/catalog/gr4_block_catalog_provider.cpp:418-426 -/
def parameterMetaString (metaInfo : MetaInformation) (parameterName suffix : Str) : Option Str :=
  (metaInfo.lookup (parameterName ++ suffix)).bind LiveValue.valueToString

/-- mirrors src/catalog/gr4_block_catalog_provider.cpp:428-436 -/
def parameterMetaStringList (viewed : Bool) (metaInfo : MetaInformation)
    (parameterName suffix : Str) : Option (List Str) :=
  (metaInfo.lookup (parameterName ++ suffix)).bind (LiveValue.valueToStringList viewed)

/-- mirrors src/catalog/gr4_block_catalog_provider.cpp:514-516 -/
def parameterEnumChoices (viewed : Bool) (metaInfo : MetaInformation) (name : Str) :
    Option (List Str) :=
  parameterMetaStringList viewed metaInfo name (str "::enum_values")

/-- mirrors src/catalog/gr4_block_catalog_provider.cpp:518-520 -/
def parameterEnumType (metaInfo : MetaInformation) (name : Str) : Option Str :=
  parameterMetaString metaInfo name (str "::enum_type")

/-- mirrors src/catalog/gr4_block_catalog_provider.cpp:522-527 -/
def parameterRuntimeMutability (name : Str) : Option Str :=
  if name = str "name" ∨ name = str "unique_name" then some (str "immutable") else none

/-- mirrors src/catalog/gr4_block_catalog_provider.cpp:529-539 -/
def parameterUiHint (name : Str) : Option Str :=
  if name = str "name" ∨ name = str "unique_name" then some (str "read_only")
  else if name = str "compute_domain" ∨ name = str "disconnect_on_done" ∨
      name = str "ui_constraints" ∨ name = str "input_chunk_size" ∨
      name = str "output_chunk_size" ∨ name = str "stride" then some (str "advanced")
  else none

/-- The first of the two texts that is there and not empty. -/
def firstText (first second : Option Str) : Str :=
  match first with
  | some (c :: text) => c :: text
  | _ =>
    match second with
    | some text => text
    | none => []

/-- mirrors src/catalog/gr4_block_catalog_provider.cpp:541-551 -/
def parameterSummary (metaInfo : MetaInformation) (name : Str) : Str :=
  firstText (parameterMetaString metaInfo name (str "::description"))
    (parameterMetaString metaInfo name (str "::documentation"))

/-! ## Blocks -/

/-- `gr::BlockModel::DynamicPortOrCollection` -/
inductive PortOrCollection where
  | port (name typeName : Str)
  | collection (name : Str) (typeNames : List Str)

/-- What is asked of an instance. -/
structure BlockModel where
  name : Str
  typeName : Str
  /-- `settings().get()`, in the order of iteration -/
  settings : List (Str × LiveValue)
  settings_keys : (settings.map (·.1)).Nodup
  metaInformation : MetaInformation
  dynamicInputPorts : List PortOrCollection
  dynamicOutputPorts : List PortOrCollection

/-- mirrors src/catalog/gr4_block_catalog_provider.cpp:389-395 -/
def blockName (block : BlockModel) (id : Str) : Str :=
  if block.name ≠ [] ∧ block.name ≠ id ∧ (Str.find block.name (str "::") 0).isNone then block.name
  else deriveNameFromId id

/-- mirrors src/catalog/gr4_block_catalog_provider.cpp:397-399 -/
def blockCategory (block : BlockModel) (id : Str) : Str :=
  deriveCategoryFromMetadata (LiveValue.toMembers block.metaInformation) id

/-- mirrors src/catalog/gr4_block_catalog_provider.cpp:405-416 -/
def blockSummary (block : BlockModel) : Str :=
  firstText (parameterMetaString block.metaInformation [] (str "description"))
    (parameterMetaString block.metaInformation [] (str "Description"))

/-- mirrors src/catalog/gr4_block_catalog_provider.cpp:747-753 -/
def reflectedCanonicalType (block : BlockModel) : Option Str :=
  if block.typeName = [] then none else some block.typeName

/-- One turn of the loop of `to_parameters`.
mirrors src/catalog/gr4_block_catalog_provider.cpp:845-858 -/
def toParameter (viewed : Bool) (metaInfo : MetaInformation) (setting : Str × LiveValue) :
    BlockParameterDescriptor where
  name := setting.1
  type := parameterTypeName setting.2
  required := false
  defaultValue := parameterDefaultValue setting.2
  summary := parameterSummary metaInfo setting.1
  runtimeMutability := parameterRuntimeMutability setting.1
  valueKind := parameterValueKind setting.2
  enumChoices := parameterEnumChoices viewed metaInfo setting.1
  enumType := parameterEnumType metaInfo setting.1
  uiHint := parameterUiHint setting.1

def nameBefore (left right : BlockParameterDescriptor) : Bool := Str.lt left.name right.name

/-- mirrors src/catalog/gr4_block_catalog_provider.cpp:838-864 -/
def toParameters (viewed : Bool) (block : BlockModel) : List BlockParameterDescriptor :=
  Ranking.sort nameBefore (block.settings.map (toParameter viewed block.metaInformation))

/-- mirrors src/catalog/gr4_block_catalog_provider.cpp:787-824 -/
def toPortDescriptor (blockId : Str) (parameters : List BlockParameterDescriptor) (isInput : Bool) :
    PortOrCollection → BlockPortDescriptor
  | .port name typeName =>
    { name
      type := typeName
      cardinalityKind := .fixed
      currentPortCount := some 1
      renderPortCount := some 1
      minPortCount := some 1
      maxPortCount := some 1 }
  | .collection name typeNames =>
    let type := typeNames.headD []
    let metadata := inferCollectionMetadata name blockId isInput parameters
      (UInt64.ofNat typeNames.length)
    { name
      type := if type = [] then metadata.elementType.getD [] else type
      cardinalityKind := metadata.cardinalityKind
      currentPortCount := metadata.currentPortCount
      renderPortCount := metadata.renderPortCount
      minPortCount := metadata.minPortCount
      maxPortCount := metadata.maxPortCount
      sizeParameter := metadata.sizeParameter
      handleNameTemplate := metadata.handleNameTemplate }

/-- mirrors src/catalog/gr4_block_catalog_provider.cpp:826-836 -/
def toPorts (ports : List PortOrCollection) (blockId : Str)
    (parameters : List BlockParameterDescriptor) (isInput : Bool) : List BlockPortDescriptor :=
  ports.map (toPortDescriptor blockId parameters isInput)

/-- mirrors src/catalog/gr4_block_catalog_provider.cpp:879-890 -/
def describeBlock (viewed : Bool) (id : Str) (block : BlockModel) : BlockDescriptor :=
  let parameters := toParameters viewed block
  { id
    canonicalType := reflectedCanonicalType block
    name := blockName block id
    category := blockCategory block id
    summary := blockSummary block
    inputs := toPorts block.dynamicInputPorts id parameters true
    outputs := toPorts block.dynamicOutputPorts id parameters false
    parameters }

/-- Where instances come from: the retained loaders, and the registry. -/
structure BlockFactory where
  loaders : List (Str → Option BlockModel)
  registry : Str → Option BlockModel
  viewed : Bool

/-- The loader retained last is asked first.
mirrors src/catalog/gr4_block_catalog_provider.cpp:98-106,868-873 -/
def BlockFactory.instantiate (factory : BlockFactory) (id : Str) : Option BlockModel :=
  (factory.loaders.reverse.findSome? fun loader => loader id).or (factory.registry id)

/-- `none` is a `CatalogLoadError`.
mirrors src/catalog/gr4_block_catalog_provider.cpp:866-891 -/
def BlockFactory.reflectBlock (factory : BlockFactory) (id : Str) : Option BlockDescriptor :=
  (factory.instantiate id).map (describeBlock factory.viewed id)

/-! ## What is reflected -/

/-- The default of an integer: itself, if it is an `int`. -/
def IntDefault (i : Int) (default : BlockParameterDefault) : Prop :=
  (∃ n : Int32, default = .int n ∧ n.toInt = i) ∨
    (i < -2147483648 ∨ 2147483647 < i) ∧ default = .null

/-- A scalar is of its type and its own default; what is no scalar has no
default. -/
def TypeAndDefault : LiveValue → Str → BlockParameterDefault → Prop
  | .bool b, type, default => type = str "bool" ∧ default = .bool b
  | .signed i, type, default => type = str "int" ∧ IntDefault i.toInt default
  | .unsigned u, type, default => type = str "int" ∧ IntDefault u.toNat default
  | .floating d, type, default => type = str "float" ∧ default = .double d
  | .str s, type, default => type = str "string" ∧ default = .str s
  | .null, type, default => type = str "value" ∧ default = .null
  | .complex, type, default => type = str "complex" ∧ default = .null
  | .map _, type, default => type = str "map" ∧ default = .null
  | .strings _, type, default => type = str "string_vector" ∧ default = .null
  | .values _, type, default => type = str "value_vector" ∧ default = .null
  | .tensor element, type, default => type = vectorTypeName element ∧ default = .null

/-- `text` is the first of the two texts that is there and not empty; where
the first is not, it is the second one, also if that is empty. -/
inductive FirstText (metaInfo : MetaInformation) (first second : Str) : Str → Prop
  | first {text : Str} (h : metaInfo.lookup first = some (.str text)) (hne : text ≠ []) :
      FirstText metaInfo first second text
  | second {text : Str} (hfirst : ∀ t, metaInfo.lookup first = some (.str t) → t = [])
      (h : metaInfo.lookup second = some (.str text)) : FirstText metaInfo first second text
  | none (hfirst : ∀ t, metaInfo.lookup first = some (.str t) → t = [])
      (hsecond : ∀ t, metaInfo.lookup second ≠ some (.str t)) : FirstText metaInfo first second []

/-- `p` is the parameter of a setting with this value. -/
structure DescribesParameter (metaInfo : MetaInformation) (value : LiveValue)
    (p : BlockParameterDescriptor) : Prop where
  typed : TypeAndDefault value p.type p.defaultValue
  kind : p.valueKind = some (str "scalar") ↔ value.isContainer = false
  optional : p.required = false
  summary : FirstText metaInfo (p.name ++ str "::description") (p.name ++ str "::documentation")
    p.summary
  enumType : ∀ t, p.enumType = some t ↔
    metaInfo.lookup (p.name ++ str "::enum_type") = some (.str t)
  enumChoices : ∀ ss, metaInfo.lookup (p.name ++ str "::enum_values") = some (.strings ss) →
    p.enumChoices = some ss
  unlisted : metaInfo.lookup (p.name ++ str "::enum_values") = none → p.enumChoices = none
  fixed : p.name = str "name" ∨ p.name = str "unique_name" →
    p.runtimeMutability = some (str "immutable") ∧ p.uiHint = some (str "read_only")
  free : p.name ≠ str "name" → p.name ≠ str "unique_name" →
    p.runtimeMutability = none ∧ p.uiHint ≠ some (str "read_only")

/-- A port that stands alone is one port, and nothing sizes it. -/
structure SinglePort (portName typeName : Str) (port : BlockPortDescriptor) : Prop where
  name : port.name = portName
  type : port.type = typeName
  kind : port.cardinalityKind = .fixed
  current : port.currentPortCount = some 1
  render : port.renderPortCount = some 1
  min : port.minPortCount = some 1
  max : port.maxPortCount = some 1
  unsized : port.sizeParameter = none
  untitled : port.handleNameTemplate = none

/-- The count to draw is within the bounds. -/
def WithinBounds (port : BlockPortDescriptor) : Prop :=
  ∀ count, port.renderPortCount = some count →
    (∀ lo, port.minPortCount = some lo → lo ≤ count) ∧
      ∀ hi, port.maxPortCount = some hi → 0 ≤ hi → count ≤ hi

section PortSpec

variable (blockId : Str) (isInput : Bool) (parameters : List BlockParameterDescriptor)

/-- A collection is sized by the parameter that its name leads to, if there
is one. -/
structure CollectionPort (collectionName : Str) (typeNames : List Str)
    (port : BlockPortDescriptor) : Prop where
  name : port.name = collectionName
  kind : port.cardinalityKind = .dynamic
  type : ∀ t rest, typeNames = t :: rest → t ≠ [] → port.type = t
  /-- with no port to ask, the element type is the block's -/
  untyped : (∀ t rest, typeNames = t :: rest → t = []) →
    port.type = (inferCollectionElementType blockId).getD []
  current : port.currentPortCount = some (Int32.ofNat typeNames.length)
  template : port.handleNameTemplate = some (collectionName ++ str "#$\x7bindex\x7d")
  sized : ∀ s, port.sizeParameter = some s ↔
    ∃ p, SizedBy collectionName isInput parameters p ∧ p.name = s
  counted : ∀ p, SizedBy collectionName isInput parameters p → isPortCount p.name = true →
    port.minPortCount = some 1 ∧ port.maxPortCount = some 32
  uncounted : (∀ p, SizedBy collectionName isInput parameters p → isPortCount p.name = false) →
    typeNames.length < UInt64.size →
      port.minPortCount = some (if typeNames = [] then 0 else 1) ∧ port.maxPortCount = some (-1)
  /-- the default of that parameter, brought within the bounds -/
  drawn : ∀ p n, SizedBy collectionName isInput parameters p → p.defaultValue = .int n →
    port.renderPortCount = some (clampCount port.minPortCount port.maxPortCount n)
  now : (∀ p, SizedBy collectionName isInput parameters p → ∀ n, p.defaultValue ≠ .int n) →
    typeNames ≠ [] → typeNames.length < UInt64.size →
      port.renderPortCount = port.currentPortCount
  /-- with no port there and no such default, the lower bound, if it is more
  than none -/
  least : (∀ p, SizedBy collectionName isInput parameters p → ∀ n, p.defaultValue ≠ .int n) →
    typeNames = [] → port.renderPortCount = port.minPortCount.filter fun lo => decide (0 < lo)
  bounds : typeNames.length ≤ 32 → WithinBounds port

/-- The descriptor of a port or of a collection. -/
inductive DescribesPort : PortOrCollection → BlockPortDescriptor → Prop
  | port {name typeName : Str} {described : BlockPortDescriptor}
      (h : SinglePort name typeName described) : DescribesPort (.port name typeName) described
  | collection {name : Str} {typeNames : List Str} {described : BlockPortDescriptor}
      (h : CollectionPort blockId isInput parameters name typeNames described) :
      DescribesPort (.collection name typeNames) described

end PortSpec

/-- The category the author wrote: a text, not empty and without brackets and
commas. -/
def AuthorCategory (metaInfo : MetaInformation) (category : Str) : Prop :=
  category ≠ [] ∧ (∀ c ∈ category, c ∉ str "<>(),") ∧
    ∃ drawable, metaInfo.lookup (str "Drawable") = some (.map drawable) ∧
      drawable.lookup (str "Category") = some (.str category)

/-- The author gave the block a name of its own, and no type's. -/
def OwnName (block : BlockModel) (id : Str) : Prop :=
  block.name ≠ [] ∧ block.name ≠ id ∧ ¬str "::" <:+: block.name

/-- What holds of a descriptor whatever the instance it is read off. -/
structure Describes (block : BlockModel) (blockId : Str) (d : BlockDescriptor) : Prop where
  id : d.id = blockId
  canonical : d.canonicalType ≠ some []
  typed : ∀ t, d.canonicalType = some t ↔ t = block.typeName ∧ t ≠ []
  ownName : OwnName block blockId → d.name = block.name
  idName : ¬OwnName block blockId → d.name = deriveNameFromId blockId
  ownCategory : ∀ category, AuthorCategory block.metaInformation category →
    d.category = category
  idCategory : (∀ category, ¬AuthorCategory block.metaInformation category) →
    d.category = deriveCategoryFromBlockId blockId
  summary : FirstText block.metaInformation (str "description") (str "Description") d.summary
  sorted : d.parameters.Pairwise fun a b => Str.lt a.name b.name = true
  settings : ∀ name, name ∈ d.parameters.map (·.name) ↔ name ∈ block.settings.map (·.1)
  parameters : ∀ p ∈ d.parameters, ∃ value,
    (p.name, value) ∈ block.settings ∧ DescribesParameter block.metaInformation value p
  inputs : List.Forall₂ (DescribesPort blockId true d.parameters) block.dynamicInputPorts d.inputs
  outputs : List.Forall₂ (DescribesPort blockId false d.parameters) block.dynamicOutputPorts d.outputs

/-- The instance of an id: of the latest loader that makes one, and of the
registry where no loader does. -/
inductive BlockFactory.Makes (factory : BlockFactory) (id : Str) (block : BlockModel) : Prop
  | loader {older newer : List (Str → Option BlockModel)} {loader : Str → Option BlockModel}
      (hloaders : factory.loaders = older ++ loader :: newer) (h : loader id = some block)
      (hnewer : ∀ l ∈ newer, l id = none) : factory.Makes id block
  | registry (hloaders : ∀ l ∈ factory.loaders, l id = none)
      (h : factory.registry id = some block) : factory.Makes id block

section Texts

variable {metaInfo : MetaInformation}

theorem metaString_eq_some {name suffix t : Str} :
    parameterMetaString metaInfo name suffix = some t ↔
      metaInfo.lookup (name ++ suffix) = some (.str t) := by
  unfold parameterMetaString
  rw [Option.bind_eq_some_iff]
  refine ⟨fun h => ?_, fun h => ⟨_, h, rfl⟩⟩
  obtain ⟨value, hvalue, hstr⟩ := h
  cases value with
  | str s =>
    cases hstr
    exact hvalue
  | _ => cases hstr

theorem firstText_of (first second : Str × Str) :
    FirstText metaInfo (first.1 ++ first.2) (second.1 ++ second.2)
      (firstText (parameterMetaString metaInfo first.1 first.2)
        (parameterMetaString metaInfo second.1 second.2)) := by
  have hrest : (∀ t, metaInfo.lookup (first.1 ++ first.2) = some (.str t) → t = []) →
      FirstText metaInfo (first.1 ++ first.2) (second.1 ++ second.2)
        ((parameterMetaString metaInfo second.1 second.2).getD []) := by
    intro hfirst
    cases hsecond : parameterMetaString metaInfo second.1 second.2 with
    | some text => exact .second hfirst (metaString_eq_some.1 hsecond)
    | none =>
      refine .none hfirst fun t ht => ?_
      rw [metaString_eq_some.2 ht] at hsecond
      cases hsecond
  have hsame : (parameterMetaString metaInfo second.1 second.2).getD [] =
      firstText none (parameterMetaString metaInfo second.1 second.2) := by
    cases parameterMetaString metaInfo second.1 second.2 <;> rfl
  cases hfirst : parameterMetaString metaInfo first.1 first.2 with
  | none =>
    rw [← hsame]
    refine hrest fun t ht => ?_
    rw [metaString_eq_some.2 ht] at hfirst
    cases hfirst
  | some text =>
    cases text with
    | cons c text => exact .first (metaString_eq_some.1 hfirst) (List.cons_ne_nil _ _)
    | nil =>
      show FirstText _ _ _ (firstText none _)
      rw [← hsame]
      refine hrest fun t ht => ?_
      rw [metaString_eq_some.2 ht] at hfirst
      exact Option.some.inj hfirst

theorem lookup_toMembers (m : List (Str × LiveValue)) (key : Str) :
    (LiveValue.toMembers m).lookup key = (m.lookup key).map LiveValue.toValue := by
  induction m with
  | nil => rfl
  | cons entry m ih =>
    obtain ⟨k, value⟩ := entry
    simp only [LiveValue.toMembers, List.lookup_cons, ih]
    split <;> rfl

theorem sane_iff (category : Str) :
    isSaneExplicitCategory category = true ↔
      category ≠ [] ∧ ∀ c ∈ category, c ∉ str "<>()," := by
  unfold isSaneExplicitCategory
  simp only [Bool.and_eq_true, Bool.not_eq_true', List.isEmpty_eq_false_iff, List.all_eq_true]
  refine and_congr_right fun _ => forall₂_congr fun c _ => ?_
  rw [← Bool.not_eq_true, List.contains_iff_mem]

/-- The category in the metadata. -/
theorem drawable_category {category : Str} :
    (∃ drawable, metaInfo.lookup (str "Drawable") = some (.map drawable) ∧
      drawable.lookup (str "Category") = some (.str category)) ↔
    (((LiveValue.toMembers metaInfo).lookup (str "Drawable")).bind getMap).bind
      (parameterString · (str "Category")) = some category := by
  rw [lookup_toMembers]
  cases hdrawable : metaInfo.lookup (str "Drawable") with
  | none => simp
  | some value =>
    cases value with
    | map m =>
      simp only [Option.map_some, Option.bind_some, LiveValue.toValue, getMap, parameterString,
        lookup_toMembers, Option.some.injEq, LiveValue.map.injEq, exists_eq_left']
      cases hcategory : m.lookup (str "Category") with
      | none => simp
      | some value => cases value <;> simp [LiveValue.toValue, valueToString]
    | _ => simp [LiveValue.toValue, getMap]

theorem ownCategory_of (id : Str) {category : Str} (h : AuthorCategory metaInfo category) :
    deriveCategoryFromMetadata (LiveValue.toMembers metaInfo) id = category := by
  obtain ⟨hne, hplain, hdrawable⟩ := h
  obtain ⟨drawable, hmap, htext⟩ := Option.bind_eq_some_iff.1 (drawable_category.1 hdrawable)
  have hempty : category.isEmpty = false := List.isEmpty_eq_false_iff.2 hne
  unfold deriveCategoryFromMetadata
  simp only [hmap, htext, hempty, (sane_iff category).2 ⟨hne, hplain⟩, Bool.not_false,
    Bool.and_self, if_true]

theorem idCategory_of (id : Str) (h : ∀ category, ¬AuthorCategory metaInfo category) :
    deriveCategoryFromMetadata (LiveValue.toMembers metaInfo) id =
      deriveCategoryFromBlockId id := by
  unfold deriveCategoryFromMetadata
  cases hmap : ((LiveValue.toMembers metaInfo).lookup (str "Drawable")).bind getMap with
  | none => rfl
  | some drawable =>
    cases htext : parameterString drawable (str "Category") with
    | none => simp only [htext]
    | some category =>
      simp only [htext]
      split
      · rename_i hsane
        obtain ⟨hne, hplain⟩ := (sane_iff category).1 (Bool.and_eq_true_iff.1 hsane).2
        refine absurd ⟨hne, hplain, drawable_category.2 ?_⟩ (h category)
        rw [hmap]
        exact htext
      · rfl

end Texts

section Parameters

variable {viewed : Bool} {block block' : BlockModel}

theorem nameBefore_compares : Ranking.Compares nameBefore fun p => p.name.code := fun a b =>
  Str.lt_iff a.name b.name

theorem names_of_settings (viewed : Bool) (block : BlockModel) :
    (block.settings.map (toParameter viewed block.metaInformation)).map (·.name) =
      block.settings.map (·.1) := by
  rw [List.map_map]
  rfl

/-- No two parameters share a place in the order. -/
theorem places_nodup (viewed : Bool) (block : BlockModel) :
    ((block.settings.map (toParameter viewed block.metaInformation)).map
      fun p => p.name.code).Nodup := by
  have hnames := block.settings_keys
  rw [← names_of_settings viewed] at hnames
  have hcodes := hnames.map Str.code_injective
  rwa [List.map_map] at hcodes

theorem toParameters_names (name : Str) :
    name ∈ (toParameters viewed block).map (·.name) ↔ name ∈ block.settings.map (·.1) := by
  rw [← names_of_settings viewed]
  exact ((Ranking.sort_perm nameBefore _).map _).mem_iff

theorem toParameters_sorted :
    (toParameters viewed block).Pairwise fun a b => Str.lt a.name b.name = true :=
  (Ranking.sort_strict nameBefore_compares (places_nodup viewed block)).imp
    fun h => (Str.lt_iff _ _).2 h

/-- The order of iteration does not matter. -/
theorem toParameters_perm (hsettings : block.settings.Perm block'.settings)
    (hmeta : block.metaInformation = block'.metaInformation) :
    toParameters viewed block = toParameters viewed block' := by
  unfold toParameters
  rw [← hmeta]
  exact Ranking.sort_eq_of_perm nameBefore_compares (places_nodup viewed block)
    (hsettings.map _)

theorem intDefault_of {i : Int} {n : Int32} {fits : Prop} [Decidable fits]
    (hfits : fits → n.toInt = i) (hno : ¬ fits → i < -2147483648 ∨ 2147483647 < i) :
    IntDefault i (if fits then .int n else .null) := by
  by_cases h : fits
  · rw [if_pos h]
    exact .inl ⟨n, rfl, hfits h⟩
  · rw [if_neg h]
    exact .inr ⟨hno h, rfl⟩

theorem typeAndDefault_of (value : LiveValue) :
    TypeAndDefault value (parameterTypeName value) (parameterDefaultValue value) := by
  cases value with
  | signed i =>
    exact ⟨rfl, intDefault_of (fun h => Int32.toInt_ofInt_of_le h.1 (by omega)) (by omega)⟩
  | unsigned u =>
    exact ⟨rfl, intDefault_of (fun h => Int32.toInt_ofNat_of_lt (by omega)) (by omega)⟩
  | _ => exact ⟨rfl, rfl⟩

theorem describesParameter (viewed : Bool) (metaInfo : MetaInformation)
    (setting : Str × LiveValue) :
    DescribesParameter metaInfo setting.2 (toParameter viewed metaInfo setting) where
  typed := typeAndDefault_of setting.2
  kind := by
    show parameterValueKind setting.2 = _ ↔ _
    unfold parameterValueKind
    cases setting.2.isContainer <;> simp
  optional := rfl
  summary := firstText_of (setting.1, _) (setting.1, _)
  enumType _ := metaString_eq_some
  enumChoices ss h := by
    show (metaInfo.lookup (setting.1 ++ str "::enum_values")).bind _ = some ss
    rw [show metaInfo.lookup (setting.1 ++ str "::enum_values") = some (.strings ss) from h]
    rfl
  unlisted h := by
    show (metaInfo.lookup (setting.1 ++ str "::enum_values")).bind _ = none
    rw [show metaInfo.lookup (setting.1 ++ str "::enum_values") = none from h]
    rfl
  fixed h := ⟨if_pos h, if_pos h⟩
  free hname hunique := by
    have hfree : ¬ (setting.1 = str "name" ∨ setting.1 = str "unique_name") :=
      not_or.2 ⟨hname, hunique⟩
    refine ⟨if_neg hfree, ?_⟩
    show parameterUiHint setting.1 ≠ _
    unfold parameterUiHint
    rw [if_neg hfree]
    split
    · decide
    · nofun

theorem toParameters_described (viewed : Bool) (block : BlockModel) :
    ∀ p ∈ toParameters viewed block, ∃ value,
      (p.name, value) ∈ block.settings ∧ DescribesParameter block.metaInformation value p := by
  intro p hp
  obtain ⟨⟨name, value⟩, hmem, rfl⟩ :=
    List.mem_map.1 ((Ranking.sort_perm nameBefore _).mem_iff.1 hp)
  exact ⟨value, hmem, describesParameter viewed block.metaInformation (name, value)⟩

end Parameters

section Ports

variable {parameters : List BlockParameterDescriptor} {isInput : Bool}

/-- With at most 32 ports now, the count to draw is within the bounds. -/
theorem metadata_within (blockId name : Str) {count : Nat} (hcount : count ≤ 32) :
    (inferCollectionMetadata name blockId isInput parameters (UInt64.ofNat count)).Consistent := by
  have hnat : (UInt64.ofNat count).toNat = count := UInt64.toNat_ofNat_of_lt (by
    show count < 18446744073709551616
    omega)
  cases hd : sizeParameterDefault name isInput parameters with
  | some n => exact consistent_of_default hd
  | none =>
    by_cases hzero : UInt64.ofNat count = 0
    · exact consistent_of_no_ports hd hzero
    · refine (consistent_of_current (by omega) hd hzero).2 ?_
      intro _ _ _
      omega

theorem sizeParameterDefault_eq_none {name : Str}
    (h : ∀ p, SizedBy name isInput parameters p → ∀ n, p.defaultValue ≠ .int n) :
    sizeParameterDefault name isInput parameters = none := by
  cases hsize : inferCollectionSizeParameter name isInput parameters with
  | none => simp only [sizeParameterDefault, hsize]
  | some sizeParameter =>
    obtain ⟨p, hp, -⟩ := sizedBy_of_sizeParameter hsize
    rw [sizeParameterDefault_of_sizedBy hp]
    exact parameterDefaultInt_eq_none.2 (h p hp)

theorem collectionPort (blockId name : Str) (typeNames : List Str) :
    CollectionPort blockId isInput parameters name typeNames
      (toPortDescriptor blockId parameters isInput (.collection name typeNames)) where
  name := rfl
  kind := rfl
  type t rest htypes hne := by
    subst htypes
    exact if_neg hne
  untyped h := by
    refine if_pos ?_
    cases typeNames with
    | nil => rfl
    | cons t rest => exact h t rest rfl
  current := by
    show some (Int32.ofNat (UInt64.ofNat typeNames.length).toNat) = _
    congr 1
    rw [← Int32.toBitVec_inj]
    apply BitVec.eq_of_toNat_eq
    simp
  template := rfl
  sized s := by
    refine ⟨sizedBy_of_sizeParameter, fun h => ?_⟩
    obtain ⟨p, hp, rfl⟩ := h
    exact (sizeParameter_of_sizedBy hp).1
  counted p hp hcount := by
    have hbounds := boundOr_of_isPortCount hcount
      (if UInt64.ofNat typeNames.length = 0 then 0 else 1) (-1)
    show some (boundOr portCountLowerBound (inferCollectionSizeParameter name isInput parameters)
      _) = some 1 ∧ some (boundOr portCountUpperBound (inferCollectionSizeParameter name isInput
        parameters) _) = some 32
    rw [(sizeParameter_of_sizedBy hp).1]
    exact ⟨congrArg some hbounds.1, congrArg some hbounds.2⟩
  uncounted hno hlen := by
    have hnot : ∀ s, inferCollectionSizeParameter name isInput parameters = some s →
        isPortCount s = false := by
      intro s hs
      obtain ⟨p, hp, rfl⟩ := sizedBy_of_sizeParameter hs
      exact hno p hp
    have hbounds := boundOr_of_not_isPortCount hnot
      (if UInt64.ofNat typeNames.length = 0 then 0 else 1) (-1)
    have hempty : UInt64.ofNat typeNames.length = 0 ↔ typeNames = [] := by
      rw [← UInt64.toNat_inj, UInt64.toNat_ofNat_of_lt' hlen]
      exact List.length_eq_zero_iff
    rw [if_congr hempty rfl rfl] at hbounds
    refine ⟨?_, congrArg some hbounds.2⟩
    rw [← hbounds.1]
    exact congrArg (fun lo => some (boundOr portCountLowerBound _ lo)) (if_congr hempty rfl rfl)
  drawn p n hp hdefault := by
    have hcount : sizeParameterDefault name isInput parameters = some n := by
      rw [sizeParameterDefault_of_sizedBy hp, parameterDefaultInt, hdefault]
    show inferCollectionRenderPortCount name isInput parameters _ _ _ = _
    unfold inferCollectionRenderPortCount
    rw [hcount]
    rfl
  now hno hne hlen := by
    have hpos : 0 < UInt64.ofNat typeNames.length := by
      rw [UInt64.lt_iff_toNat_lt, UInt64.toNat_ofNat_of_lt' hlen]
      exact List.length_pos_iff.2 hne
    show inferCollectionRenderPortCount name isInput parameters _ _ _ = some _
    unfold inferCollectionRenderPortCount
    rw [sizeParameterDefault_eq_none hno]
    exact if_pos hpos
  least hno hnone := by
    subst hnone
    show inferCollectionRenderPortCount name isInput parameters 0 _ _ = _
    unfold inferCollectionRenderPortCount
    rw [sizeParameterDefault_eq_none hno]
    have hfilter : ∀ lo : Int32, (if 0 < lo then some lo else none) =
        (some lo).filter fun lo => decide (0 < lo) := fun lo => by simp [Option.filter_some]
    exact (if_neg (by decide)).trans (hfilter _)
  bounds hlen := metadata_within blockId name hlen

theorem describesPort (blockId : Str) (port : PortOrCollection) :
    DescribesPort blockId isInput parameters port
      (toPortDescriptor blockId parameters isInput port) := by
  cases port with
  | port name typeName => exact .port ⟨rfl, rfl, rfl, rfl, rfl, rfl, rfl, rfl, rfl⟩
  | collection name typeNames => exact .collection (collectionPort blockId name typeNames)

theorem describesPorts (blockId : Str) (ports : List PortOrCollection) :
    List.Forall₂ (DescribesPort blockId isInput parameters) ports
      (toPorts ports blockId parameters isInput) := by
  induction ports with
  | nil => exact .nil
  | cons port ports ih => exact .cons (describesPort blockId port) ih

end Ports

theorem blockName_own {block : BlockModel} {id : Str} (h : OwnName block id) :
    blockName block id = block.name := by
  obtain ⟨hne, hid, hplain⟩ := h
  have hnone : (Str.find block.name (str "::") 0).isNone = true := by
    rw [← Option.not_isSome, Bool.not_eq_true', ← Bool.not_eq_true, Str.find_isSome_iff]
    exact hplain
  exact if_pos ⟨hne, hid, hnone⟩

theorem blockName_id {block : BlockModel} {id : Str} (h : ¬OwnName block id) :
    blockName block id = deriveNameFromId id := by
  refine if_neg fun hown => h ⟨hown.1, hown.2.1, fun hinfix => ?_⟩
  have hnone := hown.2.2
  rw [← Option.not_isSome, Str.find_isSome_iff.2 hinfix] at hnone
  cases hnone

theorem reflectedCanonicalType_eq_some {block : BlockModel} {t : Str} :
    reflectedCanonicalType block = some t ↔ t = block.typeName ∧ t ≠ [] := by
  unfold reflectedCanonicalType
  split
  · rename_i hempty
    refine ⟨nofun, fun h => ?_⟩
    rw [← h.1] at hempty
    exact absurd hempty h.2
  · rename_i hne
    refine ⟨fun h => ?_, fun h => congrArg some h.1.symm⟩
    obtain rfl := Option.some.inj h
    exact ⟨rfl, hne⟩

theorem describeBlock_describes (viewed : Bool) (id : Str) (block : BlockModel) :
    Describes block id (describeBlock viewed id block) where
  id := rfl
  canonical h := (reflectedCanonicalType_eq_some.1 h).2 rfl
  typed _ := reflectedCanonicalType_eq_some
  ownName := blockName_own
  idName := blockName_id
  ownCategory _ := ownCategory_of id
  idCategory := idCategory_of id
  summary := firstText_of ([], _) ([], _)
  sorted := toParameters_sorted
  settings := toParameters_names
  parameters := toParameters_described viewed block
  inputs := describesPorts id _
  outputs := describesPorts id _

/-- `block'` is `block` with its settings iterated in another order. -/
structure SameInstance (block block' : BlockModel) : Prop where
  name : block.name = block'.name
  typeName : block.typeName = block'.typeName
  settings : block.settings.Perm block'.settings
  metaInformation : block.metaInformation = block'.metaInformation
  inputs : block.dynamicInputPorts = block'.dynamicInputPorts
  outputs : block.dynamicOutputPorts = block'.dynamicOutputPorts

theorem describeBlock_same {viewed : Bool} {block block' : BlockModel}
    (h : SameInstance block block') (id : Str) :
    describeBlock viewed id block = describeBlock viewed id block' := by
  unfold describeBlock blockName blockCategory blockSummary reflectedCanonicalType
  rw [toParameters_perm h.settings h.metaInformation, h.name, h.typeName, h.metaInformation,
    h.inputs, h.outputs]

theorem instantiate_makes {factory : BlockFactory} {id : Str} {block : BlockModel}
    (h : factory.instantiate id = some block) : factory.Makes id block := by
  obtain hloader | ⟨hnone, hregistry⟩ := Option.or_eq_some_iff.1 h
  · obtain ⟨newer, loader, older, hreverse, hblock, hnewer⟩ := List.findSome?_eq_some_iff.1 hloader
    have hloaders : factory.loaders = older.reverse ++ loader :: newer.reverse := by
      have hreversed := congrArg List.reverse hreverse
      rw [List.reverse_reverse] at hreversed
      simpa using hreversed
    exact .loader hloaders hblock fun l hl => hnewer l (List.mem_reverse.1 hl)
  · refine .registry (fun l hl => ?_) hregistry
    exact List.findSome?_eq_none_iff.1 hnone l (List.mem_reverse.2 hl)

/-- What is reflected is read off the instance of the id. -/
theorem reflectBlock_made {factory : BlockFactory} {id : Str} {d : BlockDescriptor}
    (h : factory.reflectBlock id = some d) :
    ∃ block, factory.Makes id block ∧ describeBlock factory.viewed id block = d := by
  obtain ⟨block, hblock, hd⟩ := Option.map_eq_some_iff.1 h
  exact ⟨block, instantiate_makes hblock, hd⟩

/-- What is reflected is read off the instance that the latest loader makes
that makes one, or the registry where none does; it describes it, and does
not depend on the order its settings are iterated in. -/
theorem reflectBlock_describes {factory : BlockFactory} {id : Str} {d : BlockDescriptor}
    (h : factory.reflectBlock id = some d) :
    ∃ block, factory.Makes id block ∧ Describes block id d ∧
      ∀ block', SameInstance block block' → describeBlock factory.viewed id block' = d := by
  obtain ⟨block, hmade, rfl⟩ := reflectBlock_made h
  refine ⟨block, hmade, describeBlock_describes _ id block, fun block' hsame => ?_⟩
  exact (describeBlock_same hsame id).symm

/-- An adder whose two inputs are a collection, sized by a setting. -/
def adder : BlockModel where
  name := str "gr::math::Adder"
  typeName := str "gr::math::Adder<float32>"
  settings := [(str "name", .str (str "adder")), (str "n_inputs", .unsigned 2)]
  settings_keys := by decide
  metaInformation := []
  dynamicInputPorts := [.collection (str "in") [str "float32", str "float32"]]
  dynamicOutputPorts := [.port (str "out") (str "float32")]

/-- The registry makes adders, and there are no loaders. -/
def adders : BlockFactory := ⟨[], fun _ => some adder, true⟩

theorem adder_described : ∃ d block, adders.reflectBlock (str "Adder") = some d ∧
    adders.Makes (str "Adder") block ∧ Describes block (str "Adder") d ∧
    ∀ block', SameInstance block block' →
      describeBlock adders.viewed (str "Adder") block' = d := by
  have hsome : adders.reflectBlock (str "Adder") =
    some (describeBlock true (str "Adder") adder) := rfl
  obtain ⟨block, hblock⟩ := reflectBlock_describes hsome
  exact ⟨_, block, hsome, hblock⟩

end Gr4cp.Catalog

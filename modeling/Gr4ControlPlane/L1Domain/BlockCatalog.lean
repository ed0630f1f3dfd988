import Gr4ControlPlane.Core.Bytes

/-!
# Block descriptors

include/gr4cp/domain/block_catalog.hpp. An `int` is 32 bits wide.
-/
namespace Gr4cp.Domain

open Gr4cp.Core

/-- mirrors include/gr4cp/domain/block_catalog.hpp:12 -/
inductive BlockParameterDefault where
  | null
  | bool (b : Bool)
  | int (i : Int32)
  | double (d : Double)
  | str (s : Str)
  deriving DecidableEq

/-- mirrors include/gr4cp/domain/block_catalog.hpp:14-17 -/
inductive BlockPortCardinalityKind where
  | fixed | dynamic
  deriving DecidableEq, Repr

/-- mirrors include/gr4cp/domain/block_catalog.hpp:19-33 -/
structure BlockPortDescriptor where
  name : Str
  type : Str
  cardinalityKind : BlockPortCardinalityKind := .fixed
  currentPortCount : Option Int32 := none
  renderPortCount : Option Int32 := none
  minPortCount : Option Int32 := none
  maxPortCount : Option Int32 := none
  sizeParameter : Option Str := none
  handleNameTemplate : Option Str := none
  deriving DecidableEq

/-- A `std::map<std::string, std::string>`: each key once, in their order. -/
structure StringMap where
  entries : List (Str × Str)
  sorted : entries.Pairwise fun a b => Str.lt a.1 b.1 = true
  deriving DecidableEq

def StringMap.empty : StringMap := ⟨[], .nil⟩

/-- mirrors include/gr4cp/domain/block_catalog.hpp:35-62 -/
structure BlockParameterDescriptor where
  name : Str
  type : Str
  required : Bool := false
  defaultValue : BlockParameterDefault := .null
  summary : Str
  runtimeMutability : Option Str := none
  valueKind : Option Str := none
  enumChoices : Option (List Str) := none
  enumType : Option Str := none
  enumLabels : StringMap := .empty
  enumSource : Option Str := none
  uiHint : Option Str := none
  allowCustomValue : Option Bool := none
  deriving DecidableEq

/-- mirrors include/gr4cp/domain/block_catalog.hpp:64-73 -/
structure BlockDescriptor where
  id : Str
  canonicalType : Option Str
  name : Str
  category : Str
  summary : Str
  inputs : List BlockPortDescriptor
  outputs : List BlockPortDescriptor
  parameters : List BlockParameterDescriptor
  deriving DecidableEq

/-- What a provider of a catalog throws: its load error, another
`std::exception`, or anything else.
mirrors include/gr4cp/catalog/block_catalog_provider.hpp:10-13 -/
inductive ProviderExn where
  | loadError (what : Str)
  | std
  | other
  deriving DecidableEq, Repr

end Gr4cp.Domain

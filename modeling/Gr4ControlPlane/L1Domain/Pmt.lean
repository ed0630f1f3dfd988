import Gr4ControlPlane.Core.Bytes
import Gr4ControlPlane.Core.Assoc

/-!
# GNU Radio property maps

`gr::pmt::Value` is a variant over scalars, strings, nested property maps and
tensors of values. The control plane only asks a value whether it is a
string, a property map or a tensor of values, and builds null, bool,
`int64`, `double`, string and map values; every other alternative (complex
numbers, numeric tensors) is `other`. The signed and the unsigned integer
alternatives are held at 64 bits, the floating-point ones as the bits of a
double.

A property map is an association list (`Core.Assoc`). The YAML reader and
writer are not part of the repository; `Yaml` is the pair of functions the
code calls.
-/
namespace Gr4cp.Domain

open Gr4cp.Core

inductive Value where
  | null
  | bool (b : Bool)
  | int (i : Int64)
  | uint (u : UInt64)
  | float (d : Double)
  | str (s : Str)
  | map (m : List (Str × Value))
  | tensor (ts : List Value)
  | other (n : Nat)
  deriving Repr

abbrev PropertyMap := List (Str × Value)

namespace Value

mutual

def beq : Value → Value → Bool
  | .null, .null => true
  | .bool a, .bool b => a == b
  | .int a, .int b => a == b
  | .uint a, .uint b => a == b
  | .float a, .float b => a == b
  | .str a, .str b => a == b
  | .map a, .map b => beqMap a b
  | .tensor a, .tensor b => beqList a b
  | .other a, .other b => a == b
  | _, _ => false

def beqMap : List (Str × Value) → List (Str × Value) → Bool
  | [], [] => true
  | (k, v) :: a, (k', v') :: b => k == k' && beq v v' && beqMap a b
  | _, _ => false

def beqList : List Value → List Value → Bool
  | [], [] => true
  | v :: a, v' :: b => beq v v' && beqList a b
  | _, _ => false

end

mutual

theorem beq_iff : ∀ a b : Value, beq a b = true ↔ a = b
  | .null, b | .bool _, b | .int _, b | .uint _, b | .float _, b | .str _, b | .other _, b => by
    cases b <;> simp [beq]
  | .map m, b => by cases b <;> simp [beq, beqMap_iff m]
  | .tensor ts, b => by cases b <;> simp [beq, beqList_iff ts]

theorem beqMap_iff : ∀ a b : List (Str × Value), beqMap a b = true ↔ a = b
  | [], b => by cases b <;> simp [beqMap]
  | (k, v) :: a, [] => by simp [beqMap]
  | (k, v) :: a, (k', v') :: b => by simp [beqMap, beq_iff v v', beqMap_iff a b]

theorem beqList_iff : ∀ a b : List Value, beqList a b = true ↔ a = b
  | [], b => by cases b <;> simp [beqList]
  | v :: a, [] => by simp [beqList]
  | v :: a, v' :: b => by simp [beqList, beq_iff v v', beqList_iff a b]

end

instance : DecidableEq Value := fun a b => decidable_of_iff _ (beq_iff a b)

end Value

/-- `gr::pmt::yaml::deserialize` and `serialize`. -/
structure Yaml where
  deserialize : Str → Option PropertyMap
  serialize : PropertyMap → Str

/-- The string a value holds, if it holds one.
mirrors src/domain/session_stream.cpp:18-29 and
src/runtime/gr4_runtime_manager.cpp:309-320 -/
def valueToString : Value → Option Str
  | .str s => some s
  | _ => none

/-- `value.get_if<gr::property_map>()` -/
def getMap : Value → Option PropertyMap
  | .map m => some m
  | _ => none

/-- `value.get_if<gr::Tensor<gr::pmt::Value>>()` -/
def getTensor : Value → Option (List Value)
  | .tensor ts => some ts
  | _ => none

end Gr4cp.Domain

import Mathlib.Data.Nat.Pairing
import Mathlib.Logic.Function.Basic
import Gr4ControlPlane.L1Domain.Pmt

/-!
# A text for every property map

The code assumes of the YAML library that what it writes it reads back as
the same map. Here is one writer of which that can be said: every value has
a number of its own (`valueCode_inj`), so every map has a text of its own
(`mapText_injective`), and `readingBack` reads it. Beside its own texts it
reads one given text, as one given map.
-/
namespace Gr4cp.Domain

open Gr4cp.Core

def strCode : Str → Nat
  | [] => 0
  | c :: s => Nat.pair c.toNat (strCode s) + 1

mutual

/-- A number of its own for each value. -/
def valueCode : Value → Nat
  | .null => Nat.pair 0 0
  | .bool b => Nat.pair 1 b.toNat
  | .int i => Nat.pair 2 i.toBitVec.toNat
  | .uint u => Nat.pair 3 u.toNat
  | .float d => Nat.pair 4 d.bits.toNat
  | .str s => Nat.pair 5 (strCode s)
  | .map m => Nat.pair 6 (mapCode m)
  | .tensor ts => Nat.pair 7 (tensorCode ts)
  | .other n => Nat.pair 8 n

def mapCode : List (Str × Value) → Nat
  | [] => 0
  | (k, v) :: m => Nat.pair (Nat.pair (strCode k) (valueCode v)) (mapCode m) + 1

def tensorCode : List Value → Nat
  | [] => 0
  | v :: ts => Nat.pair (valueCode v) (tensorCode ts) + 1

end

theorem strCode_inj : ∀ {a b : Str}, strCode a = strCode b → a = b
  | [], [], _ => rfl
  | [], _ :: _, h | _ :: _, [], h => by simp [strCode] at h
  | c :: a, d :: b, h => by
    simp only [strCode, Nat.add_right_cancel_iff, Nat.pair_eq_pair] at h
    rw [UInt8.toNat_inj.1 h.1, strCode_inj h.2]

mutual

theorem valueCode_inj : ∀ {a b : Value}, valueCode a = valueCode b → a = b
  | .null, b, h => by cases b <;> simp_all [valueCode]
  | .bool x, b, h => by
    cases b <;> simp [valueCode] at h ⊢
    rename_i y
    cases x <;> cases y <;> simp_all
  | .int x, b, h => by
    cases b <;> simp [valueCode] at h ⊢
    exact Int64.toBitVec_inj.1 (BitVec.eq_of_toNat_eq h)
  | .uint x, b, h => by
    cases b <;> simp [valueCode] at h ⊢
    exact UInt64.toNat_inj.1 h
  | .float x, b, h => by
    cases b <;> simp [valueCode] at h ⊢
    rename_i d
    obtain ⟨bits⟩ := x
    obtain ⟨bits'⟩ := d
    exact congrArg Double.mk (UInt64.toNat_inj.1 h)
  | .str s, b, h => by
    cases b <;> simp [valueCode] at h ⊢
    exact strCode_inj h
  | .map m, b, h => by
    cases b <;> simp [valueCode] at h ⊢
    exact mapCode_inj h
  | .tensor ts, b, h => by
    cases b <;> simp [valueCode] at h ⊢
    exact tensorCode_inj h
  | .other n, b, h => by
    cases b <;> simp [valueCode] at h ⊢
    exact h

theorem mapCode_inj : ∀ {a b : List (Str × Value)}, mapCode a = mapCode b → a = b
  | [], [], _ => rfl
  | [], _ :: _, h | _ :: _, [], h => by simp [mapCode] at h
  | (k, v) :: a, (k', v') :: b, h => by
    simp only [mapCode, Nat.add_right_cancel_iff, Nat.pair_eq_pair] at h
    rw [strCode_inj h.1.1, valueCode_inj h.1.2, mapCode_inj h.2]

theorem tensorCode_inj : ∀ {a b : List Value}, tensorCode a = tensorCode b → a = b
  | [], [], _ => rfl
  | [], _ :: _, h | _ :: _, [], h => by simp [tensorCode] at h
  | v :: a, v' :: b, h => by
    simp only [tensorCode, Nat.add_right_cancel_iff, Nat.pair_eq_pair] at h
    rw [valueCode_inj h.1, tensorCode_inj h.2]

end

/-- A text for each map. -/
def mapText (m : PropertyMap) : Str := List.replicate (mapCode m) (chr '#')

theorem mapText_injective : Function.Injective mapText := fun a b h =>
  mapCode_inj (by simpa [mapText] using congrArg List.length h)

/-- Reads `text` as `graph`, and what it writes itself. -/
noncomputable def readingBack (text : Str) (graph : PropertyMap) : Yaml where
  deserialize t := if t = text then some graph else Function.partialInv mapText t
  serialize := mapText

theorem readingBack_reads (text : Str) (graph : PropertyMap) :
    (readingBack text graph).deserialize text = some graph := by
  simp [readingBack]

/-- The texts it writes hold one character only. -/
theorem readingBack_lawful {text : Str} {c : UInt8} (hmem : c ∈ text) (hc : c ≠ chr '#')
    (graph m : PropertyMap) :
    (readingBack text graph).deserialize ((readingBack text graph).serialize m) = some m := by
  have hne : mapText m ≠ text := by
    intro h
    rw [← h] at hmem
    exact hc (List.eq_of_mem_replicate hmem)
  simp only [readingBack, if_neg hne]
  exact Function.partialInv_left mapText_injective m

end Gr4cp.Domain

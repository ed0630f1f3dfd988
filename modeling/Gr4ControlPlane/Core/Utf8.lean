import Gr4ControlPlane.Core.Bytes

/-!
# UTF-8

Which byte strings are UTF-8 (no overlong form, no surrogate, nothing above
`U+10FFFF`), as a scan that remembers which bytes the sequence it is in may
still take.

An ASCII byte never lies inside a sequence, so a string is UTF-8 exactly
when the two parts around such a byte are (`valid_append_ascii`).
-/
namespace Gr4cp.Core.Utf8

/-- The bytes one place behind a first byte allows; never an ASCII one. -/
structure Tail where
  lo : UInt8
  hi : UInt8
  high : 0x80 ≤ lo

def anyTail : Tail := ⟨0x80, 0xBF, by decide⟩

/-- What follows a first byte; `none` when no sequence starts with it. -/
def tailsOf (b : UInt8) : Option (List Tail) :=
  if b < 0x80 then some []
  else if b < 0xC2 then none
  else if b < 0xE0 then some [anyTail]
  else if b = 0xE0 then some [⟨0xA0, 0xBF, by decide⟩, anyTail]
  else if b = 0xED then some [⟨0x80, 0x9F, by decide⟩, anyTail]
  else if b < 0xF0 then some [anyTail, anyTail]
  else if b = 0xF0 then some [⟨0x90, 0xBF, by decide⟩, anyTail, anyTail]
  else if b < 0xF4 then some [anyTail, anyTail, anyTail]
  else if b = 0xF4 then some [⟨0x80, 0x8F, by decide⟩, anyTail, anyTail]
  else none

/-- One byte, with the places of the current sequence still to fill. -/
def step : List Tail → UInt8 → Option (List Tail)
  | [], b => tailsOf b
  | t :: tails, b => if t.lo ≤ b ∧ b ≤ t.hi then some tails else none

def validFrom : List Tail → Str → Bool
  | tails, [] => tails.isEmpty
  | tails, b :: s =>
    match step tails b with
    | none => false
    | some tails' => validFrom tails' s

def valid (s : Str) : Bool := validFrom [] s

def isAscii (b : UInt8) : Bool := decide (b < 0x80)

theorem step_ascii {b : UInt8} (h : isAscii b = true) : step [] b = some [] := by
  simp only [isAscii, decide_eq_true_eq] at h
  simp [step, tailsOf, h]

/-- In the middle of a sequence there is no ASCII byte. -/
theorem step_tail_ascii {b : UInt8} (h : isAscii b = true) (t : Tail) (tails : List Tail) :
    step (t :: tails) b = none := by
  simp only [isAscii, decide_eq_true_eq] at h
  have hlo : ¬ t.lo ≤ b := by
    have := t.high
    simp only [UInt8.le_iff_toNat_le, UInt8.lt_iff_toNat_lt] at *
    omega
  simp [step, hlo]

theorem validFrom_append_ascii {c : UInt8} (hc : isAscii c = true) (b : Str) :
    ∀ (a : Str) (tails : List Tail),
      validFrom tails (a ++ c :: b) = (validFrom tails a && valid b) := by
  intro a
  induction a with
  | nil =>
    intro tails
    cases tails with
    | nil => simp [validFrom, step_ascii hc, valid]
    | cons t tails => simp [validFrom, step_tail_ascii hc]
  | cons x a ih =>
    intro tails
    simp only [List.cons_append, validFrom]
    cases step tails x with
    | none => rfl
    | some tails' => exact ih tails'

theorem valid_append_ascii {c : UInt8} (hc : isAscii c = true) (a b : Str) :
    valid (a ++ c :: b) = (valid a && valid b) :=
  validFrom_append_ascii hc b a []

theorem valid_cons_ascii {c : UInt8} (hc : isAscii c = true) (s : Str) :
    valid (c :: s) = valid s := by
  simp [valid, validFrom, step_ascii hc]

theorem valid_ascii_append {a : Str} (ha : a.all isAscii = true) (b : Str) :
    valid (a ++ b) = valid b := by
  induction a with
  | nil => rfl
  | cons c a ih =>
    simp only [List.all_cons, Bool.and_eq_true] at ha
    rw [List.cons_append, valid_cons_ascii ha.1, ih ha.2]

/-! ## C strings -/

/-- A character of a fixed text. -/
def isPlain (b : UInt8) : Bool := isAscii b && b != 0

theorem valid_cString_plain_append {a : Str} (ha : a.all isPlain = true) (b : Str) :
    valid (cString (a ++ b)) = valid (cString b) := by
  have hplain : ∀ c ∈ a, isAscii c = true ∧ c ≠ 0 := by simpa [isPlain] using ha
  have hnul : 0 ∉ a := fun h => (hplain 0 h).2 rfl
  rw [cString_append_of_no_nul hnul,
    valid_ascii_append (List.all_eq_true.2 fun c hc => (hplain c hc).1)]

/-- What follows a NUL does not matter. -/
theorem valid_cString_append_plain {c : UInt8} (hc : isPlain c = true) (a b : Str) :
    valid (cString (a ++ c :: b)) = true ↔
      valid (cString a) = true ∧ (0 ∉ a → valid (cString b) = true) := by
  simp only [isPlain, Bool.and_eq_true, bne_iff_ne] at hc
  by_cases hnul : 0 ∈ a
  · simp [cString_append_of_nul hnul, hnul]
  · have hcut : cString (c :: b) = c :: cString b := by
      have hone : 0 ∉ [c] := by simpa using hc.2.symm
      exact cString_append_of_no_nul hone b
    rw [cString_append_of_no_nul hnul, hcut, valid_append_ascii hc.1, cString_eq_self hnul]
    simp [hnul]

end Gr4cp.Core.Utf8

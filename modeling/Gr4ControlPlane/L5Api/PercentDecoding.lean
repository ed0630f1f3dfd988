import Mathlib.Algebra.Group.Int.Defs
import Gr4ControlPlane.Core.Bytes

/-!
# Percent decoding (`decode_percent_encoded`, `api/http_server.cpp`)

The decoder hands the two characters behind a `%` to `std::stoi`, which
skips a leading blank, accepts a sign, stops at the first character that is
no digit, and throws when it has read none. A `%` with fewer than two
characters behind it is kept, and a `+` is a space.

* `decode_returns_iff`: the decoder returns exactly when every escape it
  comes to starts with something `std::stoi` can read.
* `decode_eq_self_iff`: it leaves a text as it is exactly when there is no
  `+`, and no `%` with two characters behind it.
-/
namespace Gr4cp.Api

open Gr4cp.Core

/-- What may be thrown while a connection is handled. -/
inductive Thrown where
  | invalidArgument
  | outOfRange
  /-- `nlohmann::json::type_error` 316 -/
  | invalidUtf8
  deriving DecidableEq, Repr

/-! ## `std::stoi` in base 16 -/

/-- `std::isspace` in the C locale. -/
def isSpace (c : UInt8) : Bool := c == 0x20 || (0x09 ≤ c && c ≤ 0x0D)

def isSign (c : UInt8) : Bool := c == chr '+' || c == chr '-'

def isHexDigit (c : UInt8) : Bool :=
  (chr '0' ≤ c && c ≤ chr '9') || (chr 'a' ≤ c && c ≤ chr 'f') || (chr 'A' ≤ c && c ≤ chr 'F')

def hexValue (c : UInt8) : Nat :=
  if c ≤ chr '9' then c.toNat - (chr '0').toNat
  else if c ≤ chr 'F' then c.toNat - (chr 'A').toNat + 10
  else c.toNat - (chr 'a').toNat + 10

/-- The sign, if there is one, and what follows it. -/
def takeSign : Str → Bool × Str
  | [] => (false, [])
  | c :: s => if isSign c then (c == chr '-', s) else (false, c :: s)

/-- The prefix `0x` is dropped when a digit follows it. -/
def dropHexPrefix : Str → Str
  | z :: x :: d :: s =>
    if z == chr '0' && (x == chr 'x' || x == chr 'X') && isHexDigit d then d :: s
    else z :: x :: d :: s
  | s => s

/-- What `std::stoi` reads: whether there is a minus, and the digits. -/
def scanHex (s : Str) : Bool × Str :=
  let (negative, s) := takeSign (s.dropWhile isSpace)
  (negative, (dropHexPrefix s).takeWhile isHexDigit)

/-- `std::stoi(s, nullptr, 16)` -/
def stoi16 (s : Str) : Except Thrown Int :=
  let (negative, digits) := scanHex s
  if digits.isEmpty then .error .invalidArgument
  else
    let magnitude := digits.foldl (fun n c => 16 * n + hexValue c) 0
    let value : Int := if negative then -magnitude else magnitude
    if value < -2 ^ 31 ∨ 2 ^ 31 ≤ value then .error .outOfRange else .ok value

theorem space_not_hex {c : UInt8} (h : isSpace c = true) : isHexDigit c = false := by
  simp only [isSpace, isHexDigit, chr] at *
  grind

theorem sign_not_hex {c : UInt8} (h : isSign c = true) : isHexDigit c = false := by
  simp only [isSign, isHexDigit, chr] at *
  grind

theorem hexValue_le {c : UInt8} (h : isHexDigit c = true) : hexValue c ≤ 15 := by
  simp only [isHexDigit, hexValue, chr, UInt8.le_iff_toNat_le, Bool.or_eq_true, Bool.and_eq_true,
    decide_eq_true_eq] at *
  have h0 : (UInt8.ofNat '0'.toNat).toNat = 48 := rfl
  have h9 : (UInt8.ofNat '9'.toNat).toNat = 57 := rfl
  have ha : (UInt8.ofNat 'a'.toNat).toNat = 97 := rfl
  have hf : (UInt8.ofNat 'f'.toNat).toNat = 102 := rfl
  have hA : (UInt8.ofNat 'A'.toNat).toNat = 65 := rfl
  have hF : (UInt8.ofNat 'F'.toNat).toNat = 70 := rfl
  simp only [h0, h9, ha, hf, hA, hF] at h ⊢
  split
  · omega
  · split <;> omega

/-- Two characters that `std::stoi` can read: a digit, or a blank or a sign
and then a digit. -/
def readable (c₁ c₂ : UInt8) : Bool :=
  isHexDigit c₁ || ((isSpace c₁ || isSign c₁) && isHexDigit c₂)

theorem scanHex_one (c : UInt8) : (scanHex [c]).2 = if isHexDigit c then [c] else [] := by
  cases hspace : isSpace c with
  | true => simp [scanHex, hspace, takeSign, dropHexPrefix, space_not_hex hspace]
  | false =>
    cases hsign : isSign c with
    | true => simp [scanHex, hspace, hsign, takeSign, dropHexPrefix, sign_not_hex hsign]
    | false =>
      cases hhex : isHexDigit c <;>
        simp [scanHex, hspace, hsign, hhex, takeSign, dropHexPrefix]

/-- What is read of two characters. -/
theorem scanHex_two (c₁ c₂ : UInt8) :
    (scanHex [c₁, c₂]).2 =
      if isHexDigit c₁ then c₁ :: (if isHexDigit c₂ then [c₂] else [])
      else if (isSpace c₁ || isSign c₁) && isHexDigit c₂ then [c₂] else [] := by
  cases hspace : isSpace c₁ with
  | true =>
    have hdrop : scanHex [c₁, c₂] = scanHex [c₂] := by simp [scanHex, hspace]
    rw [hdrop, scanHex_one]
    simp [space_not_hex hspace]
  | false =>
    cases hsign : isSign c₁ with
    | true =>
      cases hhex : isHexDigit c₂ <;>
        simp [scanHex, hspace, hsign, hhex, takeSign, dropHexPrefix, sign_not_hex hsign]
    | false =>
      cases hhex₁ : isHexDigit c₁ <;> cases hhex₂ : isHexDigit c₂ <;>
        simp [scanHex, hspace, hsign, hhex₁, hhex₂, takeSign, dropHexPrefix]

/-- The number of at most two digits is in range. -/
theorem stoi16_of_digits {s : Str} (hne : (scanHex s).2 ≠ [])
    (hlt : (scanHex s).2.foldl (fun n c => 16 * n + hexValue c) 0 < 256) :
    ∃ value, stoi16 s = .ok value := by
  unfold stoi16
  generalize scanHex s = scanned at *
  obtain ⟨negative, digits⟩ := scanned
  have hempty : digits.isEmpty = false := by simpa using hne
  simp only [hempty, Bool.false_eq_true, if_false]
  refine ⟨_, if_neg ?_⟩
  dsimp only at hlt
  cases negative
  · simp only [Bool.false_eq_true, if_false]
    omega
  · simp only [if_true]
    omega

theorem stoi16_readable {c₁ c₂ : UInt8} (h : readable c₁ c₂ = true) :
    ∃ value, stoi16 [c₁, c₂] = .ok value := by
  have hscan := scanHex_two c₁ c₂
  simp only [readable, Bool.or_eq_true] at h
  cases hhex₁ : isHexDigit c₁ with
  | true =>
    have hle₁ := hexValue_le hhex₁
    simp only [hhex₁, if_true] at hscan
    split at hscan
    · rename_i hhex₂
      have hle₂ := hexValue_le hhex₂
      refine stoi16_of_digits (by simp [hscan]) ?_
      simp only [hscan, List.foldl]
      omega
    · refine stoi16_of_digits (by simp [hscan]) ?_
      simp only [hscan, List.foldl]
      omega
  | false =>
    have h₂ : ((isSpace c₁ || isSign c₁) && isHexDigit c₂) = true := by simpa [hhex₁] using h
    have hle₂ := hexValue_le (Bool.and_eq_true_iff.1 h₂).2
    simp only [hhex₁, h₂, Bool.false_eq_true, if_false, if_true] at hscan
    refine stoi16_of_digits (by simp [hscan]) ?_
    simp only [hscan, List.foldl]
    omega

theorem stoi16_unreadable {c₁ c₂ : UInt8} (h : readable c₁ c₂ = false) :
    stoi16 [c₁, c₂] = .error .invalidArgument := by
  simp only [readable, Bool.or_eq_false_iff] at h
  have hscan := scanHex_two c₁ c₂
  simp only [h.1, h.2, Bool.false_eq_true, if_false] at hscan
  simp [stoi16, hscan]

/-! ## The decoder -/

/-- What becomes of a character outside an escape. -/
def plain (ch : UInt8) : UInt8 := if ch = chr '+' then chr ' ' else ch

/-- The cast of the number to `char` keeps its low eight bits.
mirrors src/api/http_server.cpp:298-315 -/
def decodePercentEncoded : Str → Except Thrown Str
  | ch :: c₁ :: c₂ :: rest =>
    if ch = chr '%' then
      match stoi16 [c₁, c₂] with
      | .error e => .error e
      | .ok byte => (decodePercentEncoded rest).map (UInt8.ofInt byte :: ·)
    else (decodePercentEncoded (c₁ :: c₂ :: rest)).map (plain ch :: ·)
  | rest => .ok (rest.map plain)

/-- Every escape the decoder comes to can be read. -/
def readableEscapes : Str → Bool
  | ch :: c₁ :: c₂ :: rest =>
    if ch = chr '%' then readable c₁ c₂ && readableEscapes rest
    else readableEscapes (c₁ :: c₂ :: rest)
  | _ => true

theorem decode_throws {s : Str} (h : readableEscapes s = false) :
    decodePercentEncoded s = .error .invalidArgument := by
  fun_induction readableEscapes s with
  | case1 c₁ c₂ rest ih =>
    rw [decodePercentEncoded, if_pos rfl]
    cases hread : readable c₁ c₂ with
    | false => rw [stoi16_unreadable hread]
    | true =>
      obtain ⟨byte, hbyte⟩ := stoi16_readable hread
      rw [hbyte, ih (by simpa [hread] using h)]
      rfl
  | case2 ch c₁ c₂ rest hch ih =>
    rw [decodePercentEncoded, if_neg hch, ih h]
    rfl
  | case3 => cases h

theorem decode_returns {s : Str} (h : readableEscapes s = true) :
    ∃ out, decodePercentEncoded s = .ok out := by
  fun_induction readableEscapes s with
  | case1 c₁ c₂ rest ih =>
    obtain ⟨hread, hrest⟩ := Bool.and_eq_true_iff.1 h
    obtain ⟨byte, hbyte⟩ := stoi16_readable hread
    obtain ⟨out, hout⟩ := ih hrest
    exact ⟨_, by rw [decodePercentEncoded, if_pos rfl, hbyte, hout]; rfl⟩
  | case2 ch c₁ c₂ rest hch ih =>
    obtain ⟨out, hout⟩ := ih h
    exact ⟨_, by rw [decodePercentEncoded, if_neg hch, hout]; rfl⟩
  | case3 rest hrest => exact ⟨rest.map plain, by rw [decodePercentEncoded]; exact hrest⟩

theorem decode_returns_iff (s : Str) :
    (∃ out, decodePercentEncoded s = .ok out) ↔ readableEscapes s = true := by
  refine ⟨fun ⟨out, hout⟩ => ?_, decode_returns⟩
  cases h : readableEscapes s with
  | true => rfl
  | false =>
    rw [decode_throws h] at hout
    cases hout

/-! ## Texts it leaves alone -/

theorem decode_length_le {s out : Str} (h : decodePercentEncoded s = .ok out) :
    out.length ≤ s.length := by
  fun_induction decodePercentEncoded s generalizing out with
  | case1 c₁ c₂ rest e he => cases h
  | case2 c₁ c₂ rest byte hbyte ih =>
    cases hrest : decodePercentEncoded rest with
    | error e => simp [hrest, Except.map] at h
    | ok out' =>
      simp only [hrest, Except.map, Except.ok.injEq] at h
      have := ih hrest
      subst h
      simp only [List.length_cons]
      omega
  | case3 ch c₁ c₂ rest hch ih =>
    cases hrest : decodePercentEncoded (c₁ :: c₂ :: rest) with
    | error e => simp [hrest, Except.map] at h
    | ok out' =>
      simp only [hrest, Except.map, Except.ok.injEq] at h
      have := ih hrest
      subst h
      simp only [List.length_cons] at *
      omega
  | case4 rest hrest =>
    simp only [Except.ok.injEq] at h
    simp [← h]

theorem plain_eq_self_iff (ch : UInt8) : plain ch = ch ↔ ch ≠ chr '+' := by
  unfold plain
  split
  · rename_i h
    subst h
    decide
  · simpa

theorem map_plain_eq_self_iff (s : Str) : s.map plain = s ↔ chr '+' ∉ s := by
  induction s with
  | nil => simp
  | cons ch s ih =>
    simp only [List.map_cons, List.cons.injEq, plain_eq_self_iff, ih, List.mem_cons, not_or, ne_eq,
      @eq_comm _ ch]

/-- A text without `+`, and without a `%` that two characters follow. -/
def keepsLiteral (s : Str) : Prop := chr '+' ∉ s ∧ chr '%' ∉ s.take (s.length - 2)

theorem decode_eq_self_iff (s : Str) : decodePercentEncoded s = .ok s ↔ keepsLiteral s := by
  match s with
  | ch :: c₁ :: c₂ :: rest =>
    have htake : (ch :: c₁ :: c₂ :: rest).take ((ch :: c₁ :: c₂ :: rest).length - 2) =
        ch :: (c₁ :: c₂ :: rest).take ((c₁ :: c₂ :: rest).length - 2) := by
      simp
    rw [keepsLiteral, htake]
    by_cases hch : ch = chr '%'
    · subst hch
      refine ⟨fun h => ?_, fun h => absurd h.2 (by simp)⟩
      -- an escape makes the text shorter
      rw [decodePercentEncoded, if_pos rfl] at h
      split at h
      · cases h
      · rename_i byte _
        cases hrest : decodePercentEncoded rest with
        | error e => simp [hrest, Except.map] at h
        | ok out =>
          have hlen := decode_length_le hrest
          simp only [hrest, Except.map, Except.ok.injEq] at h
          have := congrArg List.length h
          simp only [List.length_cons] at this
          omega
    · have ih := decode_eq_self_iff (c₁ :: c₂ :: rest)
      rw [decodePercentEncoded, if_neg hch]
      constructor
      · intro h
        cases hrest : decodePercentEncoded (c₁ :: c₂ :: rest) with
        | error e => simp [hrest, Except.map] at h
        | ok out =>
          simp only [hrest, Except.map, Except.ok.injEq, List.cons.injEq] at h
          obtain ⟨hplain, rfl⟩ := h
          have hself := ih.1 hrest
          have hplus := (plain_eq_self_iff ch).1 hplain
          exact ⟨List.not_mem_cons_of_ne_of_not_mem hplus.symm hself.1,
            List.not_mem_cons_of_ne_of_not_mem (Ne.symm hch) hself.2⟩
      · rintro ⟨hplus, hpercent⟩
        simp only [List.mem_cons, not_or] at hplus hpercent
        have hself := ih.2 ⟨by simpa using hplus.2, hpercent.2⟩
        have hplain := (plain_eq_self_iff ch).2 fun he => hplus.1 he.symm
        rw [hself, Except.map, hplain]
  | [] | [_] | [_, _] =>
    simp only [decodePercentEncoded, Except.ok.injEq, map_plain_eq_self_iff, keepsLiteral]
    simp

end Gr4cp.Api

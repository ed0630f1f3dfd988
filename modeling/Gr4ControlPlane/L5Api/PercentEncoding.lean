import Gr4ControlPlane.L5Api.PercentDecoding

/-!
# Percent encoding and escapes (`decode_percent_encoded`)

A client writes an id into a path with `url_encode`; the server takes it out
again with `decode_percent_encoded`. What a client wrote comes back
(`decode_urlEncode`), whatever bytes the id holds.

An escape that is not two hexadecimal digits is another matter: `std::stoi`
reads a blank or a sign in front of a digit, and stops behind a first digit,
so `%1g` becomes the byte 1 and the `g` is gone. `decode_strict_iff`: the
decoder keeps to the escape grammar exactly when every escape it comes to is
two digits, or one of them is nothing `std::stoi` can read.
-/
namespace Gr4cp.Api

open Gr4cp.Core

/-! ## One character at a time -/

/-- A character that starts no escape. -/
theorem decode_cons_ne {ch : UInt8} (h : ch ≠ chr '%') (rest : Str) :
    decodePercentEncoded (ch :: rest) = (decodePercentEncoded rest).map (plain ch :: ·) := by
  cases rest with
  | nil => rfl
  | cons c₁ rest =>
    cases rest with
    | nil => rfl
    | cons c₂ rest => rw [decodePercentEncoded, if_neg h]

/-- The number two hexadecimal digits stand for. -/
def hexByte (c₁ c₂ : UInt8) : Nat := 16 * hexValue c₁ + hexValue c₂

theorem scanHex_digit {c₁ : UInt8} (h : isHexDigit c₁ = true) (c₂ : UInt8) :
    (scanHex [c₁, c₂]).1 = false := by
  have hspace : isSpace c₁ = false := by
    cases hs : isSpace c₁ with
    | false => rfl
    | true => rw [space_not_hex hs] at h; cases h
  have hsign : isSign c₁ = false := by
    cases hs : isSign c₁ with
    | false => rfl
    | true => rw [sign_not_hex hs] at h; cases h
  simp [scanHex, hspace, takeSign, hsign]

theorem stoi16_hexByte {c₁ c₂ : UInt8} (h₁ : isHexDigit c₁ = true) (h₂ : isHexDigit c₂ = true) :
    stoi16 [c₁, c₂] = .ok (hexByte c₁ c₂) := by
  have hscan : scanHex [c₁, c₂] = (false, [c₁, c₂]) := by
    apply Prod.ext (scanHex_digit h₁ c₂)
    rw [scanHex_two, if_pos h₁, if_pos h₂]
  have hle₁ := hexValue_le h₁
  have hle₂ := hexValue_le h₂
  simp only [stoi16, hscan, List.isEmpty_cons, Bool.false_eq_true, if_false, List.foldl, hexByte]
  rw [if_neg (by omega)]
  simp

/-- The cast of a number that is not negative. -/
theorem ofInt_natCast (n : Nat) : UInt8.ofInt n = UInt8.ofNat n := by
  apply UInt8.toNat_inj.1
  have hmod : ((n : Int) % 2 ^ 8).toNat = n % 2 ^ 8 := by omega
  rw [UInt8.ofInt, hmod, UInt8.toNat_ofNat', UInt8.toNat_ofNat', Nat.mod_mod]

/-- An escape of two digits gives their byte. -/
theorem decode_escape {c₁ c₂ : UInt8} (h₁ : isHexDigit c₁ = true) (h₂ : isHexDigit c₂ = true)
    (rest : Str) :
    decodePercentEncoded (chr '%' :: c₁ :: c₂ :: rest) =
      (decodePercentEncoded rest).map (UInt8.ofNat (hexByte c₁ c₂) :: ·) := by
  rw [decodePercentEncoded, if_pos rfl, stoi16_hexByte h₁ h₂]
  simp only [ofInt_natCast]

/-! ## What a client writes -/

/-- A hexadecimal digit, in upper case. -/
def hexDigitUpper (n : Nat) : UInt8 :=
  if n < 10 then chr '0' + UInt8.ofNat n else chr 'A' + UInt8.ofNat (n - 10)

def isUnreserved (ch : UInt8) : Bool :=
  (chr 'A' ≤ ch && ch ≤ chr 'Z') || (chr 'a' ≤ ch && ch ≤ chr 'z') ||
    (chr '0' ≤ ch && ch ≤ chr '9') || ch == chr '-' || ch == chr '_' || ch == chr '.' ||
    ch == chr '~'

def urlEncodeChar (ch : UInt8) : Str :=
  if isUnreserved ch then [ch]
  else [chr '%', hexDigitUpper (ch.toNat / 16), hexDigitUpper (ch.toNat % 16)]

/-- mirrors src/test/http_api_test.cpp:678-691 -/
def urlEncode (value : Str) : Str := value.flatMap urlEncodeChar

theorem hexDigitUpper_reads : ∀ n < 16,
    isHexDigit (hexDigitUpper n) = true ∧ hexValue (hexDigitUpper n) = n := by
  decide

theorem plain_unreserved {ch : UInt8} (h : isUnreserved ch = true) :
    ch ≠ chr '%' ∧ plain ch = ch := by
  rw [plain_eq_self_iff]
  constructor
  · intro hch
    subst hch
    exact absurd h (by decide)
  · intro hch
    subst hch
    exact absurd h (by decide)

/-- One written character is read back, whatever follows. -/
theorem decode_urlEncodeChar (ch : UInt8) (rest : Str) :
    decodePercentEncoded (urlEncodeChar ch ++ rest) =
      (decodePercentEncoded rest).map (ch :: ·) := by
  unfold urlEncodeChar
  split
  · rename_i hch
    obtain ⟨hne, hplain⟩ := plain_unreserved hch
    rw [List.singleton_append, decode_cons_ne hne, hplain]
  · have hlt : ch.toNat < 256 := ch.toNat_lt
    obtain ⟨hhigh, hhighValue⟩ := hexDigitUpper_reads (ch.toNat / 16) (by omega)
    obtain ⟨hlow, hlowValue⟩ := hexDigitUpper_reads (ch.toNat % 16) (by omega)
    have hbyte : hexByte (hexDigitUpper (ch.toNat / 16)) (hexDigitUpper (ch.toNat % 16)) =
        ch.toNat := by
      rw [hexByte, hhighValue, hlowValue]
      omega
    simp only [List.cons_append, List.nil_append]
    rw [decode_escape hhigh hlow, hbyte, UInt8.ofNat_toNat]

theorem decode_urlEncode (value : Str) : decodePercentEncoded (urlEncode value) = .ok value := by
  induction value with
  | nil => rfl
  | cons ch value ih =>
    show decodePercentEncoded (urlEncodeChar ch ++ urlEncode value) = _
    rw [decode_urlEncodeChar, ih]
    rfl

theorem urlEncode_inj {a b : Str} (h : urlEncode a = urlEncode b) : a = b := by
  have ha := decode_urlEncode a
  rw [h, decode_urlEncode b] at ha
  exact (Except.ok.inj ha).symm

/-- **Encoded ids come back.** For every byte string: decoding what
`url_encode` writes returns it, so two paths that differ in the id only are
the same exactly when the ids are. -/
theorem encoded_ids_come_back :
    (∀ id, decodePercentEncoded (urlEncode id) = .ok id) ∧
    ∀ (route a b : Str), route ++ urlEncode a = route ++ urlEncode b ↔ a = b := by
  refine ⟨decode_urlEncode, fun route a b => ?_⟩
  constructor
  · intro h
    exact urlEncode_inj (List.append_cancel_left h)
  · intro h
    rw [h]

/-- A block id with a template argument, and one that is no text. -/
example : urlEncode (str "A<b+c>%" ++ [0xFF]) = str "A%3Cb%2Bc%3E%25%FF" := by decide +kernel

/-! ## The escape grammar -/

/-- `s` starts with two hexadecimal digits. -/
def hexPair : Str → Bool
  | c₁ :: c₂ :: _ => isHexDigit c₁ && isHexDigit c₂
  | _ => false

/-- Some `%` in `s` is not followed by two hexadecimal digits. -/
def Malformed (s : Str) : Prop := ∃ before after, s = before ++ chr '%' :: after ∧ ¬ hexPair after

/-- The decoding by the grammar: from left to right, `%HH` is a byte, and any
other `%` stays. -/
def strictDecode : Str → Str
  | ch :: c₁ :: c₂ :: rest =>
    if ch = chr '%' ∧ hexPair (c₁ :: c₂ :: rest) then
      UInt8.ofNat (hexByte c₁ c₂) :: strictDecode rest
    else plain ch :: strictDecode (c₁ :: c₂ :: rest)
  | rest => rest.map plain

/-- Every `%` the decoder takes for an escape has two hexadecimal digits
behind it. -/
def properEscapes : Str → Bool
  | ch :: c₁ :: c₂ :: rest =>
    if ch = chr '%' then hexPair (c₁ :: c₂ :: rest) && properEscapes rest
    else properEscapes (c₁ :: c₂ :: rest)
  | _ => true

/-- The decoder keeps to the grammar on `s`: it decodes as the grammar says,
or rejects a text that has a malformed escape. -/
def KeepsToGrammar (s : Str) : Prop :=
  decodePercentEncoded s = .ok (strictDecode s) ∨
    Malformed s ∧ ∃ e, decodePercentEncoded s = .error e

theorem Malformed.cons {s : Str} (h : Malformed s) (ch : UInt8) : Malformed (ch :: s) := by
  obtain ⟨before, after, rfl, hafter⟩ := h
  exact ⟨ch :: before, after, rfl, hafter⟩

/-- What cannot be read is malformed. -/
theorem malformed_of_unreadable {s : Str} (h : readableEscapes s = false) : Malformed s := by
  fun_induction readableEscapes s with
  | case1 c₁ c₂ rest ih =>
    cases hpair : hexPair (c₁ :: c₂ :: rest) with
    | false => exact ⟨[], _, rfl, by simp [hpair]⟩
    | true =>
      have hread : readable c₁ c₂ = true := by
        simp only [hexPair, Bool.and_eq_true] at hpair
        simp [readable, hpair.1]
      rw [hread, Bool.true_and] at h
      exact ((ih h).cons c₂).cons c₁ |>.cons _
  | case2 ch c₁ c₂ rest hch ih => exact (ih h).cons ch
  | case3 => cases h

theorem decode_of_proper {s : Str} (h : properEscapes s = true) :
    decodePercentEncoded s = .ok (strictDecode s) := by
  fun_induction properEscapes s with
  | case1 c₁ c₂ rest ih =>
    obtain ⟨hpair, hrest⟩ := Bool.and_eq_true_iff.1 h
    obtain ⟨h₁, h₂⟩ := Bool.and_eq_true_iff.1 hpair
    rw [decode_escape h₁ h₂, ih hrest, strictDecode, if_pos ⟨rfl, hpair⟩]
    rfl
  | case2 ch c₁ c₂ rest hch ih =>
    rw [decode_cons_ne hch, ih h, strictDecode, if_neg fun hc => hch hc.1]
    rfl
  | case3 rest hrest =>
    rw [decodePercentEncoded, strictDecode]
    · exact hrest
    · exact hrest

/-- One digit is read, with or without a sign: the byte is no `%`. -/
theorem stoi16_improper {c₁ c₂ : UInt8} {byte : Int}
    (h : (isHexDigit c₁ && isHexDigit c₂) = false) (hbyte : stoi16 [c₁, c₂] = .ok byte) :
    UInt8.ofInt byte ≠ chr '%' := by
  have hdigit : ∃ c, isHexDigit c = true ∧ (scanHex [c₁, c₂]).2 = [c] := by
    rw [scanHex_two]
    cases hhex₁ : isHexDigit c₁ with
    | true =>
      have hhex₂ : isHexDigit c₂ = false := by simpa [hhex₁] using h
      exact ⟨c₁, hhex₁, by simp [hhex₂]⟩
    | false =>
      cases hread : readable c₁ c₂ with
      | false =>
        rw [stoi16_unreadable hread] at hbyte
        cases hbyte
      | true =>
        simp only [readable, hhex₁, Bool.false_or] at hread
        exact ⟨c₂, (Bool.and_eq_true_iff.1 hread).2, by simp [hread]⟩
  obtain ⟨c, hc, hdigits⟩ := hdigit
  have hle := hexValue_le hc
  have hrange : -15 ≤ byte ∧ byte ≤ 15 := by
    unfold stoi16 at hbyte
    generalize scanHex [c₁, c₂] = scanned at hbyte hdigits
    obtain ⟨negative, digits⟩ := scanned
    simp only at hdigits
    subst hdigits
    simp only [List.isEmpty_cons, Bool.false_eq_true, if_false, List.foldl] at hbyte
    cases negative
    · simp only [Bool.false_eq_true, if_false] at hbyte
      rw [if_neg (by omega)] at hbyte
      have hvalue := Except.ok.inj hbyte
      omega
    · simp only [if_true] at hbyte
      rw [if_neg (by omega)] at hbyte
      have hvalue := Except.ok.inj hbyte
      omega
  intro heq
  have hval := congrArg UInt8.toNat heq
  rw [UInt8.ofInt, UInt8.toNat_ofNat', show (chr '%').toNat = 37 from rfl] at hval
  omega

theorem proper_of_strict {s : Str} (h : decodePercentEncoded s = .ok (strictDecode s)) :
    properEscapes s = true := by
  fun_induction properEscapes s with
  | case1 c₁ c₂ rest ih =>
    rw [decodePercentEncoded, if_pos rfl] at h
    cases hbyte : stoi16 [c₁, c₂] with
    | error e =>
      rw [hbyte] at h
      cases h
    | ok byte =>
      cases hrest : decodePercentEncoded rest with
      | error e =>
        rw [hbyte, hrest] at h
        cases h
      | ok out =>
        simp only [hbyte, hrest, Except.map, Except.ok.injEq] at h
        cases hpair : hexPair (c₁ :: c₂ :: rest) with
        | false =>
          -- the grammar keeps the `%` here, the decoder has another byte
          rw [strictDecode, if_neg (by simp [hpair])] at h
          exact absurd (List.cons.inj h).1 (stoi16_improper hpair hbyte)
        | true =>
          rw [strictDecode, if_pos ⟨rfl, hpair⟩] at h
          rw [Bool.true_and]
          apply ih
          rw [hrest, (List.cons.inj h).2]
  | case2 ch c₁ c₂ rest hch ih =>
    rw [decode_cons_ne hch, strictDecode, if_neg fun hc => hch hc.1] at h
    apply ih
    cases hrest : decodePercentEncoded (c₁ :: c₂ :: rest) with
    | error e =>
      rw [hrest] at h
      cases h
    | ok out =>
      simp only [hrest, Except.map, Except.ok.injEq] at h
      rw [(List.cons.inj h).2]
  | case3 => rfl

/-- **The escape grammar, exactly.** For every text: the decoder decodes by
the grammar, or rejects a text with a malformed escape, if and only if every
escape it comes to is two hexadecimal digits or one of them cannot be read
by `std::stoi`. -/
theorem decode_strict_iff (s : Str) :
    KeepsToGrammar s ↔ properEscapes s = true ∨ readableEscapes s = false := by
  constructor
  · intro h
    obtain hstrict | hthrows := h
    · exact .inl (proper_of_strict hstrict)
    · obtain ⟨-, e, he⟩ := hthrows
      right
      cases hread : readableEscapes s with
      | false => rfl
      | true =>
        obtain ⟨out, hout⟩ := decode_returns hread
        rw [hout] at he
        cases he
  · intro h
    obtain hproper | hunread := h
    · exact .inl (decode_of_proper hproper)
    · exact .inr ⟨malformed_of_unreadable hunread, _, decode_throws hunread⟩

/-- `%1g` becomes the byte 1, and the `g` is gone. -/
theorem escape_swallows : ¬ KeepsToGrammar (str "%1g") := by
  have hdecode : decodePercentEncoded (str "%1g") = .ok [1] := rfl
  intro h
  unfold KeepsToGrammar at h
  rw [hdecode] at h
  obtain hstrict | hthrows := h
  · exact absurd (Except.ok.inj hstrict) (by decide +kernel)
  · obtain ⟨-, e, he⟩ := hthrows
    cases he

end Gr4cp.Api

import Gr4ControlPlane.L3Runtime.PortTokens
import Gr4ControlPlane.L5Api.PercentDecoding

/-!
# Server URLs of the CLI (`parse_url`, `cli/cli.cpp`)

The text behind `http://` is cut at its last `:`, and what follows it goes
to `std::stoi`. That skips blanks, takes a sign, stops at the first
character that is no digit and says nothing of the rest, so more URLs are
accepted than the form `http://host:port` allows.

* `stoi_eq_some`, `stoi_of_reads`: what `std::stoi` reads, and as which
  number.
* `parseUrl_eq_ok`, `parseUrl_ok`: a URL is accepted exactly when it has a
  host and `std::stoi` reads something behind the last `:`.
-/
namespace Gr4cp.Cli

open Gr4cp.Core
open Gr4cp.Runtime (isDigit allDigits decimal allDigits_mem allDigits_ne_nil)
open Gr4cp.Api (isSpace isSign takeSign)

/-! ## `std::stoi` in base 10 -/

/-- The number that a sign and digits denote. -/
def signed (negative : Bool) (digits : Str) : Int :=
  if negative then -(decimal digits : Int) else decimal digits

/-- It is an `int`. -/
def IntRange (n : Int) : Prop := -2147483648 ≤ n ∧ n ≤ 2147483647

instance (n : Int) : Decidable (IntRange n) := inferInstanceAs (Decidable (_ ∧ _))

/-- `std::stoi(s)`; `none` is a throw. -/
def stoi (s : Str) : Option Int32 :=
  let (negative, s) := takeSign (s.dropWhile isSpace)
  let digits := s.takeWhile isDigit
  if digits.isEmpty then none
  else if IntRange (signed negative digits) then some (Int32.ofInt (signed negative digits))
  else none

/-- What `std::stoi` takes a text apart into: blanks, a sign, digits, and a
rest that starts with no digit. -/
structure Reads (text blanks sign digits rest : Str) : Prop where
  text_eq : text = blanks ++ sign ++ digits ++ rest
  blanks_space : ∀ c ∈ blanks, isSpace c = true
  sign_eq : sign = [] ∨ sign = str "+" ∨ sign = str "-"
  all_digits : allDigits digits = true
  rest_stops : ∀ c s, rest = c :: s → isDigit c = false
  in_range : IntRange (signed (sign == str "-") digits)

theorem digit_not_space {c : UInt8} (h : isDigit c = true) : isSpace c = false := by
  simp only [isSpace, isDigit, chr] at *
  grind

theorem digit_not_sign {c : UInt8} (h : isDigit c = true) : isSign c = false := by
  simp only [isSign, isDigit, chr] at *
  grind

theorem takeSign_digits {digits rest : Str} (h : allDigits digits = true) :
    takeSign (digits ++ rest) = (false, digits ++ rest) := by
  obtain ⟨d, ds, rfl⟩ := List.exists_cons_of_ne_nil (allDigits_ne_nil h)
  have hd := digit_not_sign (allDigits_mem h (List.mem_cons_self ..))
  simp [takeSign, hd]

/-- The sign is taken where there is one. -/
theorem takeSign_of_sign {sign digits rest : Str}
    (hsign : sign = [] ∨ sign = str "+" ∨ sign = str "-") (h : allDigits digits = true) :
    takeSign (sign ++ digits ++ rest) = (sign == str "-", digits ++ rest) := by
  obtain rfl | rfl | rfl := hsign
  · exact takeSign_digits h
  · rfl
  · rfl

/-- Neither a sign nor a digit is a blank. -/
theorem dropWhile_space {blanks sign digits rest : Str} (hblanks : ∀ c ∈ blanks, isSpace c = true)
    (hsign : sign = [] ∨ sign = str "+" ∨ sign = str "-") (h : allDigits digits = true) :
    (blanks ++ sign ++ digits ++ rest).dropWhile isSpace = sign ++ digits ++ rest := by
  have hstop : (sign ++ digits ++ rest).dropWhile isSpace = sign ++ digits ++ rest := by
    obtain ⟨d, ds, rfl⟩ := List.exists_cons_of_ne_nil (allDigits_ne_nil h)
    have hd := digit_not_space (allDigits_mem h (List.mem_cons_self ..))
    obtain rfl | rfl | rfl := hsign
    · exact List.dropWhile_cons_of_neg (by simp [hd])
    · rfl
    · rfl
  rw [List.append_assoc, List.append_assoc, List.dropWhile_append_of_pos hblanks,
    ← List.append_assoc, hstop]

theorem takeWhile_digits {digits rest : Str} (h : allDigits digits = true)
    (hrest : ∀ c s, rest = c :: s → isDigit c = false) :
    (digits ++ rest).takeWhile isDigit = digits := by
  rw [List.takeWhile_append_of_pos fun c hc => allDigits_mem h hc]
  cases rest with
  | nil => simp
  | cons c s => simp [hrest c s rfl]

theorem stoi_of_reads {text blanks sign digits rest : Str}
    (h : Reads text blanks sign digits rest) :
    stoi text = some (Int32.ofInt (signed (sign == str "-") digits)) := by
  have hdigits : digits.isEmpty = false := by
    simpa using allDigits_ne_nil h.all_digits
  unfold stoi
  rw [h.text_eq, dropWhile_space h.blanks_space h.sign_eq h.all_digits,
    takeSign_of_sign h.sign_eq h.all_digits]
  simp only
  rw [takeWhile_digits h.all_digits h.rest_stops, hdigits, if_pos h.in_range]
  rfl

theorem takeSign_split (s : Str) :
    ∃ sign, (sign = [] ∨ sign = str "+" ∨ sign = str "-") ∧
      s = sign ++ (takeSign s).2 ∧ (takeSign s).1 = (sign == str "-") := by
  cases s with
  | nil => exact ⟨[], Or.inl rfl, rfl, rfl⟩
  | cons c s =>
    cases hc : isSign c with
    | false =>
      have htake : takeSign (c :: s) = (false, c :: s) := by
        simp [takeSign, hc]
      rw [htake]
      exact ⟨[], Or.inl rfl, rfl, rfl⟩
    | true =>
      have hpm : c = chr '+' ∨ c = chr '-' := by
        simpa [isSign] using hc
      obtain rfl | rfl := hpm
      · exact ⟨str "+", Or.inr (Or.inl rfl), rfl, rfl⟩
      · exact ⟨str "-", Or.inr (Or.inr rfl), rfl, rfl⟩

theorem stoi_eq_some {text : Str} {n : Int32} (h : stoi text = some n) :
    ∃ blanks sign digits rest, Reads text blanks sign digits rest := by
  obtain ⟨sign, hsign, hsplit, hneg⟩ := takeSign_split (text.dropWhile isSpace)
  unfold stoi at h
  simp only at h
  generalize (takeSign (text.dropWhile isSpace)).2 = number at hsplit h
  split at h
  · cases h
  · rename_i hne
    split at h
    · rename_i hrange
      refine ⟨text.takeWhile isSpace, sign, number.takeWhile isDigit, number.dropWhile isDigit,
        ?_, ?_, hsign, ?_, ?_, hneg ▸ hrange⟩
      · rw [List.append_assoc, List.takeWhile_append_dropWhile, List.append_assoc, ← hsplit,
          List.takeWhile_append_dropWhile]
      · intro c hc
        exact List.all_eq_true.1 List.all_takeWhile c hc
      · rw [allDigits, List.all_takeWhile, Bool.and_true, Bool.not_eq_true']
        simpa using hne
      · intro c s hrest
        exact dropWhile_head hrest
    · cases h

/-! ## `parse_url` -/

/-- What the CLI throws, its own errors and those of the libraries; the text
is `what()`. -/
inductive Thrown where
  | cliError (what : Str)
  | other (what : Str)
  deriving DecidableEq

/-- mirrors src/cli/cli.cpp:23-27 -/
structure ParsedUrl where
  scheme : Str := str "http"
  host : Str := []
  port : Int32 := 80
  deriving DecidableEq

/-- mirrors src/cli/cli.cpp:49-75 -/
def parseUrl (url : Str) : Except Thrown ParsedUrl :=
  if !(str "http://").isPrefixOf url then .error (.cliError (str "only http:// URLs are supported"))
  else
    let hostPort := url.drop (str "http://").length
    if hostPort.isEmpty then .error (.cliError (str "server URL must include a host"))
    else
      match Str.findLast (· == chr ':') hostPort with
      | none => .error (.cliError (str "server URL must be in the form http://host:port"))
      | some colon =>
        if colon = 0 ∨ colon = hostPort.length - 1 then
          .error (.cliError (str "server URL must be in the form http://host:port"))
        else
          match stoi (hostPort.drop (colon + 1)) with
          | none => .error (.cliError (str "server URL port must be numeric"))
          | some port => .ok { host := hostPort.take colon, port := port }

theorem parseUrl_error {url : Str} {e : Thrown} (h : parseUrl url = .error e) :
    ∃ what, e = .cliError what := by
  unfold parseUrl at h
  simp only at h
  split at h
  · exact ⟨_, (Except.error.inj h).symm⟩
  · split at h
    · exact ⟨_, (Except.error.inj h).symm⟩
    · split at h
      · exact ⟨_, (Except.error.inj h).symm⟩
      · split at h
        · exact ⟨_, (Except.error.inj h).symm⟩
        · split at h
          · exact ⟨_, (Except.error.inj h).symm⟩
          · cases h

theorem stoi_ne_nil {text : Str} {n : Int32} (h : stoi text = some n) : text ≠ [] := by
  intro hnil
  subst hnil
  cases h

/-- A URL with a host and a number behind the last `:` is accepted. -/
theorem parseUrl_ok {host text : Str} {n : Int32} (hhost : host ≠ []) (hcolon : chr ':' ∉ text)
    (hn : stoi text = some n) :
    parseUrl (str "http://" ++ host ++ str ":" ++ text) = .ok { host := host, port := n } := by
  have htext := List.length_pos_of_ne_nil (stoi_ne_nil hn)
  have hpos := List.length_pos_of_ne_nil hhost
  have hsplit : str "http://" ++ host ++ str ":" ++ text =
      str "http://" ++ (host ++ chr ':' :: text) := by
    simp only [List.append_assoc]
    rfl
  have hprefix : (str "http://").isPrefixOf (str "http://" ++ (host ++ chr ':' :: text)) = true :=
    List.isPrefixOf_iff_prefix.2 (List.prefix_append ..)
  have hlast := Str.findLast_byte hcolon host
  have hedges : ¬(host.length = 0 ∨ host.length = (host ++ chr ':' :: text).length - 1) := by
    simp only [List.length_append, List.length_cons]
    omega
  have hfull : (host ++ chr ':' :: text).isEmpty = false := by
    simp
  unfold parseUrl
  rw [hsplit, hprefix]
  simp only [Bool.not_true, Bool.false_eq_true, if_false, List.drop_left]
  rw [hfull, hlast]
  simp only [Bool.false_eq_true, if_false]
  rw [if_neg hedges, List.drop_append, List.drop_eq_nil_of_le (by omega), List.nil_append,
    show host.length + 1 - host.length = 1 by omega, List.drop_succ_cons, List.drop_zero, hn,
    List.take_left]

theorem parseUrl_eq_ok {url : Str} {parsed : ParsedUrl} (h : parseUrl url = .ok parsed) :
    ∃ host text, url = str "http://" ++ host ++ str ":" ++ text ∧ host ≠ [] ∧ chr ':' ∉ text ∧
      stoi text = some parsed.port ∧ parsed = { host := host, port := parsed.port } := by
  unfold parseUrl at h
  simp only at h
  split at h
  · cases h
  · rename_i hprefix
    rw [Bool.not_eq_true, Bool.not_eq_false'] at hprefix
    obtain ⟨hostPort, rfl⟩ := List.isPrefixOf_iff_prefix.1 hprefix
    rw [List.drop_left] at h
    split at h
    · cases h
    · split at h
      · cases h
      · rename_i colon hlast
        obtain ⟨host, c, text, rfl, rfl, hc, htext⟩ := Str.findLast_eq_some hlast
        obtain rfl : c = chr ':' := by simpa using hc
        split at h
        · cases h
        · rename_i hedges
          rw [List.drop_append, List.drop_eq_nil_of_le (by omega), List.nil_append,
            show host.length + 1 - host.length = 1 by omega, List.drop_succ_cons, List.drop_zero,
            List.take_left] at h
          have hhost : host ≠ [] := by
            intro hnil
            exact hedges (Or.inl (by simp [hnil]))
          have hcolon : chr ':' ∉ text := by
            intro hmem
            simpa using htext _ hmem
          split at h
          · cases h
          · rename_i port hport
            obtain rfl := Except.ok.inj h
            refine ⟨host, text, ?_, hhost, hcolon, hport, rfl⟩
            simp only [List.append_assoc]
            rfl

end Gr4cp.Cli

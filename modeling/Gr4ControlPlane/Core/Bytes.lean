/-!
# Byte strings

A `std::string` is a sequence of bytes with no encoding attached, so text
that comes from the network or from an author is a list of bytes here.
`str` gives the bytes of an ASCII literal. `find` and `substr` follow
`std::string_view`: `find` returns the first position at or after `pos`,
and `substr` throws when `pos` is past the end.
-/
namespace Gr4cp.Core

abbrev Str := List UInt8

/-- The bytes of an ASCII literal. -/
def str (s : String) : Str := s.toList.map fun c => UInt8.ofNat c.toNat

/-- The byte of an ASCII character. -/
def chr (c : Char) : UInt8 := UInt8.ofNat c.toNat

/-- `std::to_string` of a number that is not negative. -/
def natStr (n : Nat) : Str := (Nat.toDigits 10 n).map chr

/-- A hexadecimal digit, in lower case. -/
def hexDigit (n : Nat) : UInt8 :=
  if n < 10 then chr '0' + UInt8.ofNat n else chr 'a' + UInt8.ofNat (n - 10)

/-- What is left of a text that is handed on as a C string, as an exception's
is by `what()`: the bytes in front of the first NUL. -/
def cString (s : Str) : Str := s.takeWhile (· != 0)

theorem cString_append_of_nul {a : Str} (h : 0 ∈ a) (b : Str) : cString (a ++ b) = cString a := by
  induction a with
  | nil => cases h
  | cons c a ih =>
    unfold cString at ih ⊢
    by_cases hc : c = 0
    · subst hc
      rfl
    · have ha : 0 ∈ a := by
        obtain heq | ha := List.mem_cons.1 h
        · exact absurd heq.symm hc
        · exact ha
      simp [hc, ih ha]

theorem cString_append_of_no_nul {a : Str} (h : 0 ∉ a) (b : Str) :
    cString (a ++ b) = a ++ cString b := by
  refine List.takeWhile_append_of_pos fun c hc => ?_
  have hne : c ≠ 0 := fun h0 => h (h0 ▸ hc)
  simpa using hne

theorem cString_eq_self {s : Str} (h : 0 ∉ s) : cString s = s := by
  have := cString_append_of_no_nul h []
  rwa [List.append_nil, show cString [] = [] from rfl, List.append_nil] at this

theorem nul_not_mem_cString (s : Str) : 0 ∉ cString s := by
  intro h
  have hall := List.all_eq_true.1 (List.all_takeWhile (p := (· != 0)) (l := s)) 0 h
  cases hall

theorem cString_cString (s : Str) : cString (cString s) = cString s :=
  cString_eq_self (nul_not_mem_cString s)

theorem dropWhile_head {p : UInt8 → Bool} {s rest : Str} {c : UInt8}
    (h : s.dropWhile p = c :: rest) : p c = false := by
  have hhead := List.head?_dropWhile_not p s
  rw [h] at hhead
  simpa using hhead

/-- A `double`, by its bits. -/
structure Double where
  bits : UInt64
  deriving DecidableEq, Repr

namespace Str

/-- Position of the first occurrence of `pat` in `s`, counted from `i`. -/
def findFrom (pat : Str) : Str → Nat → Option Nat
  | [], i => if pat.isPrefixOf [] then some i else none
  | c :: s, i => if pat.isPrefixOf (c :: s) then some i else findFrom pat s (i + 1)

/-- `s.find(pat, pos)`; `none` is `npos`. -/
def find (s pat : Str) (pos : Nat) : Option Nat :=
  if pos ≤ s.length then findFrom pat (s.drop pos) pos else none

/-- `s.substr(pos, count)`; `none` is `std::out_of_range`. -/
def substr (s : Str) (pos count : Nat) : Option Str :=
  if pos ≤ s.length then some ((s.drop pos).take count) else none

/-- Position of the last byte with `p`: `s.rfind(c)` and
`s.find_last_not_of(..)`. -/
def findLast (p : UInt8 → Bool) : Str → Option Nat
  | [] => none
  | c :: s =>
    match findLast p s with
    | some i => some (i + 1)
    | none => if p c then some 0 else none

/-- `operator<=` of `std::string`. -/
def le : Str → Str → Bool
  | [], _ => true
  | _ :: _, [] => false
  | a :: s, b :: t => if a = b then le s t else decide (a < b)

/-- `operator<` of `std::string`. -/
def lt (s t : Str) : Bool := !le t s

theorem found_at_start {pat s : Str} {i j : Nat} (hpat : pat.isPrefixOf s = true)
    (h : some i = some j) : ∃ a b, s = a ++ pat ++ b ∧ j = i + a.length := by
  obtain ⟨b, hb⟩ := List.isPrefixOf_iff_prefix.1 hpat
  refine ⟨[], b, by simpa using hb.symm, ?_⟩
  simpa using h.symm

/-- What is found is there. -/
theorem findFrom_eq_some {pat s : Str} {i j : Nat} (h : findFrom pat s i = some j) :
    ∃ a b, s = a ++ pat ++ b ∧ j = i + a.length := by
  induction s generalizing i with
  | nil =>
    simp only [findFrom] at h
    split at h
    · rename_i hpat
      exact found_at_start hpat h
    · cases h
  | cons c s ih =>
    simp only [findFrom] at h
    split at h
    · rename_i hpat
      exact found_at_start hpat h
    · obtain ⟨a, b, rfl, rfl⟩ := ih h
      refine ⟨c :: a, b, rfl, ?_⟩
      simp only [List.length_cons]
      omega

/-- What is there is found. -/
theorem findFrom_of_infix {pat s : Str} (h : pat <:+: s) (i : Nat) :
    ∃ j, findFrom pat s i = some j := by
  induction s generalizing i with
  | nil =>
    obtain rfl := List.infix_nil.1 h
    exact ⟨i, rfl⟩
  | cons c s ih =>
    unfold findFrom
    split
    · exact ⟨i, rfl⟩
    · rename_i hpat
      obtain hpre | hin := List.infix_cons_iff.1 h
      · exact absurd (List.isPrefixOf_iff_prefix.2 hpre) hpat
      · exact ih hin (i + 1)

theorem findLast_eq_none {p : UInt8 → Bool} {s : Str} :
    findLast p s = none ↔ ∀ c ∈ s, p c = false := by
  induction s with
  | nil => simp [findLast]
  | cons x s ih =>
    rw [findLast, List.forall_mem_cons]
    cases hs : findLast p s with
    | some i => simp [← ih, hs]
    | none =>
      have hrest := ih.1 hs
      simp only [ite_eq_right_iff, reduceCtorEq, imp_false, Bool.not_eq_true]
      exact ⟨fun hx => ⟨hx, hrest⟩, And.left⟩

/-- The last byte is the one with none behind it. -/
theorem findLast_append {p : UInt8 → Bool} {c : UInt8} {b : Str} (hc : p c = true)
    (hb : ∀ x ∈ b, p x = false) (a : Str) : findLast p (a ++ c :: b) = some a.length := by
  induction a with
  | nil => simp [findLast, findLast_eq_none.2 hb, hc]
  | cons x a ih => simp [findLast, ih]

/-- `rfind` of a byte that does not come again. -/
theorem findLast_byte {c : UInt8} {b : Str} (hc : c ∉ b) (a : Str) :
    findLast (· == c) (a ++ c :: b) = some a.length := by
  apply findLast_append (p := (· == c)) (beq_self_eq_true c)
  intro x hx
  rw [beq_eq_false_iff_ne]
  intro heq
  exact hc (heq ▸ hx)

theorem findLast_append_of_some {p : UInt8 → Bool} {s : Str} {i : Nat}
    (h : findLast p s = some i) (a : Str) : findLast p (a ++ s) = some (a.length + i) := by
  induction a with
  | nil => simpa using h
  | cons x a ih =>
    simp only [List.cons_append, findLast, ih, List.length_cons, Option.some.injEq]
    omega

theorem findLast_eq_some {p : UInt8 → Bool} {s : Str} {i : Nat} (h : findLast p s = some i) :
    ∃ a c b, s = a ++ c :: b ∧ a.length = i ∧ p c = true ∧ ∀ x ∈ b, p x = false := by
  induction s generalizing i with
  | nil => cases h
  | cons x s ih =>
    unfold findLast at h
    split at h
    · rename_i j hj
      obtain ⟨a, c, b, rfl, rfl, hc, hb⟩ := ih hj
      refine ⟨x :: a, c, b, rfl, ?_, hc, hb⟩
      simpa using h
    · rename_i hnone
      split at h
      · rename_i hx
        exact ⟨[], x, s, rfl, by simpa using h, hx, findLast_eq_none.1 hnone⟩
      · cases h

/-- `find` from the start finds what is there, and only that. -/
theorem find_isSome_iff {s pat : Str} : (find s pat 0).isSome = true ↔ pat <:+: s := by
  unfold find
  rw [if_pos (Nat.zero_le _), List.drop_zero, Option.isSome_iff_exists]
  refine ⟨?_, fun h => findFrom_of_infix h 0⟩
  intro h
  obtain ⟨i, hi⟩ := h
  obtain ⟨a, b, rfl, _⟩ := findFrom_eq_some hi
  exact ⟨a, b, rfl⟩

/-- A pattern is found at its first byte when that byte is not in front of
it. -/
theorem findFrom_append {c : UInt8} {a : Str} (ha : c ∉ a) (pat b : Str) (i : Nat) :
    findFrom (c :: pat) (a ++ c :: (pat ++ b)) i = some (i + a.length) := by
  induction a generalizing i with
  | nil => simp [findFrom, List.isPrefixOf_iff_prefix]
  | cons x a ih =>
    simp only [List.mem_cons, not_or] at ha
    have hx : (c == x) = false := by simpa using ha.1
    simp only [List.cons_append, findFrom, List.isPrefixOf, hx, Bool.false_and, Bool.false_eq_true,
      if_false, ih ha.2, List.length_cons, Option.some.injEq]
    omega

/-! ## Patterns across the parts of a text -/

/-- A pattern does not reach across a byte that it does not have. -/
theorem infix_append_sep {pat a b : Str} {c : UInt8} (hc : c ∉ pat) :
    pat <:+: a ++ c :: b ↔ pat <:+: a ∨ pat <:+: b := by
  refine ⟨?_, ?_⟩
  · intro h
    obtain h | h | ⟨u, v, rfl, hu, hv⟩ := List.infix_append_iff.1 h
    · exact Or.inl h
    · obtain h | h := List.infix_cons_iff.1 h
      · cases pat with
        | nil => exact Or.inl List.nil_infix
        | cons x pat =>
          obtain ⟨rfl, _⟩ := List.cons_prefix_cons.1 h
          exact absurd (List.mem_cons_self ..) hc
      · exact Or.inr h
    · cases v with
      | nil => exact Or.inl (by simpa using hu.isInfix)
      | cons x v =>
        obtain ⟨rfl, _⟩ := List.cons_prefix_cons.1 hv
        exact absurd (List.mem_append_right u (List.mem_cons_self ..)) hc
  · intro h
    obtain h | h := h
    · exact List.infix_append_of_infix_left h
    · exact List.infix_append_of_infix_right (List.infix_cons h)

/-- A pattern is not in front of its first byte. -/
theorem infix_append_of_head {pat a b : Str} {c : UInt8} (hc : c ∉ a) :
    c :: pat <:+: a ++ b ↔ c :: pat <:+: b := by
  refine ⟨?_, List.infix_append_of_infix_right⟩
  intro h
  obtain h | h | ⟨u, v, huv, hu, hv⟩ := List.infix_append_iff.1 h
  · exact absurd (h.subset (List.mem_cons_self ..)) hc
  · exact h
  · cases u with
    | nil =>
      obtain rfl : c :: pat = v := huv
      exact hv.isInfix
    | cons x u =>
      obtain ⟨rfl, _⟩ := List.cons.inj huv
      exact absurd (hu.subset (List.mem_cons_self ..)) hc

/-- A pattern of which no end starts the rest is within what is before it. -/
theorem infix_append_of_no_end {pat a b : Str}
    (h : ∀ v, v <:+ pat → v ≠ [] → ¬v <+: b) (hb : ¬pat <:+: b) :
    pat <:+: a ++ b ↔ pat <:+: a := by
  refine ⟨?_, List.infix_append_of_infix_left⟩
  intro hin
  obtain hin | hin | ⟨u, v, rfl, hu, hv⟩ := List.infix_append_iff.1 hin
  · exact hin
  · exact absurd hin hb
  · cases v with
    | nil => simpa using hu.isInfix
    | cons x v => exact absurd hv (h _ (List.suffix_append u _) (List.cons_ne_nil x v))

end Str

end Gr4cp.Core

/-!
# Patterns of texts with captures

The patterns of a route table: characters that stand for themselves, and
runs of one or more characters of a class, which are captured. `Matches` says
what a pattern matches, with what captures; `capture` looks for a match as a
backtracking matcher does, the longest run first.

* `capture_iff`: for a pattern that is `clear`, the matcher finds the one way
  it matches.
* `apart_sound`: two patterns that are `apart` match no text in common; both
  are decided by looking at the patterns.
* `route_iff`: a table of such patterns routes a text to the one entry that
  matches it.
-/
namespace Gr4cp.Core.PathPattern

/-- `C` is a type of character classes, whose members `mem` tells. -/
inductive Piece (A C : Type) where
  | char (a : A)
  | run (c : C)
  deriving DecidableEq

abbrev Pattern (A C : Type) := List (Piece A C)

variable {A C : Type}

/-- The text `t`. -/
def literal (t : List A) : Pattern A C := t.map .char

section Matching

variable (mem : C → A → Bool)

inductive Matches : Pattern A C → List A → List (List A) → Prop
  | nil : Matches [] [] []
  | char {a : A} {p : Pattern A C} {s : List A} {caps : List (List A)} (h : Matches p s caps) :
      Matches (.char a :: p) (a :: s) caps
  | run {c : C} {p : Pattern A C} {w s : List A} {caps : List (List A)} (hne : w ≠ [])
      (hw : ∀ a ∈ w, mem c a = true) (h : Matches p s caps) :
      Matches (.run c :: p) (w ++ s) (w :: caps)

/-- The text the pattern matches with these captures. -/
def fill : Pattern A C → List (List A) → List A
  | .char a :: p, caps => a :: fill p caps
  | .run _ :: p, cap :: caps => cap ++ fill p caps
  | _, _ => []

def Fits : Pattern A C → List (List A) → Prop
  | [], [] => True
  | .char _ :: p, caps => Fits p caps
  | .run c :: p, cap :: caps => cap ≠ [] ∧ (∀ a ∈ cap, mem c a = true) ∧ Fits p caps
  | _, _ => False

/-- A run of the class ends where the pattern goes on. -/
def stops (c : C) : Pattern A C → Bool
  | [] => true
  | .char a :: _ => !mem c a
  | .run _ :: _ => false

def isChar : Piece A C → Bool
  | .char _ => true
  | .run _ => false

/-- Where a run ends can be told from what follows it, or from its distance
to the end of the text. -/
def clear : Pattern A C → Bool
  | [] => true
  | .char _ :: p => clear p
  | .run c :: p => (stops mem c p || p.all isChar) && clear p

variable {mem}

@[simp] theorem fill_literal (t : List A) (p : Pattern A C) (caps : List (List A)) :
    fill (literal t ++ p) caps = t ++ fill p caps := by
  induction t with
  | nil => rfl
  | cons a t ih => exact congrArg (a :: ·) ih

@[simp] theorem fits_literal {t : List A} {p : Pattern A C} {caps : List (List A)} :
    Fits mem (literal t ++ p) caps ↔ Fits mem p caps := by
  induction t with
  | nil => rfl
  | cons a t ih => exact ih

@[simp] theorem fill_literal_end (t : List A) (caps : List (List A)) :
    fill (literal t : Pattern A C) caps = t := by
  induction t with
  | nil => cases caps <;> rfl
  | cons a t ih => exact congrArg (a :: ·) ih

@[simp] theorem fits_literal_end {t : List A} {caps : List (List A)} :
    Fits mem (literal t) caps ↔ caps = [] := by
  induction t with
  | nil => cases caps <;> simp [literal, Fits]
  | cons a t ih => exact ih

/-- A pattern matches what its captures fill it to. -/
theorem matches_iff {p : Pattern A C} {s : List A} {caps : List (List A)} :
    Matches mem p s caps ↔ Fits mem p caps ∧ s = fill p caps := by
  constructor
  · intro h
    induction h with
    | nil => exact ⟨trivial, rfl⟩
    | char _ ih => exact ⟨ih.1, congrArg _ ih.2⟩
    | run hne hw _ ih => exact ⟨⟨hne, hw, ih.1⟩, congrArg _ ih.2⟩
  · rintro ⟨hfits, rfl⟩
    induction p generalizing caps with
    | nil =>
      cases caps with
      | nil => exact .nil
      | cons => cases hfits
    | cons piece p ih =>
      cases piece with
      | char a => exact .char (ih hfits)
      | run c =>
        cases caps with
        | nil => cases hfits
        | cons cap caps => exact .run hfits.1 hfits.2.1 (ih hfits.2.2)

theorem matches_ne_nil {piece : Piece A C} {p : Pattern A C} {caps : List (List A)}
    (h : Matches mem (piece :: p) [] caps) : False := by
  generalize hs : ([] : List A) = s at h
  cases h with
  | char => cases hs
  | run hne => exact hne (List.append_eq_nil_iff.1 hs.symm).1

/-- A pattern that ends in a character matches texts that end in it. -/
theorem matches_snoc {p : Pattern A C} {a : A} {s : List A} {caps : List (List A)}
    (h : Matches mem (p ++ [.char a]) s caps) :
    ∃ s', s = s' ++ [a] ∧ Matches mem p s' caps := by
  induction p generalizing s caps with
  | nil =>
    cases h with
    | char h =>
      cases h
      exact ⟨[], rfl, .nil⟩
  | cons piece p ih =>
    rw [List.cons_append] at h
    cases h with
    | char h =>
      obtain ⟨s', rfl, hs'⟩ := ih h
      exact ⟨_ :: s', rfl, .char hs'⟩
    | run hne hw h =>
      obtain ⟨s', rfl, hs'⟩ := ih h
      exact ⟨_, (List.append_assoc _ _ _).symm, .run hne hw hs'⟩

theorem takeWhile_of_stops {c : C} {p : Pattern A C} {w s : List A} {caps : List (List A)}
    (hw : ∀ a ∈ w, mem c a = true) (h : Matches mem p s caps) (hstops : stops mem c p = true) :
    (w ++ s).takeWhile (mem c) = w := by
  rw [List.takeWhile_append_of_pos hw]
  cases h with
  | nil => simp
  | @char a _ _ _ _ =>
    have ha : mem c a = false := by simpa [stops] using hstops
    simp [ha]
  | run => cases hstops

theorem length_of_chars {p : Pattern A C} {s : List A} {caps : List (List A)}
    (h : Matches mem p s caps) (hp : p.all isChar = true) : s.length = p.length := by
  induction h with
  | nil => rfl
  | char _ ih => simpa using ih (by simpa [isChar] using hp)
  | run => simp [isChar] at hp

theorem matches_unique {p : Pattern A C} {s : List A} {caps caps' : List (List A)}
    (hclear : clear mem p = true) (h : Matches mem p s caps) (h' : Matches mem p s caps') :
    caps = caps' := by
  induction p generalizing s caps caps' with
  | nil =>
    cases h
    cases h'
    rfl
  | cons piece p ih =>
    cases piece with
    | char a =>
      cases h with
      | char h =>
        cases h' with
        | char h' => exact ih hclear h h'
    | run c =>
      simp only [clear, Bool.and_eq_true, Bool.or_eq_true] at hclear
      obtain ⟨hends, hclear⟩ := hclear
      generalize hs : s = text at h'
      cases h with
      | @run _ _ w rest caps hne hw h =>
        cases h' with
        | @run _ _ w' rest' caps' hne' hw' h' =>
          have hlen : w.length = w'.length := by
            obtain hstops | hchars := hends
            · have hw₁ := takeWhile_of_stops hw h hstops
              have hw₂ := takeWhile_of_stops hw' h' hstops
              rw [hs, hw₂] at hw₁
              rw [hw₁]
            · have hall := congrArg List.length hs
              rw [List.length_append, List.length_append, length_of_chars h hchars,
                length_of_chars h' hchars] at hall
              omega
          obtain ⟨rfl, rfl⟩ := List.append_inj hs hlen
          rw [ih hclear h h']

variable (mem)

/-- The longest run of at most `n` characters behind which `rest` matches. -/
def longest (rest : List A → Option (List (List A))) (s : List A) : Nat → Option (List (List A))
  | 0 => none
  | n + 1 =>
    match rest (s.drop (n + 1)) with
    | some caps => some (s.take (n + 1) :: caps)
    | none => longest rest s n

theorem longest_sound {rest : List A → Option (List (List A))} {s : List A} {n : Nat}
    {caps : List (List A)} (h : longest rest s n = some caps) :
    ∃ k caps', 0 < k ∧ k ≤ n ∧ rest (s.drop k) = some caps' ∧ caps = s.take k :: caps' := by
  induction n with
  | zero => cases h
  | succ n ih =>
    unfold longest at h
    split at h
    · rename_i caps' hrest
      cases h
      exact ⟨n + 1, caps', by omega, Nat.le_refl _, hrest, rfl⟩
    · obtain ⟨k, caps', hpos, hle, hrest, heq⟩ := ih h
      exact ⟨k, caps', hpos, by omega, hrest, heq⟩

theorem longest_complete {rest : List A → Option (List (List A))} {s : List A} {n k : Nat}
    (hpos : 0 < k) (hle : k ≤ n) (h : (rest (s.drop k)).isSome = true) :
    (longest rest s n).isSome = true := by
  induction n with
  | zero => omega
  | succ n ih =>
    unfold longest
    cases hrest : rest (s.drop (n + 1)) with
    | some caps => rfl
    | none =>
      obtain rfl | hlt := Nat.eq_or_lt_of_le hle
      · rw [hrest] at h
        cases h
      · exact ih (by omega)

variable [DecidableEq A]

def capture : Pattern A C → List A → Option (List (List A))
  | [], s => if s = [] then some [] else none
  | .char a :: p, s =>
    match s with
    | [] => none
    | b :: s => if a = b then capture p s else none
  | .run c :: p, s => longest (capture p) s (s.takeWhile (mem c)).length

theorem capture_sound {p : Pattern A C} {s : List A} {caps : List (List A)}
    (h : capture mem p s = some caps) : Matches mem p s caps := by
  induction p generalizing s caps with
  | nil =>
    unfold capture at h
    split at h
    · rename_i hs
      cases h
      rw [hs]
      exact .nil
    · cases h
  | cons piece p ih =>
    cases piece with
    | char a =>
      cases s with
      | nil => cases h
      | cons b s =>
        simp only [capture] at h
        split at h
        · rename_i hab
          subst hab
          exact .char (ih h)
        · cases h
    | run c =>
      obtain ⟨k, caps', hpos, hle, hrest, rfl⟩ := longest_sound h
      have hlen : (s.takeWhile (mem c)).length ≤ s.length := (List.takeWhile_sublist _).length_le
      have hne : s.take k ≠ [] := by
        intro hnil
        have hzero := congrArg List.length hnil
        rw [List.length_take, List.length_nil] at hzero
        omega
      have htake : s.take k = (s.takeWhile (mem c)).take k := by
        conv => lhs; rw [← List.takeWhile_append_dropWhile (p := mem c) (l := s)]
        exact List.take_append_of_le_length hle
      have hmem : ∀ a ∈ s.take k, mem c a = true := by
        intro a ha
        rw [htake] at ha
        exact List.all_eq_true.1 List.all_takeWhile a (List.mem_of_mem_take ha)
      have hmatch := Matches.run hne hmem (ih hrest)
      rwa [List.take_append_drop] at hmatch

theorem capture_complete {p : Pattern A C} {s : List A} {caps : List (List A)}
    (h : Matches mem p s caps) : (capture mem p s).isSome = true := by
  induction h with
  | nil => rfl
  | char _ ih => simpa [capture] using ih
  | @run c p w s caps hne hw _ ih =>
    refine longest_complete (k := w.length) (List.length_pos_iff.2 hne) ?_ ?_
    · rw [List.takeWhile_append_of_pos hw, List.length_append]
      omega
    · rw [List.drop_left]
      exact ih

variable {mem}

/-- For a clear pattern the matcher tells the one way to match. -/
theorem capture_iff {p : Pattern A C} {s : List A} {caps : List (List A)}
    (hclear : clear mem p = true) : capture mem p s = some caps ↔ Matches mem p s caps := by
  refine ⟨capture_sound mem, fun h => ?_⟩
  obtain ⟨caps', hcaps'⟩ := Option.isSome_iff_exists.1 (capture_complete mem h)
  rw [hcaps', matches_unique hclear (capture_sound mem hcaps') h]

/-! ## Patterns with no text in common -/

/-- The two reversed patterns differ before a run. -/
def endsApart : Pattern A C → Pattern A C → Bool
  | .char a :: p, .char b :: q => a != b || endsApart p q
  | _, _ => false

theorem endsApart_sound {p q : Pattern A C} {s : List A} {caps caps' : List (List A)}
    (hapart : endsApart p q = true) (h : Matches mem p.reverse s caps)
    (h' : Matches mem q.reverse s caps') : False := by
  induction p generalizing q s with
  | nil => cases q <;> cases hapart
  | cons piece p ih =>
    cases q with
    | nil => cases piece <;> cases hapart
    | cons piece' q =>
      cases piece with
      | run => cases hapart
      | char a =>
        cases piece' with
        | run => cases hapart
        | char b =>
          rw [List.reverse_cons] at h h'
          obtain ⟨s₁, rfl, h₁⟩ := matches_snoc h
          obtain ⟨s₂, hs, h₂⟩ := matches_snoc h'
          obtain ⟨rfl, hab⟩ := List.append_inj' hs rfl
          cases hab
          simp only [endsApart, bne_self_eq_false, Bool.false_or] at hapart
          exact ih hapart h₁ h₂

variable (mem) [DecidableEq C]

/-- The two patterns differ before it matters where a run ends. -/
def apartFrom : Pattern A C → Pattern A C → Bool
  | [], [] => false
  | [], _ :: _ => true
  | _ :: _, [] => true
  | .char a :: p, .char b :: q => a != b || apartFrom p q
  | .char a :: _, .run c :: _ => !mem c a
  | .run c :: _, .char b :: _ => !mem c b
  | .run c :: p, .run d :: q => decide (c = d) && stops mem c p && stops mem c q && apartFrom p q

def apart (p q : Pattern A C) : Bool := apartFrom mem p q || endsApart p.reverse q.reverse

variable {mem}

theorem apartFrom_sound {p q : Pattern A C} {s : List A} {caps caps' : List (List A)}
    (hapart : apartFrom mem p q = true) (h : Matches mem p s caps) (h' : Matches mem q s caps') :
    False := by
  induction h generalizing q caps' with
  | nil =>
    cases q with
    | nil => cases hapart
    | cons => exact matches_ne_nil h'
  | @char a p s caps h ih =>
    generalize hs : a :: s = text at h'
    cases h' with
    | nil => cases hs
    | @char b q s' caps' h' =>
      cases hs
      simp only [apartFrom, bne_self_eq_false, Bool.false_or] at hapart
      exact ih hapart h'
    | @run c q w s' caps' hne hw h' =>
      cases w with
      | nil => exact hne rfl
      | cons b w =>
        cases hs
        have ha := hw a (by simp)
        simp [apartFrom, ha] at hapart
  | @run c p w s caps hne hw h ih =>
    generalize hs : w ++ s = text at h'
    cases h' with
    | nil => exact hne (List.append_eq_nil_iff.1 hs).1
    | @char b q s' caps' h' =>
      cases w with
      | nil => exact hne rfl
      | cons a w =>
        cases hs
        have hb := hw b (by simp)
        simp [apartFrom, hb] at hapart
    | @run d q w' s' caps' hne' hw' h' =>
      simp only [apartFrom, Bool.and_eq_true, decide_eq_true_eq] at hapart
      obtain ⟨⟨⟨rfl, hstops⟩, hstops'⟩, hapart⟩ := hapart
      -- both runs are as long as they can be
      have hw₁ := takeWhile_of_stops hw h hstops
      have hw₂ := takeWhile_of_stops hw' h' hstops'
      rw [hs, hw₂] at hw₁
      obtain ⟨-, rfl⟩ := List.append_inj hs (by rw [hw₁])
      exact ih hapart h'

/-- Patterns that are apart match no text in common. -/
theorem apart_sound {p q : Pattern A C} {s : List A} {caps caps' : List (List A)}
    (hapart : apart mem p q = true) (h : Matches mem p s caps) (h' : Matches mem q s caps') :
    False := by
  obtain hfront | hend := Bool.or_eq_true _ _ ▸ hapart
  · exact apartFrom_sound hfront h h'
  · rw [← List.reverse_reverse p] at h
    rw [← List.reverse_reverse q] at h'
    exact endsApart_sound hend h h'

/-! ## Tables -/

section Tables

variable (mem) {V : Type}

/-- The first pattern of the table that matches, with its captures. -/
def route (table : List (Pattern A C × V)) (s : List A) : Option (V × List (List A)) :=
  table.findSome? fun e => (capture mem e.1 s).map fun caps => (e.2, caps)

/-- What is checked of a table once. -/
structure Unambiguous (table : List (Pattern A C × V)) : Prop where
  clear : ∀ e ∈ table, clear mem e.1 = true
  apart : ∀ e ∈ table, ∀ e' ∈ table, e = e' ∨ apart mem e.1 e'.1 = true

variable {mem} {table table' : List (Pattern A C × V)} {s : List A}

/-- One entry at most matches. -/
theorem Unambiguous.one (h : Unambiguous mem table) {e e' : Pattern A C × V} (he : e ∈ table)
    (he' : e' ∈ table) {caps caps' : List (List A)} (hm : Matches mem e.1 s caps)
    (hm' : Matches mem e'.1 s caps') : e = e' := by
  obtain heq | hapart := h.apart e he e' he'
  · exact heq
  · exact (apart_sound hapart hm hm').elim

theorem Unambiguous.perm (h : Unambiguous mem table) (hperm : table.Perm table') :
    Unambiguous mem table' where
  clear e he := h.clear e (hperm.mem_iff.2 he)
  apart e he e' he' := h.apart e (hperm.mem_iff.2 he) e' (hperm.mem_iff.2 he')

/-- A text is routed to the entry that matches it, wherever in the table it
stands. -/
theorem route_iff (h : Unambiguous mem table) {v : V} {caps : List (List A)} :
    route mem table s = some (v, caps) ↔ ∃ p, (p, v) ∈ table ∧ Matches mem p s caps := by
  constructor
  · intro hroute
    obtain ⟨e, he, hcapture⟩ := List.exists_of_findSome?_eq_some hroute
    obtain ⟨caps', hcaps', heq⟩ := Option.map_eq_some_iff.1 hcapture
    cases heq
    exact ⟨e.1, he, capture_sound mem hcaps'⟩
  · intro ⟨p, hp, hm⟩
    have hcapture := (capture_iff (h.clear _ hp)).2 hm
    cases hroute : route mem table s with
    | none =>
      have hnone := List.findSome?_eq_none_iff.1 hroute _ hp
      rw [hcapture] at hnone
      cases hnone
    | some found =>
      obtain ⟨e, he, hfound⟩ := List.exists_of_findSome?_eq_some hroute
      obtain ⟨caps', hcaps', heq⟩ := Option.map_eq_some_iff.1 hfound
      obtain rfl := h.one he hp (capture_sound mem hcaps') hm
      rw [hcapture] at hcaps'
      obtain rfl := Option.some.inj hcaps'
      rw [← heq]

/-- The order of the table does not matter. -/
theorem route_perm (h : Unambiguous mem table) (hperm : table.Perm table') :
    route mem table s = route mem table' s := by
  refine Option.ext fun found => ?_
  obtain ⟨v, caps⟩ := found
  rw [route_iff h, route_iff (h.perm hperm)]
  exact exists_congr fun p => and_congr_left' hperm.mem_iff

end Tables

end Matching

end Gr4cp.Core.PathPattern

/-!
# Text with brackets

Lists over any alphabet with an opening bracket `o`, a closing bracket `c`
and a separator `sep`. `Balanced` text has its brackets in pairs; a `Field`
is balanced text whose separators all stand between brackets, so it is one
piece of a separated list. `upToSep` is the usual scan with a depth that
finds the first such piece: it stops at the first separator at depth zero,
and a closing bracket at depth zero leaves the depth where it is.

* `upToSep_field`: the scan passes over a field whole, whatever follows.
* `isField_iff`: a scan decides which texts are fields.
-/
namespace Gr4cp.Core.Brackets

section

variable {α : Type} (o c sep : α)

/-- Text in which the brackets pair up. -/
inductive Balanced : List α → Prop
  | nil : Balanced []
  | item {x : α} {s : List α} : x ≠ o → x ≠ c → Balanced s → Balanced (x :: s)
  | nest {t s : List α} : Balanced t → Balanced s → Balanced (o :: (t ++ c :: s))

/-- Balanced text with no separator outside of brackets. -/
inductive Field : List α → Prop
  | nil : Field []
  | item {x : α} {s : List α} : x ≠ o → x ≠ c → x ≠ sep → Field s → Field (x :: s)
  | nest {t s : List α} : Balanced o c t → Field s → Field (o :: (t ++ c :: s))

/-- The pieces that are missing at depth `d`: balanced text and a closing
bracket for each of the `d` that are open, and a field behind them. -/
def Closes : Nat → List α → Prop
  | 0, s => Field o c sep s
  | d + 1, s => ∃ t s', s = t ++ c :: s' ∧ Balanced o c t ∧ Closes d s'

variable [DecidableEq α]

/-- The text up to the first separator at depth zero. -/
def upToSep : Nat → List α → List α
  | _, [] => []
  | depth, x :: s =>
    if x = o then x :: upToSep (depth + 1) s
    else if x = c then x :: upToSep (depth - 1) s
    else if x = sep ∧ depth = 0 then []
    else x :: upToSep depth s

/-- Whether the text, read from a depth, is the rest of a field. -/
def closes : Nat → List α → Bool
  | depth, [] => depth == 0
  | depth, x :: s =>
    if x = o then closes (depth + 1) s
    else if x = c then decide (0 < depth) && closes (depth - 1) s
    else if x = sep ∧ depth = 0 then false
    else closes depth s

end

variable {α : Type} {o c sep : α}

/-! ## What is missing at a depth -/

/-- An opening bracket in front asks for one more closing bracket. -/
theorem Closes.cons_open {depth : Nat} {s : List α} (h : Closes o c sep (depth + 1) s) :
    Closes o c sep depth (o :: s) := by
  obtain ⟨t, s', rfl, ht, hs'⟩ := h
  cases depth with
  | zero => exact Field.nest ht hs'
  | succ depth =>
    obtain ⟨t', s'', rfl, ht', hs''⟩ := hs'
    exact ⟨o :: (t ++ c :: t'), s'', by simp, Balanced.nest ht ht', hs''⟩

theorem Closes.cons_item {depth : Nat} {x : α} {s : List α} (hxo : x ≠ o) (hxc : x ≠ c)
    (hsep : ¬(x = sep ∧ depth = 0)) (h : Closes o c sep depth s) :
    Closes o c sep depth (x :: s) := by
  cases depth with
  | zero => exact Field.item hxo hxc (fun hx => hsep ⟨hx, rfl⟩) h
  | succ depth =>
    obtain ⟨t, s', rfl, ht, hs'⟩ := h
    exact ⟨x :: t, s', rfl, Balanced.item hxo hxc ht, hs'⟩

variable [DecidableEq α]

/-! ## The scan -/

/-- Between brackets the scan passes over balanced text and is back at the
depth it came with. -/
theorem upToSep_balanced (hoc : c ≠ o) {t : List α} (h : Balanced o c t) (depth : Nat)
    (s : List α) :
    upToSep o c sep (depth + 1) (t ++ s) = t ++ upToSep o c sep (depth + 1) s := by
  induction h generalizing depth s with
  | nil => rfl
  | @item x t hxo hxc _ ih =>
    simp only [List.cons_append, upToSep, if_neg hxo, if_neg hxc]
    rw [if_neg (by omega), ih]
  | @nest t t' _ _ ih ih' =>
    simp only [List.cons_append, List.append_assoc, upToSep, if_true]
    rw [ih]
    simp only [upToSep, if_neg hoc, if_true, Nat.add_sub_cancel]
    rw [ih']

theorem upToSep_field (hoc : c ≠ o) {a : List α} (h : Field o c sep a) (s : List α) :
    upToSep o c sep 0 (a ++ s) = a ++ upToSep o c sep 0 s := by
  induction h generalizing s with
  | nil => rfl
  | @item x a hxo hxc hxs _ ih =>
    simp only [List.cons_append, upToSep, if_neg hxo, if_neg hxc]
    rw [if_neg (fun hx => hxs hx.1), ih]
  | @nest t a ht _ ih =>
    simp only [List.cons_append, List.append_assoc, upToSep, if_true]
    rw [upToSep_balanced hoc ht]
    simp only [upToSep, if_neg hoc, if_true, Nat.add_sub_cancel]
    rw [ih]

theorem upToSep_field_end (hoc : c ≠ o) {a : List α} (h : Field o c sep a) :
    upToSep o c sep 0 a = a := by
  have hend := upToSep_field hoc h []
  simpa [upToSep] using hend

theorem upToSep_field_sep (hoc : c ≠ o) (hso : sep ≠ o) (hsc : sep ≠ c) {a : List α}
    (h : Field o c sep a) (s : List α) : upToSep o c sep 0 (a ++ sep :: s) = a := by
  rw [upToSep_field hoc h]
  simp [upToSep, hso, hsc]

/-! ## Deciding fields -/

theorem closes_balanced (hoc : c ≠ o) {t : List α} (h : Balanced o c t) (depth : Nat)
    (s : List α) : closes o c sep (depth + 1) (t ++ s) = closes o c sep (depth + 1) s := by
  induction h generalizing depth s with
  | nil => rfl
  | @item x t hxo hxc _ ih =>
    simp only [List.cons_append, closes, if_neg hxo, if_neg hxc]
    rw [if_neg (by omega), ih]
  | @nest t t' _ _ ih ih' =>
    simp only [List.cons_append, List.append_assoc, closes, if_true]
    rw [ih]
    simp only [closes, if_neg hoc, if_true, Nat.add_sub_cancel]
    rw [ih']
    simp

theorem closes_field (hoc : c ≠ o) {a : List α} (h : Field o c sep a) :
    closes o c sep 0 a = true := by
  induction h with
  | nil => rfl
  | @item x a hxo hxc hxs _ ih =>
    simp only [closes, if_neg hxo, if_neg hxc]
    rw [if_neg (fun hx => hxs hx.1), ih]
  | @nest t a ht _ ih =>
    simp only [closes, if_true]
    rw [closes_balanced hoc ht]
    simp [closes, hoc, ih]

theorem closes_sound {depth : Nat} {s : List α} (h : closes o c sep depth s = true) :
    Closes o c sep depth s := by
  induction s generalizing depth with
  | nil =>
    obtain rfl : depth = 0 := by simpa [closes] using h
    exact Field.nil
  | cons x s ih =>
    unfold closes at h
    split at h
    · rename_i hxo
      subst hxo
      exact (ih h).cons_open
    · rename_i hxo
      split at h
      · rename_i hxc
        subst hxc
        obtain ⟨hd, h⟩ := Bool.and_eq_true_iff.1 h
        obtain ⟨d, rfl⟩ : ∃ d, depth = d + 1 := ⟨depth - 1, by have := of_decide_eq_true hd; omega⟩
        exact ⟨[], s, rfl, Balanced.nil, ih h⟩
      · rename_i hxc
        split at h
        · cases h
        · rename_i hsep
          exact Closes.cons_item hxo hxc hsep (ih h)

theorem isField_iff (hoc : c ≠ o) {a : List α} :
    closes o c sep 0 a = true ↔ Field o c sep a :=
  ⟨fun h => closes_sound h, fun h => closes_field hoc h⟩

end Gr4cp.Core.Brackets

import Mathlib.Data.List.TakeWhile
import Gr4ControlPlane.Core.Brackets
import Gr4ControlPlane.Core.Bytes

/-!
# Element types of port collections (`catalog/gr4_block_catalog_provider.cpp`)

The element type of a collection is read off the block id: the first of the
template arguments in `N<a,..>`. The arguments stand between the first `<`
and the last `>`, a depth is kept over the brackets among them, and the first
comma at depth zero ends the argument.

* `elementType_of_form`: the argument is `a` whole, without the blanks around
  it, however deep the commas inside `a` are nested and whatever follows it.
-/
namespace Gr4cp.Catalog

open Gr4cp.Core

/-! ## Blanks -/

/-- What `find_first_not_of(" \t\n\r")` passes over. -/
def isBlank (c : UInt8) : Bool := (str " \t\n\r").contains c

/-- mirrors src/catalog/gr4_block_catalog_provider.cpp:663-670 -/
def trimCopy (value : Str) : Str :=
  match value.findIdx? (fun c => !isBlank c), Str.findLast (fun c => !isBlank c) value with
  | some first, some last => (value.drop first).take (last - first + 1)
  | _, _ => []

/-- A text without the blanks around it. -/
def strip (value : Str) : Str := ((value.dropWhile isBlank).reverse.dropWhile isBlank).reverse

/-- The last byte that is no blank ends the text. -/
theorem strip_end {s : Str} {last : Nat} (h : Str.findLast (fun c => !isBlank c) s = some last) :
    (s.reverse.dropWhile isBlank).reverse = s.take (last + 1) := by
  obtain ⟨a, c, b, rfl, rfl, hc, hb⟩ := Str.findLast_eq_some h
  have hb' : ∀ x ∈ b.reverse, isBlank x = true := by
    intro x hx
    simpa using hb x (List.mem_reverse.1 hx)
  have hsplit : (a ++ c :: b).reverse = b.reverse ++ c :: a.reverse := by simp
  rw [hsplit, List.dropWhile_append_of_pos hb', List.dropWhile_cons_of_neg (by simpa using hc)]
  rw [List.take_append, List.take_of_length_le (Nat.le_succ _), Nat.add_sub_cancel_left]
  simp

/-- The first byte that is no blank starts the text. -/
theorem first_of_dropWhile {value m : Str} {x : UInt8}
    (h : value.dropWhile isBlank = x :: m) :
    isBlank x = false ∧ ∃ l, value = l ++ x :: m ∧
      value.findIdx? (fun c => !isBlank c) = some l.length := by
  have hx := dropWhile_head h
  refine ⟨hx, value.takeWhile isBlank, ?_, ?_⟩
  · rw [← h, List.takeWhile_append_dropWhile]
  · have hl : (value.takeWhile isBlank).findIdx? (fun c => !isBlank c) = none := by
      rw [List.findIdx?_eq_none_iff]
      intro c hc
      simpa using List.all_eq_true.1 List.all_takeWhile c hc
    conv => lhs; rw [← List.takeWhile_append_dropWhile (p := isBlank) (l := value)]
    rw [h, List.findIdx?_append, hl]
    simp [List.findIdx?_cons, hx]

theorem trimCopy_eq_strip (value : Str) : trimCopy value = strip value := by
  unfold trimCopy strip
  cases hd : value.dropWhile isBlank with
  | nil =>
    have hnone : value.findIdx? (fun c => !isBlank c) = none := by
      rw [List.findIdx?_eq_none_iff]
      intro c hc
      simp [List.dropWhile_eq_nil_iff.1 hd c hc]
    rw [hnone]
    rfl
  | cons x m =>
    obtain ⟨hx, l, rfl, hfirst⟩ := first_of_dropWhile hd
    cases hk : Str.findLast (fun c => !isBlank c) (x :: m) with
    | none =>
      have hnot := Str.findLast_eq_none.1 hk x (List.mem_cons_self ..)
      rw [hx] at hnot
      cases hnot
    | some k =>
      rw [hfirst, Str.findLast_append_of_some hk l]
      simp only
      rw [strip_end hk, List.drop_left, Nat.add_sub_cancel_left]

/-! ## The first argument -/

/-- The arguments up to the first comma outside of brackets.
mirrors src/catalog/gr4_block_catalog_provider.cpp:679-693 -/
def firstArgument (args : Str) : Str :=
  Brackets.upToSep (chr '<') (chr '>') (chr ',') 0 args

/-- mirrors src/catalog/gr4_block_catalog_provider.cpp:672-700 -/
def inferCollectionElementType (blockId : Str) : Option Str :=
  match Str.find blockId (str "<") 0, Str.findLast (· == chr '>') blockId with
  | some opening, some closing =>
    if closing ≤ opening + 1 then none
    else
      let args := firstArgument ((blockId.drop (opening + 1)).take (closing - opening - 1))
      let type := trimCopy args
      if type.isEmpty then none else some type
  | _, _ => none

/-- A first template argument: its brackets pair up, and its commas are all
inside of them. -/
def TemplateArgument (a : Str) : Prop := Brackets.Field (chr '<') (chr '>') (chr ',') a

instance (a : Str) : Decidable (TemplateArgument a) :=
  decidable_of_iff (Brackets.closes (chr '<') (chr '>') (chr ',') 0 a = true)
    (Brackets.isField_iff (by decide))

theorem firstArgument_alone {a : Str} (h : TemplateArgument a) : firstArgument a = a :=
  Brackets.upToSep_field_end (by decide) h

theorem firstArgument_cut {a : Str} (h : TemplateArgument a) (rest : Str) :
    firstArgument (a ++ chr ',' :: rest) = a :=
  Brackets.upToSep_field_sep (by decide) (by decide) (by decide) h rest

/-- The text in front of the first `<` and behind the last `>` is left out. -/
theorem elementType_of_args {n : Str} (hn : chr '<' ∉ n) (args : Str) :
    inferCollectionElementType (n ++ chr '<' :: (args ++ [chr '>'])) =
      if strip (firstArgument args) = [] then none else some (strip (firstArgument args)) := by
  have hopen : Str.find (n ++ chr '<' :: (args ++ [chr '>'])) (str "<") 0 = some n.length := by
    have hfind := Str.findFrom_append hn [] (args ++ [chr '>']) 0
    rw [Nat.zero_add] at hfind
    unfold Str.find
    rw [if_pos (Nat.zero_le _)]
    exact hfind
  have hclose : Str.findLast (· == chr '>') (n ++ chr '<' :: (args ++ [chr '>'])) =
      some (n.length + 1 + args.length) := by
    have hsplit : n ++ chr '<' :: (args ++ [chr '>']) = (n ++ chr '<' :: args) ++ chr '>' :: [] := by
      simp
    rw [hsplit, Str.findLast_byte (List.not_mem_nil)]
    simp only [List.length_append, List.length_cons, Option.some.injEq]
    omega
  have hargs : ((n ++ chr '<' :: (args ++ [chr '>'])).drop (n.length + 1)).take
      (n.length + 1 + args.length - n.length - 1) = args := by
    rw [show n.length + 1 + args.length - n.length - 1 = args.length by omega,
      List.drop_append, List.drop_eq_nil_of_le (by omega), List.nil_append,
      show n.length + 1 - n.length = 1 by omega]
    simp
  unfold inferCollectionElementType
  rw [hopen, hclose]
  simp only
  split
  · rename_i hle
    obtain rfl : args = [] := List.eq_nil_of_length_eq_zero (by omega)
    rfl
  · rw [hargs, trimCopy_eq_strip]
    simp only [List.isEmpty_iff]

theorem elementType_of_form {n a id : Str} (hn : chr '<' ∉ n) (ha : TemplateArgument a)
    (hid : id = n ++ str "<" ++ a ++ str ">" ∨
      ∃ rest, id = n ++ str "<" ++ a ++ str "," ++ rest ++ str ">") :
    inferCollectionElementType id = if strip a = [] then none else some (strip a) := by
  obtain rfl | ⟨rest, rfl⟩ := hid
  · have hargs := elementType_of_args hn a
    rw [firstArgument_alone ha] at hargs
    simpa [str, chr] using hargs
  · have hargs := elementType_of_args hn (a ++ chr ',' :: rest)
    rw [firstArgument_cut ha] at hargs
    simpa [str, chr] using hargs

/-- `Sum<std::map<int, float> , 4>`: the comma between the inner brackets
does not end the argument. -/
theorem elementType_nested :
    inferCollectionElementType (str "Sum<std::map<int, float> , 4>") =
      some (str "std::map<int, float>") :=
  elementType_of_form (n := str "Sum") (a := str "std::map<int, float> ") (by decide) (by decide)
    (Or.inr ⟨str " 4", by decide⟩)

end Gr4cp.Catalog

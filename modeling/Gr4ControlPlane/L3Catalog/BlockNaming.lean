import Mathlib.Data.List.Infix
import Mathlib.Data.List.TakeWhile
import Gr4ControlPlane.L1Domain.Pmt
import Gr4ControlPlane.L1Domain.SessionStream

/-!
# Names and categories of blocks (`catalog/gr4_block_catalog_provider.cpp`)

The catalogue derives a block's category and its display name from its id,
`n1::..::nk::T<args>`, when reflection gives none. Both searches look
through the whole id: neither knows that what stands in angle brackets is no
part of the path.

* `category_right_iff`: the category is the namespaces of the block exactly
  when there is no `::` among the template arguments.
* `naming_right_iff`: category and name both are what they should be exactly
  when the arguments hold no `.`, no `/` and no `:`.
-/
namespace Gr4cp.Catalog

open Gr4cp.Core Gr4cp.Domain

/-! ## Names -/

/-- `std::toupper` in the C locale. -/
def toUpper (c : UInt8) : UInt8 := if chr 'a' ≤ c && c ≤ chr 'z' then c - 32 else c

/-- `std::tolower` in the C locale. -/
def toLower (c : UInt8) : UInt8 := if chr 'A' ≤ c && c ≤ chr 'Z' then c + 32 else c

/-- `std::isspace` in the C locale. -/
def isSpace (c : UInt8) : Bool := c == 0x20 || (0x09 ≤ c && c ≤ 0x0D)

/-- The loop of `to_title_case`. -/
def titleCaseFrom : Bool → Str → Str
  | _, [] => []
  | capitalize, ch :: value =>
    if ch = chr '_' ∨ ch = chr '-' ∨ ch = chr '.' then chr ' ' :: titleCaseFrom true value
    else
      let ch := if capitalize then toUpper ch else toLower ch
      ch :: titleCaseFrom (isSpace ch) value

/-- mirrors src/catalog/gr4_block_catalog_provider.cpp:315-328 -/
def toTitleCase (value : Str) : Str := titleCaseFrom true value

/-- What `find_last_of("./:")` looks for. -/
def isSeparator (c : UInt8) : Bool := (str "./:").contains c

/-- `id.substr(id.find_last_of("./:") + 1)`, and all of `id` when there is
none of the three. -/
def afterLastSeparator (id : Str) : Str := (id.reverse.takeWhile fun c => !isSeparator c).reverse

/-- mirrors src/catalog/gr4_block_catalog_provider.cpp:330-334 -/
def deriveNameFromId (id : Str) : Str := toTitleCase (afterLastSeparator id)

/-! ## Categories -/

/-- mirrors src/catalog/gr4_block_catalog_provider.cpp:1176-1178 -/
def isSaneExplicitCategory (value : Str) : Bool :=
  !value.isEmpty && value.all fun c => !(str "<>(),").contains c

/-- A token, if it is not empty. -/
def nonEmptyToken (token : Str) : List Str := if token.isEmpty then [] else [token]

theorem drop_shorter {id : Str} {separator : Nat}
    (h : Str.findFrom (str "::") id 0 = some separator) :
    (id.drop (separator + 2)).length < id.length := by
  obtain ⟨a, b, rfl, rfl⟩ := Str.findFrom_eq_some h
  simp only [List.length_drop, List.length_append, show (str "::").length = 2 by decide]
  omega

/-- The tokens between the `::` of an id, empty ones left out.
mirrors src/catalog/gr4_block_catalog_provider.cpp:1181-1193 -/
def segments (id : Str) : List Str :=
  match _h : Str.findFrom (str "::") id 0 with
  | none => nonEmptyToken id
  | some separator => nonEmptyToken (id.take separator) ++ segments (id.drop (separator + 2))
termination_by id.length
decreasing_by exact drop_shorter _h

def dropLeadingGr : List Str → List Str
  | [] => []
  | first :: rest => if first = str "gr" then rest else first :: rest

/-- The loop over the segments that are left.
mirrors src/catalog/gr4_block_catalog_provider.cpp:1205-1211 -/
def joinSegments (segments : List Str) : Str :=
  segments.foldl (fun category segment =>
    (if category.isEmpty then category else category ++ str "/") ++ segment) []

/-- mirrors src/catalog/gr4_block_catalog_provider.cpp:1195-1213 -/
def categoryOfSegments (segments : List Str) : Str :=
  let segments := dropLeadingGr segments
  if segments.length < 2 then str "Uncategorized"
  else
    let category := joinSegments segments.dropLast
    if category.isEmpty then str "Uncategorized" else category

/-- mirrors src/catalog/gr4_block_catalog_provider.cpp:1180-1214 -/
def deriveCategoryFromBlockId (id : Str) : Str := categoryOfSegments (segments id)

/-- The category the author of a block wrote into its metadata, if it is
there and sane.
mirrors src/catalog/gr4_block_catalog_provider.cpp:1216-1232 -/
def deriveCategoryFromMetadata (metaInfo : PropertyMap) (fallbackId : Str) : Str :=
  match (metaInfo.lookup (str "Drawable")).bind getMap with
  | none => deriveCategoryFromBlockId fallbackId
  | some drawableInfo =>
    match parameterString drawableInfo (str "Category") with
    | none => deriveCategoryFromBlockId fallbackId
    | some value =>
      if !value.isEmpty && isSaneExplicitCategory value then value
      else deriveCategoryFromBlockId fallbackId

/-! ## Block ids -/

/-- A part of a path: not empty, and without `:`, `.`, `/` and `<`. -/
def PathPart (s : Str) : Prop := s ≠ [] ∧ ∀ c ∈ s, c ∉ str ":./<"

instance (s : Str) : Decidable (PathPart s) :=
  decidable_of_iff ((!s.isEmpty && s.all fun c => !(str ":./<").contains c) = true)
    (by simp [PathPart])

/-- A block id, by its parts. -/
structure BlockId where
  namespaces : List Str
  typeName : Str
  args : Option Str
  namespaces_parts : ∀ n ∈ namespaces, PathPart n
  typeName_part : PathPart typeName

namespace BlockId

variable (id : BlockId)

/-- `T` or `T<args>` -/
def typeText : Str :=
  id.typeName ++
  match id.args with
  | none => []
  | some args => str "<" ++ args ++ str ">"

/-- `n1::..::nk::` -/
def scope (namespaces : List Str) : Str := (namespaces.map (· ++ str "::")).flatten

def text : Str := scope id.namespaces ++ id.typeText

/-- The category a block belongs to. -/
def category : Str :=
  let path := dropLeadingGr id.namespaces
  if path.isEmpty then str "Uncategorized" else (str "/").intercalate path

/-- Category and name are taken from the namespaces and from the type. -/
structure NamedRight : Prop where
  category : deriveCategoryFromBlockId id.text = id.category
  sane : (∀ n ∈ id.namespaces, isSaneExplicitCategory n = true) →
    isSaneExplicitCategory (deriveCategoryFromBlockId id.text) = true
  name : deriveNameFromId id.text = toTitleCase id.typeText

/-- The template arguments hold no separator. -/
def PlainArgs : Prop := ∀ args, id.args = some args → ∀ c ∈ args, isSeparator c = false

end BlockId

/-! ## Names -/

theorem titleCaseFrom_length (capitalize : Bool) (value : Str) :
    (titleCaseFrom capitalize value).length = value.length := by
  induction value generalizing capitalize with
  | nil => rfl
  | cons ch value ih =>
    unfold titleCaseFrom
    split
    · rw [List.length_cons, ih, List.length_cons]
    · rw [List.length_cons, ih, List.length_cons]

theorem afterLastSeparator_plain {s : Str} (h : ∀ c ∈ s, isSeparator c = false) :
    afterLastSeparator s = s := by
  have hall : ∀ c ∈ s.reverse, (!isSeparator c) = true := by
    intro c hc
    rw [h c (List.mem_reverse.1 hc)]
    rfl
  rw [afterLastSeparator, List.takeWhile_eq_self_iff.2 hall, List.reverse_reverse]

/-- Nothing in front of a separator is kept. -/
theorem afterLastSeparator_append {c : UInt8} (hc : isSeparator c = true) (a b : Str) :
    afterLastSeparator (a ++ c :: b) = afterLastSeparator b := by
  have hreverse : (a ++ c :: b).reverse = b.reverse ++ c :: a.reverse := by simp
  rw [afterLastSeparator, afterLastSeparator, hreverse, List.takeWhile_append]
  split
  · rename_i hlen
    have hself := List.IsPrefix.eq_of_length (List.takeWhile_prefix _) hlen
    rw [hself, List.takeWhile_cons_of_neg (by simp [hc]), List.append_nil]
  · rfl

theorem afterLastSeparator_length (s : Str) : (afterLastSeparator s).length ≤ s.length := by
  have hreverse : s.reverse.length = s.length := List.length_reverse
  rw [afterLastSeparator, List.length_reverse, ← hreverse]
  exact (List.takeWhile_prefix _).length_le

theorem pathPart_plain {s : Str} (h : PathPart s) : ∀ c ∈ s, isSeparator c = false := by
  intro c hc
  cases hsep : isSeparator c with
  | false => rfl
  | true =>
    have hsub : (str "./:").all (str ":./<").contains = true := by decide
    have hmem := List.all_eq_true.1 hsub c (List.contains_iff_mem.1 hsep)
    exact absurd (List.contains_iff_mem.1 hmem) (h.2 c hc)

namespace BlockId

variable {id : BlockId}

/-- The scope is empty, or ends in a colon. -/
theorem afterLastSeparator_scope (namespaces : List Str) (rest : Str) :
    afterLastSeparator (scope namespaces ++ rest) = afterLastSeparator rest := by
  induction namespaces with
  | nil => rfl
  | cons n namespaces ih =>
    have hcolons : scope (n :: namespaces) ++ rest =
        (n ++ str ":") ++ chr ':' :: (scope namespaces ++ rest) := by
      simp [scope, show str "::" = [chr ':', chr ':'] by decide, show str ":" = [chr ':'] by decide]
    rw [hcolons, afterLastSeparator_append (by decide), ih]

theorem typeText_plain (h : id.PlainArgs) : ∀ c ∈ id.typeText, isSeparator c = false := by
  intro c hc
  unfold typeText at hc
  cases hargs : id.args with
  | none =>
    rw [hargs, List.append_nil] at hc
    exact pathPart_plain id.typeName_part c hc
  | some args =>
    simp only [hargs, List.mem_append] at hc
    obtain htype | (hopen | harg) | hclose := hc
    · exact pathPart_plain id.typeName_part c htype
    · obtain rfl : c = chr '<' := by simpa [str, chr] using hopen
      decide
    · exact h args hargs c harg
    · obtain rfl : c = chr '>' := by simpa [str, chr] using hclose
      decide

/-- **The name, exactly.** -/
theorem name_right_iff : deriveNameFromId id.text = toTitleCase id.typeText ↔ id.PlainArgs := by
  rw [deriveNameFromId, text, afterLastSeparator_scope]
  constructor
  · intro hname args hargs c hc
    by_contra hsep
    rw [Bool.not_eq_false] at hsep
    -- what is in front of the separator is missing from the name
    obtain ⟨a, b, rfl⟩ := List.append_of_mem hc
    have hsplit : id.typeText = (id.typeName ++ str "<" ++ a) ++ c :: (b ++ str ">") := by
      simp [typeText, hargs]
    have hlen := congrArg List.length hname
    simp only [toTitleCase, titleCaseFrom_length] at hlen
    have hshort := afterLastSeparator_length (b ++ str ">")
    rw [hsplit, afterLastSeparator_append hsep] at hlen
    simp only [List.length_append, List.length_cons] at hlen hshort
    omega
  · intro hplain
    rw [afterLastSeparator_plain (typeText_plain hplain)]

end BlockId

/-! ## Categories -/

theorem nonEmptyToken_of_ne {token : Str} (h : token ≠ []) : nonEmptyToken token = [token] := by
  unfold nonEmptyToken
  rw [if_neg (by simpa using h)]

theorem segments_none {s : Str} (h : Str.findFrom (str "::") s 0 = none) :
    segments s = nonEmptyToken s := by
  rw [segments]
  split
  · rfl
  · rename_i separator hfound
    rw [h] at hfound
    cases hfound

theorem segments_some {a b : Str} (h : Str.findFrom (str "::") (a ++ str "::" ++ b) 0 = some a.length) :
    segments (a ++ str "::" ++ b) = nonEmptyToken a ++ segments b := by
  rw [segments]
  split
  · rename_i hnone
    rw [h] at hnone
    cases hnone
  · rename_i separator hfound
    rw [h] at hfound
    cases hfound
    have hlen : (str "::").length = 2 := by decide
    congr 2
    · rw [List.append_assoc, List.take_left]
    · rw [← hlen, ← List.length_append, List.drop_left]

/-- A part of a path is one segment. -/
theorem segments_part {n : Str} (h : PathPart n) (rest : Str) :
    segments (n ++ str "::" ++ rest) = n :: segments rest := by
  have hcolon : chr ':' ∉ n := fun hc => absurd (h.2 _ hc) (by decide)
  have hfind := Str.findFrom_append hcolon (str ":") rest 0
  rw [show chr ':' :: (str ":" ++ rest) = str "::" ++ rest from rfl, Nat.zero_add,
    ← List.append_assoc] at hfind
  rw [segments_some hfind, nonEmptyToken_of_ne h.1]
  rfl

theorem segments_scope {namespaces : List Str} (h : ∀ n ∈ namespaces, PathPart n) (rest : Str) :
    segments (BlockId.scope namespaces ++ rest) = namespaces ++ segments rest := by
  induction namespaces with
  | nil => rfl
  | cons n namespaces ih =>
    obtain ⟨hn, hrest⟩ := List.forall_mem_cons.1 h
    have hscope : BlockId.scope (n :: namespaces) ++ rest =
        n ++ str "::" ++ (BlockId.scope namespaces ++ rest) := by
      simp [BlockId.scope]
    rw [hscope, segments_part hn, ih hrest]
    rfl

/-- An id with more than colons in it has a segment. -/
theorem segments_ne_nil {s : Str} {c : UInt8} (hc : c ∈ s) (hcolon : c ≠ chr ':') :
    segments s ≠ [] := by
  fun_induction segments s with
  | case1 s hnone => rw [nonEmptyToken_of_ne (List.ne_nil_of_mem hc)]; simp
  | case2 s separator hfound ih =>
    obtain ⟨a, b, rfl, hsep⟩ := Str.findFrom_eq_some hfound
    rw [Nat.zero_add] at hsep
    subst hsep
    have htake : (a ++ str "::" ++ b).take a.length = a := by
      rw [List.append_assoc, List.take_left]
    have hdrop : (a ++ str "::" ++ b).drop (a.length + 2) = b := by
      rw [show 2 = (str "::").length by decide, ← List.length_append, List.drop_left]
    rw [htake]
    rw [hdrop] at ih ⊢
    simp only [List.mem_append] at hc
    obtain (ha | hmid) | hb := hc
    · rw [nonEmptyToken_of_ne (List.ne_nil_of_mem ha)]
      simp
    · have hboth : (str "::").all (· == chr ':') = true := by decide
      exact absurd (beq_iff_eq.1 (List.all_eq_true.1 hboth c hmid)) hcolon
    · intro hnil
      exact ih hb (List.append_eq_nil_iff.1 hnil).2

/-! ### Joining -/

/-- The loop, with something joined already. -/
theorem foldl_join (rest : List Str) {start : Str} (h : start ≠ []) :
    rest.foldl (fun category segment =>
      (if category.isEmpty then category else category ++ str "/") ++ segment) start =
      start ++ (rest.map (str "/" ++ ·)).flatten := by
  induction rest generalizing start with
  | nil => simp
  | cons segment rest ih =>
    have hstep : (if start.isEmpty then start else start ++ str "/") ++ segment =
        start ++ (str "/" ++ segment) := by
      rw [if_neg (by simpa using h), List.append_assoc]
    have hne : start ++ (str "/" ++ segment) ≠ [] := by simp [h]
    rw [List.foldl_cons, hstep, ih hne]
    simp

theorem intercalate_cons (segment : Str) (rest : List Str) :
    (str "/").intercalate (segment :: rest) = segment ++ (rest.map (str "/" ++ ·)).flatten := by
  induction rest generalizing segment with
  | nil => simp [List.intercalate]
  | cons next rest ih =>
    rw [List.intercalate_cons_cons, ih]
    simp

theorem joinSegments_cons {segment : Str} (h : segment ≠ []) (rest : List Str) :
    joinSegments (segment :: rest) = (str "/").intercalate (segment :: rest) := by
  unfold joinSegments
  rw [intercalate_cons]
  exact foldl_join rest h

theorem mem_intercalate {c : UInt8} {segments : List Str} {segment : Str}
    (hsegment : segment ∈ segments) (hc : c ∈ segment) : c ∈ (str "/").intercalate segments := by
  cases segments with
  | nil => cases hsegment
  | cons first rest =>
    rw [intercalate_cons, List.mem_append]
    obtain rfl | hrest := List.mem_cons.1 hsegment
    · exact .inl hc
    · right
      rw [List.mem_flatten]
      exact ⟨_, List.mem_map.2 ⟨segment, hrest, rfl⟩, List.mem_append_right _ hc⟩

/-- A joined path holds its segments and slashes. -/
theorem of_mem_intercalate {c : UInt8} {segments : List Str}
    (h : c ∈ (str "/").intercalate segments) : c = chr '/' ∨ ∃ segment ∈ segments, c ∈ segment := by
  cases segments with
  | nil => simp [List.intercalate] at h
  | cons first rest =>
    rw [intercalate_cons, List.mem_append, List.mem_flatten] at h
    obtain hfirst | ⟨piece, hpiece, hc⟩ := h
    · exact .inr ⟨first, List.mem_cons_self, hfirst⟩
    · obtain ⟨segment, hsegment, rfl⟩ := List.mem_map.1 hpiece
      obtain hslash | hc := List.mem_append.1 hc
      · have honly : (str "/").all (· == chr '/') = true := by decide
        exact .inl (beq_iff_eq.1 (List.all_eq_true.1 honly c hslash))
      · exact .inr ⟨segment, List.mem_cons_of_mem _ hsegment, hc⟩

/-! ### The derived category -/

theorem dropLeadingGr_append {segment : Str} (h : segment ≠ str "gr") (path rest : List Str) :
    dropLeadingGr (path ++ segment :: rest) = dropLeadingGr path ++ segment :: rest := by
  cases path with
  | nil =>
    show (if segment = str "gr" then rest else segment :: rest) = segment :: rest
    rw [if_neg h]
  | cons first path =>
    show (if first = str "gr" then path ++ segment :: rest else first :: path ++ segment :: rest) =
      (if first = str "gr" then path else first :: path) ++ segment :: rest
    split
    · rfl
    · rfl

theorem mem_dropLeadingGr {path : List Str} {segment : Str} (h : segment ∈ dropLeadingGr path) :
    segment ∈ path := by
  cases path with
  | nil => exact h
  | cons first path =>
    replace h : segment ∈ (if first = str "gr" then path else first :: path) := h
    split at h
    · exact List.mem_cons_of_mem _ h
    · exact h

/-- A path and one segment behind it: the segment is left out. -/
theorem categoryOfSegments_path {path : List Str} (h : ∀ n ∈ path, n ≠ []) (last : Str) :
    categoryOfSegments (path ++ [last]) =
      if (dropLeadingGr path).isEmpty then str "Uncategorized"
      else (str "/").intercalate (dropLeadingGr path) := by
  unfold categoryOfSegments
  cases path with
  | nil =>
    rw [if_pos]
    · rfl
    · show (if last = str "gr" then [] else [last]).length < 2
      split
      · decide
      · exact Nat.lt_succ_self 1
  | cons first path =>
    have hdrop : dropLeadingGr (first :: path ++ [last]) =
        dropLeadingGr (first :: path) ++ [last] := by
      show (if first = str "gr" then path ++ [last] else first :: path ++ [last]) =
        (if first = str "gr" then path else first :: path) ++ [last]
      split
      · rfl
      · rfl
    have hne : ∀ n ∈ dropLeadingGr (first :: path), n ≠ [] := fun n hn => h n (mem_dropLeadingGr hn)
    rw [hdrop]
    dsimp only
    rw [List.dropLast_concat]
    generalize dropLeadingGr (first :: path) = path at hne ⊢
    cases path with
    | nil => rfl
    | cons first path =>
      have hfirst : first ≠ [] := hne first List.mem_cons_self
      have hjoined : joinSegments (first :: path) ≠ [] := by
        rw [joinSegments_cons hfirst, intercalate_cons]
        simp [hfirst]
      rw [if_neg (by simp), if_neg (by simpa using hjoined), joinSegments_cons hfirst]
      rfl

/-- A segment that is neither the leading `gr` nor the last is in the
category. -/
theorem mem_categoryOfSegments {c : UInt8} {segment : Str} (hc : c ∈ segment)
    (hgr : segment ≠ str "gr") {path : List Str} (h : ∀ n ∈ path, n ≠ []) {rest : List Str}
    (hrest : rest ≠ []) : c ∈ categoryOfSegments (path ++ segment :: rest) := by
  have hlen : 0 < rest.length := List.length_pos_iff.2 hrest
  have hlast : (dropLeadingGr path ++ segment :: rest).dropLast =
      dropLeadingGr path ++ segment :: rest.dropLast := by
    rw [List.dropLast_append_cons, List.dropLast_cons_of_ne_nil hrest]
  have hjoined : joinSegments (dropLeadingGr path ++ segment :: rest.dropLast) =
      (str "/").intercalate (dropLeadingGr path ++ segment :: rest.dropLast) := by
    have hne : ∀ n ∈ dropLeadingGr path, n ≠ [] := fun n hn => h n (mem_dropLeadingGr hn)
    generalize dropLeadingGr path = path at hne ⊢
    cases path with
    | nil => exact joinSegments_cons (List.ne_nil_of_mem hc) _
    | cons first path => exact joinSegments_cons (hne first List.mem_cons_self) _
  have hmem : c ∈ joinSegments (dropLeadingGr path ++ segment :: rest.dropLast) := by
    rw [hjoined]
    exact mem_intercalate (by simp) hc
  unfold categoryOfSegments
  rw [dropLeadingGr_append hgr]
  dsimp only
  rw [if_neg (by simp only [List.length_append, List.length_cons]; omega), hlast,
    if_neg (by simpa using List.ne_nil_of_mem hmem)]
  exact hmem

namespace BlockId

variable {id : BlockId}

/-- A `::` in the text of the type is one in its arguments. -/
theorem typeText_split {a b : Str} (h : id.typeText = a ++ str "::" ++ b) :
    ∃ args x b', id.args = some args ∧ args = x ++ str "::" ++ b' ∧
      a = id.typeName ++ str "<" ++ x ∧ b = b' ++ str ">" := by
  have hcolon : chr ':' ∉ id.typeName := fun hc => absurd (id.typeName_part.2 _ hc) (by decide)
  have hcolons : str "::" = [chr ':', chr ':'] := by decide
  have hopen : str "<" = [chr '<'] := by decide
  have hclose : str ">" = [chr '>'] := by decide
  unfold typeText at h
  cases hargs : id.args with
  | none =>
    simp only [hargs, List.append_nil] at h
    exact absurd (show chr ':' ∈ id.typeName by rw [h, hcolons]; simp) hcolon
  | some args =>
    simp only [hargs, hcolons, hopen, List.append_assoc] at h
    -- the arguments start inside `a`
    have hstart : ∃ x, a = id.typeName ++ str "<" ++ x ∧ args ++ str ">" = x ++ str "::" ++ b := by
      rw [List.append_eq_append_iff] at h
      obtain ⟨y, ha, hy⟩ | ⟨y, htype, hy⟩ := h
      · cases y with
        | nil => exact absurd (List.cons.inj hy).1 (by decide)
        | cons c y =>
          obtain ⟨rfl, hy⟩ := List.cons.inj hy
          exact ⟨y, by simp [ha, hopen], by simpa [hcolons] using hy⟩
      · cases y with
        | nil => exact absurd (List.cons.inj hy).1 (by decide)
        | cons c y =>
          obtain ⟨rfl, -⟩ := List.cons.inj hy
          exact absurd (show chr ':' ∈ id.typeName by simp [htype]) hcolon
    obtain ⟨x, ha, hx⟩ := hstart
    -- and end inside `b`
    obtain rfl | ⟨b', last, rfl⟩ := List.eq_nil_or_concat b
    · rw [List.append_nil, hclose, hcolons, List.append_cons x (chr ':')] at hx
      obtain ⟨-, hlast⟩ := List.append_inj' hx rfl
      exact absurd (List.cons.inj hlast).1 (by decide)
    · rw [List.concat_eq_append, ← List.append_assoc, hclose] at hx
      obtain ⟨hargs', hlast⟩ := List.append_inj' hx rfl
      exact ⟨args, x, b', rfl, hargs', ha, by rw [List.concat_eq_append, ← hlast]; rfl⟩

/-- **The category, exactly.** -/
theorem category_right_iff :
    deriveCategoryFromBlockId id.text = id.category ↔
      ∀ args, id.args = some args → ¬ str "::" <:+: args := by
  have hne : ∀ n ∈ id.namespaces, n ≠ [] := fun n hn => (id.namespaces_parts n hn).1
  have htype : id.typeText ≠ [] := by
    unfold typeText
    simp [id.typeName_part.1]
  rw [deriveCategoryFromBlockId, text, segments_scope id.namespaces_parts]
  cases hfind : Str.findFrom (str "::") id.typeText 0 with
  | none =>
    rw [segments_none hfind, nonEmptyToken_of_ne htype, categoryOfSegments_path hne]
    constructor
    · intro _ args hargs hinfix
      have htext : str "::" <:+: id.typeText := by
        refine hinfix.trans ?_
        exact ⟨id.typeName ++ str "<", str ">", by simp [typeText, hargs]⟩
      obtain ⟨j, hj⟩ := Str.findFrom_of_infix htext 0
      rw [hfind] at hj
      cases hj
    · intro _
      rfl
  | some separator =>
    obtain ⟨a, b, hsplit, hsep⟩ := Str.findFrom_eq_some hfind
    rw [Nat.zero_add] at hsep
    subst hsep
    obtain ⟨args, x, b', hargs, hinfix, ha, hb⟩ := typeText_split hsplit
    have hopen : chr '<' ∈ a := by
      rw [ha, show str "<" = [chr '<'] by decide]
      simp
    have hclose : chr '>' ∈ b := by
      rw [hb, show str ">" = [chr '>'] by decide]
      simp
    have hgr : a ≠ str "gr" := fun h => absurd (h ▸ hopen) (by decide)
    rw [hsplit] at hfind ⊢
    rw [segments_some hfind, nonEmptyToken_of_ne (List.ne_nil_of_mem hopen)]
    constructor
    · intro hcategory
      have hmem := mem_categoryOfSegments hopen hgr hne (segments_ne_nil hclose (by decide))
      rw [List.singleton_append] at hcategory
      rw [hcategory, category] at hmem
      -- no namespace has an angle bracket
      split at hmem
      · exact absurd hmem (by decide)
      · obtain hslash | ⟨n, hn, hc⟩ := of_mem_intercalate hmem
        · exact absurd hslash (by decide)
        · exact absurd ((id.namespaces_parts n (mem_dropLeadingGr hn)).2 _ hc) (by decide)
    · intro h
      exact absurd ⟨x, b', hinfix.symm⟩ (h args hargs)

theorem category_sane (h : ∀ n ∈ id.namespaces, isSaneExplicitCategory n = true) :
    isSaneExplicitCategory id.category = true := by
  unfold category
  dsimp only
  split
  · decide
  · rename_i hpath
    have hne : dropLeadingGr id.namespaces ≠ [] := by simpa using hpath
    obtain ⟨n, hn⟩ := List.exists_mem_of_ne_nil _ hne
    obtain ⟨c, hc⟩ := List.exists_mem_of_ne_nil _ (id.namespaces_parts n (mem_dropLeadingGr hn)).1
    unfold isSaneExplicitCategory
    rw [Bool.and_eq_true]
    constructor
    · simpa using List.ne_nil_of_mem (mem_intercalate hn hc)
    · rw [List.all_eq_true]
      intro c hc
      obtain rfl | ⟨n, hn, hc⟩ := of_mem_intercalate hc
      · decide
      · have hsane := h n (mem_dropLeadingGr hn)
        exact List.all_eq_true.1 (Bool.and_eq_true_iff.1 hsane).2 c hc

theorem not_infix_of_plain (h : id.PlainArgs) :
    ∀ args, id.args = some args → ¬ str "::" <:+: args := by
  intro args hargs hinfix
  have hcolon : chr ':' ∈ args := hinfix.subset (by decide)
  exact absurd (h args hargs _ hcolon) (by decide)

/-- **Names and categories, exactly.** For every block id of the form
`n1::..::nk::T` or `n1::..::nk::T<args>`: the category is the namespaces and
sane where they are, and the name is the type's, if and only if the template
arguments hold no `.`, no `/` and no `:`. -/
theorem naming_right_iff (id : BlockId) : id.NamedRight ↔ id.PlainArgs := by
  constructor
  · intro h
    exact name_right_iff.1 h.name
  · intro hplain
    have hcategory := category_right_iff.2 (not_infix_of_plain hplain)
    refine ⟨hcategory, fun hsane => ?_, name_right_iff.2 hplain⟩
    rw [hcategory]
    exact category_sane hsane

end BlockId

/-- A category taken from the metadata is sane. -/
theorem metadata_category_sane (metaInfo : PropertyMap) (id : Str) :
    isSaneExplicitCategory (deriveCategoryFromMetadata metaInfo id) = true ∨
      deriveCategoryFromMetadata metaInfo id = deriveCategoryFromBlockId id := by
  unfold deriveCategoryFromMetadata
  split
  · exact .inr rfl
  · split
    · exact .inr rfl
    · split
      · rename_i hvalue
        exact .inl (Bool.and_eq_true_iff.1 hvalue).2
      · exact .inr rfl

namespace BlockId

/-- An adder whose second argument is a qualified name. -/
def adder : BlockId where
  namespaces := [str "gr", str "math"]
  typeName := str "Add"
  args := some (str "float32, std::plus<float32>")
  namespaces_parts := by decide
  typeName_part := by decide

theorem adder_named_wrong :
    adder.text = str "gr::math::Add<float32, std::plus<float32>>" ∧ ¬ adder.NamedRight := by
  refine ⟨by decide, fun h => ?_⟩
  have hcolon : chr ':' ∈ str "float32, std::plus<float32>" := by decide
  exact absurd (name_right_iff.1 h.name _ rfl _ hcolon) (by decide)

end BlockId

end Gr4cp.Catalog

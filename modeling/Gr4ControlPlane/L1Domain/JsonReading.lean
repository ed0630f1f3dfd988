import Gr4ControlPlane.Core.JsonText
import Gr4ControlPlane.L1Domain.PmtText

/-!
# A text for every JSON value

As for property maps (`L1Domain.PmtText`): a writer that gives every value a
text of its own, and a reader of these texts. `readingJson` writes one value
as a given text and reads that text as a given value, which is how the
library's own text of a value is put in; `conformingJson` does so too, and
its other texts end in a character of their own.
-/
namespace Gr4cp.Domain

open Gr4cp.Core

mutual

/-- A number of its own for each value. -/
def jsonCode : Json → Nat
  | .null => Nat.pair 0 0
  | .bool b => Nat.pair 1 b.toNat
  | .int i => Nat.pair 2 i.toBitVec.toNat
  | .uint u => Nat.pair 3 u.toNat
  | .float d => Nat.pair 4 d.bits.toNat
  | .str s => Nat.pair 5 (strCode s)
  | .arr items => Nat.pair 6 (itemsCode items)
  | .obj members => Nat.pair 7 (membersCode members)
  | .binary bytes => Nat.pair 8 (strCode bytes)

def itemsCode : List Json → Nat
  | [] => 0
  | j :: items => Nat.pair (jsonCode j) (itemsCode items) + 1

def membersCode : List (Str × Json) → Nat
  | [] => 0
  | (key, j) :: members =>
    Nat.pair (Nat.pair (strCode key) (jsonCode j)) (membersCode members) + 1

end

mutual

theorem jsonCode_inj : ∀ {a b : Json}, jsonCode a = jsonCode b → a = b
  | .null, b, h => by cases b <;> simp_all [jsonCode]
  | .bool x, b, h => by
    cases b <;> simp [jsonCode] at h ⊢
    rename_i y
    cases x <;> cases y <;> simp_all
  | .int x, b, h => by
    cases b <;> simp [jsonCode] at h ⊢
    exact Int64.toBitVec_inj.1 (BitVec.eq_of_toNat_eq h)
  | .uint x, b, h => by
    cases b <;> simp [jsonCode] at h ⊢
    exact UInt64.toNat_inj.1 h
  | .float x, b, h => by
    cases b <;> simp [jsonCode] at h ⊢
    rename_i d
    obtain ⟨bits⟩ := x
    obtain ⟨bits'⟩ := d
    exact congrArg Double.mk (UInt64.toNat_inj.1 h)
  | .str s, b, h => by
    cases b <;> simp [jsonCode] at h ⊢
    exact strCode_inj h
  | .arr items, b, h => by
    cases b <;> simp [jsonCode] at h ⊢
    exact itemsCode_inj h
  | .obj members, b, h => by
    cases b <;> simp [jsonCode] at h ⊢
    exact membersCode_inj h
  | .binary bytes, b, h => by
    cases b <;> simp [jsonCode] at h ⊢
    exact strCode_inj h

theorem itemsCode_inj : ∀ {a b : List Json}, itemsCode a = itemsCode b → a = b
  | [], [], _ => rfl
  | [], _ :: _, h | _ :: _, [], h => by simp [itemsCode] at h
  | j :: a, j' :: b, h => by
    simp only [itemsCode, Nat.add_right_cancel_iff, Nat.pair_eq_pair] at h
    rw [jsonCode_inj h.1, itemsCode_inj h.2]

theorem membersCode_inj : ∀ {a b : List (Str × Json)}, membersCode a = membersCode b → a = b
  | [], [], _ => rfl
  | [], _ :: _, h | _ :: _, [], h => by simp [membersCode] at h
  | (key, j) :: a, (key', j') :: b, h => by
    simp only [membersCode, Nat.add_right_cancel_iff, Nat.pair_eq_pair] at h
    rw [strCode_inj h.1.1, jsonCode_inj h.1.2, membersCode_inj h.2]

end

/-- A text for each value. -/
def jsonText (j : JsonValue) : Str := List.replicate (jsonCode j.json) (chr '#')

theorem jsonText_injective : Function.Injective jsonText := by
  intro a b h
  have hjson := jsonCode_inj (by simpa [jsonText] using congrArg List.length h)
  cases a
  cases b
  cases hjson
  rfl

open Classical in
/-- Writes `written` as `text`, and reads `text` as `read`. -/
noncomputable def readingJson (text : Str) (written read : JsonValue) : JsonText where
  dump j :=
    if j.json.any Json.badText = true then none
    else if j = written then some text else some (jsonText j)
  parse t := if t = text then some read else Function.partialInv jsonText t

/-- The other texts it writes hold one character only. -/
theorem readingJson_lawful {text : Str} {c : UInt8} (hmem : c ∈ text) (hc : c ≠ chr '#')
    {written read : JsonValue} (hsame : Json.Same written.json read.json) :
    (readingJson text written read).Lawful where
  dumps j := by
    simp only [readingJson]
    cases hbad : j.json.any Json.badText with
    | true => simp
    | false =>
      rw [if_neg Bool.false_ne_true]
      split
      · simp
      · simp
  reads j t _ hdump := by
    simp only [readingJson] at hdump ⊢
    split at hdump
    · cases hdump
    · split at hdump
      · rename_i hj
        cases hdump
        rw [if_pos rfl, hj]
        exact ⟨read, rfl, hsame⟩
      · cases hdump
        have hne : jsonText j ≠ text := by
          intro h
          rw [← h] at hmem
          exact hc (List.eq_of_mem_replicate hmem)
        rw [if_neg hne, Function.partialInv_left jsonText_injective j]
        exact ⟨j, rfl, Json.same_refl j.json j.keys⟩

/-- A text for each value, none the beginning of another one. -/
def closedText (j : JsonValue) : Str := jsonText j ++ [chr '.']

theorem closedText_injective : Function.Injective closedText := fun _ _ h =>
  jsonText_injective (List.append_inj_left' h rfl)

theorem closedText_prefix {j k : JsonValue} (h : closedText j <+: closedText k) :
    closedText j = closedText k := by
  have hle : jsonCode j.json ≤ jsonCode k.json := by
    simpa [closedText, jsonText] using h.length_le
  obtain hlt | heq := hle.lt_or_eq
  · -- at the end of the shorter one the longer one goes on
    obtain ⟨rest, hrest⟩ := h
    have hdot : (closedText j ++ rest)[jsonCode j.json]? = some (chr '.') := by
      simp [closedText, jsonText]
    have hhash : (closedText k)[jsonCode j.json]? = some (chr '#') := by
      rw [closedText, jsonText, List.getElem?_append_left (by simpa using hlt)]
      simp [hlt]
    rw [hrest, hhash] at hdot
    exact absurd hdot (by decide)
  · simp only [closedText, jsonText, heq]

/-- A text whose first character is another one. -/
theorem not_closedText {text : Str} {c : UInt8} (hfirst : text.head? = some c)
    (hhash : c ≠ chr '#') (hdot : c ≠ chr '.') (j : JsonValue) (p : Str) :
    ¬ closedText j <+: text ++ p := by
  rintro ⟨rest, hrest⟩
  cases text with
  | nil => cases hfirst
  | cons b text =>
    cases hfirst
    cases hcode : jsonCode j.json with
    | zero =>
      simp only [closedText, jsonText, hcode, List.replicate_zero, List.nil_append,
        List.cons_append, List.cons.injEq] at hrest
      exact hdot hrest.1.symm
    | succ n =>
      simp only [closedText, jsonText, hcode, List.replicate_succ, List.cons_append,
        List.cons.injEq] at hrest
      exact hhash hrest.1.symm

theorem partialInv_closedText {p : Str} (h : ∀ j, closedText j ≠ p) :
    Function.partialInv closedText p = none := by
  rw [Function.partialInv, dif_neg]
  rintro ⟨j, hj⟩
  exact h j hj

open Classical in
/-- Writes `written` as `text`, and reads `text` as `read`. -/
noncomputable def conformingJson (text : Str) (written read : JsonValue) : JsonText where
  dump j :=
    if j.json.any Json.badText = true then none
    else if j.nulled = written then some text else some (closedText j.nulled)
  parse t := if t = text then some read else Function.partialInv closedText t

theorem nulled_of_textless {j : JsonValue} (h : j.json.any Json.textless = false) :
    j.nulled = j := by
  cases j
  simp only [JsonValue.nulled, JsonValue.mk.injEq]
  exact Json.nulled_eq _ h

/-- The other texts begin with another character. -/
theorem conformingJson_conforms {text : Str} {c : UInt8} (hfirst : text.head? = some c)
    (hhash : c ≠ chr '#') (hdot : c ≠ chr '.') {written read : JsonValue}
    (hsame : Json.Same written.json read.json) :
    (conformingJson text written read).Conforms := by
  have hnot : ∀ j p, ¬ closedText j <+: text ++ p := not_closedText hfirst hhash hdot
  have hne : ∀ j, closedText j ≠ text := by
    intro j h
    apply hnot j []
    simp only [h, List.append_nil, List.prefix_rfl]
  refine { dumps := fun j => ?_, reads := fun j t htext hdump => ?_, nulls := fun j => ?_,
           empty := ?_, whole := fun j t p _ hdump hp hcut => ?_ }
  · simp only [conformingJson]
    cases hbad : j.json.any Json.badText with
    | true => simp
    | false =>
      rw [if_neg Bool.false_ne_true]
      split <;> simp
  · simp only [conformingJson] at hdump ⊢
    rw [nulled_of_textless htext] at hdump
    split at hdump
    · cases hdump
    · split at hdump
      · rename_i hj
        cases hdump
        rw [if_pos rfl, hj]
        exact ⟨read, rfl, hsame⟩
      · cases hdump
        rw [if_neg (hne j), Function.partialInv_left closedText_injective j]
        exact ⟨j, rfl, Json.same_refl j.json j.keys⟩
  · have htwice : j.nulled.nulled = j.nulled := by
      simp only [JsonValue.nulled, Json.nulled_nulled]
    have hbad : j.nulled.json.any Json.badText = j.json.any Json.badText :=
      Json.nulled_badText j.json
    simp only [conformingJson]
    rw [hbad, htwice]
  · simp only [conformingJson]
    have htext : [] ≠ text := by
      rintro rfl
      cases hfirst
    rw [if_neg htext]
    exact partialInv_closedText fun j => by simp [closedText]
  · simp only [conformingJson] at hdump ⊢
    split at hdump
    · cases hdump
    · split at hdump
      · cases hdump
        rw [if_neg hcut]
        refine partialInv_closedText fun k hk => hnot k [] ?_
        rw [hk, List.append_nil]
        exact hp
      · cases hdump
        have hother : p ≠ text := by
          intro h
          obtain ⟨rest, hrest⟩ := hp
          apply hnot j.nulled rest
          simp only [← h, hrest, List.prefix_rfl]
        rw [if_neg hother]
        refine partialInv_closedText fun k hk => hcut ?_
        rw [← hk] at hp ⊢
        exact closedText_prefix hp

end Gr4cp.Domain

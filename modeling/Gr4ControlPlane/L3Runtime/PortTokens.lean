import Mathlib.Data.List.TakeWhile
import Gr4ControlPlane.L3Runtime.GraphPreservation

/-!
# Port tokens of a connection (`normalize_connection`)

A port is named in a graph by its number, or by `in` or `out` and the
number. The rewriting cuts the number out of a prefixed token behind the
last `t`. `in` has no `t`: `rfind` says `npos`, `npos + 1` is 0, and what is
cut out of `in1` is `in1`, which is no number. So an input token of the
second kind stays a string.

* `portAt_normalized`: what the rewriting puts at an end of a connection is
  the rewritten token of that end.
* `token_becomes_index_iff`: a port token becomes its index exactly when it
  is not `in` with digits behind it (and no number at the other end is too
  large for the whole connection).
-/
namespace Gr4cp.Runtime

open Gr4cp.Core Gr4cp.Domain

/-! ## Tokens -/

/-- `token` names the port `index`. -/
inductive PortToken : Str → Nat → Prop
  | bareInput : PortToken (str "in") 0
  | bareOutput : PortToken (str "out") 0
  | number {d : Str} (digits : allDigits d = true) (fits : decimal d < 2 ^ 63) :
      PortToken d (decimal d)
  | input {d : Str} (digits : allDigits d = true) (fits : decimal d < 2 ^ 63) :
      PortToken (str "in" ++ d) (decimal d)
  | output {d : Str} (digits : allDigits d = true) (fits : decimal d < 2 ^ 63) :
      PortToken (str "out" ++ d) (decimal d)

/-- `in` with digits behind it. -/
def InputToken (token : Str) : Prop := ∃ d, allDigits d = true ∧ token = str "in" ++ d

theorem allDigits_mem {d : Str} (h : allDigits d = true) {c : UInt8} (hc : c ∈ d) :
    isDigit c = true := by
  obtain ⟨-, hall⟩ := Bool.and_eq_true_iff.1 h
  exact List.all_eq_true.1 hall c hc

/-- A text with a character that is no digit is no number. -/
theorem allDigits_false {s : Str} {c : UInt8} (hc : c ∈ s) (h : isDigit c = false) :
    allDigits s = false := by
  cases hs : allDigits s with
  | false => rfl
  | true =>
    rw [allDigits_mem hs hc] at h
    cases h

theorem digit_ne_t {c : UInt8} (h : isDigit c = true) : c ≠ chr 't' := by
  intro hc
  subst hc
  exact absurd h (by decide)

/-- Without a `t`, the cut takes everything. -/
theorem afterLastT_input {d : Str} (h : allDigits d = true) :
    afterLastT (str "in" ++ d) = str "in" ++ d := by
  have hall : ∀ c ∈ (str "in" ++ d).reverse, decide (c ≠ chr 't') = true := by
    intro c hc
    rw [List.mem_reverse, List.mem_append] at hc
    rw [decide_eq_true_eq]
    obtain hin | hd := hc
    · have hchars : (str "in").all (· != chr 't') = true := by decide
      simpa using List.all_eq_true.1 hchars c hin
    · exact digit_ne_t (allDigits_mem h hd)
  rw [afterLastT, List.takeWhile_eq_self_iff.2 hall, List.reverse_reverse]

theorem afterLastT_output {d : Str} (h : allDigits d = true) :
    afterLastT (str "out" ++ d) = d := by
  have hall : ∀ c ∈ d.reverse, decide (c ≠ chr 't') = true := by
    intro c hc
    rw [List.mem_reverse] at hc
    simpa using digit_ne_t (allDigits_mem h hc)
  have hcut : (str "out").reverse.takeWhile (fun c => decide (c ≠ chr 't')) = [] := by decide
  rw [afterLastT, List.reverse_append, List.takeWhile_append_of_pos hall, hcut, List.append_nil,
    List.reverse_reverse]

theorem allDigits_ne_nil {d : Str} (h : allDigits d = true) : d ≠ [] := by
  intro hd
  subst hd
  cases h

theorem portDigits_input {d : Str} (h : allDigits d = true) : portDigits (str "in" ++ d) = none := by
  have hno : allDigits (str "in" ++ d) = false :=
    allDigits_false (c := chr 'i') (by simp [str, chr]) (by decide)
  simp [portDigits, hno, afterLastT_input h]

theorem portDigits_output {d : Str} (h : allDigits d = true) :
    portDigits (str "out" ++ d) = some d := by
  have hno : allDigits (str "out" ++ d) = false :=
    allDigits_false (c := chr 'o') (by simp [str, chr]) (by decide)
  have hlen : 2 < (str "out").length + d.length := by
    rw [show (str "out").length = 3 by decide]
    omega
  have hpre : (str "out").isPrefixOf (str "out" ++ d) = true := by
    rw [List.isPrefixOf_iff_prefix]
    exact List.prefix_append _ _
  simp [portDigits, hno, hlen, hpre, afterLastT_output h, h]

theorem normalizePort_of_digits {token digits : Str} (hin : token ≠ str "in")
    (hout : token ≠ str "out") (hdigits : portDigits token = some digits)
    (hfits : decimal digits < 2 ^ 63) :
    normalizePort token = .ok (.int (Int64.ofNat (decimal digits))) := by
  unfold normalizePort
  rw [if_neg (by simp [hin, hout])]
  simp only [hdigits, stoll, if_pos hfits]
  rfl

/-- Every port token becomes its index, an input token with digits excepted. -/
theorem normalizePort_token {token : Str} {index : Nat} (h : PortToken token index)
    (hinput : ¬ InputToken token) :
    normalizePort token = .ok (.int (Int64.ofNat index)) := by
  cases h with
  | bareInput => rfl
  | bareOutput => rfl
  | number digits fits =>
    refine normalizePort_of_digits ?_ ?_ (by simp [portDigits, digits]) fits
    · intro htoken
      rw [htoken] at digits
      exact absurd digits (by decide)
    · intro htoken
      rw [htoken] at digits
      exact absurd digits (by decide)
  | input digits fits => exact absurd ⟨_, digits, rfl⟩ hinput
  | output digits fits =>
    refine normalizePort_of_digits ?_ ?_ (portDigits_output digits) fits
    · intro htoken
      exact absurd (List.cons.inj htoken).1 (by decide)
    · intro htoken
      exact allDigits_ne_nil digits (List.append_right_eq_self.1 htoken)

/-- An input token with digits is left as it is. -/
theorem normalizePort_input {token : Str} (h : InputToken token) :
    normalizePort token = .ok (.str token) := by
  obtain ⟨d, digits, rfl⟩ := h
  have hne : ¬ (str "in" ++ d = str "in" ∨ str "in" ++ d = str "out") := by
    intro htoken
    obtain hin | hout := htoken
    · exact allDigits_ne_nil digits (List.append_right_eq_self.1 hin)
    · exact absurd (List.cons.inj hout).1 (by decide)
  unfold normalizePort
  rw [if_neg hne, portDigits_input digits]

theorem portFits_token {token : Str} {index : Nat} (h : PortToken token index) :
    PortFits token := by
  rw [← normalizePort_ok_iff]
  by_cases hinput : InputToken token
  · exact ⟨_, normalizePort_input hinput⟩
  · exact ⟨_, normalizePort_token h hinput⟩

/-! ## Ends of a connection -/

inductive End where
  | source
  | dest
  deriving DecidableEq, Repr

/-- Where an end's port stands in a connection written as a tensor. -/
def End.index : End → Nat
  | .source => 1
  | .dest => 3

def End.other : End → End
  | .source => .dest
  | .dest => .source

theorem End.other_of_ne {e e' : End} (h : e' ≠ e) : e.other = e' := by
  cases e with
  | source => cases e' with
    | source => exact absurd rfl h
    | dest => rfl
  | dest => cases e' with
    | source => rfl
    | dest => exact absurd rfl h

/-- The token the rewriting reads at one end, in either form. -/
def tokenAt (connection : Value) (e : End) : Option Str :=
  match getTensor connection with
  | some sequence =>
    if sequence.length < 4 then none else (sequence[e.index]?).bind valueToString
  | none =>
    ((getMap connection).bind connectionStrings).map fun strings =>
      match e with
      | .source => strings.2.1
      | .dest => strings.2.2.2

/-- The port at one end of the connection the importer gets. -/
def portAt (connection : Value) (e : End) : Option Value :=
  (getTensor connection).bind fun sequence => sequence[e.index]?

theorem mem_portTokens (connection : Value) (token : Str) :
    token ∈ portTokens connection ↔ ∃ e, tokenAt connection e = some token := by
  have hends : ∀ P : End → Prop, (∃ e, P e) ↔ P .source ∨ P .dest := by
    intro P
    constructor
    · intro h
      obtain ⟨e, he⟩ := h
      cases e
      · exact .inl he
      · exact .inr he
    · intro h
      obtain hs | hd := h
      · exact ⟨_, hs⟩
      · exact ⟨_, hd⟩
  rw [hends]
  unfold portTokens tokenAt
  cases getTensor connection with
  | some sequence =>
    dsimp only
    split
    · simp
    · simp [List.mem_filterMap, End.index]
  | none =>
    cases getMap connection with
    | none => simp
    | some map =>
      simp only [Option.bind_some, connectionStrings]
      cases parameterString map (str "source_block") <;>
        cases parameterString map (str "source_port_token") <;>
        cases parameterString map (str "dest_block") <;>
        cases parameterString map (str "dest_port_token") <;> simp [eq_comm]

theorem normalizeAt_port {index : Nat} {sequence sequence' : List Value} {changed : Bool}
    {token : Str} (hat : (sequence[index]?).bind valueToString = some token)
    (h : normalizeAt index sequence = .ok (sequence', changed)) :
    ∃ port, normalizePort token = .ok port ∧ sequence'[index]? = some port := by
  unfold normalizeAt at h
  rw [hat] at h
  dsimp only at h
  cases hport : normalizePort token with
  | error e =>
    rw [hport] at h
    cases h
  | ok port =>
    rw [hport] at h
    cases h
    refine ⟨port, rfl, ?_⟩
    obtain ⟨v, hv, -⟩ := Option.bind_eq_some_iff.1 hat
    obtain ⟨hlt, -⟩ := List.getElem?_eq_some_iff.1 hv
    exact List.getElem?_set_self hlt

/-- The two ports of a sequence are rewritten one after the other. -/
theorem portAt_sequence {sequence first third : List Value} {firstChanged thirdChanged : Bool}
    {e : End} {token : Str} (hat : (sequence[e.index]?).bind valueToString = some token)
    (hfirst : normalizeAt 1 sequence = .ok (first, firstChanged))
    (hthird : normalizeAt 3 first = .ok (third, thirdChanged)) :
    ∃ port, normalizePort token = .ok port ∧ third[e.index]? = some port := by
  cases e with
  | source =>
    obtain ⟨port, hport, hget⟩ := normalizeAt_port hat hfirst
    exact ⟨port, hport, (normalizeAt_other (by decide) hthird).trans hget⟩
  | dest =>
    apply normalizeAt_port _ hthird
    rw [normalizeAt_other (by decide) hfirst]
    exact hat

/-- What the rewriting puts at an end is that end's token, rewritten. -/
theorem portAt_normalized {connection connection' : Value} {changed : Bool} {e : End} {token : Str}
    (hat : tokenAt connection e = some token)
    (h : normalizeConnection connection = .ok (connection', changed)) :
    ∃ port, normalizePort token = .ok port ∧ portAt connection' e = some port := by
  unfold tokenAt at hat
  cases hsequence : getTensor connection with
  | some sequence =>
    rw [hsequence] at hat
    dsimp only at hat
    by_cases hshort : sequence.length < 4
    · rw [if_pos hshort] at hat
      cases hat
    · rw [if_neg hshort] at hat
      obtain ⟨first, third, _, _, hfirst, hthird, rfl, -⟩ :=
        normalizeConnection_sequence hsequence hshort h
      exact portAt_sequence hat hfirst hthird
  | none =>
    have hpreserved := (normalizeConnection_preserved h).1
    unfold ConnectionPreserved at hpreserved
    rw [hsequence] at hat hpreserved
    dsimp only at hat hpreserved
    cases hstrings : (getMap connection).bind connectionStrings with
    | none =>
      rw [hstrings] at hat
      cases hat
    | some strings =>
      obtain ⟨sourceBlock, sourcePort, destBlock, destPort⟩ := strings
      simp only [hstrings] at hat hpreserved
      obtain ⟨source, dest, hsource, hdest, rfl⟩ := hpreserved
      cases e with
      | source =>
        cases hat
        exact ⟨source, hsource, rfl⟩
      | dest =>
        cases hat
        exact ⟨dest, hdest, rfl⟩

/-- **Tokens and indices, exactly.** For every token that names a port, at
either end of a connection written in either form: the rewriting gives that
end the port's number if and only if the token is not `in` with digits
behind it, and the number at the other end, if there is one, is in range. -/
theorem token_becomes_index_iff {token : Str} {index : Nat} (h : PortToken token index)
    {connection : Value} {e : End} (hat : tokenAt connection e = some token) :
    (∃ connection' changed, normalizeConnection connection = .ok (connection', changed) ∧
      portAt connection' e = some (.int (Int64.ofNat index))) ↔
    ¬ InputToken token ∧ ∀ other, tokenAt connection e.other = some other → PortFits other := by
  constructor
  · intro hbecomes
    obtain ⟨connection', changed, hnormalized, hport⟩ := hbecomes
    constructor
    · intro hinput
      obtain ⟨port, hsome, hget⟩ := portAt_normalized hat hnormalized
      rw [normalizePort_input hinput] at hsome
      cases hsome
      rw [hget] at hport
      cases hport
    · intro other hother
      apply (normalizeConnection_ok_iff connection).1 ⟨_, hnormalized⟩
      exact (mem_portTokens _ _).2 ⟨_, hother⟩
  · intro hcond
    obtain ⟨hinput, hother⟩ := hcond
    have hfits : ∀ t ∈ portTokens connection, PortFits t := by
      intro t ht
      obtain ⟨e', he'⟩ := (mem_portTokens _ _).1 ht
      by_cases hend : e' = e
      · subst hend
        rw [hat] at he'
        cases he'
        exact portFits_token h
      · apply hother t
        rw [End.other_of_ne hend]
        exact he'
    obtain ⟨result, hnormalized⟩ := (normalizeConnection_ok_iff connection).2 hfits
    obtain ⟨connection', changed⟩ := result
    obtain ⟨port, hsome, hget⟩ := portAt_normalized hat hnormalized
    rw [normalizePort_token h hinput] at hsome
    cases hsome
    exact ⟨connection', changed, hnormalized, hget⟩

/-- The source end of `[src, out2, sink, in]`. -/
theorem out2_becomes_index :
    ∃ connection' changed,
      normalizeConnection
        (.tensor [.str (str "src"), .str (str "out2"), .str (str "sink"), .str (str "in")]) =
          .ok (connection', changed) ∧
      portAt connection' .source = some (.int (Int64.ofNat (decimal (str "2")))) := by
  apply (token_becomes_index_iff (e := .source)
    (.output (d := str "2") (by decide) (by decide)) rfl).2
  constructor
  · intro h
    obtain ⟨d, -, hd⟩ := h
    exact absurd (List.cons.inj hd).1 (by decide)
  · intro other hother
    obtain rfl : str "in" = other := by simpa [tokenAt, getTensor, End.other, End.index,
      valueToString] using hother
    exact portFits_token .bareInput

/-- The token `in1` names the port 1, and stays a string. -/
theorem in1_stays_text :
    PortToken (str "in1") 1 ∧
    ¬ ∃ connection' changed,
      normalizeConnection
        (.tensor [.str (str "src"), .str (str "out"), .str (str "sink"), .str (str "in1")]) =
          .ok (connection', changed) ∧
      portAt connection' .dest = some (.int (Int64.ofNat 1)) := by
  refine ⟨PortToken.input (d := str "1") (by decide) (by decide), ?_⟩
  intro h
  obtain ⟨connection', changed, hnormalized, hport⟩ := h
  have hrun : normalizeConnection
      (.tensor [.str (str "src"), .str (str "out"), .str (str "sink"), .str (str "in1")]) =
        .ok (.tensor [.str (str "src"), .int 0, .str (str "sink"), .str (str "in1")], true) := rfl
  rw [hrun] at hnormalized
  cases hnormalized
  exact absurd hport (by decide)

end Gr4cp.Runtime

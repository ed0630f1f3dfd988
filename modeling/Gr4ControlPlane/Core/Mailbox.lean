import Mathlib.Data.List.Induction
import Mathlib.Data.List.Nodup
import Mathlib.Data.List.Perm.Subperm
import Mathlib.Logic.Function.Basic

/-!
# Servers that are sent requests

Requests are sent to servers, each to the one that its key names. They are
carried out in some order, each answered by its server in the state it is in
then; answers are given, and may be lost or come late. `Mailbox` keeps the
requests sent, the places of those carried out, the states and the answers.

* `InOrder`: no request is carried out twice, and none after one sent later
  to the same server.
* `Mailbox.Inv`: every server is in the state that its requests have led it
  to, and every answer was given to some request when it had its turn.
* `InOrder.turns_sublist`: what a server has carried out are requests sent to
  it, in the order in which they were sent; `InOrder.turns_eq`: all of them,
  where none is missing.
* `InOrder.last`: once the last request sent has had its turn, its server has
  no other one to come.
-/
namespace Gr4cp.Core

variable {κ σ Req Rep τ : Type}

namespace Mailbox

/-- The state after some requests. -/
def after (serve : σ → Req → σ × List Rep) (start : σ) (requests : List Req) : σ :=
  requests.foldl (fun state request => (serve state request).1) start

@[simp] theorem after_concat {serve : σ → Req → σ × List Rep} {start : σ} {requests : List Req}
    {request : Req} :
    after serve start (requests ++ [request]) = (serve (after serve start requests) request).1 := by
  simp [after]

/-- An element is in the one place that has its tag. -/
theorem place_of_tag {tag : Req → τ} {sent : List Req} (hnodup : (sent.map tag).Nodup) {i j : Nat}
    {a b : Req} (ha : sent[i]? = some a) (hb : sent[j]? = some b) (htag : tag a = tag b) :
    i = j := by
  obtain ⟨hi, rfl⟩ := List.getElem?_eq_some_iff.1 ha
  obtain ⟨hj, rfl⟩ := List.getElem?_eq_some_iff.1 hb
  have hi' : i < (sent.map tag).length := by simpa using hi
  have hj' : j < (sent.map tag).length := by simpa using hj
  have heq : (sent.map tag)[i] = (sent.map tag)[j] := by simpa using htag
  exact hnodup.getElem_inj_iff.1 heq

theorem getElem?_send {sent : List Req} {i : Nat} (hi : i < sent.length) (request : Req) :
    (sent ++ [request])[i]? = sent[i]? := List.getElem?_append_left hi

/-- Elements in ascending places are a sublist. -/
theorem filterMap_sublist {places : List Nat} {sent : List Req} (hsent : ∀ i ∈ places, i < sent.length)
    (horder : places.Pairwise (· < ·)) : (places.filterMap (sent[·]?)).Sublist sent := by
  induction places using List.reverseRecOn generalizing sent with
  | nil => exact List.nil_sublist _
  | append_singleton places i ih =>
    obtain ⟨hfront, -, hlast⟩ := List.pairwise_append.1 horder
    have hi : i < sent.length := hsent i (by simp)
    have hbefore : ∀ j ∈ places, j < i := fun j hj => hlast j hj i (List.mem_singleton_self _)
    have htake : places.filterMap (sent[·]?) = places.filterMap ((sent.take i)[·]?) :=
      List.filterMap_congr fun j hj => (List.getElem?_take_of_lt (hbefore j hj)).symm
    have hshort : ∀ j ∈ places, j < (sent.take i).length := by
      intro j hj
      have hlt := hbefore j hj
      rw [List.length_take]
      omega
    have hrest := ih hshort hfront
    rw [List.filterMap_append, htake]
    conv_rhs => rw [← List.take_append_drop i sent, List.drop_eq_getElem_cons hi]
    simp only [List.filterMap_cons, List.filterMap_nil, List.getElem?_eq_getElem hi]
    exact hrest.append (List.singleton_sublist.2 List.mem_cons_self)

section Turns

variable (key : Req → κ)

/-- Of the requests in the places `carried`, those for the server `k`. -/
def turns [DecidableEq κ] (sent : List Req) (carried : List Nat) (k : κ) : List Req :=
  (carried.filterMap (sent[·]?)).filter fun request => key request = k

/-- Each request is carried out at most once, and for each server in the
order in which they were sent. -/
structure InOrder (sent : List Req) (carried : List Nat) : Prop where
  within : ∀ i ∈ carried, i < sent.length
  once : carried.Nodup
  order : carried.Pairwise fun i j => ∀ a b, sent[i]? = some a → sent[j]? = some b →
    key a = key b → i < j

/-- Nothing that is carried out was sent to its server behind one that is
not. -/
def NoneSkipped (sent : List Req) (carried : List Nat) : Prop :=
  ∀ i ∈ carried, ∀ j < i, ∀ a b, sent[j]? = some a → sent[i]? = some b → key a = key b →
    j ∈ carried

variable {key} {sent : List Req} {carried : List Nat} {request : Req} {i : Nat}

theorem turns_send [DecidableEq κ] (hsent : ∀ i ∈ carried, i < sent.length) (k : κ) :
    turns key (sent ++ [request]) carried k = turns key sent carried k := by
  unfold turns
  rw [List.filterMap_congr fun i hi => getElem?_send (hsent i hi) request]

theorem turns_carry [DecidableEq κ] (hrequest : sent[i]? = some request) (k : κ) :
    turns key sent (carried ++ [i]) k =
      turns key sent carried k ++ if key request = k then [request] else [] := by
  unfold turns
  rw [List.filterMap_append, List.filter_append]
  congr 1
  simp only [List.filterMap_cons, List.filterMap_nil, hrequest, List.filter_cons, List.filter_nil,
    decide_eq_true_eq]

theorem InOrder.nil : InOrder key sent [] := ⟨nofun, .nil, .nil⟩

theorem InOrder.send (h : InOrder key sent carried) (request : Req) :
    InOrder key (sent ++ [request]) carried where
  within i hi := by
    have hlt := h.within i hi
    simp only [List.length_append, List.length_singleton]
    omega
  once := h.once
  order := h.order.imp_of_mem fun {i j} hi hj hij a b ha hb => by
    rw [getElem?_send (h.within i hi)] at ha
    rw [getElem?_send (h.within j hj)] at hb
    exact hij a b ha hb

theorem InOrder.carry (h : InOrder key sent carried) (hi : i < sent.length) (honce : i ∉ carried)
    (horder : ∀ j ∈ carried, ∀ a b, sent[j]? = some a → sent[i]? = some b → key a = key b → j < i) :
    InOrder key sent (carried ++ [i]) where
  within j hj := by
    obtain hj | hj := List.mem_append.1 hj
    · exact h.within j hj
    · obtain rfl := List.mem_singleton.1 hj
      exact hi
  once := by
    rw [List.nodup_append]
    refine ⟨h.once, List.nodup_singleton _, fun j hj j' hj' => ?_⟩
    rintro rfl
    exact honce (List.mem_singleton.1 hj' ▸ hj)
  order := by
    rw [List.pairwise_append]
    refine ⟨h.order, List.pairwise_singleton _ _, fun j hj j' hj' => ?_⟩
    obtain rfl := List.mem_singleton.1 hj'
    exact horder j hj

theorem NoneSkipped.send (h : NoneSkipped key sent carried) (hsent : ∀ i ∈ carried, i < sent.length)
    (request : Req) : NoneSkipped key (sent ++ [request]) carried := by
  intro i hi j hj a b ha hb
  rw [getElem?_send (Nat.lt_trans hj (hsent i hi))] at ha
  rw [getElem?_send (hsent i hi)] at hb
  exact h i hi j hj a b ha hb

theorem NoneSkipped.carry (h : NoneSkipped key sent carried)
    (hnone : ∀ j < i, ∀ a b, sent[j]? = some a → sent[i]? = some b → key a = key b → j ∈ carried) :
    NoneSkipped key sent (carried ++ [i]) := by
  intro i' hi' j hj a b ha hb hkey
  refine List.mem_append_left _ ?_
  obtain hi' | hi' := List.mem_append.1 hi'
  · exact h i' hi' j hj a b ha hb hkey
  · obtain rfl := List.mem_singleton.1 hi'
    exact hnone j hj a b ha hb hkey

/-- At most all requests are carried out. -/
theorem InOrder.length_le (h : InOrder key sent carried) : carried.length ≤ sent.length := by
  have hsub : carried ⊆ List.range sent.length := fun i hi => List.mem_range.2 (h.within i hi)
  have hle := (List.subperm_of_subset h.once hsub).length_le
  rwa [List.length_range] at hle

/-- The request in the place `i` is for the server `k`. -/
def isFor [DecidableEq κ] (key : Req → κ) (sent : List Req) (k : κ) (i : Nat) : Bool :=
  sent[i]?.any fun request => key request = k

theorem isFor_iff [DecidableEq κ] {k : κ} :
    isFor key sent k i = true ↔ ∃ request, sent[i]? = some request ∧ key request = k := by
  unfold isFor
  cases sent[i]? <;> simp

theorem turns_eq_places [DecidableEq κ] (sent : List Req) (carried : List Nat) (k : κ) :
    turns key sent carried k = (carried.filter (isFor key sent k)).filterMap (sent[·]?) := by
  unfold turns isFor
  rw [List.filter_filterMap, List.filterMap_filter]
  refine List.filterMap_congr fun i _ => ?_
  cases hi : sent[i]? with
  | none => simp
  | some request => by_cases hk : key request = k <;> simp [hk]

theorem filterMap_range (sent : List Req) :
    (List.range sent.length).filterMap (sent[·]?) = sent := by
  induction sent using List.reverseRecOn with
  | nil => rfl
  | append_singleton sent request ih =>
    have hsent : (List.range sent.length).filterMap ((sent ++ [request])[·]?) = sent := by
      rw [List.filterMap_congr fun i hi => getElem?_send (List.mem_range.1 hi) request, ih]
    rw [List.length_append, List.length_singleton, List.range_succ, List.filterMap_append, hsent]
    simp

/-- The places of what is for one server ascend. -/
theorem InOrder.ascends [DecidableEq κ] (h : InOrder key sent carried) (k : κ) :
    (carried.filter (isFor key sent k)).Pairwise (· < ·) := by
  refine (h.order.filter _).imp_of_mem fun {i j} hi hj hij => ?_
  obtain ⟨a, ha, hak⟩ := isFor_iff.1 (List.mem_filter.1 hi).2
  obtain ⟨b, hb, hbk⟩ := isFor_iff.1 (List.mem_filter.1 hj).2
  exact hij a b ha hb (hak.trans hbk.symm)

/-- What a server has carried out are requests sent to it, in their order. -/
theorem InOrder.turns_sublist [DecidableEq κ] (h : InOrder key sent carried) (k : κ) :
    (turns key sent carried k).Sublist (sent.filter fun request => key request = k) := by
  have hself : turns key sent carried k =
      (turns key sent carried k).filter fun request => key request = k :=
    (List.filter_eq_self.2 fun request hmem => (List.mem_filter.1 hmem).2).symm
  rw [hself, turns_eq_places]
  exact (filterMap_sublist (fun i hi => h.within i (List.mem_of_mem_filter hi))
    (h.ascends k)).filter _

/-- Where nothing sent to a server is missing, it is all that was sent. -/
theorem InOrder.turns_eq [DecidableEq κ] (h : InOrder key sent carried) {k : κ}
    (hall : ∀ i a, sent[i]? = some a → key a = k → i ∈ carried) :
    turns key sent carried k = sent.filter fun request => key request = k := by
  have hplaces : carried.filter (isFor key sent k) =
      (List.range sent.length).filter (isFor key sent k) := by
    refine ((List.perm_ext_iff_of_nodup (h.once.filter _) (List.nodup_range.filter _)).2
      fun i => ?_).eq_of_pairwise (fun i j _ _ hij hji => absurd hij (Nat.lt_asymm hji))
      (h.ascends k) (List.pairwise_lt_range.filter _)
    simp only [List.mem_filter, List.mem_range]
    refine and_congr_left fun hfor => ⟨h.within i, fun _ => ?_⟩
    obtain ⟨a, ha, hk⟩ := isFor_iff.1 hfor
    exact hall i a ha hk
  have hsent : sent.filter (fun request => key request = k) =
      turns key sent (List.range sent.length) k := by
    unfold turns
    rw [filterMap_range]
  rw [hsent, turns_eq_places, turns_eq_places, hplaces]

/-- The last request sent has had its turn: those carried out before it were
sent before it, and nothing for its server comes behind it. -/
theorem InOrder.last {before : List Req} {front back : List Nat}
    (h : InOrder key (before ++ [request]) (front ++ before.length :: back)) :
    InOrder key before front ∧
      ∀ j ∈ back, ∀ r, (before ++ [request])[j]? = some r → key r ≠ key request := by
  have hlast : (before ++ [request])[before.length]? = some request := by simp
  obtain ⟨hfrontOnce, -, hdisjoint⟩ := List.nodup_append.1 h.once
  obtain ⟨hfrontOrder, hbackOrder, -⟩ := List.pairwise_append.1 h.order
  have hlt : ∀ i ∈ front, i < before.length := by
    intro i hi
    have hle := h.within i (List.mem_append_left _ hi)
    have hne := hdisjoint i hi before.length List.mem_cons_self
    simp only [List.length_append, List.length_singleton] at hle
    omega
  refine ⟨⟨hlt, hfrontOnce, hfrontOrder.imp_of_mem fun {i j} hi hj hij a b ha hb => ?_⟩, ?_⟩
  · rw [← getElem?_send (hlt i hi) request] at ha
    rw [← getElem?_send (hlt j hj) request] at hb
    exact hij a b ha hb
  · intro j hj r hr hkey
    have hgt := (List.pairwise_cons.1 hbackOrder).1 j hj request r hlast hr hkey.symm
    have hle := h.within j (by simp [hj])
    simp only [List.length_append, List.length_singleton] at hle
    omega

variable [DecidableEq κ]

/-- `answer` was given when the request in the place `i` had its turn. -/
def GivenAt (key : Req → κ) (serve : σ → Req → σ × List Rep) (start : κ → σ) (sent : List Req)
    (carried : List Nat) (i : Nat) (answer : Rep) : Prop :=
  ∃ front back request, carried = front ++ i :: back ∧ sent[i]? = some request ∧
    answer ∈ (serve (after serve (start (key request)) (turns key sent front (key request)))
      request).2

variable {serve : σ → Req → σ × List Rep} {start : κ → σ} {answer : Rep}

theorem givenAt_send (hsent : ∀ i ∈ carried, i < sent.length) (request : Req) :
    GivenAt key serve start (sent ++ [request]) carried i answer ↔
      GivenAt key serve start sent carried i answer := by
  unfold GivenAt
  refine exists_congr fun front => exists_congr fun back => exists_congr fun own => ?_
  refine and_congr_right fun hcarried => ?_
  rw [hcarried] at hsent
  rw [getElem?_send (hsent i (by simp)), turns_send fun j hj => hsent j (by simp [hj])]

theorem GivenAt.carry (h : GivenAt key serve start sent carried i answer) (j : Nat) :
    GivenAt key serve start sent (carried ++ [j]) i answer := by
  obtain ⟨front, back, own, hcarried, hown, hmem⟩ := h
  exact ⟨front, back ++ [j], own, by simp [hcarried], hown, hmem⟩

/-- An answer was given before, or to the request that has its turn. -/
theorem givenAt_carry (hrequest : sent[i]? = some request) :
    (∃ j, GivenAt key serve start sent (carried ++ [i]) j answer) ↔
      (∃ j, GivenAt key serve start sent carried j answer) ∨
        answer ∈ (serve (after serve (start (key request))
          (turns key sent carried (key request))) request).2 := by
  constructor
  · intro h
    obtain ⟨j, front, back, own, hcarried, hown, hmem⟩ := h
    obtain rfl | ⟨back, k, rfl⟩ := List.eq_nil_or_concat back
    · obtain ⟨rfl, hj⟩ := List.append_inj' hcarried rfl
      obtain rfl := (List.cons.inj hj).1
      obtain rfl := Option.some.inj (hrequest.symm.trans hown)
      exact .inr hmem
    · rw [List.concat_eq_append, ← List.cons_append, ← List.append_assoc] at hcarried
      obtain ⟨hcarried, -⟩ := List.append_inj' hcarried rfl
      exact .inl ⟨j, front, back, own, hcarried, hown, hmem⟩
  · intro h
    obtain ⟨j, hgiven⟩ | hmem := h
    · exact ⟨j, hgiven.carry i⟩
    · exact ⟨i, carried, [], request, rfl, hrequest, hmem⟩

end Turns

end Mailbox

/-- The requests sent, the places of those carried out, the states of the
servers and the answers given. -/
structure Mailbox (κ σ Req Rep : Type) where
  sent : List Req
  carried : List Nat
  state : κ → σ
  given : List Rep

namespace Mailbox

variable [DecidableEq κ] (key : Req → κ) (serve : σ → Req → σ × List Rep) (start : κ → σ)

def send (m : Mailbox κ σ Req Rep) (request : Req) : Mailbox κ σ Req Rep :=
  { m with sent := m.sent ++ [request] }

/-- The request in the place `i` is carried out. -/
def carry (m : Mailbox κ σ Req Rep) (i : Nat) : Option (Mailbox κ σ Req Rep) :=
  m.sent[i]?.map fun request =>
    let turn := serve (m.state (key request)) request
    { m with
      carried := m.carried ++ [i]
      state := Function.update m.state (key request) turn.1
      given := m.given ++ turn.2 }

structure Inv (m : Mailbox κ σ Req Rep) : Prop where
  inOrder : InOrder key m.sent m.carried
  state : ∀ k, m.state k = after serve (start k) (turns key m.sent m.carried k)
  given : ∀ answer, answer ∈ m.given ↔ ∃ i, GivenAt key serve start m.sent m.carried i answer

theorem carry_isSome (m : Mailbox κ σ Req Rep) {i : Nat} (hi : i < m.sent.length) :
    ∃ m', m.carry key serve i = some m' := by
  unfold carry
  rw [List.getElem?_eq_getElem hi]
  exact ⟨_, rfl⟩

variable {key serve start} {m m' : Mailbox κ σ Req Rep}

theorem carry_length {i : Nat} (h : m.carry key serve i = some m') :
    m'.sent.length = m.sent.length ∧ m'.carried.length = m.carried.length + 1 := by
  obtain ⟨request, -, rfl⟩ := Option.map_eq_some_iff.1 h
  exact ⟨rfl, List.length_append⟩

theorem Inv.empty : Inv key serve start ⟨[], [], start, []⟩ where
  inOrder := .nil
  state _ := rfl
  given answer := by
    refine ⟨nofun, fun h => ?_⟩
    obtain ⟨_, _, _, _, hcarried, -⟩ := h
    simp at hcarried

theorem Inv.send (h : Inv key serve start m) (request : Req) :
    Inv key serve start (m.send request) where
  inOrder := h.inOrder.send request
  state k := by
    show m.state k = after serve (start k) (turns key (m.sent ++ [request]) m.carried k)
    rw [turns_send h.inOrder.within]
    exact h.state k
  given answer := by
    show answer ∈ m.given ↔ ∃ i, GivenAt key serve start (m.sent ++ [request]) m.carried i answer
    simp only [givenAt_send h.inOrder.within, h.given]

theorem Inv.carry (h : Inv key serve start m) {i : Nat} (hcarry : m.carry key serve i = some m')
    (honce : i ∉ m.carried) (horder : ∀ j ∈ m.carried, ∀ a b, m.sent[j]? = some a →
      m.sent[i]? = some b → key a = key b → j < i) : Inv key serve start m' := by
  obtain ⟨request, hrequest, rfl⟩ := Option.map_eq_some_iff.1 hcarry
  refine ⟨h.inOrder.carry (List.getElem?_eq_some_iff.1 hrequest).1 honce horder, fun k => ?_,
    fun answer => ?_⟩
  · show Function.update m.state (key request) _ k = _
    rw [turns_carry hrequest]
    by_cases hk : key request = k
    · subst hk
      rw [Function.update_self, if_pos rfl, after_concat, h.state]
    · rw [Function.update_of_ne (Ne.symm hk), if_neg hk, List.append_nil]
      exact h.state k
  · rw [givenAt_carry hrequest, ← h.given, ← h.state]
    exact List.mem_append

end Mailbox

end Gr4cp.Core

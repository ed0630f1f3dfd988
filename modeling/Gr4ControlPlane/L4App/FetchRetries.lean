import Mathlib.Data.List.Infix
import Gr4ControlPlane.L4App.SessionStreams
import Gr4ControlPlane.L4App.TwoLevel

/-!
# When a stream is fetched again (`fetch_http_stream`, `app/session_service.cpp`)

The service asks the runtime again when the error it threw has the text
`failed to reach internal HTTP stream endpoint` in it. The runtime puts the
session's id and, where the stream is not bound, the id it was asked for into
its errors, so an id that holds this text passes for an endpoint that was not
reached.

* `transient_iff`: the text is in an error of the runtime exactly when it is
  in the session's id or in what is said behind it.
* `fetchAttempts_followed_iff`: an attempt is followed by another when it
  and all before it ended in such errors.
* `retries_iff`: fetches are repeated for unreached endpoints only, exactly
  as long as no id that gets into an error holds the text.
-/
namespace Gr4cp.Runtime

open Gr4cp.Core Gr4cp.Domain Gr4cp.App

/-! ## Fetching -/

/-- What `httplib::Client::Get` brings back; no content type is an empty
one. -/
structure HttpReply where
  status : Int
  body : Str
  contentType : Str

/-- mirrors src/runtime/gr4_runtime_manager.cpp:802-855 -/
def Manager.fetchHttpStream (m : Manager) (get : InternalStreamBinding → Option HttpReply)
    (session : Session) (streamId : Str) : Except Exn HttpStreamResponse :=
  match m.fetchTarget session streamId with
  | .error e => .error e
  | .ok internal =>
    match get internal with
    | none =>
      .error (runtimeError session (str "stream fetch")
        (str "failed to reach internal HTTP stream endpoint"))
    | some response =>
      .ok
        { status := response.status
          body := response.body
          contentType :=
            if response.contentType.isEmpty then str "application/octet-stream"
            else response.contentType }

end Gr4cp.Runtime

namespace Gr4cp.App

open Gr4cp.Core Gr4cp.Domain Gr4cp.Storage Gr4cp.Runtime

/-- What an attempt finds: the runtime, which other operations may have
changed since the last one, and what answers at an endpoint. -/
structure Attempt where
  runtime : Manager
  get : InternalStreamBinding → Option HttpReply

def Attempt.fetch (a : Attempt) : Session → Str → Except Exn HttpStreamResponse :=
  a.runtime.fetchHttpStream a.get

/-- The endpoint of the stream could not be reached. -/
def Attempt.Unreached (a : Attempt) (session : Session) (streamId : Str) : Prop :=
  ∃ internal, a.runtime.fetchTarget session streamId = .ok internal ∧ a.get internal = none

/-- The execution of the session does not run. -/
def Attempt.NotRunning (a : Attempt) (session : Session) : Prop :=
  a.runtime.runningBindings session = none

/-- It runs, and the stream is not among its bindings. -/
def Attempt.NotBound (a : Attempt) (session : Session) (streamId : Str) : Prop :=
  ∃ bindings, a.runtime.runningBindings session = some bindings ∧
    ∀ binding ∈ bindings, ¬(binding.plan.streamId = streamId ∧
      binding.plan.transport ≠ str "websocket")

theorem fetchTarget_eq (a : Attempt) (session : Session) (streamId : Str) :
    (a.NotRunning session ∧ a.runtime.fetchTarget session streamId =
        .error (runtimeError session (str "stream fetch") notRunning)) ∨
      (a.NotBound session streamId ∧ a.runtime.fetchTarget session streamId =
        .error (runtimeError session (str "stream fetch") (streamNotFound streamId))) ∨
      ∃ internal, a.runtime.fetchTarget session streamId = .ok internal := by
  unfold Manager.fetchTarget Attempt.NotRunning Attempt.NotBound
  cases hrunning : a.runtime.runningBindings session with
  | none => exact Or.inl ⟨rfl, rfl⟩
  | some bindings =>
    simp only
    split
    · rename_i hnone
      refine Or.inr (Or.inl ⟨⟨bindings, rfl, ?_⟩, rfl⟩)
      intro binding hb hbound
      have hnot := List.find?_eq_none.1 hnone binding hb
      simp [hbound.1, hbound.2] at hnot
    · exact Or.inr (Or.inr ⟨_, rfl⟩)

/-! ## Errors that pass for unreached endpoints -/

/-- The text the service looks for. -/
def transientMarker : Str := str "failed to reach internal HTTP stream endpoint"

theorem isTransient_iff (what : Str) :
    isTransientHttpStreamConnectError what = true ↔ transientMarker <:+: what :=
  Str.find_isSome_iff

/-- No end of the marker goes on as the text behind an id does. -/
theorem marker_ends : ∀ v, v <:+ transientMarker → v ≠ [] → ¬v <+: str " stream fetch failed" := by
  intro v hv hne
  have hall : (transientMarker.tails.all fun v =>
      v.isEmpty || !v.isPrefixOf (str " stream fetch failed")) = true := by decide
  have hmem := List.all_eq_true.1 hall v ((List.mem_tails v transientMarker).2 hv)
  intro hpre
  rw [List.isPrefixOf_iff_prefix.2 hpre] at hmem
  simp [hne] at hmem

theorem marker_append {a b : Str} (h : chr 'f' ∉ a) :
    transientMarker <:+: a ++ b ↔ transientMarker <:+: b := by
  show chr 'f' :: transientMarker.tail <:+: a ++ b ↔ chr 'f' :: transientMarker.tail <:+: b
  exact Str.infix_append_of_head h

/-- The error of a fetch that passes for an unreached endpoint. -/
def Transient (outcome : Except Exn HttpStreamResponse) : Prop :=
  ∃ what, outcome = .error (.std what) ∧ isTransientHttpStreamConnectError what = true

theorem transient_iff (session : Session) (detail : Str) :
    Transient (.error (runtimeError session (str "stream fetch") detail)) ↔
      transientMarker <:+: cString session.id ∨
        (0 ∉ session.id ∧ transientMarker <:+: cString detail) := by
  have hwhat : Transient (.error (runtimeError session (str "stream fetch") detail)) ↔
      transientMarker <:+: cString (str "session " ++ session.id ++
        (str " stream fetch failed" ++ chr ':' :: ([chr ' '] ++ detail))) := by
    rw [← isTransient_iff]
    unfold Transient runtimeError
    have htext : str "session " ++ session.id ++ str " " ++ str "stream fetch" ++
        str " failed: " ++ detail = str "session " ++ session.id ++
          (str " stream fetch failed" ++ chr ':' :: ([chr ' '] ++ detail)) := by
      simp [str, chr]
    rw [htext]
    simp
  have hsession : (0 : UInt8) ∉ str "session " := by decide
  rw [hwhat]
  by_cases hnul : 0 ∈ session.id
  · -- the id ends the text
    rw [cString_append_of_nul (List.mem_append_right _ hnul),
      cString_append_of_no_nul hsession, marker_append (by decide)]
    simp [hnul]
  · have hfixed : (0 : UInt8) ∉ str "session " ++ session.id := by
      rw [List.mem_append, not_or]
      exact ⟨hsession, hnul⟩
    have hrest : cString (str " stream fetch failed" ++ chr ':' :: ([chr ' '] ++ detail)) =
        str " stream fetch failed" ++ chr ':' :: ([chr ' '] ++ cString detail) := rfl
    rw [cString_append_of_no_nul hfixed, hrest, ← List.append_assoc,
      Str.infix_append_sep (by decide), List.append_assoc,
      marker_append (a := str "session ") (by decide), marker_append (a := [chr ' ']) (by decide),
      Str.infix_append_of_no_end marker_ends (by decide), cString_eq_self hnul]
    simp [hnul]

/-- Which lookups of a stream end in such an error. -/
theorem notRunning_transient_iff (session : Session) :
    Transient (.error (runtimeError session (str "stream fetch") notRunning)) ↔
      transientMarker <:+: cString session.id := by
  have hno : ¬transientMarker <:+: cString notRunning := by decide
  rw [transient_iff]
  simp [hno]

theorem streamNotFound_transient_iff (session : Session) (streamId : Str) :
    Transient (.error (runtimeError session (str "stream fetch") (streamNotFound streamId))) ↔
      transientMarker <:+: cString session.id ∨
        (0 ∉ session.id ∧ transientMarker <:+: cString streamId) := by
  have htext : cString (streamNotFound streamId) =
      str "stream not found in active runtime resources" ++ chr ':' ::
        ([chr ' '] ++ cString streamId) := rfl
  have hno : ¬transientMarker <:+: str "stream not found in active runtime resources" := by decide
  rw [transient_iff, htext, Str.infix_append_sep (by decide), marker_append (by decide)]
  simp [hno]

theorem unreached_transient_iff (session : Session) :
    Transient (.error (runtimeError session (str "stream fetch")
        (str "failed to reach internal HTTP stream endpoint"))) ↔
      transientMarker <:+: cString session.id ∨ 0 ∉ session.id := by
  have hmarker : transientMarker <:+:
      cString (str "failed to reach internal HTTP stream endpoint") := by decide
  rw [transient_iff]
  simp [hmarker]

/-! ## Attempts -/

/-- Any other outcome ends the attempts. -/
theorem fetchAttempts_ends (fetch : Nat → Except Exn HttpStreamResponse) (id : Str)
    (attempt attemptsLeft : Nat) (h : ¬Transient (fetch attempt)) :
    fetchAttempts fetch id attempt (attemptsLeft + 1) =
      (match fetch attempt with
        | .ok response => .ok response
        | .error e => .error ⟨.runtime, runtimeMessage (str "stream fetch") id e⟩, 1) := by
  unfold fetchAttempts
  cases heq : fetch attempt with
  | ok response => rfl
  | error e =>
    cases e with
    | other => rfl
    | std what =>
      have hmarker : isTransientHttpStreamConnectError what = false := by
        cases hm : isTransientHttpStreamConnectError what with
        | false => rfl
        | true => exact absurd ⟨what, heq, hm⟩ h
      simp only
      rw [if_pos (Or.inr hmarker)]

/-- An attempt is followed by another when it and those before it ended in
errors of this kind and there is an attempt left. -/
theorem fetchAttempts_followed_iff (fetch : Nat → Except Exn HttpStreamResponse) (id : Str)
    (attempt attempts k : Nat) :
    k + 1 < (fetchAttempts fetch id attempt attempts).2 ↔
      k + 1 < attempts ∧ ∀ j ≤ k, Transient (fetch (attempt + j)) := by
  induction attempts generalizing attempt k with
  | zero => simp [fetchAttempts]
  | succ attemptsLeft ih =>
    by_cases ht : Transient (fetch attempt)
    · have ht' := ht
      obtain ⟨what, heq, hmarker⟩ := ht'
      unfold fetchAttempts
      rw [heq]
      simp only
      split
      · rename_i hlast
        have hzero : attemptsLeft = 0 := by simpa [hmarker] using hlast
        subst hzero
        simp
      · rename_i hlast
        have hleft : 0 < attemptsLeft := Nat.pos_of_ne_zero fun h => hlast (Or.inl h)
        simp only [Nat.add_lt_add_iff_right]
        cases k with
        | zero =>
          have hcalled := (fetchAttempts_spec fetch id (attempt + 1) attemptsLeft).2.2 hleft
          refine iff_of_true hcalled ⟨hleft, ?_⟩
          intro j hj
          obtain rfl : j = 0 := Nat.le_zero.1 hj
          exact ht
        | succ k =>
          rw [ih (attempt + 1) k]
          refine and_congr_right fun _ => ⟨?_, ?_⟩
          · intro hall j hj
            cases j with
            | zero => exact ht
            | succ j =>
              have := hall j (by omega)
              rwa [Nat.add_assoc, Nat.add_comm 1 j] at this
          · intro hall j hj
            have := hall (j + 1) (by omega)
            rwa [Nat.add_assoc, Nat.add_comm 1 j]
    · rw [fetchAttempts_ends fetch id attempt attemptsLeft ht]
      refine iff_of_false (by simp) ?_
      intro hall
      exact ht (hall.2 0 (Nat.zero_le k))

/-- A response comes from the first attempt that brings one, when those
before it ended in errors of this kind. -/
theorem fetchAttempts_ok_iff (fetch : Nat → Except Exn HttpStreamResponse) (id : Str)
    (attempt attempts : Nat) (response : HttpStreamResponse) :
    (fetchAttempts fetch id attempt attempts).1 = .ok response ↔
      ∃ k < attempts, fetch (attempt + k) = .ok response ∧
        ∀ j < k, Transient (fetch (attempt + j)) := by
  induction attempts generalizing attempt with
  | zero => simp [fetchAttempts]
  | succ attemptsLeft ih =>
    by_cases ht : Transient (fetch attempt)
    · have ht' := ht
      obtain ⟨what, heq, hmarker⟩ := ht'
      have hnot : ∀ k, fetch (attempt + k) = .ok response → k ≠ 0 := by
        intro k hk hzero
        subst hzero
        rw [Nat.add_zero, heq] at hk
        cases hk
      unfold fetchAttempts
      rw [heq]
      simp only
      split
      · rename_i hlast
        have hzero : attemptsLeft = 0 := by simpa [hmarker] using hlast
        subst hzero
        refine iff_of_false (by simp) ?_
        intro hbrings
        obtain ⟨k, hk, hfetch, -⟩ := hbrings
        exact hnot k hfetch (by omega)
      · rw [ih]
        constructor
        · intro hbrings
          obtain ⟨k, hk, hfetch, hbefore⟩ := hbrings
          refine ⟨k + 1, by omega, by rwa [Nat.add_assoc, Nat.add_comm 1 k] at hfetch, ?_⟩
          intro j hj
          cases j with
          | zero => exact ht
          | succ j =>
            have := hbefore j (by omega)
            rwa [Nat.add_assoc, Nat.add_comm 1 j] at this
        · intro hbrings
          obtain ⟨k, hk, hfetch, hbefore⟩ := hbrings
          obtain ⟨k, rfl⟩ := Nat.exists_eq_succ_of_ne_zero (hnot k hfetch)
          refine ⟨k, by omega, by rwa [Nat.add_assoc, Nat.add_comm 1 k], ?_⟩
          intro j hj
          have := hbefore (j + 1) (by omega)
          rwa [Nat.add_assoc, Nat.add_comm 1 j]
    · rw [fetchAttempts_ends fetch id attempt attemptsLeft ht]
      have hfirst : (∃ k < attemptsLeft + 1, fetch (attempt + k) = .ok response ∧
          ∀ j < k, Transient (fetch (attempt + j))) ↔ fetch attempt = .ok response := by
        constructor
        · intro hbrings
          obtain ⟨k, -, hfetch, hbefore⟩ := hbrings
          cases k with
          | zero => exact hfetch
          | succ k => exact absurd (hbefore 0 (by omega)) ht
        · intro hfetch
          exact ⟨0, by omega, hfetch, fun j hj => absurd hj (Nat.not_lt_zero j)⟩
      rw [hfirst]
      cases fetch attempt with
      | ok response' => simp
      | error e => simp

/-! ## Which attempts are followed by another -/

/-- Fetches are repeated for unreached endpoints only, and what the lookup
refuses is reported after one call. -/
def RetriesOnlyUnreached (s : Service) (attempts : Nat → Attempt) (id streamId : Str) : Prop :=
  let outcome := s.fetchHttpStream (fun k => (attempts k).fetch) id streamId
  (∀ session k, outcome.2[k + 1]? = some session → (attempts k).Unreached session streamId) ∧
    ∀ session e, s.runningSession id = .ok session →
      (attempts 0).runtime.fetchTarget session streamId = .error e →
      outcome = (.error ⟨.runtime, runtimeMessage (str "stream fetch") id e⟩, [session])

/-- No id that gets into the error of this attempt holds the marker. -/
def Attempt.IdsPlain (a : Attempt) (session : Session) (streamId : Str) : Prop :=
  (a.NotRunning session → ¬transientMarker <:+: cString session.id) ∧
    (a.NotBound session streamId →
      ¬transientMarker <:+: cString session.id ∧
        (0 ∉ session.id → ¬transientMarker <:+: cString streamId))

theorem Attempt.fetch_error {a : Attempt} {session : Session} {streamId : Str} {e : Exn}
    (h : a.runtime.fetchTarget session streamId = .error e) :
    a.fetch session streamId = .error e := by
  unfold Attempt.fetch Manager.fetchHttpStream
  rw [h]

/-- A lookup that fails passes for an unreached endpoint by its ids. -/
theorem Attempt.refused_transient_iff {a : Attempt} {session : Session} {streamId : Str} {e : Exn}
    (h : a.runtime.fetchTarget session streamId = .error e) :
    ¬Transient (a.fetch session streamId) ↔ a.IdsPlain session streamId := by
  rw [Attempt.fetch_error h]
  obtain ⟨hnot, heq⟩ | ⟨hnot, heq⟩ | ⟨internal, heq⟩ := fetchTarget_eq a session streamId
  · rw [heq] at h
    obtain rfl := Except.error.inj h
    have hbound : ¬a.NotBound session streamId := by
      intro hb
      obtain ⟨bindings, hrunning, _⟩ := hb
      rw [hnot] at hrunning
      cases hrunning
    rw [notRunning_transient_iff]
    exact ⟨fun hm => ⟨fun _ => hm, fun hb => absurd hb hbound⟩, fun hids => hids.1 hnot⟩
  · rw [heq] at h
    obtain rfl := Except.error.inj h
    have hrunning : ¬a.NotRunning session := by
      intro hr
      obtain ⟨bindings, hb, _⟩ := hnot
      rw [hr] at hb
      cases hb
    rw [streamNotFound_transient_iff, not_or, not_and]
    exact ⟨fun hm => ⟨fun hr => absurd hr hrunning, fun _ => hm⟩, fun hids => hids.2 hnot⟩
  · rw [heq] at h
    cases h

theorem Attempt.idsPlain_of_found {a : Attempt} {session : Session} {streamId : Str}
    {internal : InternalStreamBinding}
    (h : a.runtime.fetchTarget session streamId = .ok internal) : a.IdsPlain session streamId := by
  refine ⟨?_, ?_⟩
  · intro hnot
    unfold Attempt.NotRunning at hnot
    unfold Manager.fetchTarget at h
    rw [hnot] at h
    cases h
  · intro hnot
    obtain ⟨bindings, hrunning, hno⟩ := hnot
    unfold Manager.fetchTarget at h
    rw [hrunning] at h
    simp only at h
    split at h
    · cases h
    · rename_i binding hfind
      refine absurd ?_ (hno binding (List.mem_of_find?_eq_some hfind))
      have hsome := List.find?_some hfind
      simpa using hsome

/-- Where a lookup that fails is tried again, so is an endpoint that was not
reached. -/
theorem Attempt.unreached_transient {a b : Attempt} {session : Session} {streamId : Str} {e : Exn}
    (ha : a.Unreached session streamId) (hb : b.runtime.fetchTarget session streamId = .error e)
    (ht : Transient (b.fetch session streamId)) : Transient (a.fetch session streamId) := by
  obtain ⟨internal, hfound, hget⟩ := ha
  have hfetch : a.fetch session streamId = .error (runtimeError session (str "stream fetch")
      (str "failed to reach internal HTTP stream endpoint")) := by
    unfold Attempt.fetch Manager.fetchHttpStream
    rw [hfound]
    simp only
    rw [hget]
  rw [hfetch, unreached_transient_iff]
  rw [Attempt.fetch_error hb] at ht
  obtain ⟨_, heq⟩ | ⟨_, heq⟩ | ⟨internal, heq⟩ := fetchTarget_eq b session streamId
  · obtain rfl := Except.error.inj (heq.symm.trans hb)
    exact Or.inl ((notRunning_transient_iff session).1 ht)
  · obtain rfl := Except.error.inj (heq.symm.trans hb)
    exact ((streamNotFound_transient_iff session streamId).1 ht).imp_right And.left
  · cases heq.symm.trans hb

/-- An attempt that is tried again though its lookup would not be has not
reached the endpoint. -/
theorem Attempt.unreached_of_transient {a : Attempt} {session : Session} {streamId : Str}
    (hids : a.IdsPlain session streamId) (ht : Transient (a.fetch session streamId)) :
    a.Unreached session streamId := by
  cases hlookup : a.runtime.fetchTarget session streamId with
  | error e => exact absurd ht ((Attempt.refused_transient_iff hlookup).2 hids)
  | ok internal =>
    refine ⟨internal, hlookup, ?_⟩
    cases hget : a.get internal with
    | none => rfl
    | some reply =>
      obtain ⟨what, heq, _⟩ := ht
      unfold Attempt.fetch Manager.fetchHttpStream at heq
      rw [hlookup] at heq
      simp only at heq
      rw [hget] at heq
      cases heq

theorem retries_iff (s : Service) (attempts : Nat → Attempt) (id streamId : Str) :
    RetriesOnlyUnreached s attempts id streamId ↔
      ∀ session k, s.runningSession id = .ok session → k + 1 < kTransientFetchRetries →
        (∀ j < k, (attempts j).Unreached session streamId) →
        (attempts k).IdsPlain session streamId := by
  unfold RetriesOnlyUnreached Service.fetchHttpStream
  cases hs : s.runningSession id with
  | error e => simp
  | ok session =>
    have hfollowed := fetchAttempts_followed_iff
      (fun k => (attempts k).fetch session streamId) id 0 kTransientFetchRetries
    simp only [Nat.zero_add] at hfollowed
    refine ⟨?_, ?_⟩
    · intro hright session' k hs' hk hbefore
      obtain rfl := Except.ok.inj hs'
      cases hlookup : (attempts k).runtime.fetchTarget session streamId with
      | ok internal => exact Attempt.idsPlain_of_found hlookup
      | error e =>
        rw [← Attempt.refused_transient_iff hlookup]
        intro ht
        have hagain := (hfollowed k).2 ⟨hk, fun j hj => by
          obtain rfl | hlt := Nat.eq_or_lt_of_le hj
          · exact ht
          · exact Attempt.unreached_transient (hbefore j hlt) hlookup ht⟩
        have hcall := hright.1 session k
        rw [List.getElem?_replicate, if_pos hagain] at hcall
        obtain ⟨internal, hfound, _⟩ := hcall rfl
        rw [hlookup] at hfound
        cases hfound
    · intro hplain
      have hall : ∀ k, k + 1 < (fetchAttempts (fun k => (attempts k).fetch session streamId) id 0
          kTransientFetchRetries).2 → (attempts k).Unreached session streamId := by
        intro k
        induction k using Nat.strongRecOn with
        | ind k ih =>
          intro hagain
          obtain ⟨hk, htransient⟩ := (hfollowed k).1 hagain
          refine Attempt.unreached_of_transient (hplain session k rfl hk ?_)
            (htransient k (Nat.le_refl k))
          intro j hj
          exact ih j hj (by omega)
      refine ⟨?_, ?_⟩
      · intro session' k hagain
        simp only [List.getElem?_replicate, Option.ite_none_right_eq_some, Option.some.injEq]
          at hagain
        obtain ⟨hlt, rfl⟩ := hagain
        exact hall k hlt
      · intro session' e hs' hlookup
        obtain rfl := Except.ok.inj hs'
        have hids := hplain session 0 rfl (by decide) fun j hj => absurd hj (Nat.not_lt_zero j)
        have hends := fetchAttempts_ends (fun k => (attempts k).fetch session streamId) id 0 19
          ((Attempt.refused_transient_iff hlookup).2 hids)
        simp only
        rw [show kTransientFetchRetries = 19 + 1 from rfl, hends]
        simp only [Attempt.fetch_error hlookup]
        rfl

/-- The session of `sinkRunning`, which runs, is asked for a stream it does
not have and whose id is the marker, and then asked again. -/
theorem refused_stream_retried :
    ¬RetriesOnlyUnreached sinkRunning.service (fun _ => ⟨sinkRunning.runtime, fun _ => none⟩)
      firstId transientMarker := by
  intro h
  have hrun : (sinkRunning.service.fetchHttpStream
        (fun _ => Attempt.fetch ⟨sinkRunning.runtime, fun _ => none⟩) firstId
        transientMarker).2[1]? = some runningSink ∧
      (sinkRunning.runtime.fetchTarget runningSink transientMarker).toOption = none := by
    decide +kernel
  obtain ⟨hagain, hmissing⟩ := hrun
  obtain ⟨internal, hfound, _⟩ := h.1 runningSink 0 hagain
  simp only at hfound
  rw [hfound] at hmissing
  cases hmissing

end Gr4cp.App

import Gr4ControlPlane.L4App.TwoLevel
import Gr4ControlPlane.L5Api.SessionRoutes

/-!
# What a listing answers while others run

The listing reads all records first and then looks the plans up one by one,
by id. A session removed in between makes its lookup throw, and the
`NotFoundError` of that one lookup ends the whole request. A session started
in between is listed with the state it had before and the streams it has
now.

* `listing_succeeds_iff`: a listing succeeds exactly when each session listed
  is still stored when its plan is looked up, and all text to be written is
  UTF-8.
* `streams_only_running_iff`: streams come with the state `running` unless a
  session was not running when its record was read and is when its plan is.
-/
namespace Gr4cp.Api

open Gr4cp.Core Gr4cp.Domain Gr4cp.Storage Gr4cp.Runtime Gr4cp.App

/-! ## Replies -/

theorem respond_ok_iff {body : Json} {response : Response} :
    respond body = .ok response ↔ body.any isUnprintable = false ∧ response = ⟨200, body⟩ := by
  unfold respond setJsonResponse
  cases body.any isUnprintable <;> simp [Except.mapError, eq_comm]

theorem failureDetails_status (failure : Failure) : (failureDetails failure).status ≠ 200 := by
  cases failure with
  | service error =>
    obtain ⟨kind, what⟩ := error
    cases kind <;> simp [failureDetails, currentErrorDetails]
  | other => decide

/-- A reply of status 200 is the action's own. -/
theorem execute_ok_iff {action : Except Failure Response} {body : Json} :
    execute action = .ok ⟨200, body⟩ ↔ action = .ok ⟨200, body⟩ := by
  cases action with
  | ok response => simp [execute]
  | error failure =>
    simp only [execute, handleException, setJsonResponse, reduceCtorEq, iff_false]
    split
    · simp
    · intro h
      simp only [Except.ok.injEq, Response.mk.injEq] at h
      exact failureDetails_status failure h.1

/-- Every object with streams says that its session runs. -/
def StreamsOnlyRunning (entry : Json) : Prop :=
  entry.member (str "streams") ≠ none → entry.member (str "state") = some (.str (str "running"))

theorem sessionToJson_streams (session : Session) (streamPlan : Option StreamRuntimePlan) :
    (sessionToJson session streamPlan).member (str "streams") = streamPlan.map streamPlanToJson := by
  cases streamPlan <;> cases halias : session.schedulerAlias <;>
    simp only [sessionToJson, halias, optionalMember] <;> rfl

theorem sessionToJson_state (session : Session) (streamPlan : Option StreamRuntimePlan) :
    (sessionToJson session streamPlan).member (str "state") = some (.str session.state.toStr) := by
  cases streamPlan <;> cases halias : session.schedulerAlias <;>
    simp only [sessionToJson, halias, optionalMember] <;> rfl

theorem toStr_eq_running {state : SessionState} :
    state.toStr = str "running" ↔ state = .running := by
  cases state <;> decide

/-- The two members, in terms of the two reads. -/
theorem streamsOnlyRunning_iff (session : Session) (streamPlan : Option StreamRuntimePlan) :
    StreamsOnlyRunning (sessionToJson session streamPlan) ↔
      (session.state ≠ .running → streamPlan = none) := by
  rw [StreamsOnlyRunning, sessionToJson_streams, sessionToJson_state]
  cases streamPlan with
  | none => simp
  | some p => simp [toStr_eq_running]

theorem sessionsToJson_entries (sessions : List Session)
    (streamPlans : List (Option StreamRuntimePlan)) :
    ∃ entries, sessionsToJson sessions streamPlans = .arr entries ∧
      entries.length = sessions.length ∧
      ∀ k : Nat, entries[k]? = sessions[k]?.map fun session =>
        sessionToJson session streamPlans[k]?.join := by
  refine ⟨_, rfl, by simp, fun k => ?_⟩
  simp

theorem sessionsToJson_printable_iff {sessions : List Session}
    {streamPlans : List (Option StreamRuntimePlan)} :
    (sessionsToJson sessions streamPlans).any isUnprintable = false ↔
      ∀ (k : Nat) session, sessions[k]? = some session → printableSession session = true ∧
        ∀ p, streamPlans[k]?.join = some p → printablePlan p = true := by
  obtain ⟨entries, hentries, -, hget⟩ := sessionsToJson_entries sessions streamPlans
  simp only [hentries, any_arr, List.any_eq_false, Bool.not_eq_true]
  constructor
  · intro hall k session hk
    have hmem : sessionToJson session streamPlans[k]?.join ∈ entries :=
      List.mem_of_getElem? ((hget k).trans (by rw [hk]; rfl))
    have := hall _ hmem
    rw [sessionToJson_printable] at this
    simpa [Option.all_eq_true] using this
  · intro hall entry hmem
    obtain ⟨k, hk⟩ := List.mem_iff_getElem?.1 hmem
    rw [hget k] at hk
    obtain ⟨session, hsession, rfl⟩ := Option.map_eq_some_iff.1 hk
    rw [sessionToJson_printable]
    simpa [Option.all_eq_true] using hall k session hsession

/-! ## Listings -/

section Listing

variable {ρ Q : Type} {A : Q → Type} {rt : RuntimeManager ρ Q A} {r₀ : ρ}
  {plan : ρ → Session → Except Exn (Option StreamRuntimePlan)} {v : Visit (Sys.runs rt r₀)}

/-- Success: one entry for each session, in order. -/
def Lists (sessions : List Session) (result : Except Thrown Response) : Prop :=
  ∃ entries, result = .ok ⟨200, .arr entries⟩ ∧ entries.length = sessions.length ∧
    ∀ (k : Nat) session, sessions[k]? = some session →
      ∃ streamPlan, entries[k]? = some (sessionToJson session streamPlan)

/-- The `k`-th lookup, for a session, gives what can be written. -/
structure Listable (plan : ρ → Session → Except Exn (Option StreamRuntimePlan))
    (v : Visit (Sys.runs rt r₀)) (k : Nat) (session : Session) : Prop where
  stored : session.id ∈ (v.looked k).service.repository
  answered : ∀ found, (v.looked k).service.runningSession session.id = .ok found →
    ∃ p, plan (v.asked k).runtime found = .ok p
  record : printableSession session = true
  streams : ∀ p, ShowsPlan plan v k session.id p → printablePlan p = true

theorem getSessions_ok_iff {body : Json} :
    getSessions plan v = .ok ⟨200, body⟩ ↔
      ∃ streamPlans, planLoop plan v 0 v.first.service.list = .ok streamPlans ∧
        (sessionsToJson v.first.service.list streamPlans).any isUnprintable = false ∧
        body = sessionsToJson v.first.service.list streamPlans := by
  rw [getSessions, execute_ok_iff]
  cases planLoop plan v 0 v.first.service.list with
  | error e => simp
  | ok streamPlans => simp [respond_ok_iff]

/-- The plan of an entry is what its lookup showed. -/
theorem plan_join_iff {streamPlans : List (Option StreamRuntimePlan)} {sessions : List Session}
    (h : planLoop plan v 0 sessions = .ok streamPlans) {k : Nat} {session : Session}
    (hk : sessions[k]? = some session) {p : StreamRuntimePlan} :
    streamPlans[k]?.join = some p ↔ ShowsPlan plan v k session.id p := by
  obtain ⟨found, hfound, hlook⟩ := (planLoop_ok_iff.1 h).2 k session hk
  rw [Nat.zero_add] at hlook
  rw [← lookupPlan_some_iff, hlook, hfound]
  simp

theorem getSessions_lists_iff :
    Lists v.first.service.list (getSessions plan v) ↔
      ∀ (k : Nat) session, v.first.service.list[k]? = some session → Listable plan v k session := by
  constructor
  · rintro ⟨entries, hok, -, -⟩ k session hk
    obtain ⟨streamPlans, hloop, hprint, -⟩ := getSessions_ok_iff.1 hok
    obtain ⟨p, -, hlook⟩ := (planLoop_ok_iff.1 hloop).2 k session hk
    rw [Nat.zero_add] at hlook
    obtain ⟨hstored, hanswer⟩ := lookupPlan_returns_iff.1 ⟨p, hlook⟩
    obtain ⟨hrecord, hstreams⟩ := sessionsToJson_printable_iff.1 hprint k session hk
    exact ⟨hstored, hanswer, hrecord, fun p hp => hstreams p ((plan_join_iff hloop hk).2 hp)⟩
  · intro hall
    obtain ⟨streamPlans, hloop⟩ :
        ∃ streamPlans, planLoop plan v 0 v.first.service.list = .ok streamPlans := by
      refine planLoop_returns_iff.2 fun k session hk => ?_
      obtain ⟨hstored, hanswer, -, -⟩ := hall k session hk
      rw [Nat.zero_add]
      exact lookupPlan_returns_iff.2 ⟨hstored, hanswer⟩
    have hprint := sessionsToJson_printable_iff.2 fun k session hk =>
      ⟨(hall k session hk).record, fun p hp =>
        (hall k session hk).streams p ((plan_join_iff hloop hk).1 hp)⟩
    obtain ⟨entries, hentries, hlen, hget⟩ := sessionsToJson_entries
      v.first.service.list streamPlans
    refine ⟨entries, getSessions_ok_iff.2 ⟨streamPlans, hloop, hprint, hentries.symm⟩, hlen, ?_⟩
    intro k session hk
    exact ⟨streamPlans[k]?.join, by rw [hget, hk]; rfl⟩

/-- **Listings, exactly.** For every way others run between the steps of a
listing, and a runtime that answers: it succeeds, with one entry for each
session `list` returned, in order, if and only if each of these sessions is
still stored when its plan is looked up, and its texts are UTF-8. -/
theorem listing_succeeds_iff (rt : RuntimeManager ρ Q A) (r₀ : ρ)
    (plan : ρ → Session → Except Exn (Option StreamRuntimePlan))
    (hplan : ∀ r session, ∃ p, plan r session = .ok p) (v : Visit (Sys.runs rt r₀)) :
    Lists v.first.service.list (getSessions plan v) ↔
      ∀ (k : Nat) session, v.first.service.list[k]? = some session →
        session.id ∈ (v.looked k).service.repository ∧ printableSession session = true ∧
          ∀ p, ShowsPlan plan v k session.id p → printablePlan p = true := by
  rw [getSessions_lists_iff]
  constructor
  · intro h k session hk
    obtain ⟨hstored, -, hrecord, hstreams⟩ := h k session hk
    exact ⟨hstored, hrecord, hstreams⟩
  · intro h k session hk
    obtain ⟨hstored, hrecord, hstreams⟩ := h k session hk
    exact ⟨hstored, fun found _ => hplan _ found, hrecord, hstreams⟩

/-- The session was not running when its record was read, and shows streams
at the `k`-th lookup. -/
def StartedMeanwhile (plan : ρ → Session → Except Exn (Option StreamRuntimePlan))
    (v : Visit (Sys.runs rt r₀)) (k : Nat) (session : Session) : Prop :=
  session.state ≠ .running ∧ ∃ p, ShowsPlan plan v k session.id p

theorem getSession_ok_iff {id : Str} {entry : Json} :
    getSession plan v id = .ok ⟨200, entry⟩ ↔
      ∃ session p, v.first.service.get id = .ok session ∧
        lookupPlan plan v 0 session.id = .ok p ∧
        (sessionToJson session p).any isUnprintable = false ∧ entry = sessionToJson session p := by
  rw [getSession, execute_ok_iff]
  cases v.first.service.get id with
  | error e => simp
  | ok session =>
    simp only [Except.ok.injEq, exists_and_left, exists_eq_left']
    cases lookupPlan plan v 0 session.id with
    | error e => simp
    | ok p => simp [respond_ok_iff]

/-- The entries of a listing that succeeds. -/
theorem getSessions_entries {entries : List Json}
    (h : getSessions plan v = .ok ⟨200, .arr entries⟩) :
    ∃ streamPlans, planLoop plan v 0 v.first.service.list = .ok streamPlans ∧
      entries.length = v.first.service.list.length ∧
      ∀ k : Nat, entries[k]? = v.first.service.list[k]?.map fun session =>
        sessionToJson session streamPlans[k]?.join := by
  obtain ⟨streamPlans, hloop, -, hbody⟩ := getSessions_ok_iff.1 h
  obtain ⟨entries', hentries, hlen, hget⟩ := sessionsToJson_entries
    v.first.service.list streamPlans
  obtain rfl : entries = entries' := Json.arr.inj (hbody.trans hentries)
  exact ⟨streamPlans, hloop, hlen, hget⟩

theorem listing_streams_iff :
    (∀ entries, getSessions plan v = .ok ⟨200, .arr entries⟩ →
      ∀ entry ∈ entries, StreamsOnlyRunning entry) ↔
    ((∀ (k : Nat) session, v.first.service.list[k]? = some session → Listable plan v k session) →
      ¬ ∃ k : Nat, ∃ session, v.first.service.list[k]? = some session ∧
        StartedMeanwhile plan v k session) := by
  constructor
  · rintro h hall ⟨k, session, hk, hstate, p, hp⟩
    obtain ⟨entries, hok, -, -⟩ := getSessions_lists_iff.2 hall
    obtain ⟨streamPlans, hloop, -, hget⟩ := getSessions_entries hok
    have hmem : sessionToJson session (some p) ∈ entries := by
      refine List.mem_of_getElem? (i := k) ?_
      rw [hget k, hk, (plan_join_iff hloop hk).2 hp]
      rfl
    exact absurd ((streamsOnlyRunning_iff _ _).1 (h entries hok _ hmem) hstate) (by simp)
  · intro h entries hok entry hmem
    obtain ⟨streamPlans, hloop, hlen, hget⟩ := getSessions_entries hok
    have hlists : Lists v.first.service.list (getSessions plan v) :=
      ⟨entries, hok, hlen, fun k session hk => ⟨_, by rw [hget, hk]; rfl⟩⟩
    have hnone := h (getSessions_lists_iff.1 hlists)
    obtain ⟨k, hk⟩ := List.mem_iff_getElem?.1 hmem
    rw [hget k] at hk
    obtain ⟨session, hsession, rfl⟩ := Option.map_eq_some_iff.1 hk
    rw [streamsOnlyRunning_iff]
    intro hstate
    cases hp : streamPlans[k]?.join with
    | none => rfl
    | some p =>
      exact (hnone ⟨k, session, hsession, hstate, p, (plan_join_iff hloop hsession).1 hp⟩).elim

theorem session_streams_iff (id : Str) :
    (∀ entry, getSession plan v id = .ok ⟨200, entry⟩ → StreamsOnlyRunning entry) ↔
      ∀ session, v.first.service.get id = .ok session → Listable plan v 0 session →
        ¬ StartedMeanwhile plan v 0 session := by
  constructor
  · rintro h session hget ⟨-, -, hrecord, hstreams⟩ ⟨hstate, p, hp⟩
    have hprint : (sessionToJson session (some p)).any isUnprintable = false := by
      rw [sessionToJson_printable, hrecord, Option.all_some, hstreams p hp]
      rfl
    have hentry := h _ (getSession_ok_iff.2
      ⟨session, some p, hget, lookupPlan_some_iff.2 hp, hprint, rfl⟩)
    exact absurd ((streamsOnlyRunning_iff _ _).1 hentry hstate) (by simp)
  · intro h entry hok
    obtain ⟨session, streamPlan, hget, hlook, hprint, rfl⟩ := getSession_ok_iff.1 hok
    rw [sessionToJson_printable] at hprint
    simp only [Bool.not_eq_eq_eq_not, Bool.not_false, Bool.and_eq_true] at hprint
    obtain ⟨hstored, hanswer⟩ := lookupPlan_returns_iff.1 ⟨_, hlook⟩
    rw [streamsOnlyRunning_iff]
    intro hstate
    cases streamPlan with
    | none => rfl
    | some p =>
      have hshows := lookupPlan_some_iff.1 hlook
      refine (h session hget ⟨hstored, hanswer, hprint.1, fun p' hp' => ?_⟩
        ⟨hstate, p, hshows⟩).elim
      have heq := hlook.symm.trans (lookupPlan_some_iff.2 hp')
      simp only [Except.ok.injEq, Option.some.injEq] at heq
      simpa [heq] using hprint.2

/-- **Streams and states, exactly.** For every way others run between the
steps of a request: every session object of the reply that carries streams
has the state `running`, if and only if, when all lookups give what can be
written, no session was read before it was running and looked up once it
was. -/
theorem streams_only_running_iff (rt : RuntimeManager ρ Q A) (r₀ : ρ)
    (plan : ρ → Session → Except Exn (Option StreamRuntimePlan)) (v : Visit (Sys.runs rt r₀)) :
    ((∀ entries, getSessions plan v = .ok ⟨200, .arr entries⟩ →
        ∀ entry ∈ entries, StreamsOnlyRunning entry) ↔
      ((∀ (k : Nat) session, v.first.service.list[k]? = some session →
          Listable plan v k session) →
        ¬ ∃ k : Nat, ∃ session, v.first.service.list[k]? = some session ∧
          StartedMeanwhile plan v k session)) ∧
    ∀ id, (∀ entry, getSession plan v id = .ok ⟨200, entry⟩ → StreamsOnlyRunning entry) ↔
      ∀ session, v.first.service.get id = .ok session → Listable plan v 0 session →
        ¬ StartedMeanwhile plan v 0 session :=
  ⟨listing_streams_iff, session_streams_iff⟩

end Listing

/-! ## Two requests -/

/-- A request with nobody else running after `s'`, which `s` has become by
the first lookup. -/
def Visit.between {S L : Type} {M : LTS S L} {s s' : S} {ls : List L} (h : M.Reachable s)
    (hr : M.Run s ls s') : Visit M where
  first := s
  looked _ := s'
  asked _ := s'
  reachable := h
  toLook := ⟨ls, hr⟩
  toAsk _ := ⟨[], .nil s'⟩
  toNext _ := ⟨[], .nil s'⟩

/-- `active_stream_plan` of the GNU Radio manager, which never throws. -/
def gr4Plan (m : Manager) (session : Session) : Except Exn (Option StreamRuntimePlan) :=
  .ok (m.activeStreamPlan session)

theorem createSink_isSome : (composedRun (startSink.take 1)).isSome = true := by decide +kernel

def createdSink : Composed := (composedRun (startSink.take 1)).get createSink_isSome

theorem thenStarted_isSome :
    (LTS.runFn (Sys.step (gr4Runtime (readingSinks oneSink))) createdSink
      (startSink.drop 1)).isSome = true := by decide +kernel

/-- The record is read, the session is started, and its plan is looked up. -/
def startedMeanwhile : Visit (composedRuns (readingSinks oneSink)) :=
  Visit.between ⟨_, startSink.take 1, rfl, LTS.run_of_runFn _ _ _ (Option.some_get createSink_isSome).symm⟩
    (LTS.run_of_runFn _ _ _ (Option.some_get thenStarted_isSome).symm)

/-- The record as it was created. -/
def stoppedSink : Session :=
  Service.newSession (str "demo") (sinksText oneSink) none firstId 0

theorem startedMeanwhile_list : startedMeanwhile.first.service.list = [stoppedSink] := by
  have hlist : createdSink.service.repository.list = [stoppedSink] := by decide +kernel
  rw [Service.list, show startedMeanwhile.first = createdSink from rfl, hlist,
    List.mergeSort_singleton]

/-- A listing succeeds while the session listed is being started, with the
streams it has by then. -/
theorem startedMeanwhile_lists :
    Lists startedMeanwhile.first.service.list (getSessions gr4Plan startedMeanwhile) := by
  refine (listing_succeeds_iff (gr4Runtime (readingSinks oneSink)) Manager.empty gr4Plan
    (fun _ _ => ⟨_, rfl⟩) startedMeanwhile).2 fun k session hk => ?_
  obtain ⟨rfl, rfl⟩ : k = 0 ∧ session = stoppedSink := by
    rw [startedMeanwhile_list] at hk
    cases k with
    | zero => exact ⟨rfl, (Option.some.inj hk).symm⟩
    | succ k => cases hk
  refine ⟨by decide +kernel, by decide +kernel, fun p hp => ?_⟩
  have hshown := lookupPlan_some_iff.2 hp
  have hprintable : ((lookupPlan gr4Plan startedMeanwhile 0 stoppedSink.id).toOption.all fun p =>
      p.all printablePlan) = true := by decide +kernel
  simpa [hshown, Except.toOption] using hprintable

/-- The session that is being listed is created, and then removed. -/
def createRun : List (Lbl Unit fun _ => Except Exn Unit) :=
  [.create (str "demo") (str "graph") none [1] 0]

def removeRun : List (Lbl Unit fun _ => Except Exn Unit) :=
  [.begin 0 .remove firstId, .runtime 0 fun _ => .ok (), .runtime 0 fun _ => .ok (),
    .complete 0 1]

theorem createRun_isSome : (runFrom createRun).isSome = true := by decide +kernel

def created : Sys Unit Unit fun _ => Except Exn Unit := (runFrom createRun).get createRun_isSome

theorem removeRun_isSome :
    (LTS.runFn (Sys.step askingRuntime) created removeRun).isSome = true := by decide +kernel

def removed : Sys Unit Unit fun _ => Except Exn Unit :=
  (LTS.runFn (Sys.step askingRuntime) created removeRun).get removeRun_isSome

/-- The session listed first and removed before its plan is looked up. -/
def removedMeanwhile : Visit (Sys.runs askingRuntime ()) :=
  Visit.between ⟨_, createRun, rfl, LTS.run_of_runFn _ _ _ (Option.some_get _).symm⟩
    (LTS.run_of_runFn _ _ _ (Option.some_get removeRun_isSome).symm)

/-- The listing does not succeed: its reply is the 404 of the lookup. -/
theorem listing_fails_removedMeanwhile :
    ¬ Lists removedMeanwhile.first.service.list
        (getSessions (fun _ _ => .ok none) removedMeanwhile) ∧
      ((getSessions (fun _ _ => .ok none) removedMeanwhile).toOption.map (·.status)) =
        some 404 := by
  have hlist : removedMeanwhile.first.service.list = [demo] := by
    have hlist : created.service.repository.list = [demo] := by decide +kernel
    rw [Service.list, show removedMeanwhile.first = created from rfl, hlist,
      List.mergeSort_singleton]
  refine ⟨fun h => ?_, ?_⟩
  · have hstored := (getSessions_lists_iff.1 h 0 demo (by rw [hlist]; rfl)).stored
    have hnot : demo.id ∉ removed.service.repository := by decide +kernel
    exact hnot hstored
  · rw [getSessions, hlist]
    decide +kernel

/-- The reply shows a stopped session with streams. -/
theorem stopped_with_streams :
    ∃ entry, getSession gr4Plan startedMeanwhile firstId = .ok ⟨200, entry⟩ ∧
      ¬ StreamsOnlyRunning entry := by
  have hget : startedMeanwhile.first.service.get firstId = .ok stoppedSink := by decide +kernel
  have hplan : ((lookupPlan gr4Plan startedMeanwhile 0 stoppedSink.id).toOption.any fun p =>
      p.any printablePlan) = true := by decide +kernel
  obtain ⟨streamPlan, hfound, hany⟩ := Option.any_eq_true _ _ |>.1 hplan
  obtain ⟨p, rfl, hprintable⟩ := Option.any_eq_true _ _ |>.1 hany
  have hlook : lookupPlan gr4Plan startedMeanwhile 0 stoppedSink.id = .ok (some p) := by
    cases hresult : lookupPlan gr4Plan startedMeanwhile 0 stoppedSink.id with
    | error e => simp [hresult, Except.toOption] at hfound
    | ok p' =>
      simp only [hresult, Except.toOption, Option.some.injEq] at hfound
      rw [hfound]
  have hrecord : printableSession stoppedSink = true := by decide +kernel
  refine ⟨sessionToJson stoppedSink (some p), getSession_ok_iff.2
    ⟨stoppedSink, some p, hget, hlook, ?_, rfl⟩, fun h => ?_⟩
  · rw [sessionToJson_printable, hrecord, Option.all_some, hprintable]
    rfl
  · exact absurd ((streamsOnlyRunning_iff _ _).1 h (by decide)) (by simp)

end Gr4cp.Api

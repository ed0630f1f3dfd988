import Gr4ControlPlane.L4App.SessionService

/-!
# The stream lookups of `SessionService`

`active_stream_plan`, `fetch_http_stream` and `resolve_websocket_stream` read
the session under the mutex, test that it is running by its state and by its
phase, and call the runtime without the mutex. What the runtime answers by
then is a parameter; each operation returns its result together with the
calls it made. None of them changes the service.

* `fetchAttempts_spec`: the retry loop calls the runtime at least once and at
  most as often as it has attempts, and can only end in a `RuntimeError`.
* `activeStreamPlan_refused`, `fetchHttpStream_refused`,
  `resolveWebsocketStream_refused`: an operation that is refused has not
  called the runtime.
-/
namespace Gr4cp.App

open Gr4cp.Core Gr4cp.Domain Gr4cp.Storage Gr4cp.Runtime

/-- mirrors include/gr4cp/runtime/runtime_manager.hpp:12-16 -/
structure HttpStreamResponse where
  status : Int := 200
  body : Str
  contentType : Str := str "application/octet-stream"
  deriving DecidableEq, Repr

/-- mirrors src/app/session_service.cpp:37-40 -/
def isTransientHttpStreamConnectError (what : Str) : Bool :=
  (Str.find what (str "failed to reach internal HTTP stream endpoint") 0).isSome

/-- The attempts left, `attempt` being the number of the next one; with the
number of calls made.
mirrors src/app/session_service.cpp:301-314 -/
def fetchAttempts (fetch : Nat → Except Exn HttpStreamResponse) (id : Str) (attempt : Nat) :
    Nat → Except ServiceError HttpStreamResponse × Nat
  | 0 => (.error ⟨.runtime, runtimeMessage (str "stream fetch") id .other⟩, 0)
  | attemptsLeft + 1 =>
    match fetch attempt with
    | .ok response => (.ok response, 1)
    | .error .other => (.error ⟨.runtime, runtimeMessage (str "stream fetch") id .other⟩, 1)
    | .error (.std what) =>
      if attemptsLeft = 0 ∨ isTransientHttpStreamConnectError what = false then
        (.error ⟨.runtime, runtimeMessage (str "stream fetch") id (.std what)⟩, 1)
      else
        let (result, calls) := fetchAttempts fetch id (attempt + 1) attemptsLeft
        (result, calls + 1)

def kTransientFetchRetries : Nat := 20

namespace Service

/-- The section of `active_stream_plan`: the session the runtime is asked
for, if it is asked.
mirrors src/app/session_service.cpp:270-277 -/
def activeStreamSession (s : Service) (id : Str) : Except ServiceError (Option Session) :=
  match s.loadOrThrow id with
  | .error e => .error e
  | .ok session =>
    if session.state ≠ .running ∨ s.phaseForLocked session ≠ .running then .ok none
    else .ok (some session)

/-- mirrors src/app/session_service.cpp:269-286 -/
def activeStreamPlan (s : Service) (plan : Session → Except Exn (Option StreamRuntimePlan))
    (id : Str) : Except ServiceError (Option StreamRuntimePlan) × List Session :=
  match s.activeStreamSession id with
  | .error e => (.error e, [])
  | .ok none => (.ok none, [])
  | .ok (some session) =>
    match plan session with
    | .error e => (.error ⟨.runtime, runtimeMessage (str "stream lookup") id e⟩, [session])
    | .ok plan => (.ok plan, [session])

/-- The section that `fetch_http_stream` and `resolve_websocket_stream` begin
with.
mirrors src/app/session_service.cpp:289-296,318-325 -/
def runningSession (s : Service) (id : Str) : Except ServiceError Session :=
  match s.loadOrThrow id with
  | .error e => .error e
  | .ok session =>
    if session.state ≠ .running ∨ s.phaseForLocked session ≠ .running then
      .error ⟨.invalidState, str "session is not running: " ++ id⟩
    else .ok session

/-- Each attempt may be answered differently.
mirrors src/app/session_service.cpp:288-315 -/
def fetchHttpStream (s : Service)
    (fetch : Nat → Session → Str → Except Exn HttpStreamResponse) (id streamId : Str) :
    Except ServiceError HttpStreamResponse × List Session :=
  match s.runningSession id with
  | .error e => (.error e, [])
  | .ok session =>
    let (result, calls) :=
      fetchAttempts (fetch · session streamId) id 0 kTransientFetchRetries
    (result, List.replicate calls session)

end Service

/-! ## What the lookups do -/

/-- The errors thrown before anything is done. -/
def ErrorKind.isRefusal : ErrorKind → Bool
  | .validation | .notFound | .invalidState => true
  | _ => false

theorem fetchAttempts_spec (fetch : Nat → Except Exn HttpStreamResponse) (id : Str)
    (attempt attempts : Nat) :
    (∀ e, (fetchAttempts fetch id attempt attempts).1 = .error e → e.kind = .runtime) ∧
    (fetchAttempts fetch id attempt attempts).2 ≤ attempts ∧
    (0 < attempts → 0 < (fetchAttempts fetch id attempt attempts).2) := by
  induction attempts generalizing attempt with
  | zero =>
    refine ⟨?_, Nat.le_refl 0, fun h => h⟩
    rintro e ⟨⟩
    rfl
  | succ attemptsLeft ih =>
    unfold fetchAttempts
    cases fetch attempt with
    | ok response => exact ⟨by rintro e ⟨⟩, by simp, fun _ => by simp⟩
    | error exn =>
      cases exn with
      | other =>
        refine ⟨?_, by simp, fun _ => by simp⟩
        rintro e ⟨⟩
        rfl
      | std what =>
        simp only
        split
        · refine ⟨?_, by simp, fun _ => by simp⟩
          rintro e ⟨⟩
          rfl
        · obtain ⟨herr, hle, -⟩ := ih (attempt + 1)
          exact ⟨herr, Nat.succ_le_succ hle, fun _ => Nat.succ_pos _⟩

namespace Service

variable {s : Service} {id streamId : Str} {e : ServiceError}

/-- The two sections admit the same sessions. -/
theorem activeStreamSession_iff {session : Session} :
    s.activeStreamSession id = .ok (some session) ↔ s.runningSession id = .ok session := by
  unfold activeStreamSession runningSession
  cases s.loadOrThrow id with
  | error e => simp
  | ok session =>
    simp only
    split <;> simp

/-- The section of `active_stream_plan` throws only for want of the
session. -/
theorem activeStreamSession_returns_iff :
    (∃ found, s.activeStreamSession id = .ok found) ↔ id ∈ s.repository := by
  rw [← AList.lookup_isSome]
  unfold activeStreamSession loadOrThrow Repository.get
  cases s.repository.lookup id with
  | none => simp
  | some session =>
    simp only
    split <;> simp

theorem activeStreamPlan_calls_iff (s : Service)
    (plan : Session → Except Exn (Option StreamRuntimePlan)) (id : Str) :
    (s.activeStreamPlan plan id).2 ≠ [] ↔
      ∃ session, s.activeStreamSession id = .ok (some session) := by
  unfold activeStreamPlan
  split
  · simp [*]
  · simp [*]
  · rename_i session heq
    simp only [heq, Except.ok.injEq, Option.some.injEq, exists_eq', iff_true]
    split <;> simp

theorem activeStreamPlan_refused {plan : Session → Except Exn (Option StreamRuntimePlan)}
    (h : (s.activeStreamPlan plan id).1 = .error e) (hk : e.kind.isRefusal = true) :
    (s.activeStreamPlan plan id).2 = [] := by
  unfold activeStreamPlan at h ⊢
  split at h
  · rfl
  · rfl
  · split at h
    · cases h
      cases hk
    · cases h

theorem resolveWebsocketStream_eq (s : Service)
    (resolve : Session → Str → Except Exn InternalStreamBinding) (id streamId : Str) :
    s.resolveWebsocketStream resolve id streamId =
      match s.runningSession id with
      | .error e => .error e
      | .ok session =>
        match resolve session streamId with
        | .error e => .error ⟨.runtime, runtimeMessage (str "websocket route") id e⟩
        | .ok route => .ok route := by
  unfold resolveWebsocketStream runningSession
  cases s.loadOrThrow id with
  | error e => rfl
  | ok session =>
    simp only
    split <;> rfl

theorem fetchHttpStream_refused {fetch : Nat → Session → Str → Except Exn HttpStreamResponse}
    (h : (s.fetchHttpStream fetch id streamId).1 = .error e) (hk : e.kind.isRefusal = true) :
    (s.fetchHttpStream fetch id streamId).2 = [] := by
  unfold fetchHttpStream at h ⊢
  cases hs : s.runningSession id with
  | error e => rfl
  | ok session =>
    rw [hs] at h
    have hruntime := (fetchAttempts_spec _ _ _ _).1 e h
    rw [hruntime] at hk
    cases hk

/-- A refused lookup of a websocket route ends the same way whatever the
runtime would have answered. -/
theorem resolveWebsocketStream_refused
    {resolve : Session → Str → Except Exn InternalStreamBinding}
    (h : s.resolveWebsocketStream resolve id streamId = .error e) (hk : e.kind.isRefusal = true) :
    ∀ resolve', s.resolveWebsocketStream resolve' id streamId = .error e := by
  intro resolve'
  rw [resolveWebsocketStream_eq] at h ⊢
  cases hs : s.runningSession id with
  | error e' =>
    rw [hs] at h
    exact h
  | ok session =>
    rw [hs] at h
    simp only at h
    split at h
    · cases h
      cases hk
    · cases h

end Service

end Gr4cp.App

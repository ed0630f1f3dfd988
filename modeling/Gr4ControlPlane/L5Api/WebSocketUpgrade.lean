import Gr4ControlPlane.Core.Json
import Gr4ControlPlane.L3Runtime.Gr4RuntimeManager
import Gr4ControlPlane.L5Api.WebSocketTarget

/-!
# Websocket upgrades (`HttpServer::Impl::handle_connection`)

A connection is handled on a thread whose function catches nothing, so what
the parser of the target or the writer of an error reply throws ends the
process. Both can throw: `std::stoi` on an escape without digits, and the
JSON writer on bytes that are not UTF-8, which reach it from the target
through the error texts.

* `resolve_cases`: when a stream resolves, and when the text of the error is
  UTF-8 if it does not.
* `handle_connection_returns_iff`: no exception leaves the handler exactly
  when every escape of the stream part can be read and, unless the stream
  resolves, the ids that go into the reply are UTF-8.
-/
namespace Gr4cp.Api

open Gr4cp.Core Gr4cp.Domain Gr4cp.Storage Gr4cp.Runtime Gr4cp.App

/-! ## The handler -/

/-- mirrors src/api/http_server.cpp:317-321 -/
structure ErrorDetails where
  status : Nat
  code : Str
  message : Str
  deriving DecidableEq, Repr

/-- For what the session service throws.
mirrors src/api/http_server.cpp:323-345 -/
def currentErrorDetails (error : ServiceError) : ErrorDetails :=
  match error.kind with
  | .validation => ⟨400, str "validation_error", cString error.what⟩
  | .notFound => ⟨404, str "not_found", cString error.what⟩
  | .invalidState => ⟨409, str "invalid_state", cString error.what⟩
  | .runtime => ⟨500, str "runtime_error", cString error.what⟩
  | .timeout => ⟨504, str "timeout", cString error.what⟩
  | .repository => ⟨500, str "internal_error", str "internal server error"⟩

/-- How a connection ends when nothing is thrown. -/
inductive Handled where
  /-- not a stream route: passed on to the internal server -/
  | proxied
  /-- an error response -/
  | answered (status : Nat) (body : Str)
  /-- the stream was found, and the browser's handshake failed -/
  | dropped (route : InternalStreamBinding)
  /-- the stream was found and bridged -/
  | bridged (route : InternalStreamBinding)
  deriving DecidableEq, Repr

/-- The error object, as the writer dumps it. -/
def errorBody (details : ErrorDetails) : Option Str :=
  match dumpString details.code, dumpString details.message with
  | some code, some message =>
    some (str "\x7b\"error\":\x7b\"code\":" ++ code ++ str ",\"message\":" ++ message ++
      str "\x7d\x7d")
  | _, _ => none

/-- mirrors src/api/http_server.cpp:602-609 -/
def writeJsonError (details : ErrorDetails) : Except Thrown Handled :=
  match errorBody details with
  | none => .error .invalidUtf8
  | some body => .ok (.answered details.status body)

/-- How attaching to a stream ends: the connection to the internal server,
then the browser's handshake, then the bridge. -/
inductive Attachment where
  | failed (what : Str)
  | notAccepted
  | bridged

/-- mirrors src/api/http_server.cpp:945-990 -/
def handleWebsocketUpgrade (s : Service) (m : Manager) (attach : InternalStreamBinding → Attachment)
    (sessionId streamId : Str) : Except Thrown Handled :=
  match s.resolveWebsocketStream m.resolveWebsocketStream sessionId streamId with
  | .error error => writeJsonError (currentErrorDetails error)
  | .ok route =>
    match attach route with
    | .failed what =>
      writeJsonError
        ⟨500, str "runtime_error", str "failed to attach internal websocket stream: " ++ what⟩
    | .notAccepted => .ok (.dropped route)
    | .bridged => .ok (.bridged route)

/-- What is not an upgrade of a stream goes to the proxy, which is modelled in
`HttpProxy`.
mirrors src/api/http_server.cpp:870-886 -/
def handleConnection (s : Service) (m : Manager) (attach : InternalStreamBinding → Attachment)
    (isUpgrade : Bool) (target : Str) : Except Thrown Handled :=
  match if isUpgrade then parseWebsocketStreamTarget target else .ok none with
  | .error e => .error e
  | .ok none => .ok .proxied
  | .ok (some (sessionId, streamId)) => handleWebsocketUpgrade s m attach sessionId streamId

/-! ## Resolving a stream -/

/-- The session is stored and runs, for the service. -/
def runsSession (s : Service) (sessionId : Str) (session : Session) : Prop :=
  s.repository.get sessionId = some session ∧ session.state = .running ∧
    s.phaseForLocked session = .running

/-- The session runs and has a websocket stream of that id. -/
def Resolves (s : Service) (m : Manager) (sessionId streamId : Str) : Prop :=
  ∃ session bindings, runsSession s sessionId session ∧
    m.runningBindings session = some bindings ∧
    ∃ binding ∈ bindings, binding.plan.streamId = streamId ∧
      binding.plan.transport = str "websocket"

/-- The ids the error text names are UTF-8: the session's, and the stream's
once its session is known to run. The text ends at the first NUL. -/
def Printable (s : Service) (m : Manager) (sessionId streamId : Str) : Prop :=
  Utf8.valid (cString sessionId) = true ∧
    (0 ∉ sessionId → ∀ session, runsSession s sessionId session →
      Utf8.valid (cString session.id) = true ∧
        (0 ∉ session.id → ∀ bindings, m.runningBindings session = some bindings →
          Utf8.valid (cString streamId) = true))

section Resolve

variable {s : Service} {m : Manager} {sessionId streamId : Str}

theorem loadOrThrow_eq {session : Session} (h : s.repository.get sessionId = some session) :
    s.loadOrThrow sessionId = .ok session := by
  rw [Service.loadOrThrow, h]

/-- The lookup of the service, when the session runs. -/
theorem resolve_running {session : Session} (h : runsSession s sessionId session)
    (resolve : Session → Str → Except Exn InternalStreamBinding) :
    s.resolveWebsocketStream resolve sessionId streamId =
      match resolve session streamId with
      | .error e => .error ⟨.runtime, runtimeMessage (str "websocket route") sessionId e⟩
      | .ok route => .ok route := by
  obtain ⟨hget, hstate, hphase⟩ := h
  cases hresolve : resolve session streamId <;>
    simp [Service.resolveWebsocketStream, loadOrThrow_eq hget, hstate, hphase, hresolve]

/-- The lookup of the service, when it does not: the text names the session. -/
theorem resolve_not_running (h : ∀ session, ¬ runsSession s sessionId session)
    (resolve : Session → Str → Except Exn InternalStreamBinding) :
    ∃ kind text, s.resolveWebsocketStream resolve sessionId streamId =
        .error ⟨kind, text ++ sessionId⟩ ∧ kind ≠ .repository ∧ text.all Utf8.isPlain = true := by
  cases hget : s.repository.get sessionId with
  | none =>
    refine ⟨.notFound, str "session not found: ", ?_, by simp, by decide⟩
    simp [Service.resolveWebsocketStream, Service.loadOrThrow, hget]
  | some session =>
    refine ⟨.invalidState, str "session is not running: ", ?_, by simp, by decide⟩
    have hnot : session.state ≠ .running ∨ s.phaseForLocked session ≠ .running := by
      by_contra hboth
      simp only [not_or, not_not] at hboth
      exact h session ⟨hget, hboth⟩
    simp [Service.resolveWebsocketStream, loadOrThrow_eq hget, hnot]

/-- The lookup of the runtime: the binding, or a text around `detail`. -/
theorem manager_resolve_cases (m : Manager) (session : Session) (streamId : Str) :
    (∃ bindings binding, m.runningBindings session = some bindings ∧ binding ∈ bindings ∧
      binding.plan.streamId = streamId ∧ binding.plan.transport = str "websocket" ∧
      m.resolveWebsocketStream session streamId = .ok binding.internal) ∨
    ((∀ bindings, m.runningBindings session = some bindings → ∀ binding ∈ bindings,
        ¬ (binding.plan.streamId = streamId ∧ binding.plan.transport = str "websocket")) ∧
      ∃ detail, m.resolveWebsocketStream session streamId =
          .error (runtimeError session (str "websocket route") detail) ∧
        (Utf8.valid (cString detail) = true ↔ ∀ bindings,
          m.runningBindings session = some bindings → Utf8.valid (cString streamId) = true)) := by
  cases hrun : m.runningBindings session with
  | none =>
    refine .inr ⟨by simp, notRunning, ?_, ?_⟩
    · simp [Manager.resolveWebsocketStream, hrun]
    · simp only [reduceCtorEq, false_implies, implies_true, iff_true]
      decide
  | some bindings =>
    simp only [Option.some.injEq, forall_eq']
    cases hfind : bindings.find? fun binding =>
        binding.plan.streamId == streamId && binding.plan.transport == str "websocket" with
    | none =>
      refine .inr ⟨fun binding hmem => ?_, streamNotFound streamId, ?_, ?_⟩
      · have := List.find?_eq_none.1 hfind binding hmem
        simpa using this
      · simp [Manager.resolveWebsocketStream, hrun, hfind]
      · rw [streamNotFound, Utf8.valid_cString_plain_append (by decide)]
    | some binding =>
      have hsome := List.find?_some hfind
      simp only [Bool.and_eq_true, beq_iff_eq] at hsome
      exact .inl ⟨bindings, binding, rfl, List.mem_of_find?_eq_some hfind, hsome.1, hsome.2,
        by simp [Manager.resolveWebsocketStream, hrun, hfind]⟩

/-- The text of a runtime error is UTF-8 when the three parts that are not
fixed are, up to the first NUL in them. -/
theorem routeMessage_valid (session : Session) (sessionId detail : Str) :
    Utf8.valid (cString (runtimeMessage (str "websocket route") sessionId
        (runtimeError session (str "websocket route") detail))) = true ↔
      Utf8.valid (cString sessionId) = true ∧
        (0 ∉ sessionId → Utf8.valid (cString session.id) = true ∧
          (0 ∉ session.id → Utf8.valid (cString detail) = true)) := by
  have hcolon : str ": " = chr ':' :: str " " := by decide
  have hspace : str " " = [chr ' '] := by decide
  simp only [runtimeMessage, runtimeError, List.append_assoc]
  rw [Utf8.valid_cString_plain_append (by decide), Utf8.valid_cString_plain_append (by decide),
    Utf8.valid_cString_plain_append (by decide), hcolon, List.cons_append,
    Utf8.valid_cString_append_plain (by decide), Utf8.valid_cString_plain_append (by decide),
    cString_cString, Utf8.valid_cString_plain_append (by decide), hspace, List.cons_append,
    List.nil_append, Utf8.valid_cString_append_plain (by decide),
    Utf8.valid_cString_plain_append (by decide), Utf8.valid_cString_plain_append (by decide)]

theorem runsSession_unique {session session' : Session} (h : runsSession s sessionId session)
    (h' : runsSession s sessionId session') : session' = session :=
  Option.some.inj (h'.1.symm.trans h.1)

/-- A stream that resolves, and one that does not: then the reply's text is
UTF-8 exactly when it can be printed. -/
theorem resolve_cases (s : Service) (m : Manager) (sessionId streamId : Str) :
    (Resolves s m sessionId streamId ∧ ∃ route,
      s.resolveWebsocketStream m.resolveWebsocketStream sessionId streamId = .ok route) ∨
    (¬ Resolves s m sessionId streamId ∧ ∃ kind what,
      s.resolveWebsocketStream m.resolveWebsocketStream sessionId streamId =
        .error ⟨kind, what⟩ ∧ kind ≠ .repository ∧
      (Utf8.valid (cString what) = true ↔ Printable s m sessionId streamId)) := by
  by_cases hruns : ∃ session, runsSession s sessionId session
  · obtain ⟨session, hsession⟩ := hruns
    rw [resolve_running hsession]
    obtain ⟨bindings, binding, hrun, hmem, hid, hws, hres⟩ | ⟨hnone, detail, hres, hdetail⟩ :=
      manager_resolve_cases m session streamId
    · exact .inl ⟨⟨session, bindings, hsession, hrun, binding, hmem, hid, hws⟩,
        binding.internal, by rw [hres]⟩
    · refine .inr ⟨?_, .runtime, _, by rw [hres], by simp, ?_⟩
      · rintro ⟨session', bindings, hsession', hrun, binding, hmem, hboth⟩
        obtain rfl := runsSession_unique hsession hsession'
        exact hnone bindings hrun binding hmem hboth
      · rw [routeMessage_valid, hdetail, Printable]
        refine and_congr_right fun _ => forall_congr' fun _ => ⟨?_, fun h => h session hsession⟩
        intro h session' hsession'
        obtain rfl := runsSession_unique hsession hsession'
        exact h
  · have hnot : ∀ session, ¬ runsSession s sessionId session := fun session h => hruns ⟨session, h⟩
    obtain ⟨kind, text, hres, hkind, hplain⟩ := resolve_not_running hnot m.resolveWebsocketStream
    refine .inr ⟨?_, kind, _, hres, hkind, ?_⟩
    · rintro ⟨session, bindings, hsession, -⟩
      exact hnot session hsession
    · rw [Utf8.valid_cString_plain_append hplain, Printable]
      exact ⟨fun h => ⟨h, fun _ session hsession => (hnot session hsession).elim⟩, fun h => h.1⟩

end Resolve

/-! ## The reply -/

/-- Writing a reply succeeds when its two texts are UTF-8. -/
theorem writeJsonError_returns_iff {details : ErrorDetails} (hcode : Utf8.valid details.code = true) :
    (∃ handled, writeJsonError details = .ok handled) ↔ Utf8.valid details.message = true := by
  simp only [writeJsonError, errorBody, dumpString, hcode, if_true]
  cases Utf8.valid details.message <;> simp

theorem currentErrorDetails_code (error : ServiceError) :
    Utf8.valid (currentErrorDetails error).code = true := by
  obtain ⟨kind, what⟩ := error
  cases kind <;> rfl

theorem currentErrorDetails_message {error : ServiceError} (h : error.kind ≠ .repository) :
    (currentErrorDetails error).message = cString error.what := by
  obtain ⟨kind, what⟩ := error
  cases kind <;> first | rfl | exact absurd rfl h

theorem upgrade_returns_iff (s : Service) (m : Manager)
    (attach : InternalStreamBinding → Attachment)
    (hattach : ∀ route what, attach route = .failed what → Utf8.valid what = true)
    (sessionId streamId : Str) :
    (∃ handled, handleWebsocketUpgrade s m attach sessionId streamId = .ok handled) ↔
      Resolves s m sessionId streamId ∨ Printable s m sessionId streamId := by
  unfold handleWebsocketUpgrade
  obtain ⟨hresolves, route, hroute⟩ | ⟨hnot, kind, what, herror, hkind, hwhat⟩ :=
    resolve_cases s m sessionId streamId
  · simp only [hroute, hresolves, true_or, iff_true]
    cases hattached : attach route with
    | failed what =>
      have hcode : Utf8.valid (str "runtime_error") = true := by decide
      refine (writeJsonError_returns_iff hcode).2 ?_
      rw [Utf8.valid_ascii_append (by decide)]
      exact hattach route what hattached
    | notAccepted => exact ⟨_, rfl⟩
    | bridged => exact ⟨_, rfl⟩
  · simp only [herror, hnot, false_or, writeJsonError_returns_iff (currentErrorDetails_code _),
      currentErrorDetails_message (show (ServiceError.mk kind what).kind ≠ .repository from hkind),
      hwhat]

/-- A target has one reading, so what is asked of every reading is asked of
the one the parser returns. -/
theorem forall_target_iff {target sessionId streamId : Str}
    (h : parseWebsocketStreamTarget target = .ok (some (sessionId, streamId)))
    (P : Str → Str → Prop) :
    (∀ sessionId raw, StreamTarget target sessionId raw →
      readableEscapes raw = true ∧ ∀ streamId, decodePercentEncoded raw = .ok streamId →
        P sessionId streamId) ↔ P sessionId streamId := by
  constructor
  · intro hall
    obtain ⟨raw, htarget, hdec⟩ := (parse_eq_some_iff _ _ _).1 h
    exact (hall _ _ htarget).2 _ hdec
  · intro hP sessionId' raw htarget
    rw [parse_of_target htarget] at h
    cases hdec : decodePercentEncoded raw with
    | error e => simp [hdec, Except.map] at h
    | ok out =>
      simp only [hdec, Except.map, Except.ok.injEq, Option.some.injEq, Prod.mk.injEq] at h
      obtain ⟨rfl, rfl⟩ := h
      refine ⟨(decode_returns_iff raw).1 ⟨_, hdec⟩, fun out' hout => ?_⟩
      obtain rfl := Except.ok.inj hout
      exact hP

/-- **No exception leaves the connection thread, exactly.** For any target,
any state of the service and of the runtime, and any way attaching ends: an
upgrade request is handled if and only if its target is no stream route, or
every escape in it can be read and the stream resolves or its ids can be
printed. -/
theorem handle_connection_returns_iff (s : Service) (m : Manager)
    (attach : InternalStreamBinding → Attachment)
    (hattach : ∀ route what, attach route = .failed what → Utf8.valid what = true)
    (target : Str) :
    (∃ handled, handleConnection s m attach true target = .ok handled) ↔
      ∀ sessionId raw, StreamTarget target sessionId raw →
        readableEscapes raw = true ∧ ∀ streamId, decodePercentEncoded raw = .ok streamId →
          Resolves s m sessionId streamId ∨ Printable s m sessionId streamId := by
  simp only [handleConnection, if_true]
  cases hparse : parseWebsocketStreamTarget target with
  | error e =>
    simp only [reduceCtorEq, exists_false, false_iff]
    intro h
    obtain ⟨sessionId, raw, htarget⟩ := target_of_parse (by rw [hparse]; simp)
    obtain ⟨streamId, hdec⟩ := decode_returns (h _ _ htarget).1
    rw [parse_of_target htarget, hdec] at hparse
    cases hparse
  | ok parsed =>
    cases parsed with
    | none =>
      have hnone := (parse_eq_none_iff target).1 hparse
      exact ⟨fun _ sessionId raw h => (hnone _ _ h).elim, fun _ => ⟨_, rfl⟩⟩
    | some ids =>
      obtain ⟨sessionId, streamId⟩ := ids
      rw [forall_target_iff hparse fun sessionId streamId =>
        Resolves s m sessionId streamId ∨ Printable s m sessionId streamId]
      exact upgrade_returns_iff s m attach hattach sessionId streamId

theorem missing_session_handled :
    ∃ handled, handleConnection Service.empty Manager.empty
      (fun _ => .failed (str "Connection refused")) true
      (str "/sessions/gone/streams/a%20b/ws?from=ui") = .ok handled := by
  refine (handle_connection_returns_iff Service.empty Manager.empty
    (fun _ => .failed (str "Connection refused")) (fun _ what h => ?_)
    (str "/sessions/gone/streams/a%20b/ws?from=ui")).2 ?_
  · obtain rfl := Attachment.failed.inj h
    decide
  · have hparse : parseWebsocketStreamTarget (str "/sessions/gone/streams/a%20b/ws?from=ui") =
        .ok (some (str "gone", str "a b")) := by
      decide +kernel
    refine (forall_target_iff hparse fun sessionId streamId =>
      Resolves _ _ sessionId streamId ∨ Printable _ _ sessionId streamId).2 (.inr ⟨by decide, ?_⟩)
    intro _ session hruns
    cases hruns.1

/-- An escape that is no number; and a byte that is not UTF-8 in the id of a
session that does not exist. -/
theorem handle_connection_throws :
    let handle := handleConnection Service.empty Manager.empty (fun _ => .bridged) true
    handle (str "/sessions/a/streams/%zz/ws") = .error .invalidArgument ∧
      (¬ ∃ handled, handle (str "/sessions/a/streams/%zz/ws") = .ok handled) ∧
      handle (str "/sessions/" ++ [0xFF] ++ str "/streams/b/ws") = .error .invalidUtf8 := by
  intro handle
  have hescape : handle (str "/sessions/a/streams/%zz/ws") = .error .invalidArgument := by
    decide +kernel
  refine ⟨hescape, ?_, by decide +kernel⟩
  rintro ⟨handled, h⟩
  rw [hescape] at h
  cases h

end Gr4cp.Api

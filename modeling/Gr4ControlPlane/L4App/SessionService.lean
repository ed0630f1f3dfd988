import Gr4ControlPlane.Core.Threads
import Gr4ControlPlane.L2Storage.SessionRepository
import Gr4ControlPlane.L3Runtime.GraphContent

/-!
# `SessionService`

Each lifecycle operation is an admission section under the service's mutex,
then the calls of the runtime manager without it, then a completion section
(or `record_runtime_failure`) under it again. The sections are functions on
the service's state; `Sys` interleaves any number of clients, one section or
one step of a runtime call at a time.

The runtime manager is any program per call over a state of its own, so a
call may take any number of steps, answer anything and throw anything.
-/
namespace Gr4cp.App

open Gr4cp.Core Gr4cp.Domain Gr4cp.Storage Gr4cp.Runtime

/-! ## State and errors -/

/-- mirrors include/gr4cp/app/session_service.hpp:54-60 -/
inductive InternalLifecyclePhase where
  | idle | starting | running | stopping | failed
  deriving DecidableEq, Repr

/-- The classes of include/gr4cp/app/session_service.hpp:15-33 and
include/gr4cp/app/block_settings_service.hpp:13-16; `repository` is a
`std::runtime_error` of the repository that nothing converts. -/
inductive ErrorKind where
  | notFound | validation | invalidState | runtime | timeout | repository
  deriving DecidableEq, Repr

structure ServiceError where
  kind : ErrorKind
  what : Str
  deriving DecidableEq, Repr

structure Service where
  repository : Repository
  phases : AList fun _ : Str => InternalLifecyclePhase

def Service.empty : Service := ⟨∅, ∅⟩

/-- mirrors src/app/session_service.cpp:29-35 -/
def runtimeMessage (action id : Str) : Exn → Str
  | .std what =>
    str "runtime " ++ action ++ str " failed for session " ++ id ++ str ": " ++ what
  | .other => str "runtime " ++ action ++ str " failed for session " ++ id

namespace Service

/-- The phase of a session without one.
mirrors src/app/session_service.cpp:54-63 -/
def phaseOfState : SessionState → InternalLifecyclePhase
  | .stopped => .idle
  | .running => .running
  | .error => .failed

/-- mirrors src/app/session_service.cpp:48-64 -/
def phaseForLocked (s : Service) (session : Session) : InternalLifecyclePhase :=
  match s.phases.lookup session.id with
  | some phase => phase
  | none => phaseOfState session.state

/-- mirrors src/app/session_service.cpp:336-342 -/
def loadOrThrow (s : Service) (id : Str) : Except ServiceError Session :=
  match s.repository.get id with
  | none => .error ⟨.notFound, str "session not found: " ++ id⟩
  | some session => .ok session

/-- `phases_[id] = phase` -/
def setPhase (s : Service) (id : Str) (phase : InternalLifecyclePhase) : Service :=
  { s with phases := s.phases.insert id phase }

/-- mirrors src/app/session_service.cpp:354-357 -/
def storeSessionLocked (s : Service) (session : Session) (phase : InternalLifecyclePhase) :
    Except ServiceError Service :=
  match s.repository.update session with
  | .error what => .error ⟨.repository, what⟩
  | .ok repository => .ok ({ s with repository }.setPhase session.id phase)

/-! ## Reading and creating -/

/-- mirrors src/app/session_service.cpp:105-108 -/
def get (s : Service) (id : Str) : Except ServiceError Session := s.loadOrThrow id

/-- The order of `list`: creation time, then id. -/
def listedBefore (left right : Session) : Bool :=
  if left.createdAt = right.createdAt then Str.le left.id right.id
  else decide (left.createdAt < right.createdAt)

/-- mirrors src/app/session_service.cpp:93-103 -/
def list (s : Service) : List Session := List.mergeSort s.repository.list listedBefore

/-- `std::hex << std::setw(16) << std::setfill('0')` -/
def hex16 (n : UInt64) : Str := (List.range 16).map fun i => hexDigit (n.toNat / 16 ^ (15 - i) % 16)

/-- The id made from a random draw.
mirrors src/app/session_service.cpp:20-27 -/
def generateSessionId (draw : UInt64) : Str := str "sess_" ++ hex16 draw

/-- The loop that draws until the id is free; `none` when all of the given
draws are taken, that is while the loop goes on.
mirrors src/app/session_service.cpp:81-83 -/
def firstFreeId (s : Service) : List UInt64 → Option Str
  | [] => none
  | draw :: draws =>
    if (s.repository.get (generateSessionId draw)).isSome then firstFreeId s draws
    else some (generateSessionId draw)

/-- mirrors src/app/session_service.cpp:76-88 -/
def newSession (name grc : Str) (schedulerAlias : Option Str) (id : Str) (now : Timestamp) :
    Session where
  id
  name
  grcContent := grc
  schedulerAlias
  state := .stopped
  lastError := none
  createdAt := now
  updatedAt := now

/-- mirrors src/app/session_service.cpp:66-91 -/
def create (s : Service) (name grc : Str) (schedulerAlias : Option Str) (draws : List UInt64)
    (now : Timestamp) : Option (Except ServiceError Session × Service) :=
  if grc.isEmpty then some (.error ⟨.validation, str "grc_content must not be empty"⟩, s)
  else
    match s.firstFreeId draws with
    | none => none
    | some id =>
      let session := newSession name grc schedulerAlias id now
      match s.repository.create session with
      | .error what => some (.error ⟨.repository, what⟩, s)
      | .ok repository => some (.ok session, { s with repository }.setPhase session.id .idle)

end Service

namespace Service

/-- The lookup under the mutex, then the call of the runtime without it; `resolve` is
what the runtime answers by then.
mirrors src/app/session_service.cpp:317-334 -/
def resolveWebsocketStream (s : Service)
    (resolve : Session → Str → Except Exn InternalStreamBinding) (id streamId : Str) :
    Except ServiceError InternalStreamBinding :=
  match s.loadOrThrow id with
  | .error e => .error e
  | .ok session =>
    if session.state ≠ .running ∨ s.phaseForLocked session ≠ .running then
      .error ⟨.invalidState, str "session is not running: " ++ id⟩
    else
      match resolve session streamId with
      | .error e => .error ⟨.runtime, runtimeMessage (str "websocket route") id e⟩
      | .ok route => .ok route

end Service

/-! ## Admission -/

/-- The lifecycle operations. -/
inductive Op where
  | start | stop | restart | remove
  deriving DecidableEq, Repr

/-- How an admission section that does not throw ends. -/
inductive Admission where
  /-- the operation is over -/
  | returns (session : Session)
  /-- the runtime is called next -/
  | admitted (session : Session)

def invalidState (what id : Str) : Except ServiceError Admission :=
  .error ⟨.invalidState, what ++ id⟩

namespace Service

/-- mirrors src/app/session_service.cpp:112-128 -/
def admitStart (s : Service) (id : Str) : Except ServiceError Admission × Service :=
  match s.loadOrThrow id with
  | .error e => (.error e, s)
  | .ok session =>
    let phase := s.phaseForLocked session
    if session.state = .running ∨ phase = .running then
      (invalidState (str "session already running: ") id, s)
    else if phase = .starting then
      (invalidState (str "session start already in progress: ") id, s)
    else if phase = .stopping then (invalidState (str "session stop in progress: ") id, s)
    else (.ok (.admitted session), s.setPhase id .starting)

/-- mirrors src/app/session_service.cpp:152-168 -/
def admitStop (s : Service) (id : Str) : Except ServiceError Admission × Service :=
  match s.loadOrThrow id with
  | .error e => (.error e, s)
  | .ok session =>
    let phase := s.phaseForLocked session
    if phase = .stopping then (invalidState (str "session stop already in progress: ") id, s)
    else if phase = .starting then (invalidState (str "session start in progress: ") id, s)
    else if session.state = .stopped ∧ phase = .idle then (.ok (.returns session), s)
    else (.ok (.admitted session), s.setPhase id .stopping)

/-- What `restart` and `remove` do alike: they only turn away a session with
an operation in progress. -/
def admitUnlessBusy (busy : InternalLifecyclePhase) (startInProgress : Str) (s : Service)
    (id : Str) : Except ServiceError Admission × Service :=
  match s.loadOrThrow id with
  | .error e => (.error e, s)
  | .ok session =>
    let phase := s.phaseForLocked session
    if phase = .stopping then (invalidState (str "session stop in progress: ") id, s)
    else if phase = .starting then (invalidState startInProgress id, s)
    else (.ok (.admitted session), s.setPhase id busy)

/-- mirrors src/app/session_service.cpp:191-204 -/
def admitRestart : Service → Str → Except ServiceError Admission × Service :=
  admitUnlessBusy .starting (str "session start already in progress: ")

/-- mirrors src/app/session_service.cpp:233-246 -/
def admitRemove : Service → Str → Except ServiceError Admission × Service :=
  admitUnlessBusy .stopping (str "session start in progress: ")

def admitOp (s : Service) : Op → Str → Except ServiceError Admission × Service
  | .start => s.admitStart
  | .stop => s.admitStop
  | .restart => s.admitRestart
  | .remove => s.admitRemove

/-! ## Completion -/

/-- The session stored when `start` or `restart` succeeds. -/
def markRunning (session : Session) (now : Timestamp) : Session :=
  { session with state := .running, lastError := none, updatedAt := now }

/-- The session stored when `stop` succeeds. -/
def markStopped (session : Session) (now : Timestamp) : Session :=
  { session with state := .stopped, lastError := none, updatedAt := now }

/-- The session stored when the runtime fails. -/
def markFailed (message : Str) (session : Session) (now : Timestamp) : Session :=
  { session with state := .error, lastError := some message, updatedAt := now }

/-- Load, change and store: the section that ends `start`, `stop` and
`restart`, and the first part of `record_runtime_failure`. -/
def finish (s : Service) (id : Str) (change : Session → Timestamp → Session)
    (phase : InternalLifecyclePhase) (now : Timestamp) : Except ServiceError Session × Service :=
  match s.loadOrThrow id with
  | .error e => (.error e, s)
  | .ok session =>
    match s.storeSessionLocked (change session now) phase with
    | .error e => (.error e, s)
    | .ok s' => (.ok (change session now), s')

/-- mirrors src/app/session_service.cpp:139-147,220-228 -/
def completeRunning (s : Service) (id : Str) (now : Timestamp) :
    Except ServiceError (Option Session) × Service :=
  let (result, s') := s.finish id markRunning .running now
  (result.map some, s')

/-- mirrors src/app/session_service.cpp:178-186 -/
def completeStop (s : Service) (id : Str) (now : Timestamp) :
    Except ServiceError (Option Session) × Service :=
  let (result, s') := s.finish id markStopped .idle now
  (result.map some, s')

/-- mirrors src/app/session_service.cpp:260-266 -/
def completeRemove (s : Service) (id : Str) : Except ServiceError (Option Session) × Service :=
  let (removed, repository) := s.repository.remove id
  if removed then (.ok none, { repository, phases := s.phases.erase id })
  else (.error ⟨.notFound, str "session not found: " ++ id⟩, { s with repository })

def complete (s : Service) (op : Op) (id : Str) (now : Timestamp) :
    Except ServiceError (Option Session) × Service :=
  match op with
  | .start | .restart => s.completeRunning id now
  | .stop => s.completeStop id now
  | .remove => s.completeRemove id

/-- It always throws; `RuntimeError` unless something else went wrong.
mirrors src/app/session_service.cpp:344-352 -/
def recordRuntimeFailure (s : Service) (session : Session) (message : Str) (now : Timestamp) :
    ServiceError × Service :=
  match s.finish session.id (markFailed message) .failed now with
  | (.error e, s') => (e, s')
  | (.ok _, s') => (⟨.runtime, message⟩, s')

end Service

/-! ## The calls of the runtime -/

/-- The four lifecycle calls of `RuntimeManager`. -/
inductive RtCall where
  | prepare | start | stop | destroy
  deriving DecidableEq, Repr

/-- A runtime manager: a program for each call, over states `ρ`. -/
structure RuntimeManager (ρ Q : Type) (A : Q → Type) where
  call : RtCall → Session → Prog ρ Q A Exn Unit

def Op.action : Op → Str
  | .start => str "start"
  | .stop => str "stop"
  | .restart => str "restart"
  | .remove => str "remove"

/-- The first calls of `restart` and `remove`, and the session they go on
with.
mirrors src/app/session_service.cpp:207-210,249-252 -/
def stopFirst (session : Session) : List (RtCall × Session) × Session :=
  if session.state = .running then ([(.stop, session)], { session with state := .stopped })
  else ([], session)

/-- The calls an admitted operation makes, in order, each with its argument.
mirrors src/app/session_service.cpp:130-132,170-171,206-213,248-253 -/
def Op.calls (session : Session) : Op → List (RtCall × Session)
  | .start => [(.prepare, session), (.start, session)]
  | .stop => [(.stop, session)]
  | .restart =>
    let (first, session) := stopFirst session
    first ++ [(.destroy, session), (.prepare, session), (.start, session)]
  | .remove =>
    let (first, session) := stopFirst session
    first ++ [(.destroy, session)]

/-! ## Clients -/

/-- An admitted operation; the session is the record it was admitted on. -/
structure Ticket where
  op : Op
  id : Str
  admitted : Session

/-- Where a client is between two sections. -/
inductive Client (ρ Q : Type) (A : Q → Type) where
  | idle
  /-- inside `call`; `todo` comes after it -/
  | calling (t : Ticket) (call : RtCall) (arg : Session) (prog : Prog ρ Q A Exn Unit)
      (todo : List (RtCall × Session))
  /-- a call threw; `record_runtime_failure` comes next -/
  | failing (t : Ticket) (arg : Session) (message : Str)
  /-- the calls returned; the completion section comes next -/
  | completing (t : Ticket)

namespace Client

variable {ρ Q : Type} {A : Q → Type}

/-- The operation a client is in, from its admission to its completion. -/
def ticket : Client ρ Q A → Option Ticket
  | .idle => none
  | .calling t _ _ _ _ | .failing t _ _ | .completing t => some t

/-- The runtime call a client has outstanding. -/
def outstanding : Client ρ Q A → Option (RtCall × Session)
  | .calling _ call arg _ _ => some (call, arg)
  | _ => none

end Client

/-- The client of ticket `t` with the given calls ahead. -/
def proceed {ρ Q : Type} {A : Q → Type} (rt : RuntimeManager ρ Q A) (t : Ticket) :
    List (RtCall × Session) → Client ρ Q A
  | [] => .completing t
  | (call, arg) :: todo => .calling t call arg (rt.call call arg) todo

/-! ## The system -/

structure Sys (ρ Q : Type) (A : Q → Type) where
  service : Service
  runtime : ρ
  clients : Nat → Client ρ Q A

inductive Lbl (Q : Type) (A : Q → Type) where
  | create (name grc : Str) (schedulerAlias : Option Str) (draws : List UInt64) (now : Timestamp)
  | get (id : Str)
  | list
  /-- an admission section -/
  | begin (c : Nat) (op : Op) (id : Str)
  /-- a step of the runtime call, or the return or throw that ends it -/
  | runtime (c : Nat) (ans : ∀ q, A q)
  /-- `record_runtime_failure` -/
  | fail (c : Nat) (now : Timestamp)
  /-- a completion section -/
  | complete (c : Nat) (now : Timestamp)

namespace Sys

variable {ρ Q : Type} {A : Q → Type} (rt : RuntimeManager ρ Q A)

def setClient (s : Sys ρ Q A) (c : Nat) (client : Client ρ Q A) : Sys ρ Q A :=
  { s with clients := Function.update s.clients c client }

@[simp] theorem setClient_self (s : Sys ρ Q A) (c : Nat) (client : Client ρ Q A) :
    (s.setClient c client).clients c = client := Function.update_self _ _ _

theorem setClient_of_ne {c c' : Nat} (h : c' ≠ c) (s : Sys ρ Q A) (client : Client ρ Q A) :
    (s.setClient c client).clients c' = s.clients c' := Function.update_of_ne h _ _

def beginOp (s : Sys ρ Q A) (c : Nat) (op : Op) (id : Str) : Option (Sys ρ Q A) :=
  match s.clients c with
  | .idle =>
    match s.service.admitOp op id with
    | (.ok (.admitted session), service) =>
      some ({ s with service }.setClient c (proceed rt ⟨op, id, session⟩ (op.calls session)))
    | (_, service) => some { s with service }
  | _ => none

def runtimeStep (s : Sys ρ Q A) (c : Nat) (ans : ∀ q, A q) : Option (Sys ρ Q A) :=
  match s.clients c with
  | .calling t call arg prog todo =>
    match prog with
    | .ret (.ok _) => some (s.setClient c (proceed rt t todo))
    | .ret (.error e) =>
      some (s.setClient c (.failing t arg (runtimeMessage t.op.action t.id e)))
    | prog =>
      (prog.next ans s.runtime).map fun (prog', runtime) =>
        { s with runtime }.setClient c (.calling t call arg prog' todo)
  | _ => none

def step (s : Sys ρ Q A) : Lbl Q A → Option (Sys ρ Q A)
  | .create name grc schedulerAlias draws now =>
    (s.service.create name grc schedulerAlias draws now).map fun (_, service) =>
      { s with service }
  | .get _ | .list => some s
  | .begin c op id => s.beginOp rt c op id
  | .runtime c ans => s.runtimeStep rt c ans
  | .fail c now =>
    match s.clients c with
    | .failing _ arg message =>
      some ({ s with service := (s.service.recordRuntimeFailure arg message now).2 }.setClient c
        .idle)
    | _ => none
  | .complete c now =>
    match s.clients c with
    | .completing t =>
      some ({ s with service := (s.service.complete t.op t.id now).2 }.setClient c .idle)
    | _ => none

/-- The service over a runtime manager that starts in `r₀`: no sessions, no
client in an operation. -/
def runs (r₀ : ρ) : LTS (Sys ρ Q A) (Lbl Q A) :=
  LTS.ofFn (fun s => s = ⟨Service.empty, r₀, fun _ => .idle⟩) (step rt)

end Sys

end Gr4cp.App

import Mathlib.Data.List.AList
import Gr4ControlPlane.Core.Prog
import Gr4ControlPlane.L3Runtime.GraphContent

/-!
# The state of the runtime manager

`Gr4RuntimeManager` keeps one `SessionRuntimeResources` per session and a
`StreamBindingAllocator` shared by all sessions. What GNU Radio and the
operating system answer is outside the repository: each such call is a
query (`GrCall`) whose answer is a value or a throw, free in every run.

A method body is a `Prog` over this state: one atomic step per access to
shared state (a lookup or change of `resources_` under its mutex, a call of
the allocator under its mutex, a group of assignments to the resources of
the session the thread holds the mutex of).

Ghost data, which no branch reads: the session a port was allocated for,
whether a scheduler's `start()` returned and its `stop()` has not since,
how many bindings a running release loop has handed back, and the
executions that were discarded.
-/
namespace Gr4cp.Runtime

open Gr4cp.Core Gr4cp.Domain

/-- mirrors include/gr4cp/runtime/gr4_runtime_manager.hpp:37-43 -/
inductive LifecyclePhase where
  | idle | starting | running | stopping | failed
  deriving DecidableEq, Repr

/-- mirrors src/runtime/gr4_runtime_manager.cpp:665-668 -/
structure Execution where
  running : Bool := false
  /-- ghost: `scheduler->start()` returned, and `stop()` has not since -/
  started : Bool := false
  deriving DecidableEq, Repr

/-- mirrors src/runtime/gr4_runtime_manager.cpp:670-680 -/
structure SessionRuntimeResources where
  sessionId : Str := []
  generation : UInt64 := 0
  lifecyclePhase : LifecyclePhase := .idle
  teardownComplete : Bool := true
  teardownError : Option Str := none
  asyncError : Option Str := none
  execution : Option Execution := none
  streamBindings : List RuntimeStreamBinding := []
  /-- ghost: how many of the bindings a running release loop has released -/
  released : Nat := 0
  deriving DecidableEq, Repr

structure Manager where
  resources : AList fun _ : Str => SessionRuntimeResources
  /-- `allocated_ports_` of the allocator; the values are ghost: for whom -/
  allocatedPorts : AList fun _ : Nat => Str
  /-- ghost -/
  discarded : List Execution

def Manager.empty : Manager := ⟨∅, ∅, []⟩

/-- The calls that leave the repository. A reservation names the stream it is
for and the attempts left, so that each may be answered differently. -/
inductive GrCall where
  | ensureRuntimeEnvironment
  | reserveEphemeralLoopbackPort (stream attemptsLeft : Nat)
  | loadGrc (content : Str)
  | availableSchedulers
  | instantiateScheduler (schedulerAlias : Str)
  | setGraph
  | schedulerStart
  | schedulerStop
  deriving DecidableEq, Repr

/-- What a call returns; for `instantiateScheduler`, whether the pointer is
not null. -/
@[reducible] def GrCall.Result : GrCall → Type
  | .reserveEphemeralLoopbackPort _ _ => Nat
  | .availableSchedulers => List Str
  | .instantiateScheduler _ => Bool
  | _ => Unit

abbrev Answer (call : GrCall) : Type := Except Exn call.Result

abbrev Rt := Prog Manager GrCall Answer Exn

/-- A call that leaves the repository: its value, or its throw. -/
def request (call : GrCall) : Rt call.Result := .ask call fun answer => .ret answer

/-! ## Access to `resources_` -/

/-- Whether `find_resources` returns a pointer.
mirrors src/runtime/gr4_runtime_manager.cpp:972-976 -/
def findResources (id : Str) : Rt Bool := Prog.read fun m => (m.resources.lookup id).isSome

def Manager.getOrCreateResources (m : Manager) (id : Str) : Manager :=
  match m.resources.lookup id with
  | some _ => m
  | none => { m with resources := m.resources.insert id { sessionId := id } }

/-- mirrors src/runtime/gr4_runtime_manager.cpp:962-970 -/
def getOrCreateResources (session : Session) : Rt Unit :=
  Prog.modify (·.getOrCreateResources session.id)

/-- The resources the thread holds. -/
def readResources (id : Str) : Rt SessionRuntimeResources :=
  Prog.read fun m => (m.resources.lookup id).getD {}

def Manager.updateResources (m : Manager) (id : Str)
    (f : SessionRuntimeResources → SessionRuntimeResources) : Manager :=
  match m.resources.lookup id with
  | some r => { m with resources := m.resources.insert id (f r) }
  | none => m

/-- Assignments to the fields of the resources the thread holds. -/
def updateResources (id : Str) (f : SessionRuntimeResources → SessionRuntimeResources) : Rt Unit :=
  Prog.modify (·.updateResources id f)

/-- The execution a session has, if any. -/
def Manager.executions (m : Manager) (id : Str) : List Execution :=
  ((m.resources.lookup id).bind (·.execution)).toList

def Manager.discardExecution (m : Manager) (id : Str) : Manager :=
  { m.updateResources id (fun r => { r with execution := none }) with
    discarded := m.executions id ++ m.discarded }

/-- `resources.execution.reset()`, or the assignment that drops what was
there. -/
def discardExecution (id : Str) : Rt Unit := Prog.modify (·.discardExecution id)

def Manager.eraseResources (m : Manager) (id : Str) : Manager :=
  { m with resources := m.resources.erase id, discarded := m.executions id ++ m.discarded }

/-- `resources_.erase(session.id)`
mirrors src/runtime/gr4_runtime_manager.cpp:775-779 -/
def eraseResources (id : Str) : Rt Unit := Prog.modify (·.eraseResources id)

/-! ## The stream binding allocator (`runtime/stream_binding_allocator.cpp`) -/

def Manager.insertPort (m : Manager) (owner : Str) (port : Nat) : Manager :=
  if port ∈ m.allocatedPorts then m
  else { m with allocatedPorts := m.allocatedPorts.insert port owner }

/-- `allocated_ports_.insert(port).second` -/
def insertPort (owner : Str) (port : Nat) : Rt Bool :=
  Prog.update (·.insertPort owner port) fun m => decide (port ∉ m.allocatedPorts)

/-- The loop of `allocate_http` and `allocate_websocket`.
mirrors src/runtime/stream_binding_allocator.cpp:79-83,101-105 -/
def allocatePort (owner : Str) (stream : Nat) (exhausted : Str) : Nat → Rt Nat
  | 0 => throw (.std exhausted)
  | attemptsLeft + 1 => do
    let port ← request (.reserveEphemeralLoopbackPort stream attemptsLeft)
    let inserted ← insertPort owner port
    if inserted then pure port else allocatePort owner stream exhausted attemptsLeft

/-- What the two kinds of binding differ in. -/
structure BindingKind where
  protocol : Str
  scheme : Str
  path : Str
  /-- the text thrown when every attempt hit a port in use -/
  exhausted : Str

def httpBinding : BindingKind where
  protocol := str "http"
  scheme := str "http"
  path := str "/snapshot"
  exhausted := str "failed to allocate unique internal HTTP stream binding"

def websocketBinding : BindingKind where
  protocol := str "websocket"
  scheme := str "ws"
  path := str "/stream"
  exhausted := str "failed to allocate unique internal websocket stream binding"

/-- The binding returned for a port. -/
def BindingKind.on (kind : BindingKind) (port : Nat) : InternalStreamBinding where
  protocol := kind.protocol
  host := str "127.0.0.1"
  port
  path := kind.path
  endpoint := kind.scheme ++ str "://127.0.0.1:" ++ natStr port ++ kind.path

def allocate (owner : Str) (stream : Nat) (kind : BindingKind) : Rt InternalStreamBinding := do
  let port ← allocatePort owner stream kind.exhausted 64
  pure (kind.on port)

/-- mirrors src/runtime/stream_binding_allocator.cpp:76-96 -/
def allocateHttp (owner : Str) (stream : Nat) : Rt InternalStreamBinding :=
  allocate owner stream httpBinding

/-- mirrors src/runtime/stream_binding_allocator.cpp:98-118 -/
def allocateWebsocket (owner : Str) (stream : Nat) : Rt InternalStreamBinding :=
  allocate owner stream websocketBinding

def Manager.release (m : Manager) (binding : InternalStreamBinding) : Manager :=
  { m with allocatedPorts := m.allocatedPorts.erase binding.port }

/-- mirrors src/runtime/stream_binding_allocator.cpp:120-123 -/
def release (binding : InternalStreamBinding) : Rt Unit := Prog.modify (·.release binding)

end Gr4cp.Runtime

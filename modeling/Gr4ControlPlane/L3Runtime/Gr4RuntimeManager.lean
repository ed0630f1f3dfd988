import Gr4ControlPlane.L3Runtime.RuntimeState

/-!
# `Gr4RuntimeManager`

The bodies of `prepare`, `start`, `stop` and `destroy`, and the lookups that
read what they left behind.

Streams are bound in `prepareLocked`: the ports are allocated one by one,
then the graph is loaded inside the `try` whose handler gives them back.
`stopLocked` hands the bindings back once the scheduler has stopped. The
debug output of the source is left out.
-/
namespace Gr4cp.Runtime

open Gr4cp.Core Gr4cp.Domain

/-- mirrors src/runtime/gr4_runtime_manager.cpp:271-273 -/
def runtimeError (session : Session) (phase detail : Str) : Exn :=
  .std (cString
    (str "session " ++ session.id ++ str " " ++ phase ++ str " failed: " ++ detail))

/-! ## Schedulers -/

def preferredSchedulers : List Str :=
  [str "gr::incubator::scheduler::BlockingBackoff", str "gr::scheduler::SimpleMulti",
    str "gr::scheduler::SimpleSingle"]

/-- The choice among the available schedulers.
mirrors src/runtime/gr4_runtime_manager.cpp:285-301 -/
def preferredScheduler (available : List Str) : Str :=
  let available := List.mergeSort available Str.le
  match preferredSchedulers.find? (available.contains ·) with
  | some preferred => preferred
  | none => available.head?.getD (str "gr::scheduler::SimpleMulti")

/-- mirrors src/runtime/gr4_runtime_manager.cpp:281-301 -/
def defaultSchedulerAlias : Rt Str := do
  let available ← request .availableSchedulers
  pure (preferredScheduler available)

/-! ## Preparation -/

/-- The entries of a derived plan; none when no plan is derived. -/
def planStreams (y : Yaml) (session : Session) : List RuntimeStreamBindingPlan :=
  match deriveStreamRuntimePlan y session with
  | some plan => plan.streams
  | none => []

/-- mirrors src/runtime/gr4_runtime_manager.cpp:1000,1007-1011 -/
def makeBinding (plan : RuntimeStreamBindingPlan) (internal : InternalStreamBinding) :
    RuntimeStreamBinding :=
  let plan := { plan with ready := true }
  { plan, internal, browser := toBrowserStreamDescriptor plan }

/-- mirrors src/runtime/gr4_runtime_manager.cpp:998-999 -/
def allocateFor (owner : Str) (stream : Nat) (plan : RuntimeStreamBindingPlan) :
    Rt InternalStreamBinding :=
  if plan.transport = str "websocket" then allocateWebsocket owner stream
  else allocateHttp owner stream

/-- The loop that allocates a binding for each stream, in order.
mirrors src/runtime/gr4_runtime_manager.cpp:994-1013 -/
def allocateBindings (owner : Str) :
    Nat → List RuntimeStreamBindingPlan → Rt (List RuntimeStreamBinding)
  | _, [] => pure []
  | stream, plan :: plans => do
    let internal ← allocateFor owner stream plan
    let bindings ← allocateBindings owner (stream + 1) plans
    pure (makeBinding plan internal :: bindings)

def instantiateScheduler (schedulerAlias : Str) : Rt Bool :=
  request (.instantiateScheduler schedulerAlias)

/-- The body of the `try` block.
mirrors src/runtime/gr4_runtime_manager.cpp:1017-1023 -/
def loadGraph (y : Yaml) (session : Session) (streamBindings : List RuntimeStreamBinding) :
    Rt Unit := do
  let content ← Prog.ret (normalizeGraphContent y session.grcContent streamBindings)
  request (.loadGrc content)
  let defaultAlias ← defaultSchedulerAlias
  let schedulerAlias := session.schedulerAlias.getD defaultAlias
  let found ← instantiateScheduler schedulerAlias
  if found then request .setGraph
  else
    throw (runtimeError session (str "prepare") (str "scheduler not found: " ++ schedulerAlias))

/-- The loop of the handler.
mirrors src/runtime/gr4_runtime_manager.cpp:1025-1027 -/
def releaseAll : List RuntimeStreamBinding → Rt Unit
  | [] => pure ()
  | binding :: bindings => do
    release binding.internal
    releaseAll bindings

/-- The `try` block with its handler, which catches `std::exception` only.
mirrors src/runtime/gr4_runtime_manager.cpp:1016-1029 -/
def tryLoadGraph (y : Yaml) (session : Session) (streamBindings : List RuntimeStreamBinding) :
    Rt Unit :=
  tryCatch (loadGraph y session streamBindings) fun
    | .std what => do
      releaseAll streamBindings
      throw (runtimeError session (str "prepare") what)
    | .other => throw .other

/-- A binding goes back to the allocator; the count is ghost. -/
def Manager.releaseOwn (m : Manager) (id : Str) (binding : RuntimeStreamBinding) : Manager :=
  (m.release binding.internal).updateResources id fun r => { r with released := r.released + 1 }

/-- mirrors src/runtime/gr4_runtime_manager.cpp:1041-1043 -/
def releaseLoop (id : Str) : List RuntimeStreamBinding → Rt Unit
  | [] => pure ()
  | binding :: bindings => do
    Prog.modify (·.releaseOwn id binding)
    releaseLoop id bindings

/-- mirrors src/runtime/gr4_runtime_manager.cpp:1040-1045 -/
def releaseStreamBindingsLocked (id : Str) : Rt Unit := do
  let resources ← readResources id
  releaseLoop id resources.streamBindings
  updateResources id fun r => { r with streamBindings := [], released := 0 }

/-- The assignments that end a successful preparation.
mirrors src/runtime/gr4_runtime_manager.cpp:1031-1036 -/
def commitPrepared (streamBindings : List RuntimeStreamBinding) (r : SessionRuntimeResources) :
    SessionRuntimeResources :=
  { r with
    execution := some {}
    streamBindings
    generation := r.generation + 1
    lifecyclePhase := .idle
    teardownComplete := true
    teardownError := none }

/-- What follows the contract check, for a session without an execution. -/
def bindAndLoad (y : Yaml) (session : Session) : Rt Unit := do
  request .ensureRuntimeEnvironment
  releaseStreamBindingsLocked session.id
  let streamBindings ← allocateBindings session.id 0 (planStreams y session)
  tryLoadGraph y session streamBindings
  discardExecution session.id
  updateResources session.id (commitPrepared streamBindings)

/-- mirrors src/runtime/gr4_runtime_manager.cpp:978-1038 -/
def prepareLocked (y : Yaml) (session : Session) : Rt Unit := do
  let resources ← readResources session.id
  if resources.lifecyclePhase = .stopping then
    throw (runtimeError session (str "prepare") (str "session runtime teardown is still in progress"))
  else if resources.execution.isSome then pure ()
  else
    match validateStreamRuntimeContract y session with
    | some contractError => throw (runtimeError session (str "prepare") contractError)
    | none => bindAndLoad y session

/-- mirrors src/runtime/gr4_runtime_manager.cpp:722-726 -/
def prepare (y : Yaml) (session : Session) : Rt Unit := do
  getOrCreateResources session
  prepareLocked y session

/-! ## Start -/

/-- mirrors src/runtime/gr4_runtime_manager.cpp:740-743 -/
def beginStart (r : SessionRuntimeResources) : SessionRuntimeResources :=
  { r with
    asyncError := none
    teardownError := none
    teardownComplete := false
    lifecyclePhase := .starting }

/-- `execution.running = true`, once `scheduler->start()` has returned. -/
def markRunning (r : SessionRuntimeResources) : SessionRuntimeResources :=
  { r with execution := r.execution.map fun _ => { running := true, started := true } }

/-- What follows the preparation.
mirrors src/runtime/gr4_runtime_manager.cpp:733-746 -/
def startLocked (session : Session) : Rt Unit := do
  let resources ← readResources session.id
  let running := (resources.execution.map (·.running)).getD false
  if resources.lifecyclePhase = .stopping then
    throw (runtimeError session (str "start") (str "session runtime teardown is still in progress"))
  else if running && decide (resources.lifecyclePhase = .running) then pure ()
  else do
    updateResources session.id beginStart
    request .schedulerStart
    updateResources session.id markRunning
    updateResources session.id fun r => { r with lifecyclePhase := .running }

/-- mirrors src/runtime/gr4_runtime_manager.cpp:728-747 -/
def start (y : Yaml) (session : Session) : Rt Unit := do
  getOrCreateResources session
  prepareLocked y session
  startLocked session

/-! ## Stop and destroy -/

/-- Three assignments made at the end of several paths. -/
def settleIdle (r : SessionRuntimeResources) : SessionRuntimeResources :=
  { r with lifecyclePhase := .idle, teardownComplete := true, teardownError := none }

/-- `scheduler->stop()`, with the handler of its `std::exception`.
mirrors src/runtime/gr4_runtime_manager.cpp:1070-1076 -/
def stopScheduler (session : Session) : Rt Unit :=
  tryCatch
    (do
      request .schedulerStop
      updateResources session.id fun r =>
        { r with execution := r.execution.map fun e => { e with started := false } })
    fun
    | .std what => do
      let detail := str "failed to stop scheduler: " ++ what
      updateResources session.id fun r =>
        { r with lifecyclePhase := .failed, teardownError := some detail }
      throw (runtimeError session (str "stop") detail)
    | .other => throw .other

def stopIfRunning (session : Session) (execution : Execution) : Rt Unit :=
  if execution.running then stopScheduler session else pure ()

/-- The end of `stop_locked`, once the scheduler has stopped.
mirrors src/runtime/gr4_runtime_manager.cpp:1079-1092 -/
def finishStop (session : Session) : Rt Unit := do
  updateResources session.id fun r =>
    { r with execution := r.execution.map fun e => { e with running := false } }
  releaseStreamBindingsLocked session.id
  discardExecution session.id
  let resources ← readResources session.id
  match resources.asyncError with
  | some asyncError => do
    updateResources session.id fun r =>
      { r with lifecyclePhase := .failed, teardownComplete := true, teardownError := r.asyncError }
    throw (runtimeError session (str "execution") asyncError)
  | none => updateResources session.id settleIdle

/-- mirrors src/runtime/gr4_runtime_manager.cpp:1047-1093 -/
def stopLocked (session : Session) : Rt Unit := do
  let resources ← readResources session.id
  match resources.execution with
  | none => do
    releaseStreamBindingsLocked session.id
    updateResources session.id settleIdle
  | some execution =>
    if resources.lifecyclePhase = .stopping then
      throw (runtimeError session (str "stop") (str "session runtime stop already in progress"))
    else do
      updateResources session.id fun r =>
        { r with lifecyclePhase := .stopping, teardownComplete := false, teardownError := none }
      stopIfRunning session execution
      finishStop session

/-- mirrors src/runtime/gr4_runtime_manager.cpp:749-757 -/
def stop (session : Session) : Rt Unit := do
  let found ← findResources session.id
  if found then stopLocked session else pure ()

/-- mirrors src/runtime/gr4_runtime_manager.cpp:759-780 -/
def destroy (session : Session) : Rt Unit := do
  let found ← findResources session.id
  if found then do
    stopLocked session
    discardExecution session.id
    releaseStreamBindingsLocked session.id
    updateResources session.id settleIdle
    eraseResources session.id
  else pure ()

/-! ## Lookups -/

/-- The bindings of a session whose execution runs; `none` when there is no
such execution. The test is shared by the three lookups.
mirrors src/runtime/gr4_runtime_manager.cpp:783-792,805-813,858-866 -/
def Manager.runningBindings (m : Manager) (session : Session) :
    Option (List RuntimeStreamBinding) :=
  match m.resources.lookup session.id with
  | none => none
  | some r =>
    match r.execution with
    | none => none
    | some execution =>
      if !execution.running || decide (r.lifecyclePhase ≠ .running) then none
      else some r.streamBindings

/-- mirrors src/runtime/gr4_runtime_manager.cpp:782-800 -/
def Manager.activeStreamPlan (m : Manager) (session : Session) : Option StreamRuntimePlan :=
  match m.runningBindings session with
  | none => none
  | some bindings => if bindings.isEmpty then none else some ⟨bindings.map (·.plan)⟩

/-- The text for a session whose execution does not run. -/
def notRunning : Str := str "session runtime is not running"

def streamNotFound (streamId : Str) : Str :=
  str "stream not found in active runtime resources: " ++ streamId

/-- The part of `fetch_http_stream` under the mutex: the endpoint it copies.
mirrors src/runtime/gr4_runtime_manager.cpp:802-823 -/
def Manager.fetchTarget (m : Manager) (session : Session) (streamId : Str) :
    Except Exn InternalStreamBinding :=
  match m.runningBindings session with
  | none => .error (runtimeError session (str "stream fetch") notRunning)
  | some bindings =>
    match bindings.find? fun binding =>
        binding.plan.streamId == streamId && binding.plan.transport != str "websocket" with
    | none => .error (runtimeError session (str "stream fetch") (streamNotFound streamId))
    | some binding => .ok binding.internal

/-- mirrors src/runtime/gr4_runtime_manager.cpp:857-877 -/
def Manager.resolveWebsocketStream (m : Manager) (session : Session) (streamId : Str) :
    Except Exn InternalStreamBinding :=
  match m.runningBindings session with
  | none => .error (runtimeError session (str "websocket route") notRunning)
  | some bindings =>
    match bindings.find? fun binding =>
        binding.plan.streamId == streamId && binding.plan.transport == str "websocket" with
    | none => .error (runtimeError session (str "websocket route") (streamNotFound streamId))
    | some binding => .ok binding.internal

end Gr4cp.Runtime

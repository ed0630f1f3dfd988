import Gr4ControlPlane.Core.Assoc
import Gr4ControlPlane.Core.Holdings
import Gr4ControlPlane.L3Runtime.PrepareAtomic
import Gr4ControlPlane.L4App.BlockSettings
import Gr4ControlPlane.L4App.SessionStreams
import Gr4ControlPlane.L4App.TwoLevel

/-!
# `StubRuntimeManager` (`runtime/stub_runtime_manager.cpp`)

The runtime without GNU Radio that the services are tested on. It binds the
streams of a session as the real one does, and keeps what is set as settings.

* `stub_owns_ports`: over any calls, whether they throw or not, the ports the
  allocator counts as taken are those of the recorded bindings. The real
  manager loses ports when a preparation is cut off; this one does not.
* `stub_offers_plan`: from a preparation that returned to the next stop,
  destruction or preparation of the session, the plan of the contract is what
  is offered, stream by stream.
* `stub_settings_kept`: a setting has the value it was last given since the
  session was destroyed.

The calls come one after the other. Ports are reserved as the operating
system answers; the log is left out.
-/
namespace Gr4cp.App

open Gr4cp.Core Gr4cp.Domain Gr4cp.Runtime

/-- mirrors include/gr4cp/runtime/stub_runtime_manager.hpp:34-36 -/
structure StubRuntimeManager where
  /-- `allocated_ports_` of the allocator -/
  allocatedPorts : Finset Nat
  streamBindings : AList fun _ : Str => List RuntimeStreamBinding
  settings : AList fun _ : Str => AList fun _ : Str => PropertyMap

/-- What the operating system answers to the attempts left for a stream. -/
abbrev Reserve := Nat → Nat → Except Exn Nat

namespace StubRuntimeManager

def empty : StubRuntimeManager := ⟨∅, ∅, ∅⟩

/-- mirrors src/runtime/stream_binding_allocator.cpp:79-83,101-105 -/
def allocatePort (reserve : Nat → Except Exn Nat) (exhausted : Str) (ports : Finset Nat) :
    Nat → Except Exn Nat
  | 0 => .error (.std exhausted)
  | attemptsLeft + 1 =>
    match reserve attemptsLeft with
    | .error e => .error e
    | .ok port =>
      if port ∈ ports then allocatePort reserve exhausted ports attemptsLeft else .ok port

/-- mirrors src/runtime/stub_runtime_manager.cpp:119-128 -/
def releaseStreams (m : StubRuntimeManager) (id : Str) : StubRuntimeManager :=
  match m.streamBindings.lookup id with
  | none => m
  | some bindings =>
    { m with
      allocatedPorts := (bindings.map (·.internal.port)).foldl Finset.erase m.allocatedPorts
      streamBindings := m.streamBindings.erase id }

/-- The bindings of a session. -/
def bindings (m : StubRuntimeManager) (id : Str) : List RuntimeStreamBinding :=
  (m.streamBindings.lookup id).getD []

/-- One more binding, on a fresh port. -/
def bind (m : StubRuntimeManager) (id : Str) (plan : RuntimeStreamBindingPlan) (port : Nat) :
    StubRuntimeManager :=
  { m with
    allocatedPorts := insert port m.allocatedPorts
    streamBindings :=
      m.streamBindings.insert id (m.bindings id ++ [makeBinding plan ((kindOf plan).on port)]) }

/-- mirrors src/runtime/stub_runtime_manager.cpp:23-32 -/
def bindStreams (reserve : Reserve) (id : Str) :
    Nat → List RuntimeStreamBindingPlan → StubRuntimeManager → Except Exn Unit × StubRuntimeManager
  | _, [], m => (.ok (), m)
  | stream, plan :: plans, m =>
    match allocatePort (reserve stream) (kindOf plan).exhausted m.allocatedPorts 64 with
    | .error e => (.error e, m)
    | .ok port => bindStreams reserve id (stream + 1) plans (m.bind id plan port)

/-- mirrors src/runtime/stub_runtime_manager.cpp:15-34 -/
def prepare (y : Yaml) (session : Session) (reserve : Reserve) (m : StubRuntimeManager) :
    Except Exn Unit × StubRuntimeManager :=
  let m := m.releaseStreams session.id
  match validateStreamRuntimeContract y session with
  | some contractError => (.error (.std (cString contractError)), m)
  | none =>
    match deriveStreamRuntimePlan y session with
    | none => (.ok (), m)
    | some plan =>
      bindStreams reserve session.id 0 plan.streams
        { m with streamBindings := m.streamBindings.insert session.id [] }

/-- mirrors src/runtime/stub_runtime_manager.cpp:45-49 -/
def destroy (m : StubRuntimeManager) (id : Str) : StubRuntimeManager :=
  let m := m.releaseStreams id
  { m with settings := m.settings.erase id }

/-- mirrors src/runtime/stub_runtime_manager.cpp:51-62 -/
def activeStreamPlan (m : StubRuntimeManager) (session : Session) : Option StreamRuntimePlan :=
  match m.streamBindings.lookup session.id with
  | none => none
  | some bindings => if bindings.isEmpty then none else some ⟨bindings.map (·.plan)⟩

def notAvailable : Exn := .std (str "session stream resources are not available")

def notFound (streamId : Str) : Exn :=
  .std (cString (str "stream not found in active session resources: " ++ streamId))

/-- mirrors src/runtime/stub_runtime_manager.cpp:64-79 -/
def fetchHttpStream (m : StubRuntimeManager) (session : Session) (streamId : Str) :
    Except Exn HttpStreamResponse :=
  match m.streamBindings.lookup session.id with
  | none => .error notAvailable
  | some bindings =>
    match bindings.find? fun binding =>
        binding.plan.streamId == streamId && binding.plan.transport != str "websocket" with
    | none => .error (notFound streamId)
    | some _ =>
      .ok
        { status := 200
          body := str "\x7b\"stub\":true\x7d"
          contentType := str "application/json" }

/-- mirrors src/runtime/stub_runtime_manager.cpp:81-92 -/
def resolveWebsocketStream (m : StubRuntimeManager) (session : Session) (streamId : Str) :
    Except Exn InternalStreamBinding :=
  match m.streamBindings.lookup session.id with
  | none => .error notAvailable
  | some bindings =>
    match bindings.find? fun binding =>
        binding.plan.streamId == streamId && binding.plan.transport == str "websocket" with
    | none => .error (notFound streamId)
    | some binding => .ok binding.internal

/-- mirrors src/runtime/stub_runtime_manager.cpp:94-103 -/
def setBlockSettings (m : StubRuntimeManager) (id blockUniqueName : Str) (patch : PropertyMap) :
    StubRuntimeManager :=
  let session := (m.settings.lookup id).getD ∅
  let block := (session.lookup blockUniqueName).getD []
  { m with
    settings := m.settings.insert id
      (session.insert blockUniqueName
        (patch.foldl (fun block entry => Assoc.insertOrAssign entry.1 entry.2 block) block)) }

/-- mirrors src/runtime/stub_runtime_manager.cpp:105-117 -/
def getBlockSettings (m : StubRuntimeManager) (id blockUniqueName : Str) : PropertyMap :=
  match m.settings.lookup id with
  | none => []
  | some session => (session.lookup blockUniqueName).getD []

end StubRuntimeManager

/-- A call, with what the operating system answers in it. -/
inductive StubCall where
  | prepare (session : Session) (reserve : Reserve)
  | start (session : Session)
  | stop (session : Session)
  | destroy (session : Session)
  | setBlockSettings (session : Session) (blockUniqueName : Str) (patch : PropertyMap)
      (mode : BlockSettingsMode)

namespace StubCall

/-- mirrors src/runtime/stub_runtime_manager.cpp:36-43 -/
def run (y : Yaml) (m : StubRuntimeManager) : StubCall → Except Exn Unit × StubRuntimeManager
  | .prepare session reserve => m.prepare y session reserve
  | .start _ => (.ok (), m)
  | .stop session => (.ok (), m.releaseStreams session.id)
  | .destroy session => (.ok (), m.destroy session.id)
  | .setBlockSettings session block patch _ => (.ok (), m.setBlockSettings session.id block patch)

end StubCall

/-- What is left after some calls. -/
def afterStub (y : Yaml) (calls : List StubCall) : StubRuntimeManager :=
  calls.foldl (fun m call => (call.run y m).2) .empty

theorem afterStub_append (y : Yaml) (calls calls' : List StubCall) :
    afterStub y (calls ++ calls') =
      calls'.foldl (fun m call => (call.run y m).2) (afterStub y calls) :=
  List.foldl_append

/-! ## Ports -/

namespace StubRuntimeManager

variable {y : Yaml} {m : StubRuntimeManager} {id : Str} {session : Session} {reserve : Reserve}

/-- The ports bound for a session. -/
def ports (m : StubRuntimeManager) (id : Str) : List Nat :=
  (m.bindings id).map (·.internal.port)

/-- What is taken is what is bound. -/
def Owns (m : StubRuntimeManager) : Prop := Holdings.Inv m.ports m.allocatedPorts

theorem allocatePort_fresh {offers : Nat → Except Exn Nat} {exhausted : Str} {taken : Finset Nat}
    {attemptsLeft port : Nat} (h : allocatePort offers exhausted taken attemptsLeft = .ok port) :
    port ∉ taken := by
  induction attemptsLeft with
  | zero => cases h
  | succ attemptsLeft ih =>
    unfold allocatePort at h
    split at h
    · cases h
    · split at h
      · exact ih h
      · rename_i hfree
        cases h
        exact hfree

theorem releaseStreams_bindings (m : StubRuntimeManager) (id : Str) :
    (m.releaseStreams id).bindings = Function.update m.bindings id [] := by
  funext id'
  unfold releaseStreams bindings
  by_cases hid : id' = id
  · subst hid
    rw [Function.update_self]
    cases hlookup : m.streamBindings.lookup id' with
    | none => simp [hlookup]
    | some bs => simp
  · rw [Function.update_of_ne hid]
    cases m.streamBindings.lookup id with
    | none => rfl
    | some bs => simp [AList.lookup_erase_ne hid]

theorem releaseStreams_ports (m : StubRuntimeManager) (id : Str) :
    (m.releaseStreams id).allocatedPorts = (m.ports id).foldl Finset.erase m.allocatedPorts := by
  unfold releaseStreams ports bindings
  cases m.streamBindings.lookup id with
  | none => rfl
  | some bs => rfl

theorem releaseStreams_settings (m : StubRuntimeManager) (id : Str) :
    (m.releaseStreams id).settings = m.settings := by
  unfold releaseStreams
  cases m.streamBindings.lookup id <;> rfl

theorem bind_bindings (m : StubRuntimeManager) (id : Str) (plan : RuntimeStreamBindingPlan)
    (port : Nat) :
    (m.bind id plan port).bindings =
      Function.update m.bindings id
        (m.bindings id ++ [makeBinding plan ((kindOf plan).on port)]) := by
  funext id'
  unfold bind
  by_cases hid : id' = id
  · subst hid
    simp [bindings]
  · rw [Function.update_of_ne hid]
    simp [bindings, AList.lookup_insert_ne hid]

theorem ports_update {m m' : StubRuntimeManager} {id : Str} {bs : List RuntimeStreamBinding}
    (h : m'.bindings = Function.update m.bindings id bs) :
    m'.ports = Function.update m.ports id (bs.map (·.internal.port)) := by
  funext id'
  unfold ports
  rw [h]
  by_cases hid : id' = id
  · subst hid
    simp
  · simp [hid]

theorem Owns.releaseStreams (h : m.Owns) (id : Str) : (m.releaseStreams id).Owns := by
  unfold Owns
  rw [ports_update (releaseStreams_bindings m id), releaseStreams_ports]
  exact Holdings.Inv.release h id

theorem Owns.bind (h : m.Owns) (id : Str) (plan : RuntimeStreamBindingPlan) {port : Nat}
    (hport : port ∉ m.allocatedPorts) : (m.bind id plan port).Owns := by
  unfold Owns
  rw [ports_update (bind_bindings m id plan port), List.map_append]
  exact Holdings.Inv.acquire h id hport

/-- What binding streams comes to: some of them in order, all of them when it
returns. -/
structure Bound (id : Str) (plans : List RuntimeStreamBindingPlan) (m : StubRuntimeManager)
    (result : Except Exn Unit) (m' : StubRuntimeManager) : Prop where
  owns : m'.Owns
  settings : m'.settings = m.settings
  others : ∀ id', id' ≠ id → m'.bindings id' = m.bindings id'
  bound : ∃ new, m'.bindings id = m.bindings id ++ new ∧
    new.map (·.plan) <+: (plans.map fun plan => { plan with ready := true }) ∧
    (result = .ok () ↔ new.length = plans.length)

theorem bindStreams_bound (reserve : Reserve) (id : Str) (stream : Nat)
    (plans : List RuntimeStreamBindingPlan) (h : m.Owns) :
    Bound id plans m (bindStreams reserve id stream plans m).1
      (bindStreams reserve id stream plans m).2 := by
  induction plans generalizing stream m with
  | nil =>
    exact
      { owns := h
        settings := rfl
        others := fun _ _ => rfl
        bound := ⟨[], by simp [bindStreams], by simp, by simp [bindStreams]⟩ }
  | cons plan plans ih =>
    unfold bindStreams
    cases hport : allocatePort (reserve stream) (kindOf plan).exhausted m.allocatedPorts 64 with
    | error e =>
      exact
        { owns := h
          settings := rfl
          others := fun _ _ => rfl
          bound := ⟨[], by simp, by simp, by simp⟩ }
    | ok port =>
      have hrest := ih (stream + 1) (h.bind id plan (allocatePort_fresh hport))
      obtain ⟨new, hnew, hplans, hok⟩ := hrest.bound
      have hbindings := bind_bindings m id plan port
      refine
        { owns := hrest.owns
          settings := hrest.settings
          others := fun id' hid => ?_
          bound := ⟨makeBinding plan ((kindOf plan).on port) :: new, ?_, ?_, ?_⟩ }
      · rw [hrest.others id' hid, hbindings, Function.update_of_ne hid]
      · rw [hnew, hbindings, Function.update_self, List.append_assoc]
        rfl
      · exact List.cons_prefix_cons.2 ⟨rfl, hplans⟩
      · simpa using hok

/-- What a preparation comes to: the streams of the contract in order, all of
them when it returns. -/
theorem prepare_bound (y : Yaml) (session : Session) (reserve : Reserve) (h : m.Owns) :
    ((m.prepare y session reserve).2.Owns ∧
      (m.prepare y session reserve).2.settings = m.settings ∧
      ∀ id, id ≠ session.id → (m.prepare y session reserve).2.bindings id = m.bindings id) ∧
    (((m.prepare y session reserve).2.bindings session.id).map (·.plan) <+: planStreams y session ∧
      ((m.prepare y session reserve).1 = .ok () →
        ((m.prepare y session reserve).2.bindings session.id).map (·.plan) =
          planStreams y session)) := by
  have hreleased := h.releaseStreams session.id
  have hbindings := releaseStreams_bindings m session.id
  have hsettings := releaseStreams_settings m session.id
  have hothers : ∀ id, id ≠ session.id →
      (m.releaseStreams session.id).bindings id = m.bindings id := fun id hid => by
    rw [hbindings, Function.update_of_ne hid]
  have hnone : (m.releaseStreams session.id).bindings session.id = [] := by
    rw [hbindings, Function.update_self]
  unfold prepare
  cases hcontract : validateStreamRuntimeContract y session with
  | some contractError =>
    refine ⟨⟨hreleased, hsettings, hothers⟩, ?_, nofun⟩
    simp [hnone]
  | none =>
    cases hplan : deriveStreamRuntimePlan y session with
    | none =>
      have hstreams : planStreams y session = [] := by
        unfold planStreams
        rw [hplan]
      refine ⟨⟨hreleased, hsettings, hothers⟩, ?_, fun _ => ?_⟩ <;> simp [hnone, hstreams]
    | some plan =>
      have hstreams : planStreams y session = plan.streams := by
        unfold planStreams
        rw [hplan]
      have hready : (plan.streams.map fun plan => { plan with ready := true }) = plan.streams := by
        rw [← hstreams]
        exact planStreams_ready y session
      -- an empty entry is put in first; no binding changes
      have hempty : ∀ id, bindings { m.releaseStreams session.id with
          streamBindings := (m.releaseStreams session.id).streamBindings.insert session.id [] } id =
          (m.releaseStreams session.id).bindings id := fun id => by
        by_cases hid : id = session.id
        · subst hid
          rw [hnone]
          simp [bindings]
        · simp [bindings, AList.lookup_insert_ne hid]
      have hentered : Owns { m.releaseStreams session.id with
          streamBindings := (m.releaseStreams session.id).streamBindings.insert session.id [] } := by
        unfold Owns
        have hports : ports { m.releaseStreams session.id with
            streamBindings := (m.releaseStreams session.id).streamBindings.insert session.id [] } =
            (m.releaseStreams session.id).ports := by
          funext id
          unfold ports
          rw [hempty]
        rw [hports]
        exact hreleased
      have hbound := bindStreams_bound reserve session.id 0 plan.streams hentered
      obtain ⟨new, hnew, hplans, hok⟩ := hbound.bound
      rw [hempty, hnone, List.nil_append] at hnew
      rw [hready] at hplans
      refine ⟨⟨hbound.owns, hbound.settings.trans hsettings, fun id hid => ?_⟩, ?_, fun hresult => ?_⟩
      · exact (hbound.others id hid).trans ((hempty id).trans (hothers id hid))
      · rw [hstreams]
        exact hnew ▸ hplans
      · rw [hstreams]
        refine hnew ▸ hplans.eq_of_length ?_
        rw [List.length_map]
        exact hok.1 hresult

end StubRuntimeManager

/-- The calls that bind or unbind the streams of a session. -/
def StubCall.rebinds (id : Str) : StubCall → Bool
  | .prepare session _ | .stop session | .destroy session => session.id == id
  | .start _ | .setBlockSettings _ _ _ _ => false

section Runs

variable {y : Yaml} {m : StubRuntimeManager} {calls : List StubCall}

theorem StubCall.run_owns (h : m.Owns) (call : StubCall) : (call.run y m).2.Owns := by
  cases call with
  | prepare session reserve => exact (m.prepare_bound y session reserve h).1.1
  | start session => exact h
  | stop session => exact h.releaseStreams session.id
  | destroy session => exact h.releaseStreams session.id
  | setBlockSettings session block patch mode => exact h

theorem afterStub_owns (y : Yaml) (calls : List StubCall) : (afterStub y calls).Owns := by
  induction calls using List.reverseRecOn with
  | nil => exact Holdings.inv_empty
  | append_singleton calls call ih =>
    rw [afterStub_append]
    exact StubCall.run_owns ih call

/-- A call of another session leaves the bindings. -/
theorem StubCall.run_bindings (h : m.Owns) {call : StubCall} {id : Str}
    (hcall : call.rebinds id = false) : (call.run y m).2.bindings id = m.bindings id := by
  have hreleased : ∀ id', id ≠ id' → (m.releaseStreams id').bindings id = m.bindings id :=
    fun id' hid => by rw [StubRuntimeManager.releaseStreams_bindings, Function.update_of_ne hid]
  cases call with
  | prepare session reserve =>
    have hid : id ≠ session.id := fun hid => by simp [StubCall.rebinds, hid] at hcall
    exact (m.prepare_bound y session reserve h).1.2.2 id hid
  | start session => rfl
  | stop session =>
    have hid : id ≠ session.id := fun hid => by simp [StubCall.rebinds, hid] at hcall
    exact hreleased session.id hid
  | destroy session =>
    have hid : id ≠ session.id := fun hid => by simp [StubCall.rebinds, hid] at hcall
    exact hreleased session.id hid
  | setBlockSettings session block patch mode => rfl

theorem afterStub_bindings {after : List StubCall} {id : Str}
    (hafter : ∀ call ∈ after, call.rebinds id = false) (y : Yaml) (before : List StubCall) :
    (afterStub y (before ++ after)).bindings id = (afterStub y before).bindings id := by
  induction after using List.reverseRecOn with
  | nil => rw [List.append_nil]
  | append_singleton after call ih =>
    rw [← List.append_assoc, afterStub_append]
    show (call.run y (afterStub y (before ++ after))).2.bindings id = _
    rw [StubCall.run_bindings (afterStub_owns y _) (hafter call (by simp))]
    exact ih fun call hcall => hafter call (List.mem_append_left _ hcall)

/-- **No port is lost.** After any calls, whether they threw or not: a port is
taken exactly when some session has it bound, by one session and once. A
preparation binds the first streams of the contract, however far it comes, and
touches no other session; releasing a session's streams gives back its ports
and no others. With no session bound no port is taken. -/
theorem stub_owns_ports (y : Yaml) (calls : List StubCall) :
    let m := afterStub y calls
    Holdings.Inv m.ports m.allocatedPorts ∧
    (∀ session reserve, let m' := (m.prepare y session reserve).2
      (m'.bindings session.id).map (·.plan) <+: planStreams y session ∧
        ∀ id, id ≠ session.id → m'.bindings id = m.bindings id) ∧
    (∀ id port, port ∈ (m.releaseStreams id).allocatedPorts ↔
      port ∈ m.allocatedPorts ∧ port ∉ m.ports id) ∧
    ((∀ id, m.bindings id = []) → m.allocatedPorts = ∅) := by
  intro m
  have hm : m.Owns := afterStub_owns y calls
  refine ⟨hm, fun session reserve => ?_, fun id port => ?_, fun hnone => ?_⟩
  · obtain ⟨⟨-, -, hothers⟩, hfirst, -⟩ := m.prepare_bound y session reserve hm
    exact ⟨hfirst, hothers⟩
  · rw [StubRuntimeManager.releaseStreams_ports]
    exact Holdings.mem_foldl_erase
  · refine Holdings.Inv.taken_eq_empty hm fun id => ?_
    unfold StubRuntimeManager.ports
    rw [hnone id]
    rfl

/-! ## What is offered -/

theorem StubRuntimeManager.activeStreamPlan_eq (m : StubRuntimeManager) (session : Session) :
    m.activeStreamPlan session =
      if (m.bindings session.id).isEmpty then none
      else some ⟨(m.bindings session.id).map (·.plan)⟩ := by
  unfold StubRuntimeManager.activeStreamPlan StubRuntimeManager.bindings
  cases m.streamBindings.lookup session.id with
  | none => rfl
  | some bs => rfl

/-- What a lookup finds among the bindings of a session. -/
theorem StubRuntimeManager.find_plan_iff (bs : List RuntimeStreamBinding)
    (p : RuntimeStreamBindingPlan → Bool) :
    (bs.find? fun binding => p binding.plan).isSome = true ↔
      ∃ plan ∈ bs.map (·.plan), p plan = true := by
  rw [List.find?_isSome]
  simp

theorem StubRuntimeManager.fetchHttpStream_ok_iff {session : Session} {streamId : Str} :
    (∃ response, m.fetchHttpStream session streamId = .ok response) ↔
      ∃ plan ∈ (m.bindings session.id).map (·.plan),
        plan.streamId = streamId ∧ plan.transport ≠ str "websocket" := by
  have hfind := StubRuntimeManager.find_plan_iff (m.bindings session.id)
    (fun plan => plan.streamId == streamId && plan.transport != str "websocket")
  simp only [Bool.and_eq_true, beq_iff_eq, bne_iff_ne] at hfind
  rw [← hfind]
  unfold StubRuntimeManager.fetchHttpStream StubRuntimeManager.bindings
  cases m.streamBindings.lookup session.id with
  | none => simp
  | some bs =>
    simp only [Option.getD_some]
    cases bs.find? fun binding =>
      binding.plan.streamId == streamId && binding.plan.transport != str "websocket" <;> simp

theorem StubRuntimeManager.resolveWebsocketStream_ok_iff {session : Session} {streamId : Str} :
    (∃ internal, m.resolveWebsocketStream session streamId = .ok internal) ↔
      ∃ plan ∈ (m.bindings session.id).map (·.plan),
        plan.streamId = streamId ∧ plan.transport = str "websocket" := by
  have hfind := StubRuntimeManager.find_plan_iff (m.bindings session.id)
    (fun plan => plan.streamId == streamId && plan.transport == str "websocket")
  simp only [Bool.and_eq_true, beq_iff_eq] at hfind
  rw [← hfind]
  unfold StubRuntimeManager.resolveWebsocketStream StubRuntimeManager.bindings
  cases m.streamBindings.lookup session.id with
  | none => simp
  | some bs =>
    simp only [Option.getD_some]
    cases bs.find? fun binding =>
      binding.plan.streamId == streamId && binding.plan.transport == str "websocket" <;> simp

/-- The port of a route is one the session has bound. -/
theorem StubRuntimeManager.resolveWebsocketStream_port {session : Session} {streamId : Str}
    {internal : InternalStreamBinding}
    (h : m.resolveWebsocketStream session streamId = .ok internal) :
    internal.port ∈ m.ports session.id := by
  unfold StubRuntimeManager.resolveWebsocketStream at h
  unfold StubRuntimeManager.ports StubRuntimeManager.bindings
  cases hlookup : m.streamBindings.lookup session.id with
  | none => simp [hlookup] at h
  | some bs =>
    simp only [hlookup] at h
    split at h
    · cases h
    · rename_i binding hfind
      cases h
      exact List.mem_map_of_mem (List.mem_of_find?_eq_some hfind)

/-- **The contract's plan is what is offered.** From a preparation that
returned, as long as the session is not prepared, stopped or destroyed, the
active plan is the one the contract derives. Its HTTP streams are fetched and
its WebSocket streams resolved, each on a port that no other session has
bound, and no other stream is. -/
theorem stub_offers_plan (y : Yaml) (before after : List StubCall) (session : Session)
    (reserve : Reserve) (hok : ((afterStub y before).prepare y session reserve).1 = .ok ())
    (hafter : ∀ call ∈ after, call.rebinds session.id = false) :
    let m := afterStub y (before ++ .prepare session reserve :: after)
    m.activeStreamPlan session = deriveStreamRuntimePlan y session ∧
    (∀ streamId, (∃ response, m.fetchHttpStream session streamId = .ok response) ↔
      ∃ plan ∈ planStreams y session,
        plan.streamId = streamId ∧ plan.transport ≠ str "websocket") ∧
    (∀ streamId, (∃ internal, m.resolveWebsocketStream session streamId = .ok internal) ↔
      ∃ plan ∈ planStreams y session,
        plan.streamId = streamId ∧ plan.transport = str "websocket") ∧
    ∀ streamId internal, m.resolveWebsocketStream session streamId = .ok internal →
      internal.port ∈ m.allocatedPorts ∧ ∀ id, id ≠ session.id → internal.port ∉ m.ports id := by
  intro m
  have hm : m.Owns := afterStub_owns y _
  have hplans : (m.bindings session.id).map (·.plan) = planStreams y session := by
    have hsplit : before ++ .prepare session reserve :: after =
        (before ++ [.prepare session reserve]) ++ after := by simp
    show ((afterStub y (before ++ .prepare session reserve :: after)).bindings session.id).map _ = _
    rw [hsplit, afterStub_bindings hafter, afterStub_append]
    exact ((afterStub y before).prepare_bound y session reserve (afterStub_owns y before)).2.2 hok
  refine ⟨?_, fun streamId => ?_, fun streamId => ?_, fun streamId internal h => ?_⟩
  · rw [StubRuntimeManager.activeStreamPlan_eq, derive_eq_planStreams, ← hplans, List.isEmpty_map]
  · rw [StubRuntimeManager.fetchHttpStream_ok_iff, hplans]
  · rw [StubRuntimeManager.resolveWebsocketStream_ok_iff, hplans]
  · have hport := StubRuntimeManager.resolveWebsocketStream_port h
    exact ⟨(hm.mem_iff _).2 ⟨session.id, hport⟩,
      fun id hid hother => hid (hm.apart id session.id _ hother hport)⟩

/-! ## Settings -/

/-- What a block has been given, after one more call. -/
def StubCall.give (id block : Str) (entries : PropertyMap) : StubCall → PropertyMap
  | .destroy session => if session.id = id then [] else entries
  | .setBlockSettings session block' patch _ =>
    if session.id = id ∧ block' = block then entries ++ patch else entries
  | .prepare _ _ | .start _ | .stop _ => entries

/-- What a block was given since the session was last destroyed, in order. -/
def StubCall.given (id block : Str) (calls : List StubCall) : PropertyMap :=
  calls.foldl (StubCall.give id block) []

theorem StubRuntimeManager.getBlockSettings_eq (m : StubRuntimeManager) (id block : Str) :
    m.getBlockSettings id block = (((m.settings.lookup id).getD ∅).lookup block).getD [] := by
  unfold StubRuntimeManager.getBlockSettings
  cases m.settings.lookup id with
  | none => rfl
  | some session => rfl

theorem StubRuntimeManager.getBlockSettings_congr {m m' : StubRuntimeManager}
    (h : m'.settings = m.settings) (id block : Str) :
    m'.getBlockSettings id block = m.getBlockSettings id block := by
  rw [getBlockSettings_eq, getBlockSettings_eq, h]

theorem StubRuntimeManager.getBlockSettings_destroy (m : StubRuntimeManager) (id id' block : Str) :
    (m.destroy id').getBlockSettings id block =
      if id' = id then [] else m.getBlockSettings id block := by
  rw [getBlockSettings_eq, getBlockSettings_eq]
  unfold StubRuntimeManager.destroy
  dsimp only
  rw [StubRuntimeManager.releaseStreams_settings]
  by_cases hid : id' = id
  · subst hid
    simp
  · rw [if_neg hid, AList.lookup_erase_ne fun h => hid h.symm]

theorem StubRuntimeManager.getBlockSettings_set (m : StubRuntimeManager) (id block id' block' : Str)
    (patch : PropertyMap) :
    (m.setBlockSettings id' block' patch).getBlockSettings id block =
      if id' = id ∧ block' = block then
        patch.foldl (fun m entry => Assoc.insertOrAssign entry.1 entry.2 m)
          (m.getBlockSettings id block)
      else m.getBlockSettings id block := by
  rw [getBlockSettings_eq, getBlockSettings_eq]
  unfold StubRuntimeManager.setBlockSettings
  by_cases hid : id' = id
  · subst hid
    by_cases hblock : block' = block
    · subst hblock
      simp
    · simp [hblock, AList.lookup_insert_ne fun h : block = block' => hblock h.symm]
  · simp [hid, AList.lookup_insert_ne fun h : id = id' => hid h.symm]

/-- **A setting is what it was last given.** After any calls, throwing or not,
of this session and of others: a key of a block has the value of the last
patch since the session was destroyed that gives the key one, and none when no
patch does. -/
theorem stub_settings_kept (y : Yaml) (calls : List StubCall) (id block key : Str) :
    ((afterStub y calls).getBlockSettings id block).lookup key =
      (StubCall.given id block calls).reverse.lookup key := by
  have hrun : (afterStub y calls).getBlockSettings id block =
      (StubCall.given id block calls).foldl
        (fun m entry => Assoc.insertOrAssign entry.1 entry.2 m) [] := by
    induction calls using List.reverseRecOn with
    | nil => rfl
    | append_singleton calls call ih =>
      have hm := afterStub_owns y calls
      have hgiven : StubCall.given id block (calls ++ [call]) =
          StubCall.give id block (StubCall.given id block calls) call := List.foldl_append
      rw [hgiven, afterStub_append]
      show ((call.run y (afterStub y calls)).2).getBlockSettings id block = _
      cases call with
      | prepare session reserve =>
        exact (StubRuntimeManager.getBlockSettings_congr
          ((afterStub y calls).prepare_bound y session reserve hm).1.2.1 id block).trans ih
      | start session => exact ih
      | stop session =>
        exact (StubRuntimeManager.getBlockSettings_congr
          ((afterStub y calls).releaseStreams_settings session.id) id block).trans ih
      | destroy session =>
        show ((afterStub y calls).destroy session.id).getBlockSettings id block = _
        rw [StubRuntimeManager.getBlockSettings_destroy, ih]
        simp only [StubCall.give]
        split <;> rfl
      | setBlockSettings session block' patch mode =>
        show ((afterStub y calls).setBlockSettings session.id block' patch).getBlockSettings id
          block = _
        rw [StubRuntimeManager.getBlockSettings_set, ih]
        simp only [StubCall.give]
        split
        · rw [List.foldl_append]
        · rfl
  rw [hrun, Assoc.lookup_foldl_insertOrAssign]
  simp

end Runs

/-- The operating system grants the ports 40000, 40001, ... -/
def ascendingPorts : Reserve := fun stream _ => .ok (40000 + stream)

/-- A session of two streams, another one being prepared and settings being
set in between. -/
theorem two_streams_offered :
    (afterStub (readingSinks twoSinks)
        ([.stop (sinkSession (str "a") twoSinks)] ++
          .prepare (sinkSession (str "a") twoSinks) ascendingPorts ::
            [.setBlockSettings (sinkSession (str "a") twoSinks) (str "gain") [] .staged,
              .stop (sinkSession (str "b") twoSinks)])).activeStreamPlan
        (sinkSession (str "a") twoSinks) =
      deriveStreamRuntimePlan (readingSinks twoSinks) (sinkSession (str "a") twoSinks) :=
  (stub_offers_plan (readingSinks twoSinks) _ _ (sinkSession (str "a") twoSinks) ascendingPorts
    (by decide +kernel) (by decide)).1

end Gr4cp.App

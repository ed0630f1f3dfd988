import Gr4ControlPlane.Core.Threads
import Gr4ControlPlane.L3Runtime.RuntimeSpec

/-!
# Ports of live stream bindings

The manager under any interleaving of `prepare`, `start`, `stop` and
`destroy` of any sessions: one call at a time per session (its callers never
have two outstanding, and the mutex of its resources orders them), calls of
different sessions interleaved step by step, every answer of GNU Radio and
of the operating system free.

A binding is live from the moment it is stored until its release: the
vector of a session keeps its bindings while a release loop walks over it,
and the ones already handed back are counted by the ghost `released`.

* `live_ports_disjoint`: two live bindings never share a port, each live
  port is in `allocated_ports_`, and no step of one session takes away a
  port another session's binding holds.
-/
namespace Gr4cp.Runtime

open Gr4cp.Core Gr4cp.Domain

/-- A call of the manager. -/
inductive Call where
  | prepare (session : Session)
  | start (session : Session)
  | stop (session : Session)
  | destroy (session : Session)

namespace Call

def owner : Call → Str
  | .prepare session | .start session | .stop session | .destroy session => session.id

def body (y : Yaml) : Call → Rt Unit
  | .prepare session => Runtime.prepare y session
  | .start session => Runtime.start y session
  | .stop session => Runtime.stop session
  | .destroy session => Runtime.destroy session

end Call

abbrev Managers := Pool Str Manager GrCall Answer Exn Unit

/-- The runs of the manager, from construction on. -/
def managerRuns (y : Yaml) : LTS Managers (Pool.Lbl Str Call GrCall Answer) :=
  Pool.calls Call.owner (Call.body y) Manager.empty

/-- `b` is the binding at position `k` of session `id`, not yet released. -/
def Live (m : Manager) (id : Str) (k : Nat) (b : RuntimeStreamBinding) : Prop :=
  ∃ r, m.resources.lookup id = some r ∧ r.released ≤ k ∧ r.streamBindings[k]? = some b

/-- Between its calls a session is settled, whatever plans it was prepared
with. -/
abbrev Calm : View → Prop := Settled fun _ => True

theorem call_spec (y : Yaml) (c : Call) {v : View} (hv : Calm v) :
    Does c.owner v (c.body y) fun _ v' => Calm v' := by
  cases c with
  | prepare session => exact prepare_spec hv trivial fun _ _ h => h
  | start session => exact start_spec hv trivial (fun _ h _ => h) fun _ _ h => h
  | stop session => exact stop_spec hv (fun _ h _ => h) fun _ _ h => h
  | destroy session => exact destroy_spec hv (fun _ => settled_none _ _) fun _ _ h => h

theorem managerRuns_inductive (y : Yaml) :
    (managerRuns y).Inductive (Pool.Inv viewOf Keep (fun _ => Calm) (fun _ => Always)) := by
  have hempty : ∀ id, viewOf id Manager.empty = ⟨none, fun _ => false⟩ := fun id => by
    simp [viewOf, Manager.empty]
  refine Pool.pool_inductive (fun id => ?_) (fun id => ?_) Keep.refl (fun _ _ _ h => h.always)
    fun c s hv => call_spec y c hv s rfl
  · rw [hempty]
    exact settled_none _ _
  · rw [hempty]
    exact always_none _

section Live

variable {m m' : Manager} {id id' : Str} {k k' : Nat} {b b' : RuntimeStreamBinding}

theorem Live.of_view (h : Live m id k b) (hv : viewOf id m' = viewOf id m) : Live m' id k b := by
  obtain ⟨r, hr, hk, hb⟩ := h
  exact ⟨r, (congrArg View.res hv).trans hr, hk, hb⟩

theorem Live.livePorts (h : Live m id k b) :
    ∃ r, m.resources.lookup id = some r ∧ r.released ≤ k ∧
      r.livePorts[k - r.released]? = some b.internal.port := by
  obtain ⟨r, hr, hk, hb⟩ := h
  refine ⟨r, hr, hk, ?_⟩
  simp [SessionRuntimeResources.livePorts, Nat.add_sub_cancel' hk, hb]

theorem Live.owned (h : Live m id k b) (ha : Always (viewOf id m)) :
    m.allocatedPorts.lookup b.internal.port = some id := by
  obtain ⟨r, hr, -, hp⟩ := h.livePorts
  have hmem := (ha r hr).owned _ (List.mem_of_getElem? hp)
  simpa [viewOf] using hmem

theorem Live.allocated (h : Live m id k b) (ha : Always (viewOf id m)) :
    b.internal.port ∈ m.allocatedPorts := by
  rw [← AList.lookup_isSome, h.owned ha]
  rfl

theorem Live.port_ne (h : Live m id k b) (h' : Live m id' k' b') (ha : ∀ i, Always (viewOf i m))
    (hne : (id, k) ≠ (id', k')) : b.internal.port ≠ b'.internal.port := by
  intro heq
  have hown := h.owned (ha id)
  have hown' := h'.owned (ha id')
  rw [heq] at hown
  obtain rfl : id = id' := Option.some.inj (hown.symm.trans hown')
  obtain ⟨r, hr, hk, hp⟩ := h.livePorts
  obtain ⟨r', hr', hk', hp'⟩ := h'.livePorts
  obtain rfl : r = r' := Option.some.inj (hr.symm.trans hr')
  rw [heq, ← hp'] at hp
  have hlt : k - r.released < r.livePorts.length := by
    by_contra hge
    rw [hp', List.getElem?_eq_none (by omega)] at hp
    cases hp
  have := (List.getElem?_inj hlt (ha id r hr).distinct).1 hp
  exact hne (by simp; omega)

end Live

/-- **Ports are exclusive.** In every reachable state distinct live bindings,
of one session or of two, have different ports, and each of these ports is
in `allocated_ports_`; a step of the manager leaves every other session's
live bindings live and their ports allocated; between the calls of a session
all the bindings it stores are live. -/
theorem live_ports_disjoint (y : Yaml) (s : Managers) (h : (managerRuns y).Reachable s) :
    (∀ id k b id' k' b', Live s.shared id k b → Live s.shared id' k' b' → (id, k) ≠ (id', k') →
      b.internal.port ≠ b'.internal.port) ∧
    (∀ id k b, Live s.shared id k b → b.internal.port ∈ s.shared.allocatedPorts) ∧
    (∀ l s' id k b, (managerRuns y).step s l s' → (∀ ans, l ≠ .step id ans) →
      Live s.shared id k b → Live s'.shared id k b ∧ b.internal.port ∈ s'.shared.allocatedPorts) ∧
    (∀ id r, s.running id = none → s.shared.resources.lookup id = some r → r.released = 0) := by
  have hI := (managerRuns_inductive y).reachable h
  refine ⟨?_, ?_, ?_, ?_⟩
  · intro id k b id' k' b' hl hl' hne
    exact hl.port_ne hl' hI.always hne
  · intro id k b hl
    exact hl.allocated (hI.always id)
  · intro l s' id k b hstep hother hl
    have hI' := (managerRuns_inductive y).step _ _ _ hI hstep
    have hl' := hl.of_view (hI.step_frame Keep.refl hstep hother)
    exact ⟨hl', hl'.allocated (hI'.always id)⟩
  · intro id r hidle hr
    have hcalm := hI.loc id
    simp only [Pool.Local, hidle] at hcalm
    exact (hcalm r hr).released

/-! ## A run with two sessions -/

/-- A YAML reader that knows one text. -/
def readingOnly (text : Str) (graph : PropertyMap) : Yaml where
  deserialize t := if t = text then some graph else none
  serialize _ := text

/-- A block that declares a websocket stream under its studio node id. -/
def sinkBlock (id : Str) : Value :=
  .map [(str "id", .str id), (str "block", .str (str "StudioSink")),
    (str "parameters", .map [(str "stream", .map
      [(str "transport", .str (str "websocket")), (str "payload_format", .str (str "f32"))])])]

def sinkBlockText (id : Str) : Str :=
  str "  - id: " ++ id ++ str "\n    block: StudioSink\n    parameters:\n      stream:\n" ++
    str "        transport: websocket\n        payload_format: f32\n"

def sinksText (ids : List Str) : Str := str "blocks:\n" ++ ids.flatMap sinkBlockText

def readingSinks (ids : List Str) : Yaml :=
  readingOnly (sinksText ids) [(str "blocks", .tensor (ids.map sinkBlock))]

/-- A new session with the given sinks. -/
def sinkSession (id : Str) (sinks : List Str) : Session where
  id
  name := id
  grcContent := sinksText sinks
  schedulerAlias := none
  state := .stopped
  lastError := none
  createdAt := 0
  updatedAt := 0

def oneSink : List Str := [str "spectrum"]

/-- Everything succeeds; the reserved port is the given one. -/
def granting (port : Nat) : ∀ call, Answer call
  | .reserveEphemeralLoopbackPort _ _ => .ok port
  | .availableSchedulers => .ok []
  | .instantiateScheduler _ => .ok true
  | .ensureRuntimeEnvironment | .loadGrc _ | .setGraph | .schedulerStart | .schedulerStop => .ok ()

/-- Two sessions with one stream each are prepared, one after the other. -/
def twoPrepares : List (Pool.Lbl Str Call GrCall Answer) :=
  [.call (.prepare (sinkSession (str "a") oneSink)), .call (.prepare (sinkSession (str "b") oneSink))] ++
    List.replicate 13 (.step (str "a") (granting 40000)) ++
    List.replicate 13 (.step (str "b") (granting 40001)) ++
    [.finish (str "a"), .finish (str "b")]

def afterRun (ls : List (Pool.Lbl Str Call GrCall Answer)) : Option Managers :=
  LTS.runFn (Pool.step Call.owner (Call.body (readingSinks oneSink))) ⟨Manager.empty, fun _ => none⟩ ls

theorem reachable_of_afterRun {ls : List (Pool.Lbl Str Call GrCall Answer)} {s : Managers}
    (h : afterRun ls = some s) : (managerRuns (readingSinks oneSink)).Reachable s :=
  ⟨_, ls, rfl, LTS.run_of_runFn _ _ _ h⟩

theorem live_of_isSome {m : Manager} {id : Str} {k : Nat}
    (h : ((m.resources.lookup id).bind fun r =>
      if r.released ≤ k then r.streamBindings[k]? else none).isSome = true) :
    ∃ b, Live m id k b := by
  obtain ⟨b, hb⟩ := Option.isSome_iff_exists.1 h
  obtain ⟨r, hr, hb⟩ := Option.bind_eq_some_iff.1 hb
  split at hb
  · exact ⟨b, r, hr, ‹_›, hb⟩
  · cases hb

theorem twoPrepares_run : (afterRun twoPrepares).isSome = true := by decide +kernel

def bothPrepared : Managers := (afterRun twoPrepares).get twoPrepares_run

theorem bothPrepared_reachable : (managerRuns (readingSinks oneSink)).Reachable bothPrepared :=
  reachable_of_afterRun (Option.some_get _).symm

theorem live_ports_differ_bothPrepared :
    ∃ b b', Live bothPrepared.shared (str "a") 0 b ∧ Live bothPrepared.shared (str "b") 0 b' ∧
      b.internal.port ≠ b'.internal.port := by
  obtain ⟨b, hb⟩ : ∃ b, Live bothPrepared.shared (str "a") 0 b :=
    live_of_isSome (by decide +kernel)
  obtain ⟨b', hb'⟩ : ∃ b, Live bothPrepared.shared (str "b") 0 b :=
    live_of_isSome (by decide +kernel)
  exact ⟨b, b', hb, hb',
    (live_ports_disjoint (readingSinks oneSink) _ bothPrepared_reachable).1 _ _ _ _ _ _ hb hb' (by decide)⟩

end Gr4cp.Runtime

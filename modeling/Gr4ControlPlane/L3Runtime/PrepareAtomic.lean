import Gr4ControlPlane.L3Runtime.PortSafety

/-!
# When a preparation that throws leaves nothing behind

`prepareLocked` allocates the ports of a session one by one before the
`try` block whose handler gives them back, and that handler catches
`std::exception` only. So ports are lost when an allocation other than the
first fails, and when the graph is loaded by code that throws anything
else; and a session whose stop was cut off by such a throw keeps its
execution while `prepare` throws.

* `exec_allocateBindings`, `exec_tryLoadGraph`: what the two parts do to
  `allocated_ports_`, for any answers of the environment;
* `prepare_atomic_iff`: preparation is atomic in exactly the other cases.

The answers are a function of the call, so they say for each stream and
each attempt what the operating system returns.
-/
namespace Gr4cp.Runtime

open Gr4cp.Core Gr4cp.Domain

/-! ## What the environment grants -/

section Grants

variable (ans : ∀ call, Answer call)

/-- The answer to one attempt to reserve a port. -/
def reserved (stream attemptsLeft : Nat) : Except Exn Nat :=
  ans (.reserveEphemeralLoopbackPort stream attemptsLeft)

/-- The port the operating system ends up granting for a stream: the first
that nobody has, if it comes before an error and within the attempts. -/
def freshPort (ports : AList fun _ : Nat => Str) (stream : Nat) : Nat → Option Nat
  | 0 => none
  | attemptsLeft + 1 =>
    match reserved ans stream attemptsLeft with
    | .error _ => none
    | .ok port => if port ∈ ports then freshPort ports stream attemptsLeft else some port

/-- The ports granted to `n` streams in order, up to the first that gets
none. -/
def grantedPorts (owner : Str) : (AList fun _ : Nat => Str) → Nat → Nat → List Nat
  | _, _, 0 => []
  | ports, stream, n + 1 =>
    match freshPort ans ports stream 64 with
    | none => []
    | some port => port :: grantedPorts owner (ports.insert port owner) (stream + 1) n

/-- The call sequence that loads a graph ends in a throw that is not a
`std::exception`. -/
def LoadThrowsOther (session : Session) (content : Str) : Prop :=
  ans (.loadGrc content) = .error .other ∨
  (∃ u, ans (.loadGrc content) = .ok u) ∧
    (ans .availableSchedulers = .error .other ∨
     ∃ available : List Str, ans .availableSchedulers = .ok available ∧
       (ans (.instantiateScheduler (session.schedulerAlias.getD (preferredScheduler available))) =
          .error .other ∨
        ans (.instantiateScheduler (session.schedulerAlias.getD (preferredScheduler available))) =
          .ok true ∧ ans .setGraph = .error .other))

/-- The kind of binding a stream gets. -/
def kindOf (plan : RuntimeStreamBindingPlan) : BindingKind :=
  if plan.transport = str "websocket" then websocketBinding else httpBinding

/-- The bindings of the plans on the given ports. -/
def bindingsOn (plans : List RuntimeStreamBindingPlan) (ports : List Nat) :
    List RuntimeStreamBinding :=
  List.zipWith (fun plan port => makeBinding plan ((kindOf plan).on port)) plans ports

/-! ## The condition -/

variable (y : Yaml) (session : Session) (m : Manager)

/-- A stop was cut off by a throw other than `std::exception`. -/
def StuckStopping : Prop :=
  ∃ r, m.resources.lookup session.id = some r ∧ r.lifecyclePhase = .stopping ∧
    r.execution.isSome = true

/-- Nothing ends the preparation before ports are allocated. -/
def ReachesAllocation : Prop :=
  (∀ r, m.resources.lookup session.id = some r →
    r.lifecyclePhase ≠ .stopping ∧ r.execution = none) ∧
  validateStreamRuntimeContract y session = none ∧ ∃ u, ans .ensureRuntimeEnvironment = .ok u

/-- The ports granted to the streams of the session. -/
def sessionPorts : List Nat :=
  grantedPorts ans session.id m.allocatedPorts 0 (planStreams y session).length

/-- The condition under which a preparation that throws leaves nothing
behind: no port is granted, or every stream gets one and the graph is not
loaded by code that throws something else than `std::exception`. -/
def LeavesNothing : Prop :=
  ¬ StuckStopping session m ∧
  (ReachesAllocation ans y session m →
    (sessionPorts ans y session m).length = 0 ∨
    (sessionPorts ans y session m).length = (planStreams y session).length ∧
      ∀ content, normalizeGraphContent y session.grcContent
          (bindingsOn (planStreams y session) (sessionPorts ans y session m)) = .ok content →
        ¬ LoadThrowsOther ans session content)

end Grants

/-! ## Atomicity -/

/-- What a call that prepares `session` in `m` has to leave if it throws. -/
def Atomic (session : Session) (m : Manager) (result : Except Exn Unit × Manager) : Prop :=
  ∀ e, result.1 = .error e →
    (∀ port, port ∈ result.2.allocatedPorts ↔ port ∈ m.allocatedPorts) ∧
    (∀ r, result.2.resources.lookup session.id = some r →
      r.execution = none ∧ r.streamBindings = []) ∧
    result.2.resources.lookup session.id =
      some ((m.resources.lookup session.id).getD { sessionId := session.id }) ∧
    (∀ id, id ≠ session.id → result.2.resources.lookup id = m.resources.lookup id)

/-! ## The run of each part -/

section Exec

variable (ans : ∀ call, Answer call)

/-- Ports inserted one after the other. -/
def Manager.insertPorts (m : Manager) (owner : Str) (ports : List Nat) : Manager :=
  ports.foldl (fun m port => m.insertPort owner port) m

theorem mem_insertPort {m : Manager} {owner : Str} {port p : Nat} :
    p ∈ (m.insertPort owner port).allocatedPorts ↔ p = port ∨ p ∈ m.allocatedPorts := by
  unfold Manager.insertPort
  split
  · rename_i h
    constructor
    · exact .inr
    · rintro (rfl | h')
      · exact h
      · exact h'
  · simp

theorem insertPorts_resources (ports : List Nat) (m : Manager) (owner : Str) :
    (m.insertPorts owner ports).resources = m.resources := by
  induction ports generalizing m with
  | nil => rfl
  | cons port ports ih =>
    change ((m.insertPort owner port).insertPorts owner ports).resources = _
    rw [ih, insertPort_resources]

theorem mem_insertPorts {ports : List Nat} {m : Manager} {owner : Str} {p : Nat} :
    p ∈ (m.insertPorts owner ports).allocatedPorts ↔ p ∈ ports ∨ p ∈ m.allocatedPorts := by
  induction ports generalizing m with
  | nil => simp [Manager.insertPorts]
  | cons port ports ih =>
    change p ∈ ((m.insertPort owner port).insertPorts owner ports).allocatedPorts ↔ _
    rw [ih, mem_insertPort, List.mem_cons]
    tauto

theorem freshPort_not_mem {ports : AList fun _ : Nat => Str} {stream attempts port : Nat}
    (h : freshPort ans ports stream attempts = some port) : port ∉ ports := by
  induction attempts with
  | zero => cases h
  | succ attemptsLeft ih =>
    unfold freshPort at h
    split at h
    · cases h
    · split at h
      · exact ih h
      · rename_i hport
        cases h
        exact hport

theorem grantedPorts_fresh {owner : Str} {ports : AList fun _ : Nat => Str} {stream n p : Nat}
    (h : p ∈ grantedPorts ans owner ports stream n) : p ∉ ports := by
  induction n generalizing ports stream with
  | zero => cases h
  | succ n ih =>
    unfold grantedPorts at h
    split at h
    · cases h
    · rename_i port hport
      rcases List.mem_cons.1 h with rfl | h
      · exact freshPort_not_mem ans hport
      · intro hp
        exact ih h (by simp [hp])

theorem exec_allocatePort (owner : Str) (stream : Nat) (exhausted : Str) (n : Nat) (m : Manager) :
    match freshPort ans m.allocatedPorts stream n with
    | some port => (allocatePort owner stream exhausted n).exec ans m =
        (.ok port, m.insertPort owner port)
    | none => ∃ e, (allocatePort owner stream exhausted n).exec ans m = (.error e, m) := by
  induction n with
  | zero => exact ⟨_, rfl⟩
  | succ attemptsLeft ih =>
    have hreq : (request (.reserveEphemeralLoopbackPort stream attemptsLeft)).exec ans m =
        (reserved ans stream attemptsLeft, m) := rfl
    simp only [freshPort, allocatePort, Prog.bind_eq, Prog.exec_bind, hreq]
    cases reserved ans stream attemptsLeft with
    | error e => exact ⟨e, rfl⟩
    | ok port =>
      by_cases hp : port ∈ m.allocatedPorts
      · simpa [hp, insertPort, Prog.update, Prog.exec, insertPort_of_mem] using ih
      · simp [hp, insertPort, Prog.update, Prog.exec]

theorem allocateFor_eq (owner : Str) (stream : Nat) (plan : RuntimeStreamBindingPlan) :
    allocateFor owner stream plan = allocate owner stream (kindOf plan) := by
  unfold allocateFor kindOf allocateWebsocket allocateHttp
  split <;> rfl

theorem exec_allocateFor (owner : Str) (stream : Nat) (plan : RuntimeStreamBindingPlan)
    (m : Manager) :
    match freshPort ans m.allocatedPorts stream 64 with
    | some port => (allocateFor owner stream plan).exec ans m =
        (.ok ((kindOf plan).on port), m.insertPort owner port)
    | none => ∃ e, (allocateFor owner stream plan).exec ans m = (.error e, m) := by
  have h := exec_allocatePort ans owner stream (kindOf plan).exhausted 64 m
  rw [allocateFor_eq]
  cases hp : freshPort ans m.allocatedPorts stream 64 with
  | none =>
    simp only [hp] at h ⊢
    obtain ⟨e, he⟩ := h
    exact ⟨e, by simp [allocate, Prog.exec_bind, he]⟩
  | some port =>
    simp only [hp] at h ⊢
    simp [allocate, Prog.exec_bind, h]

/-- Ports are used up for the streams before the first that gets none, and
for all of them otherwise. -/
theorem exec_allocateBindings (owner : Str) (stream : Nat) (plans : List RuntimeStreamBindingPlan)
    (m : Manager) :
    let ports := grantedPorts ans owner m.allocatedPorts stream plans.length
    (ports.length = plans.length ∧ (allocateBindings owner stream plans).exec ans m =
      (.ok (bindingsOn plans ports), m.insertPorts owner ports)) ∨
    (ports.length < plans.length ∧ ∃ e, (allocateBindings owner stream plans).exec ans m =
      (.error e, m.insertPorts owner ports)) := by
  induction plans generalizing stream m with
  | nil => exact .inl ⟨rfl, rfl⟩
  | cons plan plans ih =>
    have h := exec_allocateFor ans owner stream plan m
    simp only [List.length_cons, grantedPorts]
    cases hp : freshPort ans m.allocatedPorts stream 64 with
    | none =>
      simp only [hp] at h
      obtain ⟨e, he⟩ := h
      exact .inr ⟨by simp, e, by simp [allocateBindings, Prog.exec_bind, he, Manager.insertPorts]⟩
    | some port =>
      simp only [hp] at h
      have hports : (m.insertPort owner port).allocatedPorts = m.allocatedPorts.insert port owner := by
        simp [Manager.insertPort, freshPort_not_mem ans hp]
      have ih := ih (stream + 1) (m.insertPort owner port)
      rw [hports] at ih
      rcases ih with ⟨hlen, hrun⟩ | ⟨hlen, e, hrun⟩
      · refine .inl ⟨by simp [hlen], ?_⟩
        simp [allocateBindings, Prog.exec_bind, h, hrun, bindingsOn, Manager.insertPorts]
      · refine .inr ⟨by simpa using hlen, e, ?_⟩
        simp [allocateBindings, Prog.exec_bind, h, hrun, Manager.insertPorts]

theorem mem_exec_releaseAll (bindings : List RuntimeStreamBinding) (m : Manager) :
    ((releaseAll bindings).exec ans m).1 = .ok () ∧
    ((releaseAll bindings).exec ans m).2.resources = m.resources ∧
    ∀ p, p ∈ ((releaseAll bindings).exec ans m).2.allocatedPorts ↔
      p ∈ m.allocatedPorts ∧ p ∉ bindings.map (·.internal.port) := by
  induction bindings generalizing m with
  | nil => exact ⟨rfl, rfl, fun p => by simp [releaseAll]⟩
  | cons binding bindings ih =>
    have hstep : (releaseAll (binding :: bindings)).exec ans m =
        (releaseAll bindings).exec ans (m.release binding.internal) := rfl
    rw [hstep]
    obtain ⟨hok, hres, hmem⟩ := ih (m.release binding.internal)
    refine ⟨hok, hres, fun p => ?_⟩
    rw [hmem, Manager.release, AList.mem_erase, List.map_cons, List.mem_cons]
    tauto

theorem bindingsOn_ports {plans : List RuntimeStreamBindingPlan} {ports : List Nat}
    (h : ports.length = plans.length) : (bindingsOn plans ports).map (·.internal.port) = ports := by
  induction plans generalizing ports with
  | nil => simpa [bindingsOn] using (List.length_eq_zero_iff.1 h).symm
  | cons plan plans ih =>
    cases ports with
    | nil => simp at h
    | cons port ports =>
      simp only [List.length_cons, Nat.add_right_cancel_iff] at h
      simpa [bindingsOn, makeBinding, BindingKind.on] using ih h

/-- Loading a graph leaves the manager as it is; how it ends is up to the
answers. -/
theorem exec_loadGraph (y : Yaml) (session : Session) (bindings : List RuntimeStreamBinding)
    (m : Manager) :
    ∃ result, (loadGraph y session bindings).exec ans m = (result, m) ∧
      (result = .error .other ↔ ∃ content,
        normalizeGraphContent y session.grcContent bindings = .ok content ∧
        LoadThrowsOther ans session content) := by
  have hload₀ : ∀ content, (request (.loadGrc content) : Rt Unit).exec ans m =
      (ans (.loadGrc content), m) := fun _ => rfl
  have hav₀ : (request .availableSchedulers : Rt (List Str)).exec ans m =
      (ans .availableSchedulers, m) := rfl
  have hinst₀ : ∀ a, (instantiateScheduler a).exec ans m = (ans (.instantiateScheduler a), m) :=
    fun _ => rfl
  have hset₀ : (request .setGraph : Rt Unit).exec ans m = (ans .setGraph, m) := rfl
  unfold loadGraph
  simp only [Prog.bind_eq, Prog.exec_bind, Prog.exec_ret]
  cases hn : normalizeGraphContent y session.grcContent bindings with
  | error e =>
    refine ⟨.error e, rfl, ?_⟩
    simp only [reduceCtorEq, false_and, exists_const, iff_false, Except.error.injEq]
    rintro rfl
    exact normalizeGraphContent_throws _ _ _ hn
  | ok content =>
    simp only [hload₀, Except.ok.injEq, exists_eq_left', LoadThrowsOther]
    cases hload : ans (.loadGrc content) with
    | error e => exact ⟨.error e, rfl, by simp⟩
    | ok u =>
      simp only [defaultSchedulerAlias, Prog.bind_eq, Prog.exec_bind, hav₀]
      cases hav : ans .availableSchedulers with
      | error e => exact ⟨.error e, rfl, by simp⟩
      | ok available =>
        simp only [Prog.pure_eq, Prog.exec_ret, hinst₀]
        cases hinst : ans (.instantiateScheduler
            (session.schedulerAlias.getD (preferredScheduler available))) with
        | error e => exact ⟨.error e, rfl, by simp [hinst]⟩
        | ok found =>
          cases found with
          | false => exact ⟨_, rfl, by simp [hinst, runtimeError]⟩
          | true => exact ⟨ans .setGraph, by simp [hset₀], by simp [hinst]⟩

/-- The handler gives the ports back, unless it does not catch the throw. -/
theorem exec_tryLoadGraph (y : Yaml) (session : Session) (bindings : List RuntimeStreamBinding)
    (m : Manager) :
    let throwsOther := ∃ content, normalizeGraphContent y session.grcContent bindings = .ok content ∧
      LoadThrowsOther ans session content
    (throwsOther ∧ (tryLoadGraph y session bindings).exec ans m = (.error .other, m)) ∨
    (¬ throwsOther ∧ (tryLoadGraph y session bindings).exec ans m = (.ok (), m)) ∨
    (¬ throwsOther ∧ ∃ e m', (tryLoadGraph y session bindings).exec ans m = (.error e, m') ∧
      m'.resources = m.resources ∧
      ∀ p, p ∈ m'.allocatedPorts ↔ p ∈ m.allocatedPorts ∧ p ∉ bindings.map (·.internal.port)) := by
  intro throwsOther
  obtain ⟨result, hrun, hother⟩ := exec_loadGraph ans y session bindings m
  unfold tryLoadGraph
  simp only [Prog.tryCatch_eq, Prog.exec_handle, hrun]
  rcases result with e | _
  · cases e with
    | other => exact .inl ⟨hother.1 rfl, rfl⟩
    | std what =>
      refine .inr (.inr ⟨fun h => (by cases hother.2 h), ?_⟩)
      obtain ⟨hok, hres, hmem⟩ := mem_exec_releaseAll ans bindings m
      refine ⟨runtimeError session (str "prepare") what, _, ?_, hres, hmem⟩
      simp only [Prog.bind_eq, Prog.exec_bind]
      rcases h : (releaseAll bindings).exec ans m with ⟨_ | _, m'⟩
      · simp [h] at hok
      · rfl
  · exact .inr (.inl ⟨fun h => (by cases hother.2 h), rfl⟩)

/-- Nothing of the allocator or of any session differs. -/
def Same (m m' : Manager) : Prop :=
  (∀ p, p ∈ m'.allocatedPorts ↔ p ∈ m.allocatedPorts) ∧
  ∀ id, m'.resources.lookup id = m.resources.lookup id

theorem exec_releaseStreamBindingsLocked {id : Str} {m : Manager} {r : SessionRuntimeResources}
    (hr : m.resources.lookup id = some r) (hrel : r.released = 0) (hb : r.streamBindings = []) :
    ∃ m', (releaseStreamBindingsLocked id).exec ans m = (.ok (), m') ∧
      m'.allocatedPorts = m.allocatedPorts ∧
      ∀ j, m'.resources.lookup j = m.resources.lookup j := by
  have hsame : { r with streamBindings := [], released := 0 } = r := by
    cases r
    simp_all
  refine ⟨m.updateResources id fun r => { r with streamBindings := [], released := 0 }, ?_, ?_, ?_⟩
  · simp [releaseStreamBindingsLocked, readResources, Prog.read, Prog.exec_bind, Prog.exec, hr, hb,
      releaseLoop, updateResources, Prog.modify]
  · simp [Manager.updateResources, hr]
  · intro j
    simp only [Manager.updateResources, hr, hsame]
    by_cases hj : j = id
    · subst hj
      simp [hr]
    · exact AList.lookup_insert_ne hj

theorem same_insertPorts_iff {m m₁ : Manager} {owner : Str} {ports : List Nat}
    (hfresh : ∀ p ∈ ports, p ∉ m.allocatedPorts) (hports : m₁.allocatedPorts = m.allocatedPorts)
    (hres : ∀ j, m₁.resources.lookup j = m.resources.lookup j) :
    Same m (m₁.insertPorts owner ports) ↔ ports.length = 0 := by
  simp only [Same, mem_insertPorts, insertPorts_resources, hports, hres, implies_true, and_true,
    List.length_eq_zero_iff]
  constructor
  · intro h
    refine List.eq_nil_iff_forall_not_mem.2 fun p hp => ?_
    exact hfresh p hp ((h p).1 (.inl hp))
  · rintro rfl
    simp

/-- For a session without execution and bindings, what follows the contract
check leaves nothing behind exactly under the condition. -/
theorem exec_bindAndLoad {y : Yaml} {session : Session} {m : Manager} {r : SessionRuntimeResources}
    (hr : m.resources.lookup session.id = some r) (hrel : r.released = 0)
    (hb : r.streamBindings = []) :
    (∀ e, ((bindAndLoad y session).exec ans m).1 = .error e →
      Same m ((bindAndLoad y session).exec ans m).2) ↔
    ((∃ u, ans .ensureRuntimeEnvironment = .ok u) →
      (sessionPorts ans y session m).length = 0 ∨
      (sessionPorts ans y session m).length = (planStreams y session).length ∧
        ∀ content, normalizeGraphContent y session.grcContent
            (bindingsOn (planStreams y session) (sessionPorts ans y session m)) = .ok content →
          ¬ LoadThrowsOther ans session content) := by
  have henv₀ : (request .ensureRuntimeEnvironment : Rt Unit).exec ans m =
      (ans .ensureRuntimeEnvironment, m) := rfl
  have hfresh : ∀ p ∈ sessionPorts ans y session m, p ∉ m.allocatedPorts :=
    fun p hp => grantedPorts_fresh ans hp
  obtain ⟨m₁, hrun₁, hports₁, hres₁⟩ := exec_releaseStreamBindingsLocked ans hr hrel hb
  have hsame : Same m (m₁.insertPorts session.id (sessionPorts ans y session m)) ↔ _ :=
    same_insertPorts_iff hfresh hports₁ hres₁
  unfold bindAndLoad
  simp only [Prog.bind_eq, Prog.exec_bind, henv₀]
  cases ans .ensureRuntimeEnvironment with
  | error e => simp [Same]
  | ok u =>
    have halloc := exec_allocateBindings ans session.id 0 (planStreams y session) m₁
    simp only [hports₁, ← sessionPorts.eq_def] at halloc
    simp only [hrun₁, exists_const, forall_const]
    rcases halloc with ⟨hlen, hrun⟩ | ⟨hlen, e, hrun⟩
    · simp only [hrun]
      rcases exec_tryLoadGraph ans y session
          (bindingsOn (planStreams y session) (sessionPorts ans y session m))
          (m₁.insertPorts session.id (sessionPorts ans y session m)) with
        ⟨⟨content, hc, hother⟩, htry⟩ | ⟨hno, htry⟩ | ⟨hno, e, m', htry, hres', hmem'⟩
      · simp only [htry, Except.error.injEq, forall_eq', hsame]
        refine (or_iff_left ?_).symm
        rintro ⟨-, h⟩
        exact h content hc hother
      · simp only [htry]
        refine iff_of_true ?_ (.inr ⟨hlen, fun content hc hother => hno ⟨content, hc, hother⟩⟩)
        rintro e ⟨⟩
      · simp only [htry, Except.error.injEq, forall_eq']
        refine iff_of_true ⟨fun p => ?_, fun id => ?_⟩
          (.inr ⟨hlen, fun content hc hother => hno ⟨content, hc, hother⟩⟩)
        · rw [hmem', bindingsOn_ports hlen, mem_insertPorts, hports₁]
          have := hfresh p
          tauto
        · rw [hres', insertPorts_resources, hres₁]
    · simp only [hrun, Except.error.injEq, forall_eq', hsame]
      refine (or_iff_left ?_).symm
      rintro ⟨h, -⟩
      omega

end Exec

/-! ## The condition is exact -/

section Exact

variable (ans : ∀ call, Answer call) {y : Yaml} {session : Session} {m : Manager}

theorem getOrCreate_lookup (m : Manager) (id : Str) :
    (m.getOrCreateResources id).resources.lookup id =
      some ((m.resources.lookup id).getD { sessionId := id }) := by
  have hview : viewOf id (m.getOrCreateResources id) = _ := viewOf_getOrCreate
  exact congrArg View.res hview

theorem getOrCreate_ports (m : Manager) (id : Str) :
    (m.getOrCreateResources id).allocatedPorts = m.allocatedPorts := by
  unfold Manager.getOrCreateResources
  split <;> rfl

/-- A throw leaves nothing behind if the manager is as it was right after the
entry was looked up, and the entry is empty. -/
theorem atomic_iff_same {result : Except Exn Unit × Manager}
    (hempty : ∀ r, m.resources.lookup session.id = some r →
      r.execution = none ∧ r.streamBindings = []) :
    Atomic session m result ↔
      ∀ e, result.1 = .error e → Same (m.getOrCreateResources session.id) result.2 := by
  have hlookup := getOrCreate_lookup m session.id
  refine forall_congr' fun e => imp_congr_right fun _ => ?_
  simp only [Same, getOrCreate_ports]
  constructor
  · rintro ⟨hports, -, hself, hothers⟩
    refine ⟨hports, fun id => ?_⟩
    by_cases hid : id = session.id
    · rw [hid, hself, hlookup]
    · rw [hothers id hid]
      exact (congrArg View.res (viewOf_getOrCreate_of_ne hid)).symm
  · rintro ⟨hports, hres⟩
    refine ⟨hports, ?_, by rw [hres, hlookup], fun id hid => ?_⟩
    · intro r hr
      rw [hres, hlookup, Option.some.injEq] at hr
      subst hr
      cases hm : m.resources.lookup session.id with
      | none => exact ⟨rfl, rfl⟩
      | some r => exact hempty r hm
    · rw [hres]
      exact congrArg View.res (viewOf_getOrCreate_of_ne hid)

/-- The run of `prepare`, up to what follows the contract check. -/
theorem exec_prepare {r : SessionRuntimeResources}
    (hr : (m.resources.lookup session.id).getD { sessionId := session.id } = r) :
    (prepare y session).exec ans m =
      if r.lifecyclePhase = .stopping then
        (.error (runtimeError session (str "prepare")
          (str "session runtime teardown is still in progress")), m.getOrCreateResources session.id)
      else if r.execution.isSome then (.ok (), m.getOrCreateResources session.id)
      else
        match validateStreamRuntimeContract y session with
        | some contractError =>
          (.error (runtimeError session (str "prepare") contractError),
            m.getOrCreateResources session.id)
        | none => (bindAndLoad y session).exec ans (m.getOrCreateResources session.id) := by
  have hprep : (prepare y session).exec ans m =
      (prepareLocked y session).exec ans (m.getOrCreateResources session.id) := rfl
  have hread : ((m.getOrCreateResources session.id).resources.lookup session.id).getD {} = r := by
    rw [getOrCreate_lookup, Option.getD_some, hr]
  rw [hprep]
  unfold prepareLocked
  simp only [readResources, Prog.read, Prog.bind_eq, Prog.bind, Prog.exec, id_eq, hread]
  split
  · rfl
  · split
    · rfl
    · cases validateStreamRuntimeContract y session <;> rfl

/-- `prepare` of a settled session is atomic exactly under the condition. -/
theorem exec_prepare_atomic (hcalm : Calm (viewOf session.id m)) :
    Atomic session m ((prepare y session).exec ans m) ↔ LeavesNothing ans y session m := by
  generalize hr : (m.resources.lookup session.id).getD { sessionId := session.id } = r
  have hsettled : ResSettled (fun _ => True) _ r := hr ▸ getOrCreate_settled session hcalm
  have hentry : ∀ r', m.resources.lookup session.id = some r' → r' = r := fun r' h => by
    simpa [h] using hr
  have hlookup : r.lifecyclePhase = .stopping ∨ r.execution.isSome = true →
      m.resources.lookup session.id = some r := fun h => by
    cases hm : m.resources.lookup session.id with
    | some r' => rw [hentry r' hm]
    | none =>
      rw [hm] at hr
      subst hr
      simp at h
  have hempty : r.execution = none → ∀ r', m.resources.lookup session.id = some r' →
      r'.execution = none ∧ r'.streamBindings = [] := fun he r' h => by
    rw [hentry r' h]
    exact ⟨he, hsettled.unbound he⟩
  have hrefl : Same (m.getOrCreateResources session.id) (m.getOrCreateResources session.id) :=
    ⟨fun _ => .rfl, fun _ => rfl⟩
  rw [exec_prepare ans hr]
  split
  · rename_i hstop
    have hm := hlookup (.inl hstop)
    have hnot : ¬ ReachesAllocation ans y session m := fun h => (h.1 r hm).1 hstop
    cases he : r.execution with
    | none =>
      refine iff_of_true ((atomic_iff_same (hempty he)).2 fun _ _ => hrefl) ⟨?_, fun h => (hnot h).elim⟩
      rintro ⟨r', hr', -, hex⟩
      rw [hentry r' hr', he] at hex
      cases hex
    | some e =>
      refine iff_of_false (fun h => ?_) fun h => h.1 ⟨r, hm, hstop, by simp [he]⟩
      have := ((h _ rfl).2.1 r (by rw [getOrCreate_lookup, hr])).1
      simp [he] at this
  · rename_i hstop
    have hstuck : ¬ StuckStopping session m := by
      rintro ⟨r', hr', hphase, -⟩
      exact hstop (hentry r' hr' ▸ hphase)
    split
    · rename_i hex
      refine iff_of_true (by rintro e ⟨⟩) ⟨hstuck, fun h => ?_⟩
      have := (h.1 r (hlookup (.inr hex))).2
      simp [this] at hex
    · rename_i hex
      have he : r.execution = none := by simpa using hex
      rw [atomic_iff_same (hempty he), LeavesNothing, and_iff_right hstuck]
      split
      · rename_i contractError hcontract
        exact iff_of_true (fun _ _ => hrefl) fun h => by simp [h.2.1] at hcontract
      · rename_i hcontract
        have hreach : ReachesAllocation ans y session m ↔
            ∃ u, ans .ensureRuntimeEnvironment = .ok u := by
          refine ⟨fun h => h.2.2, fun h => ⟨fun r' hr' => ?_, hcontract, h⟩⟩
          rw [hentry r' hr']
          exact ⟨hstop, he⟩
        rw [hreach, exec_bindAndLoad ans (by rw [getOrCreate_lookup, hr]) hsettled.released
          (hsettled.unbound he)]
        simp only [sessionPorts, getOrCreate_ports]

/-- A preparation that throws ends `start` as well, in the same state. -/
theorem exec_start_of_prepare_error {e : Exn} (h : ((prepare y session).exec ans m).1 = .error e) :
    (start y session).exec ans m = (prepare y session).exec ans m := by
  have hstart : (start y session).exec ans m =
      (prepareLocked y session >>= fun _ => startLocked session).exec ans
        (m.getOrCreateResources session.id) := rfl
  have hprep : (prepare y session).exec ans m =
      (prepareLocked y session).exec ans (m.getOrCreateResources session.id) := rfl
  rw [hprep] at h
  rw [hstart, hprep]
  simp only [Prog.bind_eq, Prog.exec_bind]
  rcases hrun : (prepareLocked y session).exec ans (m.getOrCreateResources session.id) with
    ⟨_ | _, m'⟩
  · rfl
  · simp [hrun] at h

end Exact

/-- **Atomicity of preparation, exactly.** In every reachable state of the
manager and for all answers of the environment: a `prepare` that throws, or
a `start` whose preparation throws, leaves `allocated_ports_` and the other
sessions as they were and the session without execution and bindings, if and
only if no stop of the session was cut off and, when ports come to be
allocated, either none is granted or all are and the graph is not loaded by
code that throws something other than `std::exception`. -/
theorem prepare_atomic_iff (y : Yaml) (s : Managers) (h : (managerRuns y).Reachable s)
    (session : Session) (hfree : s.running session.id = none) (ans : ∀ call, Answer call) :
    (Atomic session s.shared ((prepare y session).exec ans s.shared) ∧
      (∀ e, ((prepare y session).exec ans s.shared).1 = .error e →
        Atomic session s.shared ((start y session).exec ans s.shared))) ↔
    LeavesNothing ans y session s.shared := by
  have hcalm : Calm (viewOf session.id s.shared) := by
    have := ((managerRuns_inductive y).reachable h).loc session.id
    simpa only [Pool.Local, hfree] using this
  rw [← exec_prepare_atomic ans hcalm]
  refine ⟨fun h => h.1, fun h => ⟨h, fun e he => ?_⟩⟩
  rw [exec_start_of_prepare_error ans he]
  exact h

/-! ## One run of each kind -/

/-- The graph is refused once the ports are granted. -/
def refusingGraph : ∀ call, Answer call
  | .setGraph => .error (.std (str "invalid graph"))
  | call => granting 40000 call

theorem refusingGraph_atomic :
    Atomic (sinkSession (str "a") oneSink) Manager.empty
      ((prepare (readingSinks oneSink) (sinkSession (str "a") oneSink)).exec refusingGraph
        Manager.empty) := by
  refine ((prepare_atomic_iff (readingSinks oneSink) ⟨Manager.empty, fun _ => none⟩
    ⟨_, [], rfl, .nil _⟩ (sinkSession (str "a") oneSink) rfl refusingGraph).2 ⟨?_, fun _ => ?_⟩).1
  · rintro ⟨r, hr, -⟩
    cases hr
  · refine .inr ⟨by decide +kernel, fun content _ => ?_⟩
    rintro (h | ⟨-, h | ⟨_, -, h | ⟨-, h⟩⟩⟩) <;> cases h

def twoSinks : List Str := [str "spectrum", str "waterfall"]

/-- The first stream gets a port, the second none. -/
def onePort : ∀ call, Answer call
  | .reserveEphemeralLoopbackPort 0 _ => .ok 40000
  | .reserveEphemeralLoopbackPort _ _ =>
    .error (.std (str "failed to bind ephemeral loopback port for stream"))
  | call => granting 40000 call

/-- The port of the first stream stays allocated when the second gets none. -/
theorem prepare_loses_port :
    let result := (prepare (readingSinks twoSinks) (sinkSession (str "a") twoSinks)).exec onePort
      Manager.empty
    result.1 = .error (.std (str "failed to bind ephemeral loopback port for stream")) ∧
      40000 ∈ result.2.allocatedPorts ∧
      ¬ Atomic (sinkSession (str "a") twoSinks) Manager.empty result := by
  intro result
  have hthrow : result.1 =
      .error (.std (str "failed to bind ephemeral loopback port for stream")) := by decide +kernel
  have hport : 40000 ∈ result.2.allocatedPorts := by decide +kernel
  refine ⟨hthrow, hport, fun h => ?_⟩
  exact absurd (((h _ hthrow).1 40000).1 hport) (by decide)

end Gr4cp.Runtime

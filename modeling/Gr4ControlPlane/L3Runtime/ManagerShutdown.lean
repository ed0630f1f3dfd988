import Mathlib.Data.List.Induction
import Gr4ControlPlane.L3Runtime.PrepareAtomic
import Gr4ControlPlane.L3Runtime.TeardownProgress

/-!
# The end of the runtime manager (`~Gr4RuntimeManager`)

The destructor takes the sessions in the order the map iterates them in and
stops each with `stop_locked`; whatever that throws is swallowed. Then the
resources go, with the executions that are left in them.

* `manager_shut_down`: from every reachable state without a call in progress,
  in every order and whatever the schedulers answer, each session is stopped as
  if it were the only one. A scheduler is destroyed while it runs exactly when
  its own stop throws, or when an earlier stop was cut off.

The map is emptied at the end here; nobody reads it in between.
-/
namespace Gr4cp.Runtime

open Gr4cp.Core Gr4cp.Domain

/-- `domain::Session session; session.id = ..` -/
def sessionWithId (id : Str) : Session where
  id
  name := []
  grcContent := []
  schedulerAlias := none
  state := .stopped
  lastError := none
  createdAt := 0
  updatedAt := 0

/-- What GNU Radio answers while a session is stopped. -/
abbrev Answers := Str → ∀ call, Answer call

/-- mirrors src/runtime/gr4_runtime_manager.cpp:696-708 -/
def stopAll (answers : Answers) : List Str → Manager → Manager
  | [], m => m
  | id :: ids, m =>
    stopAll answers ids ((stopLocked (sessionWithId id)).exec (answers id) m).2

/-- mirrors src/runtime/gr4_runtime_manager.cpp:685-709 -/
def Manager.shutDown (m : Manager) (answers : Answers) (order : List Str) : Manager :=
  let m := stopAll answers order m
  { m with resources := ∅, discarded := order.flatMap m.executions ++ m.discarded }

/-! ## What a part of a stop does -/

/-- The session has another entry, some of its ports are free, and some
executions are gone. -/
structure Leaves (id : Str) (m m' : Manager) (r' : SessionRuntimeResources) (freed : List Nat)
    (dropped : List Execution) : Prop where
  entry : m'.resources.lookup id = some r'
  others : ∀ j, j ≠ id → m'.resources.lookup j = m.resources.lookup j
  ports : ∀ p, p ∈ m'.allocatedPorts ↔ p ∈ m.allocatedPorts ∧ p ∉ freed
  discarded : m'.discarded = dropped ++ m.discarded

section Parts

variable {id : Str} {m m' m'' : Manager} {r r' r'' : SessionRuntimeResources}
  {freed freed' : List Nat} {dropped dropped' : List Execution}

theorem Leaves.refl (hr : m.resources.lookup id = some r) : Leaves id m m r [] [] where
  entry := hr
  others _ _ := rfl
  ports p := by simp
  discarded := rfl

theorem Leaves.trans (h : Leaves id m m' r' freed dropped)
    (h' : Leaves id m' m'' r'' freed' dropped') :
    Leaves id m m'' r'' (freed ++ freed') (dropped' ++ dropped) where
  entry := h'.entry
  others j hj := (h'.others j hj).trans (h.others j hj)
  ports p := by
    rw [h'.ports, h.ports, List.mem_append]
    tauto
  discarded := by rw [h'.discarded, h.discarded, List.append_assoc]

theorem leaves_update (hr : m.resources.lookup id = some r)
    (f : SessionRuntimeResources → SessionRuntimeResources) :
    Leaves id m (m.updateResources id f) (f r) [] [] := by
  unfold Manager.updateResources
  rw [hr]
  exact
    { entry := AList.lookup_insert _
      others := fun j hj => AList.lookup_insert_ne hj
      ports := fun p => by simp
      discarded := rfl }

/-- An assignment to the fields of the entry. -/
theorem Leaves.update (h : Leaves id m m' r' freed dropped)
    (f : SessionRuntimeResources → SessionRuntimeResources) :
    Leaves id m (m'.updateResources id f) (f r') freed dropped := by
  simpa using h.trans (leaves_update h.entry f)

theorem leaves_release (hr : m.resources.lookup id = some r) (binding : InternalStreamBinding) :
    Leaves id m (m.release binding) r [binding.port] [] where
  entry := hr
  others _ _ := rfl
  ports p := by
    rw [Manager.release, AList.mem_erase, List.mem_singleton]
    tauto
  discarded := rfl

theorem leaves_discard (hr : m.resources.lookup id = some r) :
    Leaves id m (m.discardExecution id) { r with execution := none } [] r.execution.toList := by
  have hupdate := leaves_update hr fun r => { r with execution := none }
  refine ⟨hupdate.entry, hupdate.others, hupdate.ports, ?_⟩
  simp [Manager.discardExecution, Manager.executions, hr]

variable (ans : ∀ call, Answer call)

theorem exec_releaseLoop (bindings : List RuntimeStreamBinding)
    (hr : m.resources.lookup id = some r) :
    ∃ m' released, (releaseLoop id bindings).exec ans m = (.ok (), m') ∧
      Leaves id m m' { r with released } (bindings.map (·.internal.port)) [] := by
  induction bindings generalizing m r with
  | nil => exact ⟨m, r.released, rfl, Leaves.refl hr⟩
  | cons binding bindings ih =>
    have hstep : (releaseLoop id (binding :: bindings)).exec ans m =
        (releaseLoop id bindings).exec ans (m.releaseOwn id binding) := rfl
    have hreleased := leaves_release hr binding.internal
    have hcounted := hreleased.update fun r => { r with released := r.released + 1 }
    obtain ⟨m', released, hrun, hleaves⟩ := ih hcounted.entry
    exact ⟨m', released, hstep.trans hrun, hcounted.trans hleaves⟩

/-- The bindings of the session go, and with them their ports. -/
theorem exec_releaseBindings (hr : m.resources.lookup id = some r) :
    ∃ m', (releaseStreamBindingsLocked id).exec ans m = (.ok (), m') ∧
      Leaves id m m' { r with streamBindings := [], released := 0 }
        (r.streamBindings.map (·.internal.port)) [] := by
  obtain ⟨m', released, hrun, hleaves⟩ := exec_releaseLoop ans r.streamBindings hr
  have hcleared := hleaves.update fun r => { r with streamBindings := [], released := 0 }
  refine ⟨_, ?_, hcleared⟩
  simp [releaseStreamBindingsLocked, readResources, Prog.read, Prog.exec_bind, Prog.exec, hr, hrun,
    updateResources, Prog.modify]

end Parts

/-! ## One session -/

/-- Whether the session's stop gets past its scheduler. -/
def Stops (ans : ∀ call, Answer call) (r : SessionRuntimeResources) : Prop :=
  r.execution = none ∨
    r.lifecyclePhase ≠ .stopping ∧
      ∀ e, r.execution = some e → e.running = true → ∃ u, ans .schedulerStop = .ok u

section Session

variable {session : Session} {m : Manager} {r : SessionRuntimeResources}
  (ans : ∀ call, Answer call)

/-- The execution is dropped, and does not run. -/
theorem exec_finishStop (hr : m.resources.lookup session.id = some r)
    (hstarted : ∀ e, r.execution = some e → e.started = false) :
    ∃ result m' r' dropped, (finishStop session).exec ans m = (result, m') ∧
      Leaves session.id m m' r' (r.streamBindings.map (·.internal.port)) dropped ∧
      r'.execution = none ∧ ∀ e ∈ dropped, e.running = false ∧ e.started = false := by
  have hset := leaves_update hr fun r =>
    { r with execution := r.execution.map fun e => { e with running := false } }
  obtain ⟨m₂, hrun, hreleased⟩ := exec_releaseBindings ans hset.entry
  have hdiscarded := leaves_discard hreleased.entry
  have hleaves := (hset.trans hreleased).trans hdiscarded
  simp only [List.nil_append, List.append_nil] at hleaves
  have hdropped : ∀ e ∈ (r.execution.map fun e => { e with running := false }).toList,
      e.running = false ∧ e.started = false := by
    intro e he
    rw [Option.mem_toList] at he
    obtain ⟨e₀, he₀, rfl⟩ := Option.map_eq_some_iff.1 he
    exact ⟨rfl, hstarted e₀ he₀⟩
  have hlookup := hdiscarded.entry
  have hupdate : ∀ (f : SessionRuntimeResources → SessionRuntimeResources) (m : Manager),
      (updateResources session.id f).exec ans m = (.ok (), m.updateResources session.id f) :=
    fun _ _ => rfl
  have hdiscard : ∀ m : Manager, (discardExecution session.id).exec ans m =
      (.ok (), m.discardExecution session.id) := fun _ => rfl
  have hread : ∀ m : Manager, (readResources session.id).exec ans m =
      (.ok ((m.resources.lookup session.id).getD {}), m) := fun _ => rfl
  unfold finishStop
  simp only [Prog.bind_eq, Prog.exec_bind, hupdate, hrun, hdiscard, hread, hlookup,
    Option.getD_some]
  cases hasync : r.asyncError with
  | some asyncError =>
    simp only [Prog.exec_bind, hupdate, Prog.throw_eq, Prog.exec_ret]
    exact ⟨_, _, _, _, rfl, hleaves.update _, rfl, hdropped⟩
  | none => exact ⟨_, _, _, _, rfl, hleaves.update _, rfl, hdropped⟩

/-- A scheduler that does not run, or that is stopped, is past; one whose stop
throws leaves the session as it is. -/
theorem exec_stopIfRunning (session : Session) (hr : m.resources.lookup session.id = some r)
    {e : Execution} (he : r.execution = some e) (hstarted : e.started = e.running) :
    ((e.running = true → ∃ u, ans .schedulerStop = .ok u) →
      ∃ m' r', (stopIfRunning session e).exec ans m = (.ok (), m') ∧
        Leaves session.id m m' r' [] [] ∧ r'.streamBindings = r.streamBindings ∧
        ∀ e', r'.execution = some e' → e'.started = false) ∧
    (¬ (e.running = true → ∃ u, ans .schedulerStop = .ok u) →
      ∃ error m' r', (stopIfRunning session e).exec ans m = (.error error, m') ∧
        Leaves session.id m m' r' [] [] ∧ r'.execution = r.execution) := by
  have hupdate : ∀ (f : SessionRuntimeResources → SessionRuntimeResources) (m : Manager),
      (updateResources session.id f).exec ans m = (.ok (), m.updateResources session.id f) :=
    fun _ _ => rfl
  have hrequest : (request .schedulerStop : Rt Unit).exec ans m = (ans .schedulerStop, m) := rfl
  unfold stopIfRunning
  cases hrunning : e.running with
  | false =>
    refine ⟨fun _ => ⟨m, r, rfl, Leaves.refl hr, rfl, fun e' he' => ?_⟩, fun h => ?_⟩
    · rw [he] at he'
      cases he'
      rw [hstarted, hrunning]
    · exact absurd nofun h
  | true =>
    simp only [if_true, forall_const, stopScheduler, Prog.tryCatch_eq, Prog.bind_eq,
      Prog.exec_handle, Prog.exec_bind, hrequest]
    cases hstop : ans .schedulerStop with
    | ok u =>
      simp only [hupdate]
      refine ⟨fun _ => ⟨_, _, rfl, leaves_update hr _, rfl, fun e' he' => ?_⟩, fun h => ?_⟩
      · obtain ⟨e₀, -, rfl⟩ := Option.map_eq_some_iff.1 he'
        rfl
      · simp at h
    | error error =>
      refine ⟨fun h => ?_, fun _ => ?_⟩
      · obtain ⟨u, hu⟩ := h
        cases hu
      · cases error with
        | std what =>
          simp only [Prog.exec_bind, hupdate, Prog.throw_eq, Prog.exec_ret]
          exact ⟨_, _, _, rfl, leaves_update hr _, rfl⟩
        | other => exact ⟨_, m, r, rfl, Leaves.refl hr, rfl⟩

/-- What stopping a session comes to: it is stopped, or it keeps its
execution and its ports. -/
theorem exec_stopLocked (session : Session) (hr : m.resources.lookup session.id = some r)
    (hstarted : ∀ e, r.execution = some e → e.started = e.running) :
    (Stops ans r → ∃ r' dropped,
      Leaves session.id m ((stopLocked session).exec ans m).2 r'
        (r.streamBindings.map (·.internal.port)) dropped ∧
      r'.execution = none ∧ ∀ e ∈ dropped, e.running = false ∧ e.started = false) ∧
    (¬ Stops ans r → ∃ r',
      Leaves session.id m ((stopLocked session).exec ans m).2 r' [] [] ∧
      r'.execution = r.execution) := by
  have hupdate : ∀ (f : SessionRuntimeResources → SessionRuntimeResources) (m : Manager),
      (updateResources session.id f).exec ans m = (.ok (), m.updateResources session.id f) :=
    fun _ _ => rfl
  have hread : (readResources session.id).exec ans m = (.ok r, m) := by
    show (Except.ok ((m.resources.lookup session.id).getD {}), m) = _
    rw [hr]
    rfl
  unfold stopLocked Stops
  simp only [Prog.bind_eq, Prog.exec_bind, hread]
  cases he : r.execution with
  | none =>
    obtain ⟨m', hrun, hleaves⟩ := exec_releaseBindings ans hr
    simp only [Prog.exec_bind, hrun, hupdate]
    exact ⟨fun _ => ⟨_, [], hleaves.update _, he, by simp⟩, fun h => by simp at h⟩
  | some e =>
    simp only [Option.some.injEq, forall_eq', reduceCtorEq, false_or]
    by_cases hphase : r.lifecyclePhase = .stopping
    · simp only [hphase, if_true, ne_eq, not_true_eq_false, false_and, not_false_eq_true,
        forall_const, false_implies, true_and, Prog.throw_eq, Prog.exec_ret]
      exact ⟨r, Leaves.refl hr, he⟩
    · simp only [hphase, if_false, ne_eq, not_false_eq_true, true_and, Prog.exec_bind, hupdate]
      have hset := leaves_update hr fun r =>
        { r with lifecyclePhase := .stopping, teardownComplete := false, teardownError := none }
      obtain ⟨hgood, hbad⟩ := exec_stopIfRunning ans session hset.entry
        (e := e) he (hstarted e he)
      refine ⟨fun h => ?_, fun h => ?_⟩
      · obtain ⟨m₂, r₂, hrun, hleaves, hbindings, hstopped⟩ := hgood h
        obtain ⟨result, m', r', dropped, hfinish, hfinished, hnone, hdropped⟩ :=
          exec_finishStop ans hleaves.entry hstopped
        rw [hrun]
        dsimp only
        rw [hfinish]
        have hall := (hset.trans hleaves).trans hfinished
        rw [hbindings] at hall
        exact ⟨r', dropped, by simpa using hall, hnone, hdropped⟩
      · obtain ⟨error, m₂, r₂, hrun, hleaves, hkept⟩ := hbad h
        rw [hrun]
        have hall := hset.trans hleaves
        exact ⟨r₂, by simpa using hall, hkept.trans he⟩

end Session

/-! ## All sessions -/

/-- What the loop comes to: each of its sessions is stopped on its own. -/
structure AllStopped (answers : Answers) (order : List Str) (m m' : Manager) : Prop where
  others : ∀ j, j ∉ order → m'.resources.lookup j = m.resources.lookup j
  entry : ∀ id ∈ order, ∀ r, m.resources.lookup id = some r →
    ∃ r', m'.resources.lookup id = some r' ∧
      (Stops (answers id) r → r'.execution = none) ∧
      (¬ Stops (answers id) r → r'.execution = r.execution)
  ports : ∀ p, p ∈ m'.allocatedPorts ↔ p ∈ m.allocatedPorts ∧
    ∀ id ∈ order, ∀ r, m.resources.lookup id = some r → Stops (answers id) r →
      p ∉ r.streamBindings.map (·.internal.port)
  discarded : ∀ e ∈ m'.discarded, e ∈ m.discarded ∨ (e.running = false ∧ e.started = false)

theorem stopAll_allStopped (answers : Answers) {order : List Str} (hnodup : order.Nodup)
    {m : Manager} (hentry : ∀ id ∈ order, ∃ r, m.resources.lookup id = some r ∧
      ∀ e, r.execution = some e → e.started = e.running) :
    AllStopped answers order m (stopAll answers order m) := by
  induction order generalizing m with
  | nil =>
    exact
      { others := fun _ _ => rfl
        entry := fun _ h => by cases h
        ports := fun p => by simp [stopAll]
        discarded := fun _ h => .inl h }
  | cons id ids ih =>
    obtain ⟨hnew, hrest⟩ := List.nodup_cons.1 hnodup
    obtain ⟨r, hr, hstarted⟩ := hentry id (by simp)
    obtain ⟨hgood, hbad⟩ := exec_stopLocked (answers id) (sessionWithId id) hr hstarted
    -- one session's stop, whichever way it ends
    obtain ⟨r', freed, dropped, hleaves, hstops, hkeeps, hfreed, hdropped⟩ :
        ∃ r' freed dropped, Leaves id m
            ((stopLocked (sessionWithId id)).exec (answers id) m).2 r' freed dropped ∧
          (Stops (answers id) r → r'.execution = none) ∧
          (¬ Stops (answers id) r → r'.execution = r.execution) ∧
          (∀ p, p ∈ freed ↔ Stops (answers id) r ∧
            p ∈ r.streamBindings.map (·.internal.port)) ∧
          ∀ e ∈ dropped, e.running = false ∧ e.started = false := by
      by_cases hstops : Stops (answers id) r
      · obtain ⟨r', dropped, hleaves, hnone, hdropped⟩ := hgood hstops
        exact ⟨r', _, dropped, hleaves, fun _ => hnone, fun h => absurd hstops h,
          fun p => by simp [hstops], hdropped⟩
      · obtain ⟨r', hleaves, hkept⟩ := hbad hstops
        exact ⟨r', [], [], hleaves, fun h => absurd h hstops, fun _ => hkept,
          fun p => by simp [hstops], by simp⟩
    have hothers : ∀ j ∈ ids, ((stopLocked (sessionWithId id)).exec (answers id) m).2.resources.lookup
        j = m.resources.lookup j := fun j hj =>
      hleaves.others j fun heq => hnew (heq ▸ hj)
    have hall := ih hrest (m := ((stopLocked (sessionWithId id)).exec (answers id) m).2)
      fun j hj => by
        rw [hothers j hj]
        exact hentry j (List.mem_cons_of_mem _ hj)
    refine
      { others := fun j hj => ?_
        entry := fun j hj r₀ hr₀ => ?_
        ports := fun p => ?_
        discarded := fun e he => ?_ }
    · rw [List.mem_cons, not_or] at hj
      exact (hall.others j hj.2).trans (hleaves.others j hj.1)
    · obtain rfl | hj := List.mem_cons.1 hj
      · obtain rfl : r = r₀ := Option.some.inj (hr.symm.trans hr₀)
        exact ⟨r', (hall.others _ hnew).trans hleaves.entry, hstops, hkeeps⟩
      · exact hall.entry j hj r₀ ((hothers j hj).trans hr₀)
    · rw [show stopAll answers (id :: ids) m = stopAll answers ids
        ((stopLocked (sessionWithId id)).exec (answers id) m).2 from rfl, hall.ports, hleaves.ports,
        hfreed, List.forall_mem_cons]
      constructor
      · intro h
        obtain ⟨⟨hp, hnot⟩, hids⟩ := h
        refine ⟨hp, fun r₀ hr₀ hstops₀ hmem => ?_, fun j hj r₀ hr₀ => ?_⟩
        · obtain rfl : r = r₀ := Option.some.inj (hr.symm.trans hr₀)
          exact hnot ⟨hstops₀, hmem⟩
        · exact hids j hj r₀ ((hothers j hj).trans hr₀)
      · intro h
        obtain ⟨hp, hself, hids⟩ := h
        refine ⟨⟨hp, fun hmem => hself r hr hmem.1 hmem.2⟩, fun j hj r₀ hr₀ => ?_⟩
        exact hids j hj r₀ ((hothers j hj).symm.trans hr₀)
    · obtain he | he := hall.discarded e he
      · rw [hleaves.discarded] at he
        obtain he | he := List.mem_append.1 he
        · exact .inr (hdropped e he)
        · exact .inl he
      · exact .inr he

/-- **The end of the manager.** From every reachable state in which no known
session has a call in progress, in whatever order the sessions are taken and
whatever their schedulers answer: the ports given back are those of the
sessions whose stop gets past its scheduler. What is destroyed besides what
does not run are the executions of the other sessions, and each of these is:
a throw keeps no other session from being stopped, and saves no scheduler. -/
theorem manager_shut_down (y : Yaml) {s : Managers} (h : (managerRuns y).Reachable s)
    (hidle : ∀ id ∈ s.shared.resources.keys, s.running id = none) (answers : Answers)
    {order : List Str} (horder : order.Perm s.shared.resources.keys) :
    let m' := s.shared.shutDown answers order
    (∀ p, p ∈ m'.allocatedPorts ↔ p ∈ s.shared.allocatedPorts ∧
      ∀ id r, s.shared.resources.lookup id = some r → Stops (answers id) r →
        p ∉ r.streamBindings.map (·.internal.port)) ∧
    (∀ e ∈ m'.discarded, e ∈ s.shared.discarded ∨ (e.running = false ∧ e.started = false) ∨
      ∃ id r, s.shared.resources.lookup id = some r ∧ ¬ Stops (answers id) r ∧
        r.execution = some e) ∧
    ∀ id r e, s.shared.resources.lookup id = some r → ¬ Stops (answers id) r →
      r.execution = some e → e ∈ m'.discarded := by
  intro m'
  have hknown : ∀ id r, s.shared.resources.lookup id = some r → id ∈ order := by
    intro id r hr
    refine horder.mem_iff.2 (AList.mem_keys.1 (AList.lookup_isSome.1 ?_))
    rw [hr]
    rfl
  have hentry : ∀ id ∈ order, ∃ r, s.shared.resources.lookup id = some r ∧
      ∀ e, r.execution = some e → e.started = e.running := by
    intro id hid
    have hkey := horder.mem_iff.1 hid
    obtain ⟨r, hr⟩ := Option.isSome_iff_exists.1
      (AList.lookup_isSome.2 (AList.mem_keys.2 hkey))
    have hcalm : Calm (viewOf id s.shared) := by
      have hloc := ((managerRuns_inductive y).reachable h).loc id
      simpa only [Pool.Local, hidle id hkey] using hloc
    exact ⟨r, hr, (hcalm r hr).started⟩
  have hall := stopAll_allStopped answers (horder.nodup_iff.2 s.shared.resources.nodupKeys) hentry
  refine ⟨fun p => ?_, fun e he => ?_, fun id r e hr hstops he => ?_⟩
  · rw [show m'.allocatedPorts = (stopAll answers order s.shared).allocatedPorts from rfl,
      hall.ports]
    exact and_congr_right fun _ => ⟨fun hfree id r hr => hfree id (hknown id r hr) r hr,
      fun hfree id _ r hr => hfree id r hr⟩
  · obtain hleft | hgone := List.mem_append.1 he
    · obtain ⟨id, hid, he⟩ := List.mem_flatMap.1 hleft
      obtain ⟨r, hr, -⟩ := hentry id hid
      obtain ⟨r', hr', hstops, hkeeps⟩ := hall.entry id hid r hr
      have hexecution : r'.execution = some e := by
        simpa [Manager.executions, hr'] using he
      have hnot : ¬ Stops (answers id) r := fun hyes => by
        rw [hstops hyes] at hexecution
        cases hexecution
      exact .inr (.inr ⟨id, r, hr, hnot, (hkeeps hnot).symm.trans hexecution⟩)
    · exact (hall.discarded e hgone).imp_right .inl
  · obtain ⟨r', hr', -, hkeeps⟩ := hall.entry id (hknown id r hr) r hr
    refine List.mem_append_left _ (List.mem_flatMap.2 ⟨id, hknown id r hr, ?_⟩)
    simp [Manager.executions, hr', hkeeps hstops, he]

/-- A stop was cut off before: the manager goes while the scheduler runs, though
the scheduler would stop. -/
theorem left_stopping_destroyed : ∃ e,
    e ∈ (leftStopping.shared.shutDown (fun _ => granting 40000) [str "a"]).discarded ∧
      e.running = true := by
  have hrunning : ((leftStopping.shared.resources.lookup (str "a")).bind (·.execution)).map
      (·.running) = some true := by decide +kernel
  have hphase : (leftStopping.shared.resources.lookup (str "a")).map (·.lifecyclePhase) =
      some .stopping := by decide +kernel
  obtain ⟨e, he, hrun⟩ := Option.map_eq_some_iff.1 hrunning
  obtain ⟨r, hr, he⟩ := Option.bind_eq_some_iff.1 he
  have hkeys : leftStopping.shared.resources.keys = [str "a"] := by decide +kernel
  have hidle : (leftStopping.running (str "a")).isNone = true := by decide +kernel
  have hreachable : (managerRuns (readingSinks oneSink)).Reachable leftStopping :=
    reachable_of_afterRun (Option.some_get _).symm
  have horder : [str "a"].Perm leftStopping.shared.resources.keys := by rw [hkeys]
  refine ⟨e, (manager_shut_down (readingSinks oneSink) hreachable ?_ (fun _ => granting 40000)
    horder).2.2 (str "a") r e hr ?_ he, hrun⟩
  · intro id hid
    rw [hkeys, List.mem_singleton] at hid
    subst hid
    simpa using hidle
  · intro hstops
    rw [hr] at hphase
    obtain hnone | ⟨hnot, -⟩ := hstops
    · rw [hnone] at he
      cases he
    · exact hnot (Option.some.inj hphase)

end Gr4cp.Runtime

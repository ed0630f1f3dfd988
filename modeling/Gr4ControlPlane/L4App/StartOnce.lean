import Gr4ControlPlane.L4App.OperationSteps

/-!
# No scheduler is started twice

`start` returns early only for an execution that runs at phase `Running`. A
`stop` whose `scheduler->stop()` throws leaves phase `Failed` with the
execution still marked running; the service records state `Error`, from which
a session may be started again, and `prepare` keeps the execution it finds.
So the scheduler is started a second time.

* `op_fresh`: every other operation starts a scheduler only when it has not
  been started, or has been stopped since.
* `started_once`: so does every run in which no session left in that state is
  started again.
* `startedTwice`: the run in which one is.
-/
namespace Gr4cp.App

open Gr4cp.Core Gr4cp.Domain Gr4cp.Storage Gr4cp.Runtime

/-- The scheduler may be started. -/
def Fresh (r : SessionRuntimeResources) : Prop :=
  ∀ e, r.execution = some e → e.running = false ∧ e.started = false

def freshStarts : Guard where
  mayStart := Fresh
  stopEnds _ := True

/-- What an operation leaves: the flag says whether the scheduler was started
and not stopped, and if so the phase is `Running` or what a stop that threw
has set. -/
def Accounted (v : Option SessionRuntimeResources) : Prop :=
  ∀ r e, v = some r → r.execution = some e → e.started = e.running ∧
    (e.running = true → r.lifecyclePhase = .running ∨ r.lifecyclePhase = .failed ∨
      r.lifecyclePhase = .stopping)

/-- A stop of the scheduler threw, and it is still marked running. -/
def LeftRunning (v : Option SessionRuntimeResources) : Prop :=
  ∃ r e, v = some r ∧ r.execution = some e ∧ e.running = true ∧ r.lifecyclePhase = .failed

/-! ## The calls of each operation -/

section Calls

variable {y : Yaml} {session : Session} {v : Option SessionRuntimeResources}
  {r r' : SessionRuntimeResources} {es : List Offer}

theorem accounted_of_none (h : r.execution = none) : Accounted (some r) := by
  rintro _ e ⟨⟩ he
  rw [h] at he
  cases he

theorem not_leftRunning_of_none (h : r.execution = none) : ¬ LeftRunning (some r) := by
  rintro ⟨_, e, ⟨⟩, he, -⟩
  rw [h] at he
  cases he

theorem Accounted.sameLife (h : Accounted (some r)) (hlife : SameLife r r') :
    Accounted (some r') := by
  rintro _ e ⟨⟩ he
  rw [hlife.phase]
  exact h r e rfl (hlife.execution ▸ he)

/-- A new execution has not been started. -/
theorem accounted_prepared (r : SessionRuntimeResources) (bindings : List RuntimeStreamBinding) :
    Accounted (some (prepared r bindings)) := by
  rintro _ e ⟨⟩ ⟨⟩
  exact ⟨rfl, by rintro ⟨⟩⟩

theorem not_leftRunning_prepared (r : SessionRuntimeResources)
    (bindings : List RuntimeStreamBinding) : ¬ LeftRunning (some (prepared r bindings)) := by
  rintro ⟨_, e, ⟨⟩, -, -, ⟨⟩⟩

/-- What the tests of `start` let through is fresh, but for one case. -/
theorem fresh_of_not_alreadyRuns (h : Accounted (some r)) (hleft : ¬ LeftRunning (some r))
    (hphase : r.lifecyclePhase ≠ .stopping) (hnot : ¬ r.alreadyRuns) : Fresh r := by
  intro e he
  obtain ⟨hstarted, hrunning⟩ := h r e rfl he
  have hidle : e.running = false := by
    by_contra hrun
    rw [Bool.not_eq_false] at hrun
    rcases hrunning hrun with hph | hph | hph
    · exact hnot ⟨⟨e, he, hrun⟩, hph⟩
    · exact hleft ⟨r, e, rfl, he, hrun, hph⟩
    · exact hphase hph
  exact ⟨hidle, hstarted.trans hidle⟩

theorem startLocked_fresh
    {post : List Offer → Except Exn Unit → Option SessionRuntimeResources → Prop}
    (h : Accounted (some r)) (hleft : ¬ LeftRunning (some r))
    (hpost : ∀ result v', Accounted v' → post es result v') :
    Steps session.id freshStarts es (some r) (startLocked session) post := by
  refine startLocked_steps (fun hphase hnot => ?_) (fun _ => hpost _ _ h) (fun _ => hpost _ _ ?_)
    (fun _ => hpost _ _ h) fun hphase hnot _ => hpost _ _ ?_
  · have hfresh : Fresh r := fresh_of_not_alreadyRuns h hleft hphase hnot
    exact hfresh
  · rintro _ e ⟨⟩ he
    obtain ⟨_, -, rfl⟩ := Option.map_eq_some_iff.1 he
    exact ⟨rfl, fun _ => .inl rfl⟩
  · -- nothing was running, and nothing is
    rintro _ e ⟨⟩ he
    obtain ⟨hidle, hstarted⟩ := fresh_of_not_alreadyRuns h hleft hphase hnot e he
    exact ⟨hstarted.trans hidle.symm, fun hrun => absurd hrun (by simp [hidle])⟩

/-- A last call that leaves its entry accounted for. -/
theorem lastCall_fresh {id : Str} {prog : Rt Unit}
    (h : ∀ post : List Offer → Except Exn Unit → Option SessionRuntimeResources → Prop,
      (∀ es' result v', Accounted v' → post es' result v') → Steps id freshStarts es v prog post) :
    Steps id freshStarts es v (prog >>= fun _ => callAll y []) fun _ _ v' => Accounted v' := by
  refine Prog.watches_bind (h _ fun es' result v' hv => ?_)
  cases result with
  | error e => exact hv
  | ok _ => exact Prog.watches_pure hv

theorem start_fresh (h : Accounted (some r)) (hleft : ¬ LeftRunning (some r)) :
    Steps session.id freshStarts es (some r) (callAll y [(.start, session)])
      fun _ _ v' => Accounted v' := by
  refine lastCall_fresh fun post hpost => ?_
  refine start_steps rfl (fun _ _ => ?_) (fun _ _ bindings _ => ?_) fun e es' r' hlife => ?_
  · exact startLocked_fresh h hleft (hpost es)
  · exact startLocked_fresh (accounted_prepared _ _) (not_leftRunning_prepared _ _) (hpost _)
  · exact hpost _ _ _ (h.sameLife hlife)

theorem prepareStart_fresh (h : Accounted v) (hleft : ¬ LeftRunning v) :
    Steps session.id freshStarts es v (callAll y [(.prepare, session), (.start, session)])
      fun _ _ v' => Accounted v' := by
  have hr : Accounted (some (v.getD { sessionId := session.id })) :=
    entry_getD (accounted_of_none rfl) h
  have hnot : ¬ LeftRunning (some (v.getD { sessionId := session.id })) :=
    entry_getD (P := fun v => ¬ LeftRunning v) (not_leftRunning_of_none rfl) hleft
  refine Prog.watches_bind (prepare_steps rfl (fun _ _ => ?_) (fun _ _ bindings _ => ?_)
    fun _ _ _ hlife => hr.sameLife hlife)
  · exact start_fresh hr hnot
  · exact start_fresh (accounted_prepared _ _) (not_leftRunning_prepared _ _)

theorem stopThrows_accounted (h : Accounted (some r)) :
    StopThrows freshStarts r fun _ r' => Accounted (some r') where
  busy _ _ := h
  scheduler _ _ _ r' hexecution _ hcut := by
    rintro _ e ⟨⟩ he
    obtain ⟨hstarted, -⟩ := h r e rfl (hexecution ▸ he)
    refine ⟨hstarted, fun _ => .inr ?_⟩
    exact hcut.imp_right And.left
  async _ _ _ hexecution _ _ := accounted_of_none hexecution

theorem stop_fresh {todo : List (RtCall × Session)} (h : Accounted v)
    (hnext : ∀ v', Accounted v' →
      Steps session.id freshStarts es v' (callAll y todo) fun _ _ v' => Accounted v') :
    Steps session.id freshStarts es v (callAll y ((.stop, session) :: todo))
      fun _ _ v' => Accounted v' := by
  refine Prog.watches_bind (stop_steps (fun _ => ?_) (fun _ r' _ hexecution _ _ => ?_)
    fun r hr => stopThrows_accounted (hr ▸ h))
  · exact hnext none (by rintro _ _ ⟨⟩)
  · exact hnext (some r') (accounted_of_none hexecution)

/-- `destroy` leaves no entry, so that what follows begins anew. -/
theorem destroy_fresh {todo : List (RtCall × Session)} (h : Accounted v)
    (hnext : Steps session.id freshStarts es none (callAll y todo) fun _ _ v' => Accounted v') :
    Steps session.id freshStarts es v (callAll y ((.destroy, session) :: todo))
      fun _ _ v' => Accounted v' :=
  Prog.watches_bind (destroy_steps hnext fun _ hr => stopThrows_accounted (hr ▸ h))

theorem stopFirst_fresh (todo : Session → List (RtCall × Session)) (h : Accounted v)
    (hnext : ∀ session' v', Accounted v' →
      Steps session'.id freshStarts es v' (callAll y (todo session')) fun _ _ v' => Accounted v') :
    Steps session.id freshStarts es v
      (callAll y ((stopFirst session).1 ++ todo (stopFirst session).2))
      fun _ _ v' => Accounted v' :=
  stopFirst_steps Accounted todo h (fun _ => accounted_of_none)
    (fun _ hr => stopThrows_accounted (hr ▸ h)) fun session' v' _ => hnext session' v'

/-- Every operation, a `start` only of a session not left running. -/
theorem op_fresh (op : Op) (h : Accounted v) (hleft : op = .start → ¬ LeftRunning v) :
    Steps session.id freshStarts es v (callAll y (op.calls session)) fun _ _ v' => Accounted v' := by
  have hnone : Accounted none := by rintro _ _ ⟨⟩
  cases op with
  | start => exact prepareStart_fresh h (hleft rfl)
  | stop => exact stop_fresh h fun _ hv => Prog.watches_pure hv
  | restart =>
    refine stopFirst_fresh (fun s => [(.destroy, s), (.prepare, s), (.start, s)]) h
      fun session' v' hv => ?_
    exact destroy_fresh hv (prepareStart_fresh hnone (by rintro ⟨_, _, ⟨⟩, -⟩))
  | remove =>
    refine stopFirst_fresh (fun s => [(.destroy, s)]) h fun session' v' hv => ?_
    exact destroy_fresh hv (Prog.watches_pure hnone)

end Calls

/-! ## Runs -/

/-- The session whose scheduler the next step of a client starts. -/
def Client.startsScheduler : Client Manager GrCall Answer → Option Str
  | .calling _ _ arg (.ask .schedulerStart _) _ => some arg.id
  | _ => none

/-- A `start` is admitted for a session whose scheduler a failed stop left
running. -/
def StartsLeftRunning (s : Composed) (l : Lbl GrCall Answer) : Prop :=
  ∃ c id session, l = .begin c .start id ∧
    (s.service.admitOp .start id).1 = .ok (.admitted session) ∧
    LeftRunning (s.runtime.resources.lookup id)

theorem freshStarts_inductive (y : Yaml) :
    ((composedRuns y).restrict fun s l => ¬ StartsLeftRunning s l).Inductive
      (AllWatched y freshStarts Accounted) where
  init := by
    intro s hs
    refine ⟨(joint_inductive y).init s hs, ?_, ?_⟩ <;> cases hs
    · rintro id - r e ⟨⟩
    · exact fun c => ⟨[], trivial⟩
  step := by
    intro s l s' h ⟨hstep, hleft⟩
    refine h.step (fun _ => trivial) (h.joint.consistent.moves hstep)
      fun c op id session hl hadmitted hid hfree => ?_
    subst hid
    refine op_fresh op (h.rest _ hfree) fun hop hrunning => hleft ?_
    subst hop
    exact ⟨c, session.id, session, hl, hadmitted, hrunning⟩

/-- **No second start.** In every run in which no session is started again
whose scheduler a failed stop has left running: a scheduler about to be
started has not been started, or has been stopped since. -/
theorem started_once (y : Yaml) (s : Composed)
    (h : ((composedRuns y).restrict fun s l => ¬ StartsLeftRunning s l).Reachable s) (c : Nat)
    (id : Str) (hc : (s.clients c).startsScheduler = some id) :
    ∀ r e, s.runtime.resources.lookup id = some r → r.execution = some e →
      e.running = false ∧ e.started = false := by
  have hI := (freshStarts_inductive y).reachable h
  obtain ⟨es, hw⟩ := hI.inOp c
  have hargs := hI.joint.consistent.args c
  intro r e hr
  unfold Client.startsScheduler at hc
  split at hc
  · rename_i t call arg n todo hclient
    cases hc
    rw [hclient] at hw hargs
    have hid : arg.id = t.id := hargs.1
    have hmay : (entryWatch t.id freshStarts).may .schedulerStart _ := hw.1
    exact hmay rfl r (hid ▸ hr) e
  · cases hc

theorem not_startsLeftRunning {s : Composed} {l : Lbl GrCall Answer}
    (h : ∀ c id, l = .begin c .start id → s.runtime.resources.lookup id = none) :
    ¬ StartsLeftRunning s l := by
  rintro ⟨c, id, session, rfl, -, r, e, hr, -⟩
  rw [h c id rfl] at hr
  cases hr

/-! ## Two runs -/

def createSink : List (Lbl GrCall Answer) :=
  [.create (str "demo") (sinksText oneSink) none [1] 0]

theorem createSink_isSome : (composedRun createSink).isSome = true := by decide +kernel

def sinkCreated : Composed := (composedRun createSink).get createSink_isSome

/-- A start, up to the call of the scheduler. -/
def untilStart : List (Lbl GrCall Answer) :=
  .begin 0 .start firstId :: List.replicate 18 (.runtime 0 (granting 40000))

theorem untilStart_isSome :
    (LTS.runFn (Sys.step (gr4Runtime (readingSinks oneSink))) sinkCreated untilStart).isSome =
      true := by decide +kernel

def aboutToStart : Composed :=
  (LTS.runFn (Sys.step (gr4Runtime (readingSinks oneSink))) sinkCreated untilStart).get
    untilStart_isSome

theorem aboutToStart_reachable :
    ((composedRuns (readingSinks oneSink)).restrict fun s l => ¬ StartsLeftRunning s l).Reachable
      aboutToStart := by
  have hcreate : (composedRuns (readingSinks oneSink)).Run _ createSink sinkCreated :=
    LTS.run_of_runFn _ _ _ (Option.some_get _).symm
  have hstart : (composedRuns (readingSinks oneSink)).Run sinkCreated untilStart aboutToStart :=
    LTS.run_of_runFn _ _ _ (Option.some_get _).symm
  refine ⟨_, createSink ++ untilStart, rfl, (hcreate.restrict fun l hl t => ?_).append ?_⟩
  · refine not_startsLeftRunning fun c id heq => ?_
    simp [createSink, heq] at hl
  · cases hstart with
    | cons hstep hrest =>
      refine .cons ⟨hstep, not_startsLeftRunning ?_⟩ (hrest.restrict fun l hl t => ?_)
      · rintro c id ⟨⟩
        have hnone : (sinkCreated.runtime.resources.lookup firstId).isNone = true := by
          decide +kernel
        simpa using hnone
      · refine not_startsLeftRunning fun c id heq => ?_
        simp [heq] at hl

theorem aboutToStart_fresh :
    ∃ r e, aboutToStart.runtime.resources.lookup firstId = some r ∧ r.execution = some e ∧
      e.running = false ∧ e.started = false := by
  have hexecution : ((aboutToStart.runtime.resources.lookup firstId).bind (·.execution)).isSome =
      true := by decide +kernel
  obtain ⟨e, he⟩ := Option.isSome_iff_exists.1 hexecution
  obtain ⟨r, hr, he⟩ := Option.bind_eq_some_iff.1 he
  exact ⟨r, e, hr, he, started_once (readingSinks oneSink) aboutToStart aboutToStart_reachable 0
    firstId (by decide +kernel) r e hr he⟩

/-- Everything succeeds but the stop of the scheduler. -/
def stopFailing : ∀ call, Answer call
  | .schedulerStop => .error (.std (str "busy"))
  | call => granting 40000 call

/-- After a stop that fails the session is started again. -/
def startAgain : List (Lbl GrCall Answer) :=
  startSink ++ [.begin 0 .stop firstId] ++ List.replicate 6 (.runtime 0 stopFailing) ++
    [.fail 0 2, .begin 0 .start firstId] ++ List.replicate 7 (.runtime 0 (granting 40000))

theorem startAgain_isSome : (composedRun startAgain).isSome = true := by decide +kernel

def startedTwice : Composed := (composedRun startAgain).get startAgain_isSome

/-- The scheduler about to be started runs already. -/
theorem startedTwice_running :
    (composedRuns (readingSinks oneSink)).Reachable startedTwice ∧
      (startedTwice.clients 0).startsScheduler = some firstId ∧
      ∃ r e, startedTwice.runtime.resources.lookup firstId = some r ∧ r.execution = some e ∧
        e.running = true ∧ e.started = true := by
  refine ⟨⟨_, startAgain, rfl, LTS.run_of_runFn _ _ _ (Option.some_get _).symm⟩, ?_, ?_⟩
  · decide +kernel
  · have hexecution : ((startedTwice.runtime.resources.lookup firstId).bind (·.execution)) =
        some ⟨true, true⟩ := by decide +kernel
    obtain ⟨r, hr, he⟩ := Option.bind_eq_some_iff.1 hexecution
    exact ⟨r, _, hr, he, rfl, rfl⟩

end Gr4cp.App

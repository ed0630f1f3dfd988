import Gr4ControlPlane.L3Runtime.RuntimeWatch

/-!
# Sessions left in the middle of a teardown

`stop_locked` sets the phase to `Stopping` before it calls
`scheduler->stop()`, and its handler catches `std::exception` only. Any other
throw leaves the phase at `Stopping` with the execution still there, and from
then on `prepare`, `start`, `stop` and `destroy` all refuse.

* `call_steps`: as long as no stop of the scheduler ends so, every call takes
  an entry that is not stuck to one that is not.
* `destroy_succeeds`: from such an entry `destroy` returns once the scheduler
  stops.
* `never_left_stopping`: in every run in which no stop of a session's
  scheduler throws anything but a `std::exception`, the session is never left
  at `Stopping` by a call that has ended.
-/
namespace Gr4cp.Runtime

open Gr4cp.Core Gr4cp.Domain

/-- The entry is neither in a teardown nor carries an error to report. -/
def NotStuck (v : Option SessionRuntimeResources) : Prop :=
  ∀ r, v = some r → r.lifecyclePhase ≠ .stopping ∧ r.asyncError = none

/-- A stop returns or throws a `std::exception`. -/
def knownStops : Guard where
  mayStart _ := True
  stopEnds answer := answer ≠ .error .other

/-- A stop returns. -/
def goodStops : Guard where
  mayStart _ := True
  stopEnds answer := answer = .ok ()

section Calls

variable {y : Yaml} {session : Session} {v : Option SessionRuntimeResources}
  {r : SessionRuntimeResources} {es : List Offer}

theorem notStuck_some (hphase : r.lifecyclePhase ≠ .stopping) (hasync : r.asyncError = none) :
    NotStuck (some r) := by
  rintro _ ⟨⟩
  exact ⟨hphase, hasync⟩

theorem notStuck_sameLife {r' : SessionRuntimeResources} (h : NotStuck (some r))
    (hlife : SameLife r r') : NotStuck (some r') := by
  obtain ⟨hphase, hasync⟩ := h r rfl
  exact notStuck_some (hlife.phase ▸ hphase) (hlife.async.trans hasync)

theorem notStuck_getD (h : NotStuck v) (id : Str) :
    NotStuck (some (v.getD { sessionId := id })) :=
  entry_getD (notStuck_some (by rintro ⟨⟩) rfl) h

/-- A new execution is idle. -/
theorem notStuck_prepared (h : NotStuck (some r)) (bindings : List RuntimeStreamBinding) :
    NotStuck (some (prepared r bindings)) :=
  notStuck_some (by rintro ⟨⟩) (h r rfl).2

theorem stopThrows_notStuck (h : NotStuck (some r)) :
    StopThrows knownStops r fun _ r' => NotStuck (some r') where
  busy hphase := absurd hphase (h r rfl).1
  scheduler _ hends _ _ _ hasync hcut := by
    refine notStuck_some (fun hphase => ?_) (hasync.trans (h r rfl).2)
    rcases hcut with hfailed | ⟨-, rfl⟩
    · rw [hphase] at hfailed
      cases hfailed
    · exact hends rfl
  async hasync := absurd (h r rfl).2 hasync

theorem startLocked_notStuck (h : NotStuck (some r)) :
    Steps session.id knownStops es (some r) (startLocked session) fun _ _ v' => NotStuck v' := by
  refine startLocked_steps (fun _ _ => trivial) (fun _ => h) (fun _ => ?_) (fun _ => h) fun _ _ _ => ?_
  · exact notStuck_some (by rintro ⟨⟩) rfl
  · exact notStuck_some (by rintro ⟨⟩) rfl

/-- Every call keeps the entry from getting stuck. -/
theorem call_steps (y : Yaml) (c : Call) (hv : NotStuck v) :
    Steps c.owner knownStops [] v (c.body y) fun _ _ v' => NotStuck v' := by
  cases c with
  | prepare session =>
    have hr := notStuck_getD hv session.id
    exact prepare_steps rfl (fun _ _ => hr) (fun _ _ bindings _ => notStuck_prepared hr bindings)
      fun _ _ _ hlife => notStuck_sameLife hr hlife
  | start session =>
    have hr := notStuck_getD hv session.id
    refine start_steps rfl (fun _ _ => startLocked_notStuck hr) (fun _ _ bindings _ => ?_)
      fun _ _ _ hlife => notStuck_sameLife hr hlife
    exact startLocked_notStuck (notStuck_prepared hr bindings)
  | stop session =>
    refine stop_steps (fun _ => by rintro _ ⟨⟩) (fun r r' hr _ hphase hasync => ?_) fun r hr => ?_
    · exact notStuck_some (by simp [hphase]) (hasync.trans (hv r hr).2)
    · exact stopThrows_notStuck (hr ▸ hv)
  | destroy session =>
    exact destroy_steps (by rintro _ ⟨⟩) fun r hr => stopThrows_notStuck (hr ▸ hv)

/-- With a scheduler that stops, `destroy` returns and leaves nothing. -/
theorem destroy_succeeds (hv : NotStuck v) :
    Steps session.id goodStops es v (destroy session) fun _ result v' =>
      result = .ok () ∧ v' = none := by
  refine destroy_steps ⟨rfl, rfl⟩ fun r hr => ⟨?_, ?_, ?_⟩
  · exact fun hphase => absurd hphase (hv r hr).1
  · rintro exn ⟨⟩
  · exact fun hasync => absurd (hv r hr).2 hasync

end Calls

/-! ## Runs -/

/-- What the end of a call has to leave. -/
structure Removable (m : Manager) (id : Str) : Prop where
  phase : ∀ r, m.resources.lookup id = some r → r.lifecyclePhase ≠ .stopping
  destroys : ∀ session ans, session.id = id → ans .schedulerStop = .ok () →
    (Prog.exec ans (destroy session) m).1 = .ok () ∧
      (Prog.exec ans (destroy session) m).2.resources.lookup id = none

theorem NotStuck.removable {m : Manager} {id : Str} (h : NotStuck (m.resources.lookup id)) :
    Removable m id where
  phase r hr := (h r hr).1
  destroys session ans hid hstop := by
    subst hid
    have hwatched : (destroy session).Watched (entryWatch session.id goodStops)
        (fun _ result v' => result = .ok () ∧ v' = none) [] m := destroy_succeeds h m rfl
    have hallowed : ∀ call, (entryWatch session.id goodStops).allowed call (ans call) := by
      intro call
      cases call <;> first | exact hstop | trivial
    obtain ⟨-, hresult⟩ := hwatched.exec hallowed
    exact hresult

/-- The step is not the end of a stop of the session's scheduler by a throw
other than a `std::exception`. -/
def StopsKnown (id : Str) (s : Managers) (l : Pool.Lbl Str Call GrCall Answer) : Prop :=
  ∀ ans n, l = .step id ans → s.running id = some (.ask .schedulerStop n) →
    ans .schedulerStop ≠ .error .other

theorem notStuck_inductive (y : Yaml) (id : Str) :
    ((managerRuns y).restrict (StopsKnown id)).Inductive fun s =>
      Pool.Inv viewOf Keep (fun _ => Calm) (fun _ => Always) s ∧
        Pool.WatchedAt (entryWatch id knownStops) NotStuck id s where
  init := by
    intro s hs
    refine ⟨(managerRuns_inductive y).init s hs, ?_⟩
    obtain rfl : s = ⟨Manager.empty, fun _ => none⟩ := hs
    rintro r ⟨⟩
  step := by
    intro s l s' ⟨hI, hW⟩ ⟨hstep, hknown⟩
    refine ⟨(managerRuns_inductive y).step s l s' hI hstep, ?_⟩
    refine Pool.watched_step (fun c v hc hv => ?_) hstep (fun hother => ?_)
      (fun ans call n hl hr => ?_) hW
    · subst hc
      exact call_steps y c hv
    · exact congrArg View.res (hI.step_frame Keep.refl hstep hother)
    · cases call with
      | schedulerStop => exact hknown ans n hl hr
      | _ => trivial

/-- **Nothing is left at `Stopping`.** In every run in which no stop of the
session's scheduler throws anything but a `std::exception`: once a call on the
session has returned or thrown, its phase is not `Stopping`, and a `destroy`
returns, and drops the entry, as soon as the scheduler's stop does. -/
theorem never_left_stopping (y : Yaml) (id : Str) (s : Managers)
    (h : ((managerRuns y).restrict (StopsKnown id)).Reachable s)
    (hend : s.running id = none ∨ ∃ r, s.running id = some (.ret r)) : Removable s.shared id := by
  have hW := ((notStuck_inductive y id).reachable h).2
  rcases hend with hidle | ⟨result, hret⟩
  · simp only [Pool.WatchedAt, hidle] at hW
    exact NotStuck.removable hW
  · simp only [Pool.WatchedAt, hret] at hW
    obtain ⟨es, hwatched⟩ := hW
    exact NotStuck.removable hwatched

/-! ## A stop that throws -/

/-- Everything succeeds but the stop of the scheduler. -/
def stopThrowing (e : Exn) : ∀ call, Answer call
  | .schedulerStop => .error e
  | call => granting 40000 call

/-- A session is started, and then stopped. -/
def startThenStop (e : Exn) (steps : Nat) : List (Pool.Lbl Str Call GrCall Answer) :=
  [.call (.start (sinkSession (str "a") oneSink))] ++
    List.replicate 18 (.step (str "a") (stopThrowing e)) ++
    [.finish (str "a"), .call (.stop (sinkSession (str "a") oneSink))] ++
    List.replicate steps (.step (str "a") (stopThrowing e)) ++ [.finish (str "a")]

/-- The stop ends at phase `Failed`. -/
def stopFails : List (Pool.Lbl Str Call GrCall Answer) :=
  startThenStop (.std (str "stop refused")) 5

theorem stopFails_isSome : (afterRun stopFails).isSome = true := by decide +kernel

def stopFailed : Managers := (afterRun stopFails).get stopFails_isSome

/-- The stop has thrown a `std::exception`; the session can be destroyed. -/
theorem stopFailed_removable :
    (∃ r, stopFailed.shared.resources.lookup (str "a") = some r ∧ r.lifecyclePhase = .failed) ∧
      Removable stopFailed.shared (str "a") := by
  have hphase : (stopFailed.shared.resources.lookup (str "a")).map (·.lifecyclePhase) =
      some .failed := by decide +kernel
  refine ⟨Option.map_eq_some_iff.1 hphase, ?_⟩
  have hknown : ∀ l ∈ stopFails, ∀ t, StopsKnown (str "a") t l := by
    intro l hl t ans n heq _
    simp only [stopFails, startThenStop, List.mem_append, List.mem_cons, List.mem_replicate,
      List.not_mem_nil, or_false] at hl
    rcases hl with (((rfl | ⟨-, rfl⟩) | (rfl | rfl)) | ⟨-, rfl⟩) | rfl <;> cases heq
    all_goals exact nofun
  have hrun : (managerRuns (readingSinks oneSink)).Run ⟨Manager.empty, fun _ => none⟩ stopFails
      stopFailed := LTS.run_of_runFn _ _ _ (Option.some_get _).symm
  refine never_left_stopping (readingSinks oneSink) (str "a") stopFailed
    ⟨_, stopFails, rfl, hrun.restrict hknown⟩ (.inl ?_)
  have hnone : (stopFailed.running (str "a")).isNone = true := by decide +kernel
  simpa using hnone

/-- The stop throws no `std::exception`. -/
def stopCutOff : List (Pool.Lbl Str Call GrCall Answer) := startThenStop .other 4

theorem stopCutOff_isSome : (afterRun stopCutOff).isSome = true := by decide +kernel

def leftStopping : Managers := (afterRun stopCutOff).get stopCutOff_isSome

/-- The stop has thrown; the session stays at `Stopping`, and a `destroy`
throws although the scheduler would stop. -/
theorem leftStopping_stuck :
    (managerRuns (readingSinks oneSink)).Reachable leftStopping ∧
      leftStopping.running (str "a") = none ∧ ¬ Removable leftStopping.shared (str "a") := by
  refine ⟨reachable_of_afterRun (Option.some_get _).symm, ?_, fun h => ?_⟩
  · have hnone : (leftStopping.running (str "a")).isNone = true := by decide +kernel
    simpa using hnone
  · have hphase : (leftStopping.shared.resources.lookup (str "a")).map (·.lifecyclePhase) =
        some .stopping := by decide +kernel
    obtain ⟨r, hr, hstopping⟩ := Option.map_eq_some_iff.1 hphase
    exact h.phase r hr hstopping

end Gr4cp.Runtime

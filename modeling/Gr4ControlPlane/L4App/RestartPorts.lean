import Gr4ControlPlane.L4App.OperationSteps

/-!
# The ports of a restarted session

A restart stops and destroys what runs, which hands the ports back, and
prepares and starts anew. The allocator refuses only ports in use, so a port
just handed back is accepted again if the operating system offers it.

* `restart_steps`: after a restart the ports are the last offers for each
  stream.
* `restart_fresh_iff`: the streams keep their ids and paths; their ports are
  new exactly if no last offer is a port of the generation before.
* `restart_same_port`: the run in which one is.
-/
namespace Gr4cp.App

open Gr4cp.Core Gr4cp.Domain Gr4cp.Storage Gr4cp.Runtime

/-- What a browser knows of a stream. -/
def route (binding : RuntimeStreamBinding) : Str × Str :=
  let browser := toBrowserStreamDescriptor binding.plan
  (browser.id, browser.path)

def bindingPorts (r : SessionRuntimeResources) : List Nat := r.streamBindings.map (·.internal.port)

/-- Client `c` restarts a session, from its admission to its completion. The
operating system makes the offers `es` meanwhile. -/
inductive Restarts (y : Yaml) (c : Nat) (id : Str) (session : Session) (s : Composed)
    (es : List Offer) (s' : Composed) : Prop
  | mk {ls : List (Lbl GrCall Answer)} {s₁ s₂ : Composed} {now : Timestamp}
    (admitted : (s.service.admitOp .restart id).1 = .ok (.admitted session))
    (begins : (composedRuns y).step s (.begin c .restart id) s₁)
    (calls : (composedRuns y).Shows (offered c) s₁ ls s₂ es)
    (inside : ∀ l ∈ ls, ¬ l.ends c)
    (completes : (composedRuns y).step s₂ (.complete c now) s')

/-! ## The calls of a restart -/

/-- Any start, and any end of a stop. -/
def anyGuard : Guard where
  mayStart _ := True
  stopEnds _ := True

/-- The entry holds the ports last offered. -/
def Rebound (es : List Offer) (result : Except Exn Unit) (v : Option SessionRuntimeResources) :
    Prop :=
  result = .ok () → ∃ r, v = some r ∧ lastOffers es = bindingPorts r

section Calls

variable {y : Yaml} {session : Session} {v : Option SessionRuntimeResources}
  {r : SessionRuntimeResources} {es : List Offer}

theorem rebound_error (e : Exn) : Rebound es (.error e) v := by rintro ⟨⟩

theorem rebound_some (h : lastOffers es = bindingPorts r) (result : Except Exn Unit) :
    Rebound es result (some r) := fun _ => ⟨r, rfl, h⟩

theorem stopThrows_rebound : StopThrows anyGuard r fun e r' => Rebound es (.error e) (some r') :=
  .of_forall fun e _ => rebound_error e

/-- Starting what was prepared changes no binding. -/
theorem startPrepared_steps (bindings : List RuntimeStreamBinding)
    (h : lastOffers es = bindings.map (·.internal.port)) :
    Steps session.id anyGuard es (some (prepared r bindings)) (callAll y [(.start, session)])
      Rebound := by
  have hports : lastOffers es = bindingPorts (prepared r bindings) := h
  refine Prog.watches_bind (start_steps rfl (fun _ _ => ?_) (by rintro ⟨⟩)
    fun e _ _ _ => rebound_error e)
  refine startLocked_steps (fun _ _ => trivial) (fun _ => ?_) (fun _ => ?_)
    (fun e => rebound_error e) fun _ _ e => rebound_error e
  · exact Prog.watches_pure (rebound_some hports _)
  · have hstarted : lastOffers es = bindingPorts (started (prepared r bindings)) := h
    exact Prog.watches_pure (rebound_some hstarted _)

theorem prepareNew_steps :
    Steps session.id anyGuard [] none (callAll y [(.prepare, session), (.start, session)])
      Rebound := by
  refine Prog.watches_bind (prepare_steps rfl (by rintro - ⟨⟩) (fun _ new bindings hlast => ?_)
    fun e _ _ _ => rebound_error e)
  exact startPrepared_steps bindings hlast

theorem destroyThenPrepare_steps :
    Steps session.id anyGuard [] v
      (callAll y [(.destroy, session), (.prepare, session), (.start, session)]) Rebound :=
  Prog.watches_bind (destroy_steps prepareNew_steps fun _ _ => stopThrows_rebound)

/-- A restart begins anew, whatever was there. -/
theorem restart_steps (session : Session) (v : Option SessionRuntimeResources) :
    Steps session.id anyGuard [] v (callAll y (Op.restart.calls session)) Rebound :=
  stopFirst_steps (fun _ => True) (fun s => [(.destroy, s), (.prepare, s), (.start, s)]) trivial
    (fun _ _ => trivial) (fun _ _ => stopThrows_rebound) fun _ _ _ _ => destroyThenPrepare_steps

end Calls

/-! ## Two generations -/

section Generations

variable {y : Yaml} {c : Nat} {id : Str} {session : Session} {s s' : Composed} {es : List Offer}

/-- The entry of a session that runs, and the plan it was made from. -/
theorem runs_planned {v : View} (hmade : Made y session v) (hruns : Runs v) :
    ∃ r, v.res = some r ∧ r.streamBindings.map (·.plan) = planStreams y session := by
  obtain ⟨r, e, hr, he, -⟩ := hruns
  exact ⟨r, hr, (hmade r hr).planned e he⟩

theorem routes_of_plans {bindings : List RuntimeStreamBinding}
    {plans : List RuntimeStreamBindingPlan} (h : bindings.map (·.plan) = plans) :
    bindings.map route = plans.map fun plan => (plan.streamId, plan.path) := by
  rw [← h, List.map_map]
  rfl

/-- The generation that is replaced. -/
theorem restart_before (h : Joint y s) (hr : Restarts y c id session s es s')
    (hrunning : session.state = .running) :
    ∃ r, s.runtime.resources.lookup id = some r ∧
      r.streamBindings.map (·.plan) = planStreams y session := by
  obtain ⟨hadmitted, -, -, -, -⟩ := hr
  have hadmits := Service.admit_cases s.service .restart id
  generalize s.service.admitOp .restart id = result at hadmitted hadmits
  cases hadmits with
  | refused e => cases hadmitted
  | returned _ hop => cases hop
  | admitted _ hget hphase =>
    cases hadmitted
    have hagree := h.agree id (h.consistent.free hget hphase)
    rw [hget] at hagree
    exact runs_planned hagree.1 (hagree.2.2 hrunning)

/-- The generation that replaces it. -/
theorem restart_after (h : Joint y s) (hr : Restarts y c id session s es s') :
    ∃ r, s'.runtime.resources.lookup id = some r ∧
      r.streamBindings.map (·.plan) = planStreams y session ∧ bindingPorts r = lastOffers es := by
  obtain ⟨hadmitted, hbegin, hcalls, hinside, hdone⟩ := hr
  have hmoves := h.consistent.moves hbegin
  cases hmoves with
  | refused _ _ _ e hresult =>
    rw [hresult] at hadmitted
    cases hadmitted
  | admitted _ _ _ session' hidle hresult hget hphase =>
    rw [hresult] at hadmitted
    cases hadmitted
    have hid := (h.consistent.kept id session hget).id
    have hjoint := joint_step h (h.consistent.moves hbegin)
    have hwatching : Watching y anyGuard Rebound [] s.runtime
        (proceed (gr4Runtime y) ⟨.restart, id, session⟩ (Op.restart.calls session)) :=
      watching_begin hid (restart_steps session _)
    obtain ⟨hend, hticket⟩ := Watching.run (c := c) (t := ⟨.restart, id, session⟩)
      (fun _ => trivial) hjoint hcalls (by simp [Sys.setClient, proceed_ticket]) hinside
      (by rw [Sys.setClient_self]; exact hwatching)
    have hjoint₂ := (joint_inductive y).run hcalls.run hjoint
    cases hjoint₂.consistent.moves hdone with
    | completed _ _ t service hclient =>
      rw [hclient] at hend hticket
      cases hticket
      obtain ⟨r, hr, hports⟩ := hend rfl
      have hop := hjoint₂.inOp c
      rw [hclient] at hop
      obtain ⟨r', hr', hplans⟩ := runs_planned hop.1 hop.2
      obtain rfl : r = r' := Option.some.inj (hr.symm.trans hr')
      exact ⟨r, hr, hplans, hports.symm⟩

/-- **The ports of a restarted session.** For every running session and every
restart of it that succeeds, whatever the other clients do meanwhile: each
stream keeps its id and its path, and the ports are all new exactly if the
last offer of the operating system for each stream, the one the allocator
accepts, is not a port of the generation replaced. -/
theorem restart_fresh_iff (y : Yaml) (c : Nat) (id : Str) (session : Session) (s s' : Composed)
    (es : List Offer) (h : (composedRuns y).Reachable s) (hrunning : session.state = .running)
    (hr : Restarts y c id session s es s') :
    ∃ old new, s.runtime.resources.lookup id = some old ∧
      s'.runtime.resources.lookup id = some new ∧
      new.streamBindings.map route = old.streamBindings.map route ∧
      ((∀ port ∈ bindingPorts new, port ∉ bindingPorts old) ↔
        ∀ port ∈ lastOffers es, port ∉ bindingPorts old) := by
  have hjoint := (joint_inductive y).reachable h
  obtain ⟨old, hold, holdPlans⟩ := restart_before hjoint hr hrunning
  obtain ⟨new, hnew, hnewPlans, hports⟩ := restart_after hjoint hr
  refine ⟨old, new, hold, hnew, ?_, by rw [hports]⟩
  rw [routes_of_plans holdPlans, routes_of_plans hnewPlans]

theorem restarts_of_run {ls : List (Lbl GrCall Answer)} {now : Timestamp}
    (hadmitted : (s.service.admitOp .restart id).1 = .ok (.admitted session))
    (hinside : ∀ l ∈ ls, ¬ l.ends c)
    (hrun : (composedRuns y).Run s ([.begin c .restart id] ++ (ls ++ [.complete c now])) s') :
    ∃ es, Restarts y c id session s es s' := by
  obtain ⟨s₁, hbegin, hrest⟩ := hrun.split
  obtain ⟨s₂, hcalls, hdone⟩ := hrest.split
  obtain ⟨es, hshows⟩ := hcalls.shows (offered c)
  cases hbegin with
  | cons hbegin hnil =>
    cases hnil
    cases hdone with
    | cons hdone hnil =>
      cases hnil
      exact ⟨es, hadmitted, hbegin, hshows, hinside, hdone⟩

end Generations

/-! ## Two runs -/

/-- The session that runs on port 40000 is restarted, and `port` is offered
throughout. -/
def restartWith (port : Nat) : List (Lbl GrCall Answer) :=
  [.begin 0 .restart firstId] ++ (List.replicate 46 (.runtime 0 (granting port)) ++ [.complete 0 2])

def afterRestart (port : Nat) : Option Composed :=
  LTS.runFn (Sys.step (gr4Runtime (readingSinks oneSink))) sinkRunning (restartWith port)

theorem sinkRunning_admits :
    (sinkRunning.service.admitOp .restart firstId).1 = .ok (.admitted runningSink) := by
  have hget : sinkRunning.service.repository.get firstId = some runningSink := by decide +kernel
  have hphase : sinkRunning.service.phaseForLocked runningSink = .running := by decide +kernel
  simp [Service.admitOp, Service.admitRestart, Service.admitUnlessBusy, Service.loadOrThrow, hget,
    hphase]

theorem sinkRunning_restarts {port : Nat} {s' : Composed} (h : afterRestart port = some s') :
    ∃ es, Restarts (readingSinks oneSink) 0 firstId runningSink sinkRunning es s' := by
  refine restarts_of_run sinkRunning_admits (fun l hl => ?_) (LTS.run_of_runFn _ _ _ h)
  obtain ⟨-, rfl⟩ := List.mem_replicate.1 hl
  exact fun h => h

def portsOf (s : Composed) : Option (List Nat) :=
  (s.runtime.resources.lookup firstId).map bindingPorts

theorem newPort_isSome : (afterRestart 40001).isSome = true := by decide +kernel

theorem sinkRunning_fresh_iff :
    ∃ es, Restarts (readingSinks oneSink) 0 firstId runningSink sinkRunning es
        ((afterRestart 40001).get newPort_isSome) ∧
      ∃ old new, sinkRunning.runtime.resources.lookup firstId = some old ∧
        ((afterRestart 40001).get newPort_isSome).runtime.resources.lookup firstId = some new ∧
        new.streamBindings.map route = old.streamBindings.map route ∧
        ((∀ port ∈ bindingPorts new, port ∉ bindingPorts old) ↔
          ∀ port ∈ lastOffers es, port ∉ bindingPorts old) := by
  obtain ⟨es, hes⟩ := sinkRunning_restarts (Option.some_get newPort_isSome).symm
  exact ⟨es, hes, restart_fresh_iff (readingSinks oneSink) 0 firstId runningSink sinkRunning _ es
    ⟨_, startSink, rfl, sinkRunning_run⟩ rfl hes⟩

theorem samePort_isSome : (afterRestart 40000).isSome = true := by decide +kernel

/-- Port 40000 is offered again, and is the port of the new generation. -/
theorem restart_same_port :
    (composedRuns (readingSinks oneSink)).Reachable sinkRunning ∧
      (∃ es, Restarts (readingSinks oneSink) 0 firstId runningSink sinkRunning es
        ((afterRestart 40000).get samePort_isSome)) ∧
      portsOf sinkRunning = some [40000] ∧
      portsOf ((afterRestart 40000).get samePort_isSome) = some [40000] :=
  ⟨⟨_, startSink, rfl, sinkRunning_run⟩, sinkRunning_restarts (Option.some_get _).symm,
    by decide +kernel, by decide +kernel⟩

end Gr4cp.App

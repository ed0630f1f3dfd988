import Gr4ControlPlane.L3Runtime.PortSafety
import Gr4ControlPlane.L4App.SessionLifecycle

/-!
# The session service over the GNU Radio runtime manager

The composed system: clients of `SessionService` whose runtime calls are the
programs of `Gr4RuntimeManager`, interleaved step by step, every answer of
GNU Radio and of the operating system free.

`Joint` relates the two levels. For a session without an operation in
progress the record and the manager's entry `Agree`: stopped means unbound,
running means running, not stored means no entry. For a client in an
operation, what is left of its calls ends in a view that agrees with the
record its last section will store, whatever the other clients do meanwhile
(`Sat`).

* `levels_agree`: the two levels agree in every reachable state, and no
  execution was ever dropped whose scheduler had been started and not
  stopped.
-/
namespace Gr4cp.App

open Gr4cp.Core Gr4cp.Domain Gr4cp.Storage Gr4cp.Runtime

/-- The calls of `Gr4RuntimeManager`. -/
def gr4Runtime (y : Yaml) : RuntimeManager Manager GrCall Answer where
  call
    | .prepare, session => Runtime.prepare y session
    | .start, session => Runtime.start y session
    | .stop, session => Runtime.stop session
    | .destroy, session => Runtime.destroy session

abbrev Composed := Sys Manager GrCall Answer

/-- The service over a new runtime manager. -/
def composedRuns (y : Yaml) : LTS Composed (Lbl GrCall Answer) :=
  Sys.runs (gr4Runtime y) Manager.empty

/-! ## The relation between the levels -/

/-- The entry was made from the plan of `session`. -/
abbrev Made (y : Yaml) (session : Session) : View → Prop := Settled (· = planStreams y session)

/-- The stored session and the manager's entry, between operations. -/
def Agree (y : Yaml) (stored : Option Session) (v : View) : Prop :=
  match stored with
  | none => v.res = none
  | some session =>
    Made y session v ∧ (session.state = .stopped → Unbound v) ∧ (session.state = .running → Runs v)

/-- What the calls of an operation leave when they return. -/
def OpDone (y : Yaml) (t : Ticket) (v : View) : Prop :=
  match t.op with
  | .start | .restart => Made y t.admitted v ∧ Runs v
  | .stop => Made y t.admitted v ∧ Unbound v
  | .remove => v.res = none

/-- What they leave when they return or throw. -/
def OpEnd (y : Yaml) (t : Ticket) (result : Except Exn Unit) (v : View) : Prop :=
  match result with
  | .ok _ => OpDone y t v
  | .error _ => Made y t.admitted v

/-- Calls made one after the other. -/
def callAll (y : Yaml) : List (RtCall × Session) → Rt Unit
  | [] => pure ()
  | (call, arg) :: todo => do
    (gr4Runtime y).call call arg
    callAll y todo

/-- What holds for a client in an operation. -/
def InOp (y : Yaml) (m : Manager) : Client Manager GrCall Answer → Prop
  | .idle => True
  | .calling t _ _ prog todo =>
    (prog >>= fun _ => callAll y todo).Sat viewOf (Keep t.id) t.id (OpEnd y t) m
  | .failing t _ _ => Made y t.admitted (viewOf t.id m)
  | .completing t => OpDone y t (viewOf t.id m)

structure Joint (y : Yaml) (s : Composed) : Prop where
  consistent : Consistent s
  agree : ∀ id, Free s id → Agree y (s.service.repository.get id) (viewOf id s.runtime)
  inOp : ∀ c, InOp y s.runtime (s.clients c)
  discarded : ∀ e ∈ s.runtime.discarded, e.running = false ∧ e.started = false

/-! ## The calls of each operation -/

section Operations

variable {y : Yaml} {session : Session} {v : View}

theorem prepareStart_spec {post : Except Exn Unit → View → Prop} (hv : Made y session v)
    (hok : ∀ v', Made y session v' → Runs v' → post (.ok ()) v')
    (herr : ∀ e v', Made y session v' → post (.error e) v') :
    Does session.id v (callAll y [(.prepare, session), (.start, session)]) post := by
  refine Prog.spec_bind (prepare_spec hv rfl fun result v₁ h₁ => ?_)
  cases result with
  | error e => exact herr e v₁ h₁
  | ok _ =>
    refine Prog.spec_bind (start_spec h₁ rfl (fun v₂ h₂ hruns => ?_) herr)
    exact Prog.spec_pure (hok v₂ h₂ hruns)

/-- `destroy`, and what comes after it. -/
theorem destroyThen_spec {todo : List (RtCall × Session)} {post : Except Exn Unit → View → Prop}
    (hv : Made y session v) (hnext : ∀ owned, Does session.id ⟨none, owned⟩ (callAll y todo) post)
    (herr : ∀ e v', Made y session v' → post (.error e) v') :
    Does session.id v (callAll y ((.destroy, session) :: todo)) post :=
  Prog.spec_bind (destroy_spec hv hnext herr)

/-- The stop that `restart` and `remove` begin with changes neither the id
nor the content of the session they go on with. -/
theorem stopFirst_spec (todo : Session → List (RtCall × Session))
    {post : Except Exn Unit → View → Prop} (hv : Made y session v)
    (hnext : ∀ session' v', session'.id = session.id →
      planStreams y session' = planStreams y session → Made y session v' →
      Does session.id v' (callAll y (todo session')) post)
    (herr : ∀ e v', Made y session v' → post (.error e) v') :
    Does session.id v (callAll y ((stopFirst session).1 ++ todo (stopFirst session).2)) post := by
  unfold stopFirst
  split
  · refine Prog.spec_bind (stop_spec hv (fun v' h _ => ?_) herr)
    exact hnext { session with state := .stopped } v' rfl rfl h
  · exact hnext session v rfl rfl hv

/-- Every operation, from a session that agrees with its record. -/
theorem op_spec (op : Op) (hv : Made y session v) :
    Does session.id v (callAll y (op.calls session)) (OpEnd y ⟨op, session.id, session⟩) := by
  cases op with
  | start => exact prepareStart_spec hv (fun v' h hruns => ⟨h, hruns⟩) fun _ _ h => h
  | stop =>
    refine Prog.spec_bind (stop_spec hv (fun v' h hunbound => ?_) fun _ _ h => h)
    exact Prog.spec_pure ⟨h, hunbound⟩
  | restart =>
    refine stopFirst_spec (fun s => [(.destroy, s), (.prepare, s), (.start, s)]) hv
      (fun session' v' hid hplan h => ?_) fun _ _ h => h
    have hmade : ∀ {v}, Made y session' v ↔ Made y session v := by
      intro v
      simp only [Made, hplan]
    rw [← hid]
    refine destroyThen_spec (hmade.2 h) (fun owned => ?_) fun _ _ h => hmade.1 h
    refine prepareStart_spec (settled_none _ owned) (fun v' h hruns => ?_) fun _ _ h => hmade.1 h
    exact ⟨hmade.1 h, hruns⟩
  | remove =>
    refine stopFirst_spec (fun s => [(.destroy, s)]) hv
      (fun session' v' hid hplan h => ?_) fun _ _ h => h
    have hmade : ∀ {v}, Made y session' v ↔ Made y session v := by
      intro v
      simp only [Made, hplan]
    rw [← hid]
    exact destroyThen_spec (hmade.2 h) (fun owned => Prog.spec_pure rfl) fun _ _ h => hmade.1 h

end Operations

/-! ## The steps -/

section Steps

variable {y : Yaml} {s s' : Composed}

/-- A client keeps its assertion while its view stays as it is. -/
theorem InOp.frame {m m' : Manager} {client : Client Manager GrCall Answer} (h : InOp y m client)
    (hv : ∀ t, client.ticket = some t → viewOf t.id m' = viewOf t.id m) : InOp y m' client := by
  cases client with
  | idle => trivial
  | calling t call arg prog todo => exact Prog.Sat.congr h (hv t rfl)
  | failing t arg message => simpa only [InOp, hv t rfl] using h
  | completing t => simpa only [InOp, hv t rfl] using h

theorem inOp_proceed {m : Manager} {t : Ticket} {calls : List (RtCall × Session)}
    (h : (callAll y calls).Sat viewOf (Keep t.id) t.id (OpEnd y t) m) :
    InOp y m (proceed (gr4Runtime y) t calls) := by
  rcases calls with _ | ⟨⟨call, arg⟩, todo⟩ <;> exact h

theorem agree_completed {t : Ticket} {v : View} (now : Timestamp) (h : OpDone y t v) :
    Agree y (t.op.completed t.admitted now) v := by
  unfold OpDone at h
  cases hop : t.op <;> rw [hop] at h
  · exact ⟨h.1, by rintro ⟨⟩, fun _ => h.2⟩
  · exact ⟨h.1, fun _ => h.2, by rintro ⟨⟩⟩
  · exact ⟨h.1, by rintro ⟨⟩, fun _ => h.2⟩
  · exact h

/-- A new session is not bound to anything, as nothing was kept for its id. -/
theorem Joint.store (h : Joint y s) (session : Session)
    (hget : s.service.repository.get session.id = none) (hstate : session.state = .stopped)
    (hc : Consistent { s with service := s.service.stored session.id session .idle }) :
    Joint y { s with service := s.service.stored session.id session .idle } := by
  refine ⟨hc, fun id hfree => ?_, h.inOp, h.discarded⟩
  have hold := h.agree id hfree
  by_cases hid : id = session.id
  · subst hid
    simp only [hget, Agree] at hold
    have hnone : ∀ r, (viewOf session.id s.runtime).res ≠ some r := by simp [hold]
    simp only [Service.stored_get, Agree]
    refine ⟨fun r hr => (hnone r hr).elim, fun _ r hr => (hnone r hr).elim, fun hrun => ?_⟩
    rw [hstate] at hrun
    cases hrun
  · have := (Service.stored_agreeOff s.service session.id session .idle id hid).1
    simpa only [this] using hold

/-- A client enters an operation on a session that is free. -/
theorem Joint.enter {c : Nat} {op : Op} {id : Str} {session : Session} (h : Joint y s)
    (hc : s.clients c = .idle) (hget : s.service.repository.get id = some session)
    (hfree : Free s id)
    (hcons : Consistent ({ s with service := s.service.setPhase id op.busyPhase }.setClient c
      (proceed (gr4Runtime y) ⟨op, id, session⟩ (op.calls session)))) :
    Joint y ({ s with service := s.service.setPhase id op.busyPhase }.setClient c
      (proceed (gr4Runtime y) ⟨op, id, session⟩ (op.calls session))) := by
  have hagree := h.agree id hfree
  have hid := (h.consistent.kept id session hget).id
  rw [hget] at hagree
  subst hid
  refine ⟨hcons, fun j hfree => h.agree j ?_, ?_, h.discarded⟩
  · exact hfree.of_setClient (by simp [hc, Client.ticket])
  · refine (forall_setClient _ _ _ fun _ => InOp y s.runtime).2 ⟨?_, fun c' _ => h.inOp c'⟩
    exact inOp_proceed (op_spec op hagree.1 s.runtime rfl)

/-- The end of an operation, with the record that agrees. -/
theorem Joint.leave (h : Joint y s) {c : Nat} {t : Ticket} {service : Service}
    (hc : Consistent ({ s with service }.setClient c .idle)) (ht : (s.clients c).ticket = some t)
    (hoff : AgreeOff t.id s.service service)
    (hagree : Agree y (service.repository.get t.id) (viewOf t.id s.runtime)) :
    Joint y ({ s with service }.setClient c .idle) := by
  refine ⟨hc, fun id hfree => ?_, ?_, h.discarded⟩
  · by_cases hid : id = t.id
    · subst hid
      exact hagree
    · have := h.agree id (hfree.of_setClient_of_ne ht hid)
      simpa only [Sys.setClient, (hoff id hid).1] using this
  · exact (forall_setClient _ _ _ fun _ => InOp y s.runtime).2 ⟨trivial, fun c' _ => h.inOp c'⟩

/-- A step within a runtime call, for its own session and for the others. -/
theorem Joint.next {c : Nat} {t : Ticket} {call : RtCall} {arg : Session}
    {prog prog' : Rt Unit} {todo : List (RtCall × Session)} {m : Manager}
    {ans : ∀ call, Answer call} (h : Joint y s) (hc : s.clients c = .calling t call arg prog todo)
    (hn : prog.next ans s.runtime = some (prog', m)) :
    InOp y m (.calling t call arg prog' todo) ∧
      (∀ id, id ≠ t.id → viewOf id m = viewOf id s.runtime) ∧ Keep t.id s.runtime m := by
  have hsat := h.inOp c
  rw [hc] at hsat
  exact Prog.Sat.next (Keep.refl t.id) hsat (Prog.next_bind hn fun _ => callAll y todo)

theorem Joint.call {c : Nat} {t : Ticket} {call : RtCall} {arg : Session}
    {prog prog' : Rt Unit} {todo : List (RtCall × Session)} {m : Manager}
    {ans : ∀ call, Answer call} (h : Joint y s) (hc : s.clients c = .calling t call arg prog todo)
    (hn : prog.next ans s.runtime = some (prog', m))
    (hcons : Consistent ({ s with runtime := m }.setClient c (.calling t call arg prog' todo))) :
    Joint y ({ s with runtime := m }.setClient c (.calling t call arg prog' todo)) := by
  have ht : (s.clients c).ticket = some t := by rw [hc]; rfl
  obtain ⟨hin, hframe, hkeep⟩ := h.next hc hn
  refine ⟨hcons, fun id hfree => ?_, ?_, fun e he => ?_⟩
  · have hid : id ≠ t.id := by
      rintro rfl
      exact hfree c t (by simp [Sys.setClient, Client.ticket]) rfl
    have hold := h.agree id (hfree.of_setClient_of_ne ht hid)
    simpa only [Sys.setClient, hframe id hid] using hold
  · refine (forall_setClient _ _ _ fun _ => InOp y m).2 ⟨hin, fun c' hcc => ?_⟩
    refine (h.inOp c').frame fun t' ht' => hframe t'.id fun heq => ?_
    exact hcc (h.consistent.alone c' c t' t ht' ht heq)
  · exact (hkeep.discarded e he).elim (h.discarded e) fun h => h

/-- A step changes the view of no session but the one its client is at. -/
theorem Joint.frame {l : Lbl GrCall Answer} (h : Joint y s) (hm : Moves (gr4Runtime y) s l s')
    {id : Str} (hid : ∀ c t, l.client = some c → (s.clients c).ticket = some t → t.id ≠ id) :
    viewOf id s'.runtime = viewOf id s.runtime := by
  cases hm with
  | notCreated | created | get | list | refused | returned | admitted => rfl
  | called | threw | failed | completed => rfl
  | stepped c ans t call arg prog prog' todo runtime hc hnext =>
    exact (h.next hc hnext).2.1 id (hid c t rfl (by rw [hc]; rfl)).symm

/-- A client that goes on without a change of the manager. -/
theorem Joint.advance {c : Nat} {t : Ticket} {client : Client Manager GrCall Answer}
    (h : Joint y s) (ht : (s.clients c).ticket = some t) (ht' : client.ticket = some t)
    (hin : InOp y s.runtime client) (hcons : Consistent (s.setClient c client)) :
    Joint y (s.setClient c client) := by
  refine ⟨hcons, fun id hfree => h.agree id (hfree.of_setClient_of_ne ht ?_), ?_, h.discarded⟩
  · rintro rfl
    exact hfree c t (by simpa [Sys.setClient] using ht') rfl
  · exact (forall_setClient _ _ _ fun _ => InOp y s.runtime).2 ⟨hin, fun c' _ => h.inOp c'⟩

theorem joint_step {l : Lbl GrCall Answer} (h : Joint y s) (hm : Moves (gr4Runtime y) s l s') :
    Joint y s' := by
  have hcons := consistent_step h.consistent hm
  cases hm with
  | notCreated | get | list | refused | returned => exact h
  | created name grc schedulerAlias _ now id hget =>
    exact h.store (Service.newSession name grc schedulerAlias id now) hget rfl hcons
  | admitted c op id session hc _ hget hphase =>
    exact h.enter hc hget (h.consistent.free hget hphase) hcons
  | called c _ t _ _ todo hc =>
    have hin := h.inOp c
    rw [hc] at hin
    exact h.advance (by rw [hc]; rfl) (proceed_ticket t todo) (inOp_proceed hin) hcons
  | threw c _ t _ _ _ _ hc =>
    have hin := h.inOp c
    rw [hc] at hin
    exact h.advance (t := t) (by rw [hc]; rfl) rfl hin hcons
  | stepped c _ t _ _ _ _ _ _ hc hnext => exact h.call hc hnext hcons
  | failed c _ t _ _ _ hc hget _ hoff =>
    have hmade := h.inOp c
    rw [hc] at hmade
    refine h.leave hcons (by rw [hc]; rfl) hoff ?_
    rw [hget]
    exact ⟨hmade, by rintro ⟨⟩, by rintro ⟨⟩⟩
  | completed c now t _ hc hget _ hoff =>
    have hdone := h.inOp c
    rw [hc] at hdone
    refine h.leave hcons (by rw [hc]; rfl) hoff ?_
    rw [hget]
    exact agree_completed now hdone

theorem joint_inductive (y : Yaml) : (composedRuns y).Inductive (Joint y) where
  init := by
    intro s hs
    refine ⟨(consistent_inductive _ _).init s hs, ?_, ?_, ?_⟩ <;> cases hs
    · intro id _
      rfl
    · intro c
      trivial
    · intro e he
      cases he
  step := fun _ _ _ h hs => joint_step h (h.consistent.moves hs)

end Steps

/-! ## Agreement -/

/-- A plan is derived exactly when it has an entry. -/
theorem derive_eq_planStreams (y : Yaml) (session : Session) :
    deriveStreamRuntimePlan y session =
      if (planStreams y session).isEmpty then none else some ⟨planStreams y session⟩ := by
  unfold planStreams
  cases h : deriveStreamRuntimePlan y session with
  | none => rfl
  | some plan =>
    obtain ⟨-, hne, hstreams⟩ := (derive_eq_some_iff y session plan).mp h
    have : plan.streams ≠ [] := by
      rw [hstreams]
      simpa using hne
    simp [this]

/-- A running session's lookups see the plan derived from its record. -/
theorem activeStreamPlan_eq {y : Yaml} {m : Manager} {session : Session}
    (hmade : Made y session (viewOf session.id m)) (hruns : Runs (viewOf session.id m)) :
    m.activeStreamPlan session = deriveStreamRuntimePlan y session := by
  obtain ⟨r, e, hr, he, hrunning, hphase⟩ := hruns
  have hplan := (hmade r hr).planned e he
  have hr : m.resources.lookup session.id = some r := hr
  rw [derive_eq_planStreams, ← hplan]
  simp [Manager.activeStreamPlan, Manager.runningBindings, hr, he, hrunning, hphase]

/-- **The two levels agree.** In every reachable state, for every id without
an operation in progress: a stopped session has neither an execution nor
bindings, a running one has a running execution and its active plan is the
one derived from its record, and an id that is not stored has no entry in
`resources_`. No execution is ever dropped while its scheduler runs: each
one dropped was never started, or stopped since. -/
theorem levels_agree (y : Yaml) (s : Composed) (h : (composedRuns y).Reachable s) :
    (∀ id, Free s id →
      (∀ session, s.service.repository.get id = some session → session.state = .stopped →
        ∀ r, s.runtime.resources.lookup id = some r →
          r.execution = none ∧ r.streamBindings = []) ∧
      (∀ session, s.service.repository.get id = some session → session.state = .running →
        (∃ r e, s.runtime.resources.lookup id = some r ∧ r.execution = some e ∧
          e.running = true ∧ r.lifecyclePhase = .running) ∧
        s.runtime.activeStreamPlan session = deriveStreamRuntimePlan y session) ∧
      (s.service.repository.get id = none → s.runtime.resources.lookup id = none)) ∧
    (∀ e ∈ s.runtime.discarded, e.running = false ∧ e.started = false) := by
  have hJ := (joint_inductive y).reachable h
  refine ⟨fun id hfree => ?_, hJ.discarded⟩
  have hagree := hJ.agree id hfree
  refine ⟨?_, ?_, ?_⟩
  · intro session hget hstate r hr
    rw [hget] at hagree
    exact hagree.2.1 hstate r hr
  · intro session hget hstate
    rw [hget] at hagree
    have hruns := hagree.2.2 hstate
    have hid := (hJ.consistent.kept id session hget).id
    subst hid
    exact ⟨hruns, activeStreamPlan_eq hagree.1 hruns⟩
  · intro hget
    rw [hget] at hagree
    exact hagree

/-! ## One run -/

/-- A session with one sink is created and started by client 0. -/
def startSink : List (Lbl GrCall Answer) :=
  [.create (str "demo") (sinksText oneSink) none [1] 0, .begin 0 .start firstId] ++
    List.replicate 22 (.runtime 0 (granting 40000)) ++ [.complete 0 1]

def composedRun (ls : List (Lbl GrCall Answer)) : Option Composed :=
  LTS.runFn (Sys.step (gr4Runtime (readingSinks oneSink)))
    ⟨Service.empty, Manager.empty, fun _ => .idle⟩ ls

theorem startSink_isSome : (composedRun startSink).isSome = true := by decide +kernel

def sinkRunning : Composed := (composedRun startSink).get startSink_isSome

theorem sinkRunning_run : (composedRuns (readingSinks oneSink)).Run
    ⟨Service.empty, Manager.empty, fun _ => .idle⟩ startSink sinkRunning :=
  LTS.run_of_runFn _ _ _ (Option.some_get _).symm

theorem sinkRunning_free (id : Str) : Free sinkRunning id := by
  intro c t ht
  have hidle : (sinkRunning.clients c).ticket = none := by
    by_cases hc : c = 0
    · subst hc
      decide +kernel
    · have hl : ∀ l ∈ startSink, l.client ≠ some c := by
        simp [startSink, Lbl.client, Ne.symm hc]
      have hinit := (consistent_inductive (gr4Runtime (readingSinks oneSink)) Manager.empty).init
      rw [run_clients (hinit _ rfl) sinkRunning_run hl]
      rfl
  rw [hidle] at ht
  cases ht

/-- The record stored by the start. -/
def runningSink : Session :=
  Service.markRunning (Service.newSession (str "demo") (sinksText oneSink) none firstId 0) 1

theorem sinkRunning_plan :
    sinkRunning.runtime.activeStreamPlan runningSink =
      deriveStreamRuntimePlan (readingSinks oneSink) runningSink :=
  (((levels_agree (readingSinks oneSink) sinkRunning ⟨_, startSink, rfl, sinkRunning_run⟩).1
    firstId (sinkRunning_free firstId)).2.1 runningSink (by decide +kernel) rfl).2

end Gr4cp.App

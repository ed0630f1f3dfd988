import Gr4ControlPlane.L4App.SessionService

/-!
# The lifecycle of a session, for any number of clients

The mutex is released while the runtime is called, so that at most one
operation is in progress for a session rests on `phases_` alone.
`Consistent` is the invariant: without an operation in progress the phase of
a session is that of its stored state, and none if it is not stored; during
one the phase is `Starting` or `Stopping`, the stored record is the one the
operation was admitted on, and no other client has an operation on it.

* `one_operation_per_session`: at most one lifecycle operation per session
  is past its admission and not past its completion, hence at most one
  runtime call is outstanding for it, and the sections after the calls find
  the session stored.
* `phases_follow_states`: phases, stored states and errors agree, and every
  session's stored history is a run of the abstract machine `lifecycle`.

Both hold for every runtime manager.
-/
namespace Gr4cp.App

open Gr4cp.Core Gr4cp.Domain Gr4cp.Storage Gr4cp.Runtime

/-! ## What each section does -/

/-- The phase an admitted operation sets. -/
def Op.busyPhase : Op → InternalLifecyclePhase
  | .start | .restart => .starting
  | .stop | .remove => .stopping

/-- The record an operation that succeeds leaves; none after `remove`. -/
def Op.completed (session : Session) (now : Timestamp) : Op → Option Session
  | .start | .restart => some (Service.markRunning session now)
  | .stop => some (Service.markStopped session now)
  | .remove => none

/-- The two services differ at most in what they keep for `id`. -/
def AgreeOff (id : Str) (s s' : Service) : Prop :=
  ∀ j, j ≠ id → s'.repository.get j = s.repository.get j ∧ s'.phases.lookup j = s.phases.lookup j

/-- The phase is the one of the stored state; there is none without a
session. -/
def AtRest (s : Service) (id : Str) : Prop :=
  s.phases.lookup id = (s.repository.get id).map fun session => Service.phaseOfState session.state

/-- A record that may be stored under `id`. -/
structure WellKept (id : Str) (session : Session) : Prop where
  id : session.id = id
  error : session.lastError.isSome = true ↔ session.state = .error

/-- How an admission section can end. -/
inductive Admits (s : Service) (op : Op) (id : Str) :
    Except ServiceError Admission × Service → Prop
  | refused (e : ServiceError) : Admits s op id (.error e, s)
  | returned (session : Session) (hop : op = .stop) (hget : s.repository.get id = some session)
      (hstate : session.state = .stopped) : Admits s op id (.ok (.returns session), s)
  | admitted (session : Session) (hget : s.repository.get id = some session)
      (hphase : s.phaseForLocked session ≠ .starting ∧ s.phaseForLocked session ≠ .stopping)
      (hstart : op = .start → session.state ≠ .running)
      (hstop : op = .stop → ¬ (session.state = .stopped ∧ s.phaseForLocked session = .idle)) :
      Admits s op id (.ok (.admitted session), s.setPhase id op.busyPhase)

namespace Service

variable {s : Service} {id : Str} {session : Session}

theorem loadOrThrow_cases (s : Service) (id : Str) :
    (∃ e, s.loadOrThrow id = .error e) ∨
    ∃ session, s.loadOrThrow id = .ok session ∧ s.repository.get id = some session := by
  unfold loadOrThrow
  cases h : s.repository.get id with
  | none => exact .inl ⟨_, rfl⟩
  | some session => exact .inr ⟨session, rfl, rfl⟩

theorem admitUnlessBusy_cases (op : Op) (hop : op = .restart ∨ op = .remove) (text : Str)
    (s : Service) (id : Str) : Admits s op id (admitUnlessBusy op.busyPhase text s id) := by
  unfold admitUnlessBusy
  rcases loadOrThrow_cases s id with ⟨e, h⟩ | ⟨session, h, hget⟩
  · simp only [h]
    exact .refused e
  · simp only [h]
    split
    · exact .refused _
    · split
      · exact .refused _
      · refine .admitted session hget ⟨‹_›, ‹_›⟩ ?_ ?_ <;> rintro rfl <;> simp at hop

theorem admit_cases (s : Service) (op : Op) (id : Str) : Admits s op id (s.admitOp op id) := by
  cases op with
  | start =>
    unfold admitOp admitStart
    rcases loadOrThrow_cases s id with ⟨e, h⟩ | ⟨session, h, hget⟩
    · simp only [h]
      exact .refused e
    · simp only [h]
      split
      · exact .refused _
      · rename_i hrun
        split
        · exact .refused _
        · split
          · exact .refused _
          · exact .admitted session hget ⟨‹_›, ‹_›⟩ (fun _ h => hrun (.inl h)) (by rintro ⟨⟩)
  | stop =>
    unfold admitOp admitStop
    rcases loadOrThrow_cases s id with ⟨e, h⟩ | ⟨session, h, hget⟩
    · simp only [h]
      exact .refused e
    · simp only [h]
      split
      · exact .refused _
      · split
        · exact .refused _
        · split
          · rename_i hidle
            exact .returned session rfl hget hidle.1
          · exact .admitted session hget ⟨‹_›, ‹_›⟩ (by rintro ⟨⟩) fun _ => ‹_›
  | restart => exact admitUnlessBusy_cases .restart (.inl rfl) _ s id
  | remove => exact admitUnlessBusy_cases .remove (.inr rfl) _ s id

/-- The service after `store_session_locked`. -/
def stored (s : Service) (id : Str) (session : Session) (phase : InternalLifecyclePhase) : Service :=
  { repository := s.repository.insert id session, phases := s.phases.insert id phase }

theorem stored_agreeOff (s : Service) (id : Str) (session : Session)
    (phase : InternalLifecyclePhase) : AgreeOff id s (s.stored id session phase) := fun j hj => by
  simp [stored, Repository.get, AList.lookup_insert_ne hj]

theorem stored_get (phase : InternalLifecyclePhase) :
    (s.stored id session phase).repository.get id = some session := by
  simp [stored, Repository.get]

theorem stored_atRest (s : Service) (id : Str) (session : Session) :
    AtRest (s.stored id session (phaseOfState session.state)) id := by
  simp [AtRest, stored, Repository.get]

theorem setPhase_agreeOff (s : Service) (id : Str) (phase : InternalLifecyclePhase) :
    AgreeOff id s (s.setPhase id phase) :=
  fun j hj => ⟨rfl, by simp [setPhase, AList.lookup_insert_ne hj]⟩

/-- Load, change and store, on a stored session: what `start`, `stop` and
`restart` end in, and a failure too. -/
theorem finish_spec (change : Session → Timestamp → Session) (now : Timestamp)
    (h : s.repository.get id = some session) (hid : (change session now).id = id) :
    ∃ s', s.finish id change (phaseOfState (change session now).state) now =
        (.ok (change session now), s') ∧
      s'.repository.get id = some (change session now) ∧ AtRest s' id ∧ AgreeOff id s s' := by
  refine ⟨s.stored id (change session now) (phaseOfState (change session now).state), ?_,
    stored_get _, stored_atRest _ _ _, stored_agreeOff _ _ _ _⟩
  simp only [finish, loadOrThrow, h, storeSessionLocked, Repository.update_eq hid h, hid]
  rfl

/-- The completion section of an operation on a stored session. -/
theorem complete_spec (op : Op) (now : Timestamp) (h : s.repository.get id = some session)
    (hid : session.id = id) :
    ∃ r s', s.complete op id now = (.ok r, s') ∧
      s'.repository.get id = op.completed session now ∧ AtRest s' id ∧ AgreeOff id s s' := by
  have running : ∃ r s', s.completeRunning id now = (.ok r, s') ∧
      s'.repository.get id = some (markRunning session now) ∧ AtRest s' id ∧
      AgreeOff id s s' := by
    obtain ⟨s', hfinish, hget, hrest, hoff⟩ := finish_spec markRunning now h hid
    have hfinish : s.finish id markRunning .running now = _ := hfinish
    refine ⟨some (markRunning session now), s', ?_, hget, hrest, hoff⟩
    rw [completeRunning, hfinish]
    rfl
  cases op with
  | start => exact running
  | restart => exact running
  | stop =>
    obtain ⟨s', hfinish, hget, hrest, hoff⟩ := finish_spec markStopped now h hid
    have hfinish : s.finish id markStopped .idle now = _ := hfinish
    refine ⟨some (markStopped session now), s', ?_, hget, hrest, hoff⟩
    rw [complete, completeStop, hfinish]
    rfl
  | remove =>
    refine ⟨none, { repository := s.repository.erase id, phases := s.phases.erase id },
      ?_, ?_, ?_, ?_⟩
    · simp [complete, completeRemove, Repository.remove_eq h]
    · simp [Repository.get, Op.completed]
    · simp [AtRest, Repository.get]
    · intro j hj
      simp [Repository.get, AList.lookup_erase_ne hj]

/-- `record_runtime_failure` on a stored session. -/
theorem recordRuntimeFailure_spec {arg : Session} (message : Str) (now : Timestamp)
    (h : s.repository.get id = some session) (hid : session.id = id) (harg : arg.id = id) :
    ∃ s', s.recordRuntimeFailure arg message now = (⟨.runtime, message⟩, s') ∧
      s'.repository.get id = some (markFailed message session now) ∧ AtRest s' id ∧
      AgreeOff id s s' := by
  obtain ⟨s', hfinish, hget, hrest, hoff⟩ := finish_spec (markFailed message) now h hid
  have hfinish : s.finish id (markFailed message) .failed now = _ := hfinish
  refine ⟨s', ?_, hget, hrest, hoff⟩
  rw [recordRuntimeFailure, harg, hfinish]

theorem firstFreeId_get {draws : List UInt64} (h : s.firstFreeId draws = some id) :
    s.repository.get id = none := by
  induction draws with
  | nil => cases h
  | cons draw draws ih =>
    unfold firstFreeId at h
    split at h
    · exact ih h
    · rename_i hfree
      cases h
      simpa using hfree

/-- `create` stores and returns a new stopped session, or throws and stores
nothing. -/
theorem create_spec {name grc : Str} {schedulerAlias : Option Str} {draws : List UInt64}
    {now : Timestamp} {r : Except ServiceError Session} {s' : Service}
    (h : s.create name grc schedulerAlias draws now = some (r, s')) :
    (∃ e, r = .error e ∧ s' = s) ∨ ∃ id, s.repository.get id = none ∧
      r = .ok (newSession name grc schedulerAlias id now) ∧
      s' = s.stored id (newSession name grc schedulerAlias id now) .idle := by
  unfold create at h
  split at h
  · simp only [Option.some.injEq, Prod.mk.injEq] at h
    exact .inl ⟨_, h.1.symm, h.2.symm⟩
  · cases hfree : s.firstFreeId draws with
    | none => simp [hfree] at h
    | some id =>
      have hget := firstFreeId_get hfree
      have hmem : id ∉ s.repository := AList.lookup_eq_none.1 hget
      simp only [hfree, Repository.create, newSession, hmem, if_false, Option.some.injEq,
        Prod.mk.injEq] at h
      exact .inr ⟨id, hget, h.1.symm, h.2.symm⟩

end Service

/-! ## The invariant -/

section Invariant

variable {ρ Q : Type} {A : Q → Type} {rt : RuntimeManager ρ Q A} {r₀ : ρ}

/-- Every call of a client is made with the session of its operation. -/
def Client.OwnArgs : Client ρ Q A → Prop
  | .calling t _ arg _ todo => arg.id = t.id ∧ ∀ x ∈ todo, x.2.id = t.id
  | .failing t arg _ => arg.id = t.id
  | _ => True

/-- What is kept for a session with an operation in progress. -/
structure Busy (s : Service) (t : Ticket) : Prop where
  stored : s.repository.get t.id = some t.admitted
  phase : s.phases.lookup t.id = some t.op.busyPhase
  start : t.op = .start → t.admitted.state ≠ .running
  stop : t.op = .stop → t.admitted.state ≠ .stopped

/-- No client has an operation on `id` in progress. -/
def Free (s : Sys ρ Q A) (id : Str) : Prop := ∀ c t, (s.clients c).ticket = some t → t.id ≠ id

theorem forall_setClient (s : Sys ρ Q A) (c : Nat) (client : Client ρ Q A)
    (p : Nat → Client ρ Q A → Prop) :
    (∀ c', p c' ((s.setClient c client).clients c')) ↔
      p c client ∧ ∀ c', c' ≠ c → p c' (s.clients c') :=
  Function.forall_update_iff s.clients p

/-- Before client `c` moved `id` was free too, unless `c` had it. -/
theorem Free.of_setClient {s : Sys ρ Q A} {c : Nat} {client : Client ρ Q A} {id : Str}
    (hfree : Free (s.setClient c client) id)
    (hc : ∀ t, (s.clients c).ticket = some t → t.id ≠ id) : Free s id := by
  intro c' t ht
  by_cases hcc : c' = c
  · exact hc t (hcc ▸ ht)
  · exact ((forall_setClient s c client fun _ client => ∀ t, client.ticket = some t →
      t.id ≠ id).1 hfree).2 c' hcc t ht

theorem Free.of_setClient_of_ne {s : Sys ρ Q A} {c : Nat} {client : Client ρ Q A} {id : Str}
    {t : Ticket} (hfree : Free (s.setClient c client) id) (ht : (s.clients c).ticket = some t)
    (hne : id ≠ t.id) : Free s id := by
  refine hfree.of_setClient fun t' ht' => ?_
  obtain rfl := Option.some.inj (ht.symm.trans ht')
  exact hne.symm

structure Consistent (s : Sys ρ Q A) : Prop where
  kept : ∀ id session, s.service.repository.get id = some session → WellKept id session
  rest : ∀ id, Free s id → AtRest s.service id
  busy : ∀ c t, (s.clients c).ticket = some t → Busy s.service t
  alone : ∀ c c' t t', (s.clients c).ticket = some t → (s.clients c').ticket = some t' →
    t.id = t'.id → c = c'
  args : ∀ c, (s.clients c).OwnArgs

theorem Op.calls_own (op : Op) (session : Session) : ∀ x ∈ op.calls session, x.2.id = session.id := by
  intro x hx
  cases op <;> simp only [Op.calls, stopFirst] at hx <;> (try split at hx) <;>
    simp only [List.mem_append, List.mem_cons, List.not_mem_nil, or_false, false_or] at hx <;>
    grind

theorem proceed_ticket (t : Ticket) (calls : List (RtCall × Session)) :
    (proceed rt t calls).ticket = some t := by
  rcases calls with _ | ⟨⟨call, arg⟩, todo⟩ <;> rfl

theorem proceed_ownArgs {t : Ticket} {calls : List (RtCall × Session)}
    (h : ∀ x ∈ calls, x.2.id = t.id) : (proceed rt t calls).OwnArgs := by
  rcases calls with _ | ⟨⟨call, arg⟩, todo⟩
  · trivial
  · exact ⟨h (call, arg) (by simp), fun x hx => h x (by simp [hx])⟩

/-- A client that stays in its operation, with the service as it is. -/
theorem Consistent.advance {s : Sys ρ Q A} (h : Consistent s) (runtime : ρ) {c : Nat} {t : Ticket}
    {client : Client ρ Q A} (ht : (s.clients c).ticket = some t)
    (ht' : client.ticket = some t) (ha : client.OwnArgs) :
    Consistent ({ s with runtime }.setClient c client) := by
  have htickets : ∀ c', (Function.update s.clients c client c').ticket = (s.clients c').ticket := by
    intro c'
    by_cases hc : c' = c
    · subst hc
      rw [Function.update_self, ht', ht]
    · rw [Function.update_of_ne hc]
  refine ⟨h.kept, fun id hfree => h.rest id ?_, ?_, ?_, ?_⟩
  · intro c' t' hc'
    exact hfree c' t' ((htickets c').trans hc')
  · intro c' t' hc'
    exact h.busy c' t' ((htickets c').symm.trans hc')
  · intro c₁ c₂ t₁ t₂ h₁ h₂
    exact h.alone c₁ c₂ t₁ t₂ ((htickets c₁).symm.trans h₁) ((htickets c₂).symm.trans h₂)
  · exact (forall_setClient _ _ _ fun _ client => client.OwnArgs).2 ⟨ha, fun c' _ => h.args c'⟩

/-- A client leaves its operation, and the service is at rest there. -/
theorem Consistent.leave {s : Sys ρ Q A} (h : Consistent s) {c : Nat} {t : Ticket}
    {service : Service} (ht : (s.clients c).ticket = some t)
    (hoff : AgreeOff t.id s.service service) (hrest : AtRest service t.id)
    (hkept : ∀ session, service.repository.get t.id = some session → WellKept t.id session) :
    Consistent ({ s with service }.setClient c .idle) := by
  have hother : ∀ c' t', ((s.setClient c .idle).clients c').ticket = some t' →
      (s.clients c').ticket = some t' ∧ t'.id ≠ t.id := by
    refine (forall_setClient s c .idle fun c' client => ∀ t', client.ticket = some t' →
      (s.clients c').ticket = some t' ∧ t'.id ≠ t.id).2 ⟨?_, fun c' hcc t' hc' => ⟨hc', ?_⟩⟩
    · rintro t' ⟨⟩
    · exact fun heq => hcc (h.alone c' c t' t hc' ht heq)
  refine ⟨?_, ?_, ?_, ?_, ?_⟩
  · intro id session hget
    by_cases hid : id = t.id
    · subst hid
      exact hkept session hget
    · exact h.kept id session ((hoff id hid).1 ▸ hget)
  · intro id hfree
    by_cases hid : id = t.id
    · subst hid
      exact hrest
    · have := h.rest id (hfree.of_setClient_of_ne ht hid)
      simpa only [AtRest, Sys.setClient, (hoff id hid).1, (hoff id hid).2] using this
  · intro c' t' hc'
    obtain ⟨hc', hne⟩ := hother c' t' hc'
    have := h.busy c' t' hc'
    exact ⟨(hoff _ hne).1.trans this.stored, (hoff _ hne).2.trans this.phase, this.start, this.stop⟩
  · intro c₁ c₂ t₁ t₂ h₁ h₂
    exact h.alone c₁ c₂ t₁ t₂ (hother c₁ t₁ h₁).1 (hother c₂ t₂ h₂).1
  · exact (forall_setClient _ _ _ fun _ client => client.OwnArgs).2
      ⟨trivial, fun c' _ => h.args c'⟩

theorem wellKept_completed {id : Str} {session session' : Session} {op : Op} {now : Timestamp}
    (h : WellKept id session) (hc : op.completed session now = some session') :
    WellKept id session' := by
  cases op <;> cases hc <;>
    exact ⟨h.id, by simp [Service.markRunning, Service.markStopped]⟩

theorem wellKept_markFailed {id : Str} {session : Session} (message : Str) (now : Timestamp)
    (h : WellKept id session) : WellKept id (Service.markFailed message session now) :=
  ⟨h.id, by simp [Service.markFailed]⟩

/-- Of a session whose phase is neither `Starting` nor `Stopping`, no client
has an operation in progress. -/
theorem Consistent.free {s : Sys ρ Q A} (h : Consistent s) {id : Str} {session : Session}
    (hget : s.service.repository.get id = some session)
    (hphase : s.service.phaseForLocked session ≠ .starting ∧
      s.service.phaseForLocked session ≠ .stopping) : Free s id := by
  rintro c t ht rfl
  have hbusy := (h.busy c t ht).phase
  rw [Service.phaseForLocked, (h.kept _ _ hget).id, hbusy] at hphase
  cases hop : t.op <;> simp [hop, Op.busyPhase] at hphase

/-- A client enters an operation on a session that is free. -/
theorem Consistent.enter {s : Sys ρ Q A} (h : Consistent s) {c : Nat} {op : Op} {id : Str}
    {session : Session} (hc : s.clients c = .idle) (hget : s.service.repository.get id = some session)
    (hphase : s.service.phaseForLocked session ≠ .starting ∧
      s.service.phaseForLocked session ≠ .stopping)
    (hstart : op = .start → session.state ≠ .running)
    (hstop : op = .stop → ¬ (session.state = .stopped ∧ s.service.phaseForLocked session = .idle)) :
    Consistent ({ s with service := s.service.setPhase id op.busyPhase }.setClient c
      (proceed rt ⟨op, id, session⟩ (op.calls session))) := by
  have hfree := h.free hget hphase
  have hid := (h.kept id session hget).id
  have hatrest : s.service.phaseForLocked session = Service.phaseOfState session.state := by
    have := h.rest id hfree
    simp only [AtRest, hget, Option.map_some] at this
    rw [Service.phaseForLocked, hid, this]
  have hoff := Service.setPhase_agreeOff s.service id op.busyPhase
  have hother : ∀ {c' t'}, c' ≠ c → (s.clients c').ticket = some t' → t'.id ≠ id :=
    fun _ ht => hfree _ _ ht
  have hself : ∀ {t'}, (proceed rt ⟨op, id, session⟩ (op.calls session)).ticket = some t' →
      t' = ⟨op, id, session⟩ := fun ht => by
    rw [proceed_ticket] at ht
    exact (Option.some.inj ht).symm
  refine ⟨h.kept, ?_, ?_, ?_, ?_⟩
  · intro j hj
    have hne : j ≠ id := by
      rintro rfl
      exact hj c ⟨op, j, session⟩ (by simp [Sys.setClient, proceed_ticket]) rfl
    have := h.rest j (hj.of_setClient (by simp [hc, Client.ticket]))
    simpa only [AtRest, Sys.setClient, (hoff j hne).1, (hoff j hne).2] using this
  · intro c' t' ht
    by_cases hcc : c' = c
    · subst hcc
      rw [Sys.setClient_self] at ht
      obtain rfl := hself ht
      refine ⟨hget, by simp [Sys.setClient, Service.setPhase], hstart, fun hop hstate => ?_⟩
      have hstate : session.state = .stopped := hstate
      refine hstop hop ⟨hstate, ?_⟩
      rw [hatrest, hstate]
      rfl
    · rw [Sys.setClient_of_ne hcc] at ht
      have hne := hother hcc ht
      have := h.busy c' t' ht
      exact ⟨this.stored, (hoff _ hne).2.trans this.phase, this.start, this.stop⟩
  · intro c₁ c₂ t₁ t₂ h₁ h₂ heq
    by_cases hc₁ : c₁ = c <;> by_cases hc₂ : c₂ = c
    · rw [hc₁, hc₂]
    · subst hc₁
      rw [Sys.setClient_self] at h₁
      rw [Sys.setClient_of_ne hc₂] at h₂
      obtain rfl := hself h₁
      exact (hother hc₂ h₂ heq.symm).elim
    · subst hc₂
      rw [Sys.setClient_self] at h₂
      rw [Sys.setClient_of_ne hc₁] at h₁
      obtain rfl := hself h₂
      exact (hother hc₁ h₁ heq).elim
    · rw [Sys.setClient_of_ne hc₁] at h₁
      rw [Sys.setClient_of_ne hc₂] at h₂
      exact h.alone c₁ c₂ t₁ t₂ h₁ h₂ heq
  · refine (forall_setClient _ _ _ fun _ client => client.OwnArgs).2 ⟨?_, fun c' _ => h.args c'⟩
    exact proceed_ownArgs fun x hx => (op.calls_own session x hx).trans hid

/-- A session is created under an id that is not stored. -/
theorem Consistent.store {s : Sys ρ Q A} (h : Consistent s) (session : Session)
    (hget : s.service.repository.get session.id = none)
    (hkept : WellKept session.id session) (hstate : session.state = .stopped) :
    Consistent { s with service := s.service.stored session.id session .idle } := by
  have hoff := Service.stored_agreeOff s.service session.id session .idle
  have hrest : AtRest (s.service.stored session.id session .idle) session.id := by
    have := Service.stored_atRest s.service session.id session
    rwa [hstate] at this
  refine ⟨fun id session' hget' => ?_, fun id hfree => ?_, fun c t ht => ?_, h.alone, h.args⟩
  · by_cases hid : id = session.id
    · subst hid
      rw [Service.stored_get] at hget'
      cases hget'
      exact hkept
    · exact h.kept id session' ((hoff id hid).1 ▸ hget')
  · by_cases hid : id = session.id
    · subst hid
      exact hrest
    · have := h.rest id hfree
      simpa only [AtRest, (hoff id hid).1, (hoff id hid).2] using this
  · have hbusy := h.busy c t ht
    have hne : t.id ≠ session.id := fun heq => by
      have := hbusy.stored
      rw [heq, hget] at this
      cases this
    exact ⟨(hoff _ hne).1.trans hbusy.stored, (hoff _ hne).2.trans hbusy.phase, hbusy.start,
      hbusy.stop⟩

/-! ## What each step does -/

/-- What a step does in a consistent state, one constructor for each way a
section or a step of a runtime call can end. -/
inductive Moves (rt : RuntimeManager ρ Q A) (s : Sys ρ Q A) : Lbl Q A → Sys ρ Q A → Prop
  | notCreated (name grc : Str) (schedulerAlias : Option Str) (draws : List UInt64)
      (now : Timestamp) : Moves rt s (.create name grc schedulerAlias draws now) s
  | created (name grc : Str) (schedulerAlias : Option Str) (draws : List UInt64)
      (now : Timestamp) (id : Str) (hget : s.service.repository.get id = none) :
      Moves rt s (.create name grc schedulerAlias draws now)
        { s with
          service := s.service.stored id (Service.newSession name grc schedulerAlias id now) .idle }
  | get (id : Str) : Moves rt s (.get id) s
  | list : Moves rt s .list s
  | refused (c : Nat) (op : Op) (id : Str) (e : ServiceError)
      (hresult : (s.service.admitOp op id).1 = .error e) : Moves rt s (.begin c op id) s
  | returned (c : Nat) (id : Str) (session : Session)
      (hresult : (s.service.admitOp .stop id).1 = .ok (.returns session))
      (hget : s.service.repository.get id = some session) (hstate : session.state = .stopped) :
      Moves rt s (.begin c .stop id) s
  | admitted (c : Nat) (op : Op) (id : Str) (session : Session) (hc : s.clients c = .idle)
      (hresult : (s.service.admitOp op id).1 = .ok (.admitted session))
      (hget : s.service.repository.get id = some session)
      (hphase : s.service.phaseForLocked session ≠ .starting ∧
        s.service.phaseForLocked session ≠ .stopping)
      (hstart : op = .start → session.state ≠ .running)
      (hstop : op = .stop →
        ¬ (session.state = .stopped ∧ s.service.phaseForLocked session = .idle)) :
      Moves rt s (.begin c op id)
        ({ s with service := s.service.setPhase id op.busyPhase }.setClient c
          (proceed rt ⟨op, id, session⟩ (op.calls session)))
  | called (c : Nat) (ans : ∀ q, A q) (t : Ticket) (call : RtCall) (arg : Session)
      (todo : List (RtCall × Session))
      (hc : s.clients c = .calling t call arg (.ret (.ok ())) todo) :
      Moves rt s (.runtime c ans) (s.setClient c (proceed rt t todo))
  | threw (c : Nat) (ans : ∀ q, A q) (t : Ticket) (call : RtCall) (arg : Session) (e : Exn)
      (todo : List (RtCall × Session))
      (hc : s.clients c = .calling t call arg (.ret (.error e)) todo) :
      Moves rt s (.runtime c ans)
        (s.setClient c (.failing t arg (runtimeMessage t.op.action t.id e)))
  | stepped (c : Nat) (ans : ∀ q, A q) (t : Ticket) (call : RtCall) (arg : Session)
      (prog prog' : Prog ρ Q A Exn Unit) (todo : List (RtCall × Session)) (runtime : ρ)
      (hc : s.clients c = .calling t call arg prog todo)
      (hnext : prog.next ans s.runtime = some (prog', runtime)) :
      Moves rt s (.runtime c ans)
        ({ s with runtime }.setClient c (.calling t call arg prog' todo))
  | failed (c : Nat) (now : Timestamp) (t : Ticket) (arg : Session) (message : Str)
      (service : Service) (hc : s.clients c = .failing t arg message)
      (hget : service.repository.get t.id = some (Service.markFailed message t.admitted now))
      (hrest : AtRest service t.id) (hoff : AgreeOff t.id s.service service) :
      Moves rt s (.fail c now) ({ s with service }.setClient c .idle)
  | completed (c : Nat) (now : Timestamp) (t : Ticket) (service : Service)
      (hc : s.clients c = .completing t)
      (hget : service.repository.get t.id = t.op.completed t.admitted now)
      (hrest : AtRest service t.id) (hoff : AgreeOff t.id s.service service) :
      Moves rt s (.complete c now) ({ s with service }.setClient c .idle)

theorem moves_begin {s s' : Sys ρ Q A} {c : Nat} {op : Op} {id : Str}
    (hs : s.step rt (.begin c op id) = some s') : Moves rt s (.begin c op id) s' := by
  simp only [Sys.step, Sys.beginOp] at hs
  split at hs
  · rename_i hc
    have hadmitted := Service.admit_cases s.service op id
    generalize hresult : s.service.admitOp op id = result at hs hadmitted
    have hresult := congrArg Prod.fst hresult
    cases hadmitted with
    | refused e =>
      cases hs
      exact .refused c op id e hresult
    | returned session hop hget hstate =>
      cases hs
      subst hop
      exact .returned c id session hresult hget hstate
    | admitted session hget hphase hstart hstop =>
      cases hs
      exact .admitted c op id session hc hresult hget hphase hstart hstop
  · cases hs

theorem moves_runtime {s s' : Sys ρ Q A} {c : Nat} {ans : ∀ q, A q}
    (hs : s.step rt (.runtime c ans) = some s') : Moves rt s (.runtime c ans) s' := by
  simp only [Sys.step, Sys.runtimeStep] at hs
  split at hs
  · rename_i t call arg prog todo hc
    split at hs
    · cases hs
      exact .called c ans t call arg todo hc
    · cases hs
      exact .threw c ans t call arg _ todo hc
    · simp only [Option.map_eq_some_iff] at hs
      obtain ⟨⟨prog', runtime⟩, hnext, rfl⟩ := hs
      exact .stepped c ans t call arg prog prog' todo runtime hc hnext
  · cases hs

/-- The section of `record_runtime_failure` finds the session stored. -/
theorem Consistent.fail_section {s : Sys ρ Q A} (h : Consistent s) {c : Nat} {t : Ticket}
    {arg : Session} {message : Str} (hc : s.clients c = .failing t arg message)
    (now : Timestamp) :
    ∃ service, s.service.recordRuntimeFailure arg message now = (⟨.runtime, message⟩, service) ∧
      service.repository.get t.id = some (Service.markFailed message t.admitted now) ∧
      AtRest service t.id ∧ AgreeOff t.id s.service service := by
  have hget := (h.busy c t (by rw [hc]; rfl)).stored
  have harg : arg.id = t.id := by
    have := h.args c
    rwa [hc] at this
  exact Service.recordRuntimeFailure_spec message now hget (h.kept _ _ hget).id harg

/-- So does the section that completes an operation. -/
theorem Consistent.complete_section {s : Sys ρ Q A} (h : Consistent s) {c : Nat} {t : Ticket}
    (hc : s.clients c = .completing t) (now : Timestamp) :
    ∃ r service, s.service.complete t.op t.id now = (.ok r, service) ∧
      service.repository.get t.id = t.op.completed t.admitted now ∧
      AtRest service t.id ∧ AgreeOff t.id s.service service := by
  have hget := (h.busy c t (by rw [hc]; rfl)).stored
  exact Service.complete_spec t.op now hget (h.kept _ _ hget).id

theorem Consistent.moves {s s' : Sys ρ Q A} {l : Lbl Q A} (h : Consistent s)
    (hs : s.step rt l = some s') : Moves rt s l s' := by
  cases l with
  | create name grc schedulerAlias draws now =>
    simp only [Sys.step, Option.map_eq_some_iff] at hs
    obtain ⟨⟨r, service⟩, hcreate, rfl⟩ := hs
    rcases Service.create_spec hcreate with ⟨e, rfl, rfl⟩ | ⟨id, hget, rfl, rfl⟩
    · exact .notCreated name grc schedulerAlias draws now
    · exact .created name grc schedulerAlias draws now id hget
  | get id =>
    cases hs
    exact .get id
  | list =>
    cases hs
    exact .list
  | begin c op id => exact moves_begin hs
  | runtime c ans => exact moves_runtime hs
  | fail c now =>
    simp only [Sys.step] at hs
    split at hs
    · rename_i t arg message hc
      obtain ⟨service, hrec, hget', hrest, hoff⟩ := h.fail_section hc now
      simp only [hrec, Option.some.injEq] at hs
      exact hs ▸ .failed c now t arg message service hc hget' hrest hoff
    · cases hs
  | complete c now =>
    simp only [Sys.step] at hs
    split at hs
    · rename_i t hc
      obtain ⟨r, service, hrun, hget', hrest, hoff⟩ := h.complete_section hc now
      simp only [hrun, Option.some.injEq] at hs
      exact hs ▸ .completed c now t service hc hget' hrest hoff
    · cases hs

theorem consistent_step {s s' : Sys ρ Q A} {l : Lbl Q A} (h : Consistent s)
    (hm : Moves rt s l s') : Consistent s' := by
  cases hm with
  | notCreated | get | list | refused | returned => exact h
  | created name grc schedulerAlias _ now id hget =>
    exact h.store (Service.newSession name grc schedulerAlias id now) hget
      ⟨rfl, by simp [Service.newSession]⟩ rfl
  | admitted c op id session hc _ hget hphase hstart hstop =>
    exact h.enter hc hget hphase hstart hstop
  | called c _ t _ _ todo hc =>
    have hargs := h.args c
    rw [hc] at hargs
    exact h.advance s.runtime (by rw [hc]; rfl) (proceed_ticket t todo) (proceed_ownArgs hargs.2)
  | threw c _ t _ _ _ _ hc =>
    have hargs := h.args c
    rw [hc] at hargs
    exact h.advance s.runtime (t := t) (by rw [hc]; rfl) rfl hargs.1
  | stepped c _ t _ _ _ _ _ runtime hc =>
    have hargs := h.args c
    rw [hc] at hargs
    exact h.advance runtime (t := t) (by rw [hc]; rfl) rfl hargs
  | failed c now t _ message service hc hget hrest hoff =>
    have ht : (s.clients c).ticket = some t := by rw [hc]; rfl
    refine h.leave ht hoff hrest fun session hsession => ?_
    rw [hget] at hsession
    cases hsession
    exact wellKept_markFailed message now (h.kept _ _ (h.busy c t ht).stored)
  | completed c now t service hc hget hrest hoff =>
    have ht : (s.clients c).ticket = some t := by rw [hc]; rfl
    refine h.leave ht hoff hrest fun session hsession => ?_
    rw [hget] at hsession
    exact wellKept_completed (h.kept _ _ (h.busy c t ht).stored) hsession

theorem consistent_inductive (rt : RuntimeManager ρ Q A) (r₀ : ρ) :
    (Sys.runs rt r₀).Inductive Consistent where
  init := by
    rintro s rfl
    refine ⟨?_, ?_, ?_, ?_, ?_⟩
    · intro id session h
      cases h
    · intro id _
      rfl
    · intro c t h
      cases h
    · intro c c' t t' h
      cases h
    · intro c
      trivial
  step := fun _ _ _ h hs => consistent_step h (h.moves hs)

/-- The client a step moves. -/
def Lbl.client : Lbl Q A → Option Nat
  | .begin c _ _ | .runtime c _ | .fail c _ | .complete c _ => some c
  | _ => none

/-- A step leaves the other clients where they are. -/
theorem Moves.clients {s s' : Sys ρ Q A} {l : Lbl Q A} {c : Nat} (hm : Moves rt s l s')
    (hl : l.client ≠ some c) : s'.clients c = s.clients c := by
  cases hm with
  | notCreated | created | get | list | refused | returned => rfl
  | admitted c' | called c' | threw c' | stepped c' | failed c' | completed c' =>
    exact Sys.setClient_of_ne (fun heq => hl (congrArg some heq.symm)) _ _

theorem run_clients {s s' : Sys ρ Q A} {ls : List (Lbl Q A)} {c : Nat} (h : Consistent s)
    (hr : (Sys.runs rt r₀).Run s ls s') (hl : ∀ l ∈ ls, l.client ≠ some c) :
    s'.clients c = s.clients c := by
  induction hr with
  | nil => rfl
  | cons hstep _ ih =>
    have hm := h.moves hstep
    rw [ih (consistent_step h hm) fun l hmem => hl l (by simp [hmem]), hm.clients (hl _ (by simp))]

/-! ## Exclusion -/

/-- **One operation per session.** In every reachable state at most one
client is between the admission and the completion of an operation on a
session, so at most one runtime call is outstanding for it; the session is
still stored then, the completion section does not throw, and
`record_runtime_failure` throws the `RuntimeError` it is meant to. -/
theorem one_operation_per_session (rt : RuntimeManager ρ Q A) (r₀ : ρ) (s : Sys ρ Q A)
    (h : (Sys.runs rt r₀).Reachable s) :
    (∀ c c' t t', (s.clients c).ticket = some t → (s.clients c').ticket = some t' →
      t.id = t'.id → c = c') ∧
    (∀ c c' x x', (s.clients c).outstanding = some x → (s.clients c').outstanding = some x' →
      x.2.id = x'.2.id → c = c') ∧
    (∀ c t, (s.clients c).ticket = some t → t.id ∈ s.service.repository) ∧
    (∀ c t now, s.clients c = .completing t →
      ∃ r service, s.service.complete t.op t.id now = (.ok r, service)) ∧
    (∀ c t arg message now, s.clients c = .failing t arg message →
      (s.service.recordRuntimeFailure arg message now).1 = ⟨.runtime, message⟩) := by
  have hI := (consistent_inductive rt r₀).reachable h
  have hstored : ∀ c t, (s.clients c).ticket = some t →
      s.service.repository.get t.id = some t.admitted := fun c t ht => (hI.busy c t ht).stored
  have hout : ∀ c x, (s.clients c).outstanding = some x →
      ∃ t, (s.clients c).ticket = some t ∧ x.2.id = t.id := by
    intro c x hx
    have hargs := hI.args c
    cases hc : s.clients c with
    | calling t call arg prog todo =>
      rw [hc] at hx hargs
      cases hx
      exact ⟨t, rfl, hargs.1⟩
    | idle => rw [hc] at hx; cases hx
    | failing t arg message => rw [hc] at hx; cases hx
    | completing t => rw [hc] at hx; cases hx
  refine ⟨hI.alone, ?_, ?_, ?_, ?_⟩
  · intro c c' x x' hx hx' heq
    obtain ⟨t, ht, hid⟩ := hout c x hx
    obtain ⟨t', ht', hid'⟩ := hout c' x' hx'
    exact hI.alone c c' t t' ht ht' (hid.symm.trans (heq.trans hid'))
  · intro c t ht
    exact Repository.mem_of_get (hstored c t ht)
  · intro c t now hc
    have hget := hstored c t (by rw [hc]; rfl)
    obtain ⟨r, service, hrun, -⟩ :=
      Service.complete_spec t.op now hget (hI.kept _ _ hget).id
    exact ⟨r, service, hrun⟩
  · intro c t arg message now hc
    have hget := hstored c t (by rw [hc]; rfl)
    have harg : arg.id = t.id := by
      have := hI.args c
      rwa [hc] at this
    obtain ⟨service, hrec, -⟩ :=
      Service.recordRuntimeFailure_spec message now hget (hI.kept _ _ hget).id harg
    rw [hrec]

end Invariant

/-! ## The abstract machine -/

/-- What can happen to a session: it is created, or an operation on it
ends. -/
inductive Event where
  | create
  | op (op : Op)

/-- The states an event may lead to; `none` is a session that is not
stored. -/
def outcomes : Option SessionState → Event → List (Option SessionState)
  | none, .create => [some .stopped]
  | some .stopped, .op .start | some .error, .op .start => [some .running, some .error]
  | some .running, .op .stop | some .error, .op .stop => [some .stopped, some .error]
  | some .stopped, .op .stop => [some .stopped]
  | some _, .op .restart => [some .running, some .error]
  | some _, .op .remove => [none, some .error]
  | _, _ => []

def lifecycle : LTS (Option SessionState) Event where
  init state := state = none
  step state event state' := state' ∈ outcomes state event

section History

variable {ρ Q : Type} {A : Q → Type} {rt : RuntimeManager ρ Q A} {r₀ : ρ}

/-- The stored state of a session. -/
def storedState (id : Str) (s : Sys ρ Q A) : Option SessionState :=
  (s.service.repository.get id).map (·.state)

/-- The event a step shows for session `id`. Operations show at their end; a
`stop` of a stopped session ends with its admission. -/
def eventsOf (id : Str) (s : Sys ρ Q A) (l : Lbl Q A) (s' : Sys ρ Q A) : List Event :=
  match l with
  | .create .. =>
    if storedState id s = none ∧ storedState id s' ≠ none then [.create] else []
  | .begin _ op id' =>
    match (s.service.admitOp op id').1 with
    | .ok (.returns _) => if id' = id then [.op op] else []
    | _ => []
  | .fail c _ | .complete c _ =>
    match (s.clients c).ticket with
    | some t => if t.id = id then [.op t.op] else []
    | none => []
  | _ => []

theorem lifecycle_run_one {state state' : Option SessionState} {event : Event}
    (h : state' ∈ outcomes state event) : lifecycle.Run state [event] state' :=
  .cons h (.nil _)

theorem error_outcome {s : Service} {t : Ticket} (h : Busy s t) :
    some .error ∈ outcomes (some t.admitted.state) (.op t.op) := by
  have hstart := h.start
  have hstop := h.stop
  cases hop : t.op <;> cases hstate : t.admitted.state <;> simp_all [outcomes]

theorem completed_outcome {s : Service} {t : Ticket} (now : Timestamp) (h : Busy s t) :
    (t.op.completed t.admitted now).map (·.state) ∈
      outcomes (some t.admitted.state) (.op t.op) := by
  have hstart := h.start
  have hstop := h.stop
  cases hop : t.op <;> cases hstate : t.admitted.state <;>
    simp_all [outcomes, Op.completed, Service.markRunning, Service.markStopped]

/-- The end of an operation is one step of the machine for its session, and
none for the others. -/
theorem run_of_leave {s : Sys ρ Q A} {t : Ticket} {service : Service} {id : Str}
    (hget : s.service.repository.get t.id = some t.admitted)
    (hoff : AgreeOff t.id s.service service)
    (hout : (service.repository.get t.id).map (·.state) ∈
      outcomes (some t.admitted.state) (.op t.op)) (clients : Nat → Client ρ Q A) :
    lifecycle.Run (storedState id s) (if t.id = id then [.op t.op] else [])
      (storedState id ⟨service, s.runtime, clients⟩) := by
  split
  · rename_i heq
    subst heq
    refine lifecycle_run_one ?_
    simpa only [storedState, hget, Option.map_some] using hout
  · rename_i hne
    have := (hoff id (Ne.symm hne)).1
    simp only [storedState, this]
    exact .nil _

theorem history_step {s s' : Sys ρ Q A} {l : Lbl Q A} (id : Str) (h : Consistent s)
    (hm : Moves rt s l s') :
    lifecycle.Run (storedState id s) (eventsOf id s l s') (storedState id s') := by
  cases hm with
  | notCreated =>
    rw [eventsOf, if_neg (fun h => h.2 h.1)]
    exact .nil _
  | created name grc schedulerAlias _ now id' hget =>
    by_cases hid : id = id'
    · subst hid
      simp only [eventsOf, storedState, hget, Service.stored_get, Option.map_none, Option.map_some]
      exact lifecycle_run_one (by simp [outcomes, Service.newSession])
    · have := (Service.stored_agreeOff s.service _
        (Service.newSession name grc schedulerAlias id' now) .idle id hid).1
      simp only [eventsOf, storedState, this]
      rw [if_neg (fun h => h.2 h.1)]
      exact .nil _
  | get | list | called | threw | stepped => exact .nil _
  | refused _ _ _ _ hresult =>
    simp only [eventsOf, hresult]
    exact .nil _
  | returned _ id' session hresult hget hstate =>
    simp only [eventsOf, hresult]
    split
    · rename_i heq
      subst heq
      simp only [storedState, hget, Option.map_some, hstate]
      exact lifecycle_run_one (by simp [outcomes])
    · exact .nil _
  | admitted _ _ _ _ _ hresult =>
    simp only [eventsOf, hresult]
    exact .nil _
  | failed c now t _ message service hc hget _ hoff =>
    have ht : (s.clients c).ticket = some t := by rw [hc]; rfl
    have hbusy := h.busy c t ht
    simp only [eventsOf, ht]
    refine run_of_leave hbusy.stored hoff ?_ _
    rw [hget]
    exact error_outcome hbusy
  | completed c now t service hc hget _ hoff =>
    have ht : (s.clients c).ticket = some t := by rw [hc]; rfl
    have hbusy := h.busy c t ht
    simp only [eventsOf, ht]
    refine run_of_leave hbusy.stored hoff ?_ _
    rw [hget]
    exact completed_outcome now hbusy

theorem AtRest.phase {s : Service} {id : Str} {session : Session} (h : AtRest s id)
    (hget : s.repository.get id = some session) :
    (s.phases.lookup id = some .idle ↔ session.state = .stopped) ∧
    (s.phases.lookup id = some .running ↔ session.state = .running) ∧
    (s.phases.lookup id = some .failed ↔ session.state = .error) := by
  rw [h, hget]
  cases hstate : session.state <;> simp [Service.phaseOfState, hstate]

theorem Consistent.keys {s : Sys ρ Q A} (h : Consistent s) (id : Str) :
    id ∈ s.service.phases ↔ id ∈ s.service.repository := by
  rw [← AList.lookup_isSome, ← AList.lookup_isSome]
  by_cases hfree : Free s id
  · rw [h.rest id hfree, Option.isSome_map]
    rfl
  · simp only [Free, not_forall, not_not] at hfree
    obtain ⟨c, t, ht, rfl⟩ := hfree
    have hbusy := h.busy c t ht
    rw [hbusy.phase, show s.service.repository.lookup t.id = _ from hbusy.stored]
    rfl

/-- **Phases follow states.** After every run from an empty repository: the
sessions with a phase are the stored ones; with no operation in progress the
phase is `Idle`, `Running` or `Failed` as the stored state is `Stopped`,
`Running` or `Error`; during one it is `Starting` or `Stopping` and the
record is the one the operation was admitted on; an error is kept exactly in
state `Error`; and the history of every session is a run of `lifecycle`. -/
theorem phases_follow_states (rt : RuntimeManager ρ Q A) (r₀ : ρ) (s₀ s : Sys ρ Q A)
    (ls : List (Lbl Q A)) (h₀ : (Sys.runs rt r₀).init s₀) (hrun : (Sys.runs rt r₀).Run s₀ ls s) :
    (∀ id, id ∈ s.service.phases ↔ id ∈ s.service.repository) ∧
    (∀ id session, s.service.repository.get id = some session → Free s id →
      (s.service.phases.lookup id = some .idle ↔ session.state = .stopped) ∧
      (s.service.phases.lookup id = some .running ↔ session.state = .running) ∧
      (s.service.phases.lookup id = some .failed ↔ session.state = .error)) ∧
    (∀ c t, (s.clients c).ticket = some t →
      (s.service.phases.lookup t.id = some .starting ∨
        s.service.phases.lookup t.id = some .stopping) ∧
      s.service.repository.get t.id = some t.admitted) ∧
    (∀ id session, s.service.repository.get id = some session →
      (session.lastError.isSome = true ↔ session.state = .error)) ∧
    (∀ id es, (Sys.runs rt r₀).Shows (eventsOf id) s₀ ls s es →
      lifecycle.Run none es (storedState id s)) := by
  have hinit := (consistent_inductive rt r₀).init s₀ h₀
  have hI := (consistent_inductive rt r₀).run hrun hinit
  refine ⟨hI.keys, ?_, ?_, ?_, ?_⟩
  · intro id session hget hfree
    exact (hI.rest id hfree).phase hget
  · intro c t ht
    have hbusy := hI.busy c t ht
    refine ⟨?_, hbusy.stored⟩
    rw [hbusy.phase]
    cases t.op <;> simp [Op.busyPhase]
  · intro id session hget
    exact (hI.kept id session hget).error
  · intro id es hshows
    have hnone : storedState id s₀ = none := by
      change s₀ = _ at h₀
      subst h₀
      rfl
    have := LTS.run_map (consistent_inductive rt r₀) (storedState id) (eventsOf id)
      (fun s l s' hs hstep => history_step id hs (hs.moves hstep)) hshows hinit
    rwa [hnone] at this

end History

/-! ## One run -/

/-- A runtime whose calls ask once how they end. -/
def askingRuntime : RuntimeManager Unit Unit fun _ => Except Exn Unit where
  call _ _ := .ask () fun answer => .ret answer

/-- The session created by the first draw. -/
def firstId : Str := Service.generateSessionId 1

/-- A session is created and started by client 0, whose two runtime calls
return; client 1 is turned away in between. -/
def startRun : List (Lbl Unit fun _ => Except Exn Unit) :=
  [.create (str "demo") (str "graph") none [1] 0, .begin 0 .start firstId,
    .runtime 0 fun _ => .ok (), .begin 1 .stop firstId, .runtime 0 fun _ => .ok (),
    .runtime 0 fun _ => .ok (), .runtime 0 fun _ => .ok ()]

def runFrom (ls : List (Lbl Unit fun _ => Except Exn Unit)) :
    Option (Sys Unit Unit fun _ => Except Exn Unit) :=
  LTS.runFn (Sys.step askingRuntime) ⟨Service.empty, (), fun _ => .idle⟩ ls

theorem startRun_isSome : (runFrom startRun).isSome = true := by decide +kernel

/-- Client 0 is about to complete. -/
def startCalled : Sys Unit Unit fun _ => Except Exn Unit := (runFrom startRun).get startRun_isSome

theorem startCalled_run : (Sys.runs askingRuntime ()).Run ⟨Service.empty, (), fun _ => .idle⟩
    startRun startCalled :=
  LTS.run_of_runFn _ _ _ (Option.some_get _).symm

def demo : Session := Service.newSession (str "demo") (str "graph") none firstId 0

theorem startCalled_client : startCalled.clients 0 = .completing ⟨.start, firstId, demo⟩ := by
  rfl

theorem startCalled_completes :
    ∃ r service, startCalled.service.complete .start firstId 7 = (.ok r, service) :=
  (one_operation_per_session askingRuntime () startCalled
    ⟨_, startRun, rfl, startCalled_run⟩).2.2.2.1 0 ⟨.start, firstId, demo⟩ 7 startCalled_client

theorem startCalled_keeps_record :
    (startCalled.service.phases.lookup firstId = some .starting ∨
      startCalled.service.phases.lookup firstId = some .stopping) ∧
    startCalled.service.repository.get firstId = some demo :=
  (phases_follow_states askingRuntime () _ startCalled startRun rfl startCalled_run).2.2.1 0
    ⟨.start, firstId, demo⟩ (by rw [startCalled_client]; rfl)

end Gr4cp.App

import Gr4ControlPlane.L4App.SessionLifecycle
import Gr4ControlPlane.L4App.SessionStreams

/-!
# What the operations of the service leave alone

Each operation copies the record out, changes the copy, and reloads and
rewrites the record after the runtime call. `outcome` says how the operation
that ends with a step ends, `subject` which session a step is about.

* `refused_unchanged`: a step that ends an operation with a
  `ValidationError`, `NotFoundError` or `InvalidStateError` is the whole
  operation, and changes nothing.
* `Moves.off_subject`: the record and the phase of any other session stay.
* `Moves.rewritten`: of a record that stays stored, only the state, the last
  error and the time of the last change are ever rewritten.
* `operations_frame`: the three together, with the stream lookups.
-/
namespace Gr4cp.App

open Gr4cp.Core Gr4cp.Domain Gr4cp.Storage Gr4cp.Runtime

/-- `session'` is `session` with another state, last error and time of the
last change. -/
def Rewritten (session session' : Session) : Prop :=
  ∃ state lastError updatedAt, session' = { session with state, lastError, updatedAt }

theorem Rewritten.refl (session : Session) : Rewritten session session :=
  ⟨session.state, session.lastError, session.updatedAt, rfl⟩

theorem Rewritten.trans {a b c : Session} (h : Rewritten a b) (h' : Rewritten b c) :
    Rewritten a c := by
  obtain ⟨_, _, _, rfl⟩ := h
  obtain ⟨state, lastError, updatedAt, rfl⟩ := h'
  exact ⟨state, lastError, updatedAt, rfl⟩

theorem rewritten_markFailed (message : Str) (session : Session) (now : Timestamp) :
    Rewritten session (Service.markFailed message session now) := ⟨_, _, _, rfl⟩

theorem rewritten_completed {op : Op} {session session' : Session} {now : Timestamp}
    (h : op.completed session now = some session') : Rewritten session session' := by
  cases op with
  | remove => cases h
  | start | stop | restart =>
    cases h
    exact ⟨_, _, _, rfl⟩

/-- Every operation but `remove` leaves a record. -/
theorem completed_isSome {op : Op} (session : Session) (now : Timestamp) (h : op ≠ .remove) :
    ∃ session', op.completed session now = some session' := by
  cases op with
  | remove => exact absurd rfl h
  | start | stop | restart => exact ⟨_, rfl⟩

section Frame

variable {ρ Q : Type} {A : Q → Type} {rt : RuntimeManager ρ Q A} {r₀ : ρ} {s s' : Sys ρ Q A}
  {l : Lbl Q A}

/-- How the operation that ends with a step ends; `none` if the step ends
none. -/
def Sys.outcome (s : Sys ρ Q A) : Lbl Q A → Option (Except ServiceError Unit)
  | .create name grc schedulerAlias draws now =>
    (s.service.create name grc schedulerAlias draws now).map fun result =>
      result.1.map fun _ => ()
  | .get id => some ((s.service.get id).map fun _ => ())
  | .list => some (.ok ())
  | .begin _ op id =>
    match (s.service.admitOp op id).1 with
    | .error e => some (.error e)
    | .ok (.returns _) => some (.ok ())
    | .ok (.admitted _) => none
  | .runtime _ _ => none
  | .fail c now =>
    match s.clients c with
    | .failing _ arg message => some (.error (s.service.recordRuntimeFailure arg message now).1)
    | _ => none
  | .complete c now =>
    match s.clients c with
    | .completing t => some ((s.service.complete t.op t.id now).1.map fun _ => ())
    | _ => none

/-- The session a step is about; for `create`, the new one. -/
def Sys.subject (s : Sys ρ Q A) : Lbl Q A → Option Str
  | .create name grc schedulerAlias draws now =>
    (s.service.create name grc schedulerAlias draws now).bind fun result =>
      result.1.toOption.map (·.id)
  | .get id => some id
  | .list => none
  | .begin _ _ id => some id
  | .runtime c _ | .fail c _ | .complete c _ => (s.clients c).ticket.map (·.id)

/-- The section of `record_runtime_failure` throws the `RuntimeError` it is
meant to. -/
theorem outcome_fail (h : Consistent s) {c : Nat} {now : Timestamp} {t : Ticket} {arg : Session}
    {message : Str} (hc : s.clients c = .failing t arg message) :
    s.outcome (.fail c now) = some (.error ⟨.runtime, message⟩) := by
  obtain ⟨service, hrec, _⟩ := h.fail_section hc now
  simp only [Sys.outcome, hc, hrec]

/-- A completion section returns. -/
theorem outcome_complete (h : Consistent s) {c : Nat} {now : Timestamp} {t : Ticket}
    (hc : s.clients c = .completing t) : s.outcome (.complete c now) = some (.ok ()) := by
  obtain ⟨r, service, hrun, _⟩ := h.complete_section hc now
  simp only [Sys.outcome, hc, hrun]
  rfl

theorem begin_idle {c : Nat} {op : Op} {id : Str} (hs : s.step rt (.begin c op id) = some s') :
    s.clients c = .idle := by
  simp only [Sys.step, Sys.beginOp] at hs
  split at hs
  · assumption
  · cases hs

/-- A refused operation has one section, which changes nothing. -/
theorem refused_unchanged (h : Consistent s) (hs : s.step rt l = some s') {e : ServiceError}
    (he : s.outcome l = some (.error e)) (hk : e.kind.isRefusal = true) :
    s' = s ∧ ∀ c, l.client = some c → s.clients c = .idle := by
  cases l with
  | create name grc schedulerAlias draws now =>
    simp only [Sys.step, Option.map_eq_some_iff] at hs
    obtain ⟨⟨r, service⟩, hcreate, rfl⟩ := hs
    rcases Service.create_spec hcreate with ⟨e, rfl, rfl⟩ | ⟨id, -, rfl, rfl⟩
    · exact ⟨rfl, by rintro c ⟨⟩⟩
    · simp only [Sys.outcome, hcreate, Option.map_some] at he
      cases he
  | get id =>
    cases hs
    exact ⟨rfl, by rintro c ⟨⟩⟩
  | list =>
    cases hs
    exact ⟨rfl, by rintro c ⟨⟩⟩
  | begin c op id =>
    refine ⟨?_, ?_⟩
    · cases moves_begin hs with
      | refused | returned => rfl
      | admitted _ _ _ _ _ hresult =>
        simp only [Sys.outcome, hresult] at he
        cases he
    · rintro c' ⟨⟩
      exact begin_idle hs
  | runtime c ans => cases he
  | fail c now =>
    cases h.moves hs with
    | failed _ _ _ _ _ _ hc =>
      rw [outcome_fail h hc] at he
      cases he
      cases hk
  | complete c now =>
    cases h.moves hs with
    | completed _ _ _ _ hc =>
      rw [outcome_complete h hc] at he
      cases he

/-- The record and the phase of a session stay while the steps are about
others. -/
theorem Moves.off_subject (hs : s.step rt l = some s') (hm : Moves rt s l s') {j : Str}
    (hj : s.subject l ≠ some j) :
    s'.service.repository.get j = s.service.repository.get j ∧
      s'.service.phases.lookup j = s.service.phases.lookup j := by
  cases hm with
  | notCreated | get | list | refused | returned => exact ⟨rfl, rfl⟩
  | created name grc schedulerAlias draws now id hget =>
    simp only [Sys.step, Option.map_eq_some_iff] at hs
    obtain ⟨⟨r, service⟩, hcreate, heq⟩ := hs
    rcases Service.create_spec hcreate with ⟨e, -, rfl⟩ | ⟨id', hget', rfl, rfl⟩
    · rw [← heq]
      exact ⟨rfl, rfl⟩
    · rw [← heq]
      simp only [Sys.subject, hcreate, Option.bind_some] at hj
      have hne : j ≠ id' := by
        rintro rfl
        exact hj rfl
      exact Service.stored_agreeOff _ _ _ _ j hne
  | admitted _ op id session =>
    have hne : j ≠ id := by
      rintro rfl
      exact hj rfl
    exact Service.setPhase_agreeOff s.service id op.busyPhase j hne
  | called | threw | stepped => exact ⟨rfl, rfl⟩
  | failed c now t arg message service hc hget hrest hoff =>
    refine hoff j ?_
    rintro rfl
    exact hj (by simp only [Sys.subject, hc]; rfl)
  | completed c now t service hc hget hrest hoff =>
    refine hoff j ?_
    rintro rfl
    exact hj (by simp only [Sys.subject, hc]; rfl)

/-- A record that stays stored is at most rewritten. -/
theorem Moves.rewritten (h : Consistent s) (hm : Moves rt s l s') {id : Str}
    {session session' : Session} (hget : s.service.repository.get id = some session)
    (hget' : s'.service.repository.get id = some session') : Rewritten session session' := by
  have same : s'.service.repository.get id = s.service.repository.get id →
      Rewritten session session' := fun heq => by
    rw [heq, hget] at hget'
    cases hget'
    exact .refl session
  cases hm with
  | notCreated | get | list | refused | returned | admitted | called | threw | stepped =>
    exact same rfl
  | created name grc schedulerAlias draws now id' hnone =>
    refine same (Service.stored_agreeOff s.service id' _ .idle id ?_).1
    rintro rfl
    rw [hget] at hnone
    cases hnone
  | failed c now t arg message service hc hend hrest hoff =>
    by_cases hid : id = t.id
    · subst hid
      have hstored := (h.busy c t (by rw [hc]; rfl)).stored
      obtain rfl := Option.some.inj (hget.symm.trans hstored)
      obtain rfl := Option.some.inj (hget'.symm.trans hend)
      exact rewritten_markFailed message t.admitted now
    · exact same (hoff id hid).1
  | completed c now t service hc hend hrest hoff =>
    by_cases hid : id = t.id
    · subst hid
      have hstored := (h.busy c t (by rw [hc]; rfl)).stored
      obtain rfl := Option.some.inj (hget.symm.trans hstored)
      exact rewritten_completed (hend.symm.trans hget')
    · exact same (hoff id hid).1

/-- What an admitted operation does to its own record. -/
structure OwnRecord (s s' : Sys ρ Q A) (c : Nat) (t : Ticket)
    (outcome : Option (Except ServiceError Unit)) : Prop where
  /-- it is the record the operation was admitted on until the operation ends -/
  stored : s.service.repository.get t.id = some t.admitted
  goesOn : outcome = none → s'.service = s.service ∧ (s'.clients c).ticket = some t
  ends : ∀ result, outcome = some result → s'.clients c = .idle
  removed : t.op = .remove → outcome = some (.ok ()) → s'.service.repository.get t.id = none
  rewritten : ∀ result, outcome = some result → ¬ (t.op = .remove ∧ result = .ok ()) →
    ∃ session, s'.service.repository.get t.id = some session ∧ Rewritten t.admitted session

theorem Moves.ownRecord (h : Consistent s) (hs : s.step rt l = some s') (hm : Moves rt s l s')
    {c : Nat} {t : Ticket} (hl : l.client = some c) (ht : (s.clients c).ticket = some t) :
    OwnRecord s s' c t (s.outcome l) := by
  have hstored := (h.busy c t ht).stored
  have goes : s'.service = s.service → (s'.clients c).ticket = some t → s.outcome l = none →
      OwnRecord s s' c t (s.outcome l) := fun hservice hticket hnone => by
    rw [hnone]
    exact ⟨hstored, fun _ => ⟨hservice, hticket⟩, by rintro _ ⟨⟩, by rintro _ ⟨⟩, by rintro _ ⟨⟩⟩
  cases hm with
  | notCreated | created | get | list => cases hl
  | refused | returned | admitted =>
    cases hl
    rw [begin_idle hs] at ht
    cases ht
  | called c' ans t' call arg todo hc =>
    cases hl
    rw [hc] at ht
    cases ht
    exact goes rfl (by simp [Sys.setClient, proceed_ticket]) rfl
  | threw c' ans t' call arg e todo hc =>
    cases hl
    rw [hc] at ht
    cases ht
    exact goes rfl (by simp [Sys.setClient, Client.ticket]) rfl
  | stepped c' ans t' call arg prog prog' todo runtime hc =>
    cases hl
    rw [hc] at ht
    cases ht
    exact goes rfl (by simp [Sys.setClient, Client.ticket]) rfl
  | failed c' now t' arg message service hc hget =>
    cases hl
    rw [outcome_fail h hc]
    rw [hc] at ht
    cases ht
    refine ⟨hstored, by rintro ⟨⟩, fun _ _ => by simp [Sys.setClient], by rintro _ ⟨⟩, ?_⟩
    rintro _ ⟨⟩ -
    exact ⟨_, hget, rewritten_markFailed message t.admitted now⟩
  | completed c' now t' service hc hget =>
    cases hl
    rw [outcome_complete h hc]
    rw [hc] at ht
    cases ht
    refine ⟨hstored, by rintro ⟨⟩, fun _ _ => by simp [Sys.setClient], fun hop _ => ?_, ?_⟩
    · rw [hop] at hget
      exact hget
    · rintro _ ⟨⟩ hnot
      obtain ⟨session, hdone⟩ := completed_isSome t.admitted now fun hop => hnot ⟨hop, rfl⟩
      exact ⟨session, hget.trans hdone, rewritten_completed hdone⟩

/-- A session keeps what it was created with for as long as it is stored. -/
theorem run_rewritten {id : Str} {ls : List (Lbl Q A)} {session : Session} (h : Consistent s)
    (hr : (Sys.runs rt r₀).RunIn (fun s => (s.service.repository.get id).isSome = true) s ls s')
    (hget : s.service.repository.get id = some session) :
    ∃ session', s'.service.repository.get id = some session' ∧ Rewritten session session' := by
  induction hr generalizing session with
  | nil => exact ⟨session, hget, .refl session⟩
  | cons _ hstep hrest ih =>
    have hm := h.moves hstep
    obtain ⟨session₁, hget₁⟩ := Option.isSome_iff_exists.1 hrest.first
    obtain ⟨session', hget', hrw⟩ := ih (consistent_step h hm) hget₁
    exact ⟨session', hget', (hm.rewritten h hget hget₁).trans hrw⟩

/-- An admission section leaves every record as it is. -/
theorem begin_repository {c : Nat} {op : Op} {id : Str}
    (hs : s.step rt (.begin c op id) = some s') : s'.service.repository = s.service.repository := by
  cases moves_begin hs with
  | refused | returned | admitted => rfl

/-- **Frames.** In every reachable state: a step that ends an operation with
a refusal is all of that operation, leaves everything as it is and comes
from a client without a runtime call, and a stream lookup that is refused
called nothing either; a step about one session leaves the records and the
phases of all others; an admission changes no record, and the operation it
admits leaves its record alone until it ends, then rewrites its state, last
error and time of change or, a `remove` that returns, drops it. Hence what a
session was created with stays for as long as it is stored. -/
theorem operations_frame (rt : RuntimeManager ρ Q A) (r₀ : ρ) (s : Sys ρ Q A)
    (h : (Sys.runs rt r₀).Reachable s) :
    (∀ l s' e, (Sys.runs rt r₀).step s l s' → s.outcome l = some (.error e) →
      e.kind.isRefusal = true → s' = s ∧ ∀ c, l.client = some c → s.clients c = .idle) ∧
    (∀ plan fetch resolve id streamId e, e.kind.isRefusal = true →
      ((s.service.activeStreamPlan plan id).1 = .error e →
        (s.service.activeStreamPlan plan id).2 = []) ∧
      ((s.service.fetchHttpStream fetch id streamId).1 = .error e →
        (s.service.fetchHttpStream fetch id streamId).2 = []) ∧
      (s.service.resolveWebsocketStream resolve id streamId = .error e →
        ∀ resolve', s.service.resolveWebsocketStream resolve' id streamId = .error e)) ∧
    (∀ l s' j, (Sys.runs rt r₀).step s l s' → s.subject l ≠ some j →
      s'.service.repository.get j = s.service.repository.get j ∧
        s'.service.phases.lookup j = s.service.phases.lookup j) ∧
    (∀ c op id s', (Sys.runs rt r₀).step s (.begin c op id) s' →
      s'.service.repository = s.service.repository) ∧
    (∀ l s' c t, (Sys.runs rt r₀).step s l s' → l.client = some c →
      (s.clients c).ticket = some t → OwnRecord s s' c t (s.outcome l)) ∧
    (∀ ls s' id session,
      (Sys.runs rt r₀).RunIn (fun s => (s.service.repository.get id).isSome = true) s ls s' →
      s.service.repository.get id = some session →
      ∃ session', s'.service.repository.get id = some session' ∧ Rewritten session session') := by
  have hI := (consistent_inductive rt r₀).reachable h
  refine ⟨?_, ?_, ?_, ?_, ?_, ?_⟩
  · intro l s' e hs he hk
    exact refused_unchanged hI hs he hk
  · intro plan fetch resolve id streamId e hk
    refine ⟨fun he => ?_, fun he => ?_, fun he => ?_⟩
    · exact Service.activeStreamPlan_refused he hk
    · exact Service.fetchHttpStream_refused he hk
    · exact Service.resolveWebsocketStream_refused he hk
  · intro l s' j hs hj
    exact (hI.moves hs).off_subject hs hj
  · intro c op id s' hs
    exact begin_repository hs
  · intro l s' c t hs hl ht
    exact (hI.moves hs).ownRecord hI hs hl ht
  · intro ls s' id session hr hget
    exact run_rewritten hI hr hget

end Frame

/-- A `stop` that comes in before the start has completed is turned away. -/
theorem startCalled_refuses_stop :
    ∃ s' : Sys Unit Unit fun _ => Except Exn Unit,
      (Sys.runs askingRuntime ()).step startCalled (.begin 1 .stop firstId) s' ∧ s' = startCalled := by
  have hstep : (startCalled.step askingRuntime (.begin 1 .stop firstId)).isSome = true := by
    decide +kernel
  obtain ⟨s', hs⟩ := Option.isSome_iff_exists.1 hstep
  refine ⟨s', hs, ?_⟩
  have hout : ∃ e : ServiceError, startCalled.outcome (.begin 1 .stop firstId) = some (.error e) ∧
      e.kind.isRefusal = true := ⟨_, rfl, rfl⟩
  obtain ⟨e, he, hk⟩ := hout
  exact ((operations_frame askingRuntime () startCalled ⟨_, startRun, rfl, startCalled_run⟩).1
    _ s' e hs he hk).1

end Gr4cp.App

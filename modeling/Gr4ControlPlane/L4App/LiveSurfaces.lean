import Gr4ControlPlane.L4App.BlockSettings
import Gr4ControlPlane.L4App.SessionLifecycle
import Gr4ControlPlane.L4App.SessionStreams

/-!
# Which sessions the live settings and the streams admit

`BlockSettingsService` asks the repository whether a session is `Running`;
the stream lookups of `SessionService` ask for its phase as well. The phase
of a session that is stopped, restarted or removed leaves `Running` at the
admission, while the stored state stays `Running` until the operation ends.
In that window the settings still reach the runtime.

* `runningSession_iff`: the stream lookups admit the sessions stored as
  `Running` without an operation in flight.
* `loadRunningSession_iff`: the settings admit all sessions stored as
  `Running`.
* `surfaces_agree_iff`: the two agree exactly on the sessions outside the
  window.
-/
namespace Gr4cp.App

open Gr4cp.Core Gr4cp.Domain Gr4cp.Storage Gr4cp.Runtime

section Surfaces

variable {ρ Q : Type} {A : Q → Type} {rt : RuntimeManager ρ Q A} {r₀ : ρ} {s : Sys ρ Q A}
  {id : Str} {session : Session}

/-- The session is stored as running, and no operation on it is in flight. -/
def Admitted (s : Sys ρ Q A) (id : Str) : Prop :=
  ∃ session, s.service.repository.get id = some session ∧ session.state = .running ∧ Free s id

/-- The settings and the streams pass requests on for the same sessions, and
the settings turn away the rest before the runtime is called. -/
structure SurfacesAgree (s : Sys ρ Q A) (id : Str) : Prop where
  update : ∀ set block patch mode,
    (update s.service.repository set id block patch mode).2 ≠ [] ↔
      Admitted s id ∧ ∃ m, jsonToPropertyMap patch = .ok m
  updateRefuses : ∀ set block patch mode,
    (App.update s.service.repository set id block patch mode).2 = [] →
    ∃ e, (App.update s.service.repository set id block patch mode).1 = .error (some e) ∧
      (e.kind = .notFound ∨ e.kind = .invalidState ∨
        e.kind = .validation ∧ ∃ what, jsonToPropertyMap patch = .error what)
  get : ∀ read block, (BlockSettings.get s.service.repository read id block).2 ≠ [] ↔ Admitted s id
  getRefuses : ∀ read block, (BlockSettings.get s.service.repository read id block).2 = [] →
    ∃ e, (BlockSettings.get s.service.repository read id block).1 = .error (some e) ∧
      (e.kind = .notFound ∨ e.kind = .invalidState)
  plan : ∀ plan, (s.service.activeStreamPlan plan id).2 ≠ [] ↔ Admitted s id
  fetch : ∀ fetch streamId, (s.service.fetchHttpStream fetch id streamId).2 ≠ [] ↔ Admitted s id
  resolve : ∀ route streamId,
    s.service.resolveWebsocketStream (fun _ _ => .ok route) id streamId = .ok route ↔ Admitted s id

/-! ## What the streams admit -/

/-- Without an operation in flight the phase is the one of the stored
state. -/
theorem Consistent.phase_eq (h : Consistent s)
    (hget : s.service.repository.get id = some session) (hfree : Free s id) :
    s.service.phaseForLocked session = Service.phaseOfState session.state := by
  have hrest := h.rest id hfree
  rw [AtRest, hget] at hrest
  rw [Service.phaseForLocked, (h.kept id session hget).id, hrest]
  rfl

/-- The test of the stream lookups, on a stored session. -/
theorem Consistent.runs_iff (h : Consistent s)
    (hget : s.service.repository.get id = some session) :
    ¬ (session.state ≠ .running ∨ s.service.phaseForLocked session ≠ .running) ↔ Admitted s id := by
  simp only [not_or, not_not]
  constructor
  · intro hin
    obtain ⟨hstate, hphase⟩ := hin
    exact ⟨session, hget, hstate, h.free hget (by simp [hphase])⟩
  · intro hadmitted
    obtain ⟨session', hget', hstate, hfree⟩ := hadmitted
    obtain rfl := Option.some.inj (hget.symm.trans hget')
    refine ⟨hstate, ?_⟩
    rw [h.phase_eq hget hfree, hstate]
    rfl

theorem loadOrThrow_of_get {s : Service} (hget : s.repository.get id = some session) :
    s.loadOrThrow id = .ok session := by
  simp [Service.loadOrThrow, hget]

theorem runningSession_iff (h : Consistent s) :
    (∃ session, s.service.runningSession id = .ok session) ↔ Admitted s id := by
  unfold Service.runningSession
  rcases Service.loadOrThrow_cases s.service id with ⟨e, hload⟩ | ⟨session, hload, hget⟩
  · rw [hload]
    refine ⟨by rintro ⟨session, ⟨⟩⟩, ?_⟩
    rintro ⟨session, hget, -, -⟩
    rw [loadOrThrow_of_get hget] at hload
    cases hload
  · rw [hload, ← h.runs_iff hget]
    simp only
    split
    · rename_i hout
      exact ⟨by rintro ⟨_, ⟨⟩⟩, fun hnot => (hnot hout).elim⟩
    · rename_i hin
      exact ⟨fun _ => hin, fun _ => ⟨session, rfl⟩⟩

theorem activeStreamPlan_calls_iff (h : Consistent s)
    (plan : Session → Except Exn (Option StreamRuntimePlan)) :
    (s.service.activeStreamPlan plan id).2 ≠ [] ↔ Admitted s id := by
  rw [← runningSession_iff h, Service.activeStreamPlan_calls_iff]
  simp only [Service.activeStreamSession_iff]

theorem fetchHttpStream_calls_iff (h : Consistent s)
    (fetch : Nat → Session → Str → Except Exn HttpStreamResponse) (streamId : Str) :
    (s.service.fetchHttpStream fetch id streamId).2 ≠ [] ↔ Admitted s id := by
  rw [← runningSession_iff h]
  unfold Service.fetchHttpStream
  cases s.service.runningSession id with
  | error e => simp
  | ok session =>
    have hpos := (fetchAttempts_spec (fetch · session streamId) id 0 kTransientFetchRetries).2.2
      (by decide)
    simp only [ne_eq, List.replicate_eq_nil_iff, Except.ok.injEq, exists_eq', iff_true]
    omega

theorem resolveWebsocketStream_iff (h : Consistent s) (route : InternalStreamBinding)
    (streamId : Str) :
    s.service.resolveWebsocketStream (fun _ _ => .ok route) id streamId = .ok route ↔
      Admitted s id := by
  rw [← runningSession_iff h, Service.resolveWebsocketStream_eq]
  cases s.service.runningSession id with
  | error e => simp
  | ok session => simp

/-! ## What the settings admit -/

/-- The session is stored as running. -/
def StoredRunning (s : Sys ρ Q A) (id : Str) : Prop :=
  ∃ session, s.service.repository.get id = some session ∧ session.state = .running

theorem loadRunningSession_iff :
    (∃ session, loadRunningSessionOrThrow s.service.repository id = .ok session) ↔
      StoredRunning s id := by
  unfold loadRunningSessionOrThrow StoredRunning
  cases s.service.repository.get id with
  | none => simp
  | some session =>
    by_cases hstate : session.state = .running <;> simp [hstate]

theorem loadRunningSession_error {repository : Repository} {e : ServiceError}
    (h : loadRunningSessionOrThrow repository id = .error e) :
    e.kind = .notFound ∨ e.kind = .invalidState := by
  unfold loadRunningSessionOrThrow at h
  split at h
  · cases h
    exact .inl rfl
  · split at h
    · cases h
      exact .inr rfl
    · cases h

theorem update_calls_iff (set : SettingsCall → Except SettingsThrow Unit) (block : Str)
    (patch : Json) (mode : BlockSettingsMode) :
    ((update s.service.repository set id block patch mode).2 ≠ [] ↔
      StoredRunning s id ∧ ∃ m, jsonToPropertyMap patch = .ok m) ∧
    ((update s.service.repository set id block patch mode).2 = [] →
      ∃ e, (update s.service.repository set id block patch mode).1 = .error (some e) ∧
        (e.kind = .notFound ∨ e.kind = .invalidState ∨
          e.kind = .validation ∧ ∃ what, jsonToPropertyMap patch = .error what)) := by
  rw [← loadRunningSession_iff]
  unfold update
  cases hload : loadRunningSessionOrThrow s.service.repository id with
  | error e =>
    refine ⟨by simp, fun _ => ⟨e, rfl, ?_⟩⟩
    rcases loadRunningSession_error hload with hkind | hkind
    · exact .inl hkind
    · exact .inr (.inl hkind)
  | ok session =>
    cases hpatch : jsonToPropertyMap patch with
    | error what => exact ⟨by simp, fun _ => ⟨_, rfl, .inr (.inr ⟨rfl, what, rfl⟩)⟩⟩
    | ok m =>
      simp only
      split <;> simp

theorem get_calls_iff (read : Session → Str → Except SettingsThrow PropertyMap) (block : Str) :
    ((BlockSettings.get s.service.repository read id block).2 ≠ [] ↔ StoredRunning s id) ∧
    ((BlockSettings.get s.service.repository read id block).2 = [] →
      ∃ e, (BlockSettings.get s.service.repository read id block).1 = .error (some e) ∧
        (e.kind = .notFound ∨ e.kind = .invalidState)) := by
  rw [← loadRunningSession_iff]
  unfold BlockSettings.get
  cases hload : loadRunningSessionOrThrow s.service.repository id with
  | error e => exact ⟨by simp, fun _ => ⟨e, rfl, loadRunningSession_error hload⟩⟩
  | ok session =>
    simp only
    split
    · simp
    · split <;> simp

/-! ## Where the two agree -/

theorem admitted_iff_storedRunning
    (h : ¬ ∃ session, s.service.repository.get id = some session ∧ session.state = .running ∧
      ¬ Free s id) : Admitted s id ↔ StoredRunning s id := by
  constructor
  · intro ⟨session, hget, hstate, _⟩
    exact ⟨session, hget, hstate⟩
  · intro ⟨session, hget, hstate⟩
    exact ⟨session, hget, hstate, by_contra fun hfree => h ⟨session, hget, hstate, hfree⟩⟩

/-- **The two surfaces, exactly.** In every reachable state and for every
id, the live settings and the streams admit the same sessions if and only if
it is not stored as running while an operation on it is in flight. -/
theorem surfaces_agree_iff (rt : RuntimeManager ρ Q A) (r₀ : ρ) (s : Sys ρ Q A)
    (h : (Sys.runs rt r₀).Reachable s) (id : Str) :
    SurfacesAgree s id ↔
      ¬ ∃ session, s.service.repository.get id = some session ∧ session.state = .running ∧
        ¬ Free s id := by
  have hI := (consistent_inductive rt r₀).reachable h
  constructor
  · intro hagree ⟨session, hget, hstate, hbusy⟩
    have hcalls := (get_calls_iff (s := s) (fun _ _ => .ok []) []).1.2 ⟨session, hget, hstate⟩
    obtain ⟨-, -, -, hfree⟩ := (hagree.get _ _).1 hcalls
    exact hbusy hfree
  · intro hout
    have heq := admitted_iff_storedRunning hout
    refine ⟨?_, ?_, ?_, ?_, ?_, ?_, ?_⟩
    · intro set block patch mode
      rw [heq]
      exact (update_calls_iff set block patch mode).1
    · intro set block patch mode
      exact (update_calls_iff set block patch mode).2
    · intro read block
      rw [heq]
      exact (get_calls_iff read block).1
    · intro read block
      exact (get_calls_iff read block).2
    · exact activeStreamPlan_calls_iff hI
    · exact fetchHttpStream_calls_iff hI
    · exact resolveWebsocketStream_iff hI

end Surfaces

theorem surfaces_agree_startCalled : SurfacesAgree startCalled firstId := by
  refine (surfaces_agree_iff askingRuntime () startCalled ⟨_, startRun, rfl, startCalled_run⟩
    firstId).2 ?_
  intro ⟨session, hget, hstate, _⟩
  obtain rfl := Option.some.inj ((show _ = some demo from by rfl).symm.trans hget)
  cases hstate

/-- The start completes, and a stop is admitted. -/
def stopRun : List (Lbl Unit fun _ => Except Exn Unit) :=
  startRun ++ [.complete 0 1, .begin 0 .stop firstId]

theorem stopRun_isSome : (runFrom stopRun).isSome = true := by decide +kernel

def stopAdmitted : Sys Unit Unit fun _ => Except Exn Unit := (runFrom stopRun).get stopRun_isSome

/-- While the stop is in flight the settings are still passed on. -/
theorem surfaces_disagree_while_stopping :
    (Sys.runs askingRuntime ()).Reachable stopAdmitted ∧ ¬ SurfacesAgree stopAdmitted firstId := by
  refine ⟨⟨_, stopRun, rfl, LTS.run_of_runFn _ _ _ (Option.some_get _).symm⟩, fun h => ?_⟩
  have hcalls : (BlockSettings.get stopAdmitted.service.repository (fun _ _ => .ok []) firstId
      (str "src0")).2 ≠ [] := by decide +kernel
  obtain ⟨-, -, -, hfree⟩ := (h.get _ _).1 hcalls
  have hticket : ((stopAdmitted.clients 0).ticket.map (·.id)) = some firstId := by decide +kernel
  obtain ⟨t, ht, hid⟩ := Option.map_eq_some_iff.1 hticket
  exact hfree 0 t ht hid

end Gr4cp.App

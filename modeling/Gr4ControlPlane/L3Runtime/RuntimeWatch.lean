import Gr4ControlPlane.Core.Watch
import Gr4ControlPlane.L3Runtime.PortSafety

/-!
# What a call of the runtime manager does on its way

The specifications of `RuntimeSpec` say what a call leaves behind. Here its
steps are watched: which ports the operating system offers it, in which
state of the entry it calls `scheduler->start()`, and what it does if
`scheduler->stop()` ends in certain ways only. Which starts and which ends of
a stop is the `Guard`.

Each lemma is about the entry of the session and follows its function path
by path; the caller says what it wants to hold at each end.
-/
namespace Gr4cp.Runtime

open Gr4cp.Core Gr4cp.Domain

/-! ## The watch -/

/-- A port the operating system returned, and the stream it was for. -/
structure Offer where
  stream : Nat
  port : Nat
  deriving DecidableEq, Repr

def offers : ∀ call, Answer call → List Offer
  | .reserveEphemeralLoopbackPort stream _, .ok port => [⟨stream, port⟩]
  | _, _ => []

/-- The last offer for each stream. The allocator asks again for a stream
only if the port offered was in use. -/
def lastOffers : List Offer → List Nat
  | [] => []
  | offer :: rest =>
    if offer.stream ∈ rest.map Offer.stream then lastOffers rest
    else offer.port :: lastOffers rest

/-- One stream's offers, of which all but the last were refused. -/
theorem lastOffers_append {stream port : Nat} {rest : List Offer} (refused : List Nat)
    (h : ∀ offer ∈ rest, stream < offer.stream) :
    lastOffers (refused.map (Offer.mk stream) ++ ⟨stream, port⟩ :: rest) =
      port :: lastOffers rest := by
  induction refused with
  | nil =>
    have hnot : stream ∉ rest.map Offer.stream := by
      rw [List.mem_map]
      rintro ⟨offer, hmem, heq⟩
      have := h offer hmem
      omega
    simp [lastOffers, hnot]
  | cons p refused ih => simpa [lastOffers] using ih

/-- The states of the entry in which the scheduler may be started, and the
ends of its stop that are taken into account. -/
structure Guard where
  mayStart : SessionRuntimeResources → Prop
  stopEnds : Except Exn Unit → Prop

def entryWatch (id : Str) (g : Guard) :
    Prog.Watch Manager GrCall Answer (Option SessionRuntimeResources) Offer where
  view m := m.resources.lookup id
  hears := offers
  may call v := call = .schedulerStart → ∀ r, v = some r → g.mayStart r
  allowed
    | .schedulerStop, answer => g.stopEnds answer
    | _, _ => True

/-- From entry `v` of session `id`, with the offers `es` heard before. -/
abbrev Steps (id : Str) (g : Guard) {α : Type} (es : List Offer) (v : Option SessionRuntimeResources)
    (p : Rt α) (post : List Offer → Except Exn α → Option SessionRuntimeResources → Prop) : Prop :=
  Prog.Watches (entryWatch id g) es v p post

/-! ## Atomic operations -/

section Atomic

variable {id : Str} {g : Guard} {α : Type} {es : List Offer} {v : Option SessionRuntimeResources}
  {r : SessionRuntimeResources}

theorem request_steps {call : GrCall}
    {post : List Offer → Except Exn call.Result → Option SessionRuntimeResources → Prop}
    (hcall : call ≠ .schedulerStart) (h : ∀ answer, post (es ++ offers call answer) answer v) :
    Steps id g es v (request call) post :=
  Prog.watches_ask (fun heq => (hcall heq).elim) fun answer _ => Prog.watches_ret (h answer)

/-- A call that returns no port. -/
theorem quiet_steps {call : GrCall}
    {post : List Offer → Except Exn call.Result → Option SessionRuntimeResources → Prop}
    (hmay : (entryWatch id g).may call v) (hquiet : ∀ answer, offers call answer = [])
    (h : ∀ answer, (entryWatch id g).allowed call answer → post es answer v) :
    Steps id g es v (request call) post := by
  refine Prog.watches_ask hmay fun answer hallowed => Prog.watches_ret ?_
  have hnone : (entryWatch id g).hears call answer = [] := hquiet answer
  rw [hnone, List.append_nil]
  exact h answer hallowed

theorem read_steps {f : Manager → α}
    {post : List Offer → Except Exn α → Option SessionRuntimeResources → Prop}
    (h : ∀ m, m.resources.lookup id = v → post es (.ok (f m)) v) :
    Steps id g es v (Prog.read f) post := by
  refine Prog.watches_act fun m hm => Prog.watches_ret ?_
  rw [id_eq, hm]
  exact h m hm

theorem modify_steps {u : Manager → Manager} {v' : Option SessionRuntimeResources}
    {post : List Offer → Except Exn Unit → Option SessionRuntimeResources → Prop}
    (hview : ∀ m, m.resources.lookup id = v → (u m).resources.lookup id = v')
    (h : post es (.ok ()) v') : Steps id g es v (Prog.modify u) post := by
  refine Prog.watches_act fun m hm => Prog.watches_ret ?_
  have hv : (entryWatch id g).view (u m) = v' := hview m hm
  rw [hv]
  exact h

theorem findResources_steps
    {post : List Offer → Except Exn Bool → Option SessionRuntimeResources → Prop}
    (h : post es (.ok v.isSome) v) : Steps id g es v (findResources id) post :=
  read_steps fun m hm => by rwa [hm]

theorem readResources_steps
    {post : List Offer → Except Exn SessionRuntimeResources → Option SessionRuntimeResources → Prop}
    (h : post es (.ok r) (some r)) : Steps id g es (some r) (readResources id) post :=
  read_steps fun m hm => by rwa [hm]

theorem updateResources_entry {m : Manager} (f : SessionRuntimeResources → SessionRuntimeResources)
    (h : m.resources.lookup id = some r) :
    (m.updateResources id f).resources.lookup id = some (f r) := by
  simp [Manager.updateResources, h]

theorem updateResources_steps {f : SessionRuntimeResources → SessionRuntimeResources}
    {post : List Offer → Except Exn Unit → Option SessionRuntimeResources → Prop}
    (h : post es (.ok ()) (some (f r))) : Steps id g es (some r) (updateResources id f) post :=
  modify_steps (fun _ hm => updateResources_entry f hm) h

theorem discardExecution_steps
    {post : List Offer → Except Exn Unit → Option SessionRuntimeResources → Prop}
    (h : post es (.ok ()) (some { r with execution := none })) :
    Steps id g es (some r) (discardExecution id) post :=
  modify_steps (fun _ hm => updateResources_entry _ hm) h

theorem eraseResources_steps
    {post : List Offer → Except Exn Unit → Option SessionRuntimeResources → Prop}
    (h : post es (.ok ()) none) : Steps id g es v (eraseResources id) post := by
  refine modify_steps (fun m hm => ?_) h
  simp [Manager.eraseResources]

theorem getOrCreateResources_steps {session : Session}
    {post : List Offer → Except Exn Unit → Option SessionRuntimeResources → Prop}
    (h : post es (.ok ()) (some (v.getD { sessionId := session.id }))) :
    Steps session.id g es v (getOrCreateResources session) post := by
  refine modify_steps (fun m hm => ?_) h
  subst hm
  unfold Manager.getOrCreateResources
  cases hr : m.resources.lookup session.id <;> simp [hr]

theorem release_steps {binding : InternalStreamBinding}
    {post : List Offer → Except Exn Unit → Option SessionRuntimeResources → Prop}
    (h : post es (.ok ()) v) : Steps id g es v (release binding) post :=
  modify_steps (fun _ hm => hm) h

theorem releaseAll_steps {bindings : List RuntimeStreamBinding}
    {post : List Offer → Except Exn Unit → Option SessionRuntimeResources → Prop}
    (h : post es (.ok ()) v) : Steps id g es v (releaseAll bindings) post := by
  induction bindings with
  | nil => exact Prog.watches_pure h
  | cons binding bindings ih => exact Prog.watches_bind (release_steps ih)

theorem releaseLoop_steps {bindings : List RuntimeStreamBinding}
    {post : List Offer → Except Exn Unit → Option SessionRuntimeResources → Prop}
    (h : ∀ n, post es (.ok ()) (some { r with released := n })) :
    Steps id g es (some r) (releaseLoop id bindings) post := by
  induction bindings generalizing r with
  | nil => exact Prog.watches_pure (h r.released)
  | cons binding bindings ih =>
    exact Prog.watches_bind (modify_steps (fun _ hm => updateResources_entry _ hm)
      (ih (r := { r with released := r.released + 1 }) h))

/-- The bindings go back, and are no longer stored. -/
theorem releaseStreamBindingsLocked_steps
    {post : List Offer → Except Exn Unit → Option SessionRuntimeResources → Prop}
    (h : post es (.ok ()) (some { r with streamBindings := [], released := 0 })) :
    Steps id g es (some r) (releaseStreamBindingsLocked id) post := by
  refine Prog.watches_bind (readResources_steps ?_)
  exact Prog.watches_bind (releaseLoop_steps fun n => updateResources_steps h)

/-! ## Allocating -/

theorem insertPort_steps {port : Nat}
    {post : List Offer → Except Exn Bool → Option SessionRuntimeResources → Prop}
    (h : ∀ inserted, post es (.ok inserted) v) : Steps id g es v (insertPort id port) post := by
  refine Prog.watches_act fun m hm => Prog.watches_ret ?_
  have hview : (entryWatch id g).view (m.insertPort id port) = v := by
    rw [← hm]
    exact congrArg (AList.lookup id) (insertPort_resources m id port)
  rw [hview]
  exact h _

/-- The port is the last one offered. -/
theorem allocatePort_steps {stream attempts : Nat} {exhausted : Str}
    {post : List Offer → Except Exn Nat → Option SessionRuntimeResources → Prop}
    (hok : ∀ (refused : List Nat) (port : Nat), post (es ++ (refused.map (Offer.mk stream) ++ [⟨stream, port⟩]))
      (.ok port) v)
    (herr : ∀ e es', post es' (.error e) v) :
    Steps id g es v (allocatePort id stream exhausted attempts) post := by
  induction attempts generalizing es with
  | zero => exact Prog.watches_throw (herr _ _)
  | succ attemptsLeft ih =>
    refine Prog.watches_bind (request_steps (by simp) fun answer => ?_)
    cases answer with
    | error e => exact herr e _
    | ok port =>
      refine Prog.watches_bind (insertPort_steps fun inserted => ?_)
      cases inserted with
      | true => exact Prog.watches_pure (hok [] port)
      | false =>
        refine ih fun refused last => ?_
        simpa [offers] using hok (port :: refused) last

theorem allocate_steps {stream : Nat} {kind : BindingKind}
    {post : List Offer → Except Exn InternalStreamBinding → Option SessionRuntimeResources → Prop}
    (hok : ∀ (refused : List Nat) (internal : InternalStreamBinding),
      post (es ++ (refused.map (Offer.mk stream) ++ [⟨stream, internal.port⟩])) (.ok internal) v)
    (herr : ∀ e es', post es' (.error e) v) : Steps id g es v (allocate id stream kind) post :=
  Prog.watches_bind (allocatePort_steps
    (fun refused port => Prog.watches_pure (hok refused (kind.on port))) herr)

theorem allocateFor_steps {stream : Nat} {plan : RuntimeStreamBindingPlan}
    {post : List Offer → Except Exn InternalStreamBinding → Option SessionRuntimeResources → Prop}
    (hok : ∀ (refused : List Nat) (internal : InternalStreamBinding),
      post (es ++ (refused.map (Offer.mk stream) ++ [⟨stream, internal.port⟩])) (.ok internal) v)
    (herr : ∀ e es', post es' (.error e) v) :
    Steps id g es v (allocateFor id stream plan) post := by
  unfold allocateFor
  split
  · exact allocate_steps hok herr
  · exact allocate_steps hok herr

/-- The ports of the bindings are the last offers, in order. -/
theorem allocateBindings_steps {stream : Nat} {plans : List RuntimeStreamBindingPlan}
    {post : List Offer → Except Exn (List RuntimeStreamBinding) →
      Option SessionRuntimeResources → Prop}
    (hok : ∀ (new : List Offer) (bindings : List RuntimeStreamBinding),
      (∀ offer ∈ new, stream ≤ offer.stream) → lastOffers new = bindings.map (·.internal.port) →
      post (es ++ new) (.ok bindings) v)
    (herr : ∀ e es', post es' (.error e) v) :
    Steps id g es v (allocateBindings id stream plans) post := by
  induction plans generalizing stream es post with
  | nil =>
    refine Prog.watches_pure ?_
    simpa using hok [] [] (by simp) rfl
  | cons plan plans ih =>
    refine Prog.watches_bind (allocateFor_steps (fun refused internal => ?_) herr)
    refine Prog.watches_bind (ih (fun new bindings hnew hlast => Prog.watches_pure ?_) herr)
    rw [List.append_assoc, List.append_assoc, List.singleton_append]
    refine hok _ (makeBinding plan internal :: bindings) (fun offer hmem => ?_) ?_
    · simp only [List.mem_append, List.mem_map, List.mem_cons] at hmem
      rcases hmem with ⟨_, -, rfl⟩ | rfl | hmem
      · exact le_rfl
      · exact le_rfl
      · exact Nat.le_of_succ_le (hnew offer hmem)
    · rw [lastOffers_append refused hnew, hlast]
      rfl

end Atomic

/-! ## Preparing -/

/-- The entries differ in nothing that starting and stopping look at. -/
structure SameLife (r r' : SessionRuntimeResources) : Prop where
  execution : r'.execution = r.execution
  phase : r'.lifecyclePhase = r.lifecyclePhase
  async : r'.asyncError = r.asyncError

theorem SameLife.refl (r : SessionRuntimeResources) : SameLife r r := ⟨rfl, rfl, rfl⟩

/-- The entry after a preparation that made the given bindings. -/
def prepared (r : SessionRuntimeResources) (bindings : List RuntimeStreamBinding) :
    SessionRuntimeResources :=
  commitPrepared bindings { r with streamBindings := [], released := 0, execution := none }

section Prepare

variable {y : Yaml} {session : Session} {g : Guard} {es : List Offer}
  {v : Option SessionRuntimeResources} {r : SessionRuntimeResources}

theorem loadGraph_steps {id : Str} {streamBindings : List RuntimeStreamBinding}
    {post : List Offer → Except Exn Unit → Option SessionRuntimeResources → Prop}
    (h : ∀ result, post es result v) :
    Steps id g es v (loadGraph y session streamBindings) post := by
  refine Prog.watches_bind (Prog.watches_ret ?_)
  cases normalizeGraphContent y session.grcContent streamBindings with
  | error e => exact h _
  | ok content =>
    refine Prog.watches_bind (quiet_steps nofun (fun _ => rfl) fun answer _ => ?_)
    cases answer with
    | error e => exact h _
    | ok _ =>
      refine Prog.watches_bind (Prog.watches_bind (quiet_steps nofun (fun _ => rfl) fun answer _ => ?_))
      cases answer with
      | error e => exact h _
      | ok available =>
        refine Prog.watches_pure (Prog.watches_bind (quiet_steps nofun (fun _ => rfl) fun answer _ => ?_))
        rcases answer with e | found
        · exact h _
        · cases found with
          | false => exact Prog.watches_throw (h _)
          | true => exact quiet_steps nofun (fun _ => rfl) fun answer _ => h _

theorem tryLoadGraph_steps {id : Str} {streamBindings : List RuntimeStreamBinding}
    {post : List Offer → Except Exn Unit → Option SessionRuntimeResources → Prop}
    (h : ∀ result, post es result v) :
    Steps id g es v (tryLoadGraph y session streamBindings) post := by
  refine Prog.watches_handle (loadGraph_steps fun result => ?_)
  cases result with
  | ok _ => exact h _
  | error e =>
    cases e with
    | other => exact Prog.watches_throw (h _)
    | std what => exact Prog.watches_bind (releaseAll_steps (Prog.watches_throw (h _)))

theorem bindAndLoad_steps
    {post : List Offer → Except Exn Unit → Option SessionRuntimeResources → Prop}
    (hok : ∀ (new : List Offer) (bindings : List RuntimeStreamBinding),
      lastOffers new = bindings.map (·.internal.port) →
      post (es ++ new) (.ok ()) (some (prepared r bindings)))
    (herr : ∀ e es' r', SameLife r r' → post es' (.error e) (some r')) :
    Steps session.id g es (some r) (bindAndLoad y session) post := by
  refine Prog.watches_bind (quiet_steps nofun (fun _ => rfl) fun answer _ => ?_)
  cases answer with
  | error e => exact herr e _ r (.refl r)
  | ok _ =>
    have hlife : SameLife r { r with streamBindings := [], released := 0 } := ⟨rfl, rfl, rfl⟩
    refine Prog.watches_bind (releaseStreamBindingsLocked_steps ?_)
    refine Prog.watches_bind (allocateBindings_steps (fun new bindings _ hlast => ?_)
      fun e es' => herr e es' _ hlife)
    refine Prog.watches_bind (tryLoadGraph_steps fun result => ?_)
    cases result with
    | error e => exact herr e _ _ hlife
    | ok _ =>
      refine Prog.watches_bind (discardExecution_steps ?_)
      exact updateResources_steps (hok new bindings hlast)

theorem prepareLocked_steps
    {post : List Offer → Except Exn Unit → Option SessionRuntimeResources → Prop}
    (hkept : r.lifecyclePhase ≠ .stopping → r.execution.isSome = true → post es (.ok ()) (some r))
    (hfresh : r.execution = none → ∀ (new : List Offer) (bindings : List RuntimeStreamBinding),
      lastOffers new = bindings.map (·.internal.port) →
      post (es ++ new) (.ok ()) (some (prepared r bindings)))
    (herr : ∀ e es' r', SameLife r r' → post es' (.error e) (some r')) :
    Steps session.id g es (some r) (prepareLocked y session) post := by
  refine Prog.watches_bind (readResources_steps ?_)
  simp only
  split
  · exact Prog.watches_throw (herr _ _ r (.refl r))
  · rename_i hphase
    split
    · rename_i hex
      exact Prog.watches_pure (hkept hphase hex)
    · rename_i hex
      cases validateStreamRuntimeContract y session with
      | some contractError => exact Prog.watches_throw (herr _ _ r (.refl r))
      | none => exact bindAndLoad_steps (hfresh (by simpa using hex)) herr

/-- What holds of the entry, and of a new one if there is none, holds of the
one that a call works on. -/
theorem entry_getD {P : Option SessionRuntimeResources → Prop} {d : SessionRuntimeResources}
    (hnew : P (some d)) (h : P v) : P (some (v.getD d)) := by
  cases v with
  | none => exact hnew
  | some r => exact h

theorem prepare_steps
    {post : List Offer → Except Exn Unit → Option SessionRuntimeResources → Prop}
    (hr : v.getD { sessionId := session.id } = r)
    (hkept : r.lifecyclePhase ≠ .stopping → r.execution.isSome = true → post es (.ok ()) (some r))
    (hfresh : r.execution = none → ∀ (new : List Offer) (bindings : List RuntimeStreamBinding),
      lastOffers new = bindings.map (·.internal.port) →
      post (es ++ new) (.ok ()) (some (prepared r bindings)))
    (herr : ∀ e es' r', SameLife r r' → post es' (.error e) (some r')) :
    Steps session.id g es v (prepare y session) post := by
  subst hr
  exact Prog.watches_bind (getOrCreateResources_steps (prepareLocked_steps hkept hfresh herr))

end Prepare

/-! ## Starting -/

/-- The test that lets `start` return without starting anything. -/
def SessionRuntimeResources.alreadyRuns (r : SessionRuntimeResources) : Prop :=
  (∃ e, r.execution = some e ∧ e.running = true) ∧ r.lifecyclePhase = .running

/-- The entry after a start. -/
def started (r : SessionRuntimeResources) : SessionRuntimeResources :=
  { markRunning (beginStart r) with lifecyclePhase := .running }

section Start

variable {y : Yaml} {session : Session} {g : Guard} {es : List Offer}
  {v : Option SessionRuntimeResources} {r : SessionRuntimeResources}

theorem startLocked_steps
    {post : List Offer → Except Exn Unit → Option SessionRuntimeResources → Prop}
    (hmay : r.lifecyclePhase ≠ .stopping → ¬ r.alreadyRuns → g.mayStart (beginStart r))
    (hruns : r.alreadyRuns → post es (.ok ()) (some r))
    (hok : r.lifecyclePhase ≠ .stopping → post es (.ok ()) (some (started r)))
    (hbusy : ∀ e, post es (.error e) (some r))
    (herr : r.lifecyclePhase ≠ .stopping → ¬ r.alreadyRuns →
      ∀ e, post es (.error e) (some (beginStart r))) :
    Steps session.id g es (some r) (startLocked session) post := by
  refine Prog.watches_bind (readResources_steps ?_)
  simp only
  split
  · exact Prog.watches_throw (hbusy _)
  · rename_i hphase
    split
    · rename_i hrun
      simp only [Bool.and_eq_true, decide_eq_true_eq] at hrun
      refine Prog.watches_pure (hruns ⟨?_, hrun.2⟩)
      cases he : r.execution with
      | none => simp [he] at hrun
      | some e => exact ⟨e, rfl, by simpa [he] using hrun.1⟩
    · rename_i hrun
      have hnot : ¬ r.alreadyRuns := by
        rintro ⟨⟨e, he, hrunning⟩, hphase⟩
        exact hrun (by simp [he, hrunning, hphase])
      refine Prog.watches_bind (updateResources_steps ?_)
      refine Prog.watches_bind (quiet_steps ?_ (fun _ => rfl) fun answer _ => ?_)
      · rintro - _ ⟨⟩
        exact hmay hphase hnot
      · cases answer with
        | error e => exact herr hphase hnot e
        | ok _ =>
          refine Prog.watches_bind (updateResources_steps ?_)
          exact updateResources_steps (hok hphase)

theorem start_steps
    {post : List Offer → Except Exn Unit → Option SessionRuntimeResources → Prop}
    (hr : v.getD { sessionId := session.id } = r)
    (hkept : r.lifecyclePhase ≠ .stopping → r.execution.isSome = true →
      Steps session.id g es (some r) (startLocked session) post)
    (hfresh : r.execution = none → ∀ (new : List Offer) (bindings : List RuntimeStreamBinding),
      lastOffers new = bindings.map (·.internal.port) →
      Steps session.id g (es ++ new) (some (prepared r bindings)) (startLocked session) post)
    (herr : ∀ e es' r', SameLife r r' → post es' (.error e) (some r')) :
    Steps session.id g es v (start y session) post := by
  subst hr
  refine Prog.watches_bind (getOrCreateResources_steps (Prog.watches_bind ?_))
  exact prepareLocked_steps hkept hfresh herr

end Start

/-! ## Stopping -/

/-- The phase after a throw of the scheduler's stop: the handler has set it,
or was not reached. -/
def StopCutOff (exn : Exn) (phase : LifecyclePhase) : Prop :=
  phase = .failed ∨ (phase = .stopping ∧ exn = .other)

/-- What a stop that throws may leave, `post` being asked of each. -/
structure StopThrows (g : Guard) (r : SessionRuntimeResources)
    (post : Exn → SessionRuntimeResources → Prop) : Prop where
  /-- a stop is in progress, or was cut off -/
  busy : r.lifecyclePhase = .stopping → ∀ e, post e r
  /-- the scheduler's own stop threw -/
  scheduler : ∀ exn, g.stopEnds (.error exn) → ∀ e r', r'.execution = r.execution →
    r'.asyncError = r.asyncError → StopCutOff exn r'.lifecyclePhase → post e r'
  /-- the scheduler stopped, and an earlier error is reported -/
  async : r.asyncError ≠ none → ∀ e r', r'.execution = none → r'.lifecyclePhase = .failed →
    r'.asyncError = r.asyncError → post e r'

theorem StopThrows.of_forall {g : Guard} {r : SessionRuntimeResources}
    {post : Exn → SessionRuntimeResources → Prop} (h : ∀ e r', post e r') :
    StopThrows g r post :=
  ⟨fun _ e => h e r, fun _ _ e r' _ _ _ => h e r', fun _ e r' _ _ _ => h e r'⟩

section Stop

variable {session : Session} {g : Guard} {es : List Offer} {v : Option SessionRuntimeResources}
  {r : SessionRuntimeResources}

theorem finishStop_steps
    {post : List Offer → Except Exn Unit → Option SessionRuntimeResources → Prop}
    (hok : r.asyncError = none → ∀ r', r'.execution = none → r'.lifecyclePhase = .idle →
      r'.asyncError = r.asyncError → post es (.ok ()) (some r'))
    (hasync : r.asyncError ≠ none → ∀ e r', r'.execution = none → r'.lifecyclePhase = .failed →
      r'.asyncError = r.asyncError → post es (.error e) (some r')) :
    Steps session.id g es (some r) (finishStop session) post := by
  refine Prog.watches_bind (updateResources_steps ?_)
  refine Prog.watches_bind (releaseStreamBindingsLocked_steps ?_)
  refine Prog.watches_bind (discardExecution_steps ?_)
  refine Prog.watches_bind (readResources_steps ?_)
  simp only
  cases hasyncError : r.asyncError with
  | some asyncError =>
    refine Prog.watches_bind (updateResources_steps (Prog.watches_throw ?_))
    exact hasync (by simp [hasyncError]) _ _ rfl rfl hasyncError.symm
  | none => exact updateResources_steps (hok hasyncError _ rfl rfl hasyncError.symm)

theorem stopIfRunning_steps {e : Execution}
    {post : List Offer → Except Exn Unit → Option SessionRuntimeResources → Prop}
    (hphase : r.lifecyclePhase = .stopping)
    (hok : ∀ r', r'.asyncError = r.asyncError → post es (.ok ()) (some r'))
    (herr : ∀ exn, g.stopEnds (.error exn) → ∀ e r', r'.execution = r.execution →
      r'.asyncError = r.asyncError → StopCutOff exn r'.lifecyclePhase → post es (.error e) (some r')) :
    Steps session.id g es (some r) (stopIfRunning session e) post := by
  unfold stopIfRunning
  split
  · refine Prog.watches_handle (Prog.watches_bind
      (quiet_steps nofun (fun _ => rfl) fun answer hanswer => ?_))
    cases answer with
    | ok _ => exact updateResources_steps (hok _ rfl)
    | error exn =>
      cases exn with
      | other => exact Prog.watches_throw (herr .other hanswer _ r rfl rfl (.inr ⟨hphase, rfl⟩))
      | std what =>
        refine Prog.watches_bind (updateResources_steps (Prog.watches_throw ?_))
        exact herr (.std what) hanswer _ _ rfl rfl (.inl rfl)
  · exact Prog.watches_pure (hok r rfl)

theorem stopLocked_steps
    {post : List Offer → Except Exn Unit → Option SessionRuntimeResources → Prop}
    (hok : ∀ r', r'.execution = none → r'.lifecyclePhase = .idle →
      r'.asyncError = r.asyncError → post es (.ok ()) (some r'))
    (herr : StopThrows g r fun e r' => post es (.error e) (some r')) :
    Steps session.id g es (some r) (stopLocked session) post := by
  refine Prog.watches_bind (readResources_steps ?_)
  simp only
  cases hex : r.execution with
  | none =>
    refine Prog.watches_bind (releaseStreamBindingsLocked_steps ?_)
    exact updateResources_steps (hok _ hex rfl rfl)
  | some e =>
    simp only
    split
    · rename_i hphase
      exact Prog.watches_throw (herr.busy hphase _)
    · refine Prog.watches_bind (updateResources_steps ?_)
      refine Prog.watches_bind (stopIfRunning_steps rfl (fun r₁ h₁ => ?_) herr.scheduler)
      refine finishStop_steps (fun _ r' he hphase hasync => ?_) fun hne e r' he hphase hasync => ?_
      · exact hok r' he hphase (hasync.trans h₁)
      · exact herr.async (h₁ ▸ hne) e r' he hphase (hasync.trans h₁)

theorem stop_steps
    {post : List Offer → Except Exn Unit → Option SessionRuntimeResources → Prop}
    (hnone : v = none → post es (.ok ()) none)
    (hok : ∀ r r', v = some r → r'.execution = none → r'.lifecyclePhase = .idle →
      r'.asyncError = r.asyncError → post es (.ok ()) (some r'))
    (herr : ∀ r, v = some r → StopThrows g r fun e r' => post es (.error e) (some r')) :
    Steps session.id g es v (stop session) post := by
  refine Prog.watches_bind (findResources_steps ?_)
  cases v with
  | none => exact Prog.watches_pure (hnone rfl)
  | some r => exact stopLocked_steps (fun r' => hok r r' rfl) (herr r rfl)

theorem destroy_steps
    {post : List Offer → Except Exn Unit → Option SessionRuntimeResources → Prop}
    (hok : post es (.ok ()) none)
    (herr : ∀ r, v = some r → StopThrows g r fun e r' => post es (.error e) (some r')) :
    Steps session.id g es v (destroy session) post := by
  refine Prog.watches_bind (findResources_steps ?_)
  cases v with
  | none => exact Prog.watches_pure hok
  | some r =>
    refine Prog.watches_bind (stopLocked_steps (fun r' _ _ _ => ?_) (herr r rfl))
    refine Prog.watches_bind (discardExecution_steps ?_)
    refine Prog.watches_bind (releaseStreamBindingsLocked_steps ?_)
    refine Prog.watches_bind (updateResources_steps ?_)
    exact eraseResources_steps hok

end Stop

end Gr4cp.Runtime

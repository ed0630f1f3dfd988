import Gr4ControlPlane.L1Domain.StreamContract
import Gr4ControlPlane.L3Runtime.Gr4RuntimeManager

/-!
# What each call of the runtime manager does to its own session

A thread inside `prepare`, `start`, `stop` or `destroy` owns the part of the
manager that belongs to its session (`viewOf`): the entry in `resources_`
and the ports allocated for the session. The specifications say what a call
leaves behind there, whatever GNU Radio and the operating system answer and
whatever the threads of other sessions do meanwhile.

* `Held`: the bindings not yet handed back hold pairwise distinct ports, all
  of them allocated for this session. Every single step keeps it.
* `Settled`: what holds of the entry between calls. `P` is a property of the
  list of plans the bindings were made from, kept for as long as there is
  an execution.
* `prepare_spec`, `start_spec`, `stop_spec`, `destroy_spec`: each call takes
  a settled entry to a settled entry on every path, and what it promises
  when it returns.
-/
namespace Gr4cp.Runtime

open Gr4cp.Core Gr4cp.Domain

/-! ## The view of a session -/

/-- What of the manager belongs to a session. -/
@[ext] structure View where
  res : Option SessionRuntimeResources
  owned : Nat → Bool

def viewOf (id : Str) (m : Manager) : View where
  res := m.resources.lookup id
  owned port := decide (m.allocatedPorts.lookup port = some id)

/-- The ports of the bindings not yet handed back. -/
def SessionRuntimeResources.livePorts (r : SessionRuntimeResources) : List Nat :=
  (r.streamBindings.drop r.released).map (·.internal.port)

structure Held (owned : Nat → Bool) (r : SessionRuntimeResources) : Prop where
  distinct : r.livePorts.Nodup
  owned : ∀ port ∈ r.livePorts, owned port = true

def Always (v : View) : Prop := ∀ r, v.res = some r → Held v.owned r

/-- A scheduler that was started and not stopped is never dropped. -/
def StoppedFirst (m m' : Manager) : Prop :=
  ∀ e ∈ m'.discarded, e ∈ m.discarded ∨ (e.running = false ∧ e.started = false)

/-- What every step keeps. -/
structure Keep (id : Str) (m m' : Manager) : Prop where
  always : Always (viewOf id m) → Always (viewOf id m')
  discarded : StoppedFirst m m'

theorem Keep.refl (id : Str) (m : Manager) : Keep id m m := ⟨fun h => h, fun _ he => .inl he⟩

/-- A step that discards nothing and ends with `Held`. -/
theorem Keep.of_eq {id : Str} {m m' : Manager} (h : Always (viewOf id m'))
    (hd : m'.discarded = m.discarded) : Keep id m m' :=
  ⟨fun _ => h, fun _ he => .inl (hd ▸ he)⟩

theorem always_none (owned : Nat → Bool) : Always ⟨none, owned⟩ := by simp [Always]

theorem always_some {owned : Nat → Bool} {r : SessionRuntimeResources} (h : Held owned r) :
    Always ⟨some r, owned⟩ := by
  rintro _ ⟨⟩
  exact h

/-! ## Views after each operation -/

section Views

variable {id j : Str} {m : Manager}

theorem viewOf_updateResources (f : SessionRuntimeResources → SessionRuntimeResources) :
    viewOf id (m.updateResources id f) = ⟨(viewOf id m).res.map f, (viewOf id m).owned⟩ := by
  unfold Manager.updateResources viewOf
  cases h : m.resources.lookup id <;> simp [h]

theorem viewOf_updateResources_of_ne (h : j ≠ id)
    (f : SessionRuntimeResources → SessionRuntimeResources) :
    viewOf j (m.updateResources id f) = viewOf j m := by
  unfold Manager.updateResources viewOf
  cases hr : m.resources.lookup id <;> simp [AList.lookup_insert_ne h]

theorem updateResources_discarded (f : SessionRuntimeResources → SessionRuntimeResources) :
    (m.updateResources id f).discarded = m.discarded := by
  unfold Manager.updateResources
  cases m.resources.lookup id <;> rfl

theorem viewOf_getOrCreate :
    viewOf id (m.getOrCreateResources id) =
      ⟨some ((viewOf id m).res.getD { sessionId := id }), (viewOf id m).owned⟩ := by
  unfold Manager.getOrCreateResources viewOf
  cases h : m.resources.lookup id <;> simp [h]

theorem viewOf_getOrCreate_of_ne (h : j ≠ id) :
    viewOf j (m.getOrCreateResources id) = viewOf j m := by
  unfold Manager.getOrCreateResources viewOf
  cases hr : m.resources.lookup id <;> simp [AList.lookup_insert_ne h]

theorem getOrCreate_discarded : (m.getOrCreateResources id).discarded = m.discarded := by
  unfold Manager.getOrCreateResources
  cases m.resources.lookup id <;> rfl

theorem insertPort_resources (m : Manager) (owner : Str) (port : Nat) :
    (m.insertPort owner port).resources = m.resources := by
  unfold Manager.insertPort
  split <;> rfl

theorem viewOf_insertPort {port : Nat} (h : port ∉ m.allocatedPorts) :
    viewOf id (m.insertPort id port) =
      ⟨(viewOf id m).res, Function.update (viewOf id m).owned port true⟩ := by
  simp only [Manager.insertPort, h, if_false, viewOf, View.mk.injEq, true_and]
  funext p
  by_cases hp : p = port
  · subst hp
    simp
  · simp [Function.update_of_ne hp, AList.lookup_insert_ne hp]

theorem owned_eq_false {port : Nat} (h : port ∉ m.allocatedPorts) :
    (viewOf id m).owned port = false := by
  simp [viewOf, AList.lookup_eq_none.2 h]

theorem insertPort_of_mem {port : Nat} (h : port ∈ m.allocatedPorts) :
    m.insertPort id port = m := by
  simp [Manager.insertPort, h]

theorem viewOf_insertPort_of_ne (h : j ≠ id) (port : Nat) :
    viewOf j (m.insertPort id port) = viewOf j m := by
  by_cases hp : port ∈ m.allocatedPorts
  · rw [insertPort_of_mem hp]
  · simp only [Manager.insertPort, hp, if_false, viewOf, View.mk.injEq, true_and]
    funext p
    by_cases hpp : p = port
    · subst hpp
      simp [AList.lookup_eq_none.2 hp, Ne.symm h]
    · simp [AList.lookup_insert_ne hpp]

theorem viewOf_release (binding : InternalStreamBinding) :
    viewOf id (m.release binding) =
      ⟨(viewOf id m).res, Function.update (viewOf id m).owned binding.port false⟩ := by
  simp only [Manager.release, viewOf, View.mk.injEq, true_and]
  funext p
  by_cases hp : p = binding.port
  · subst hp
    simp
  · simp [Function.update_of_ne hp, AList.lookup_erase_ne hp]

/-- Releasing a port of one session leaves what the others own. -/
theorem viewOf_release_of_ne {binding : InternalStreamBinding} (h : j ≠ id)
    (ho : (viewOf id m).owned binding.port = true) :
    viewOf j (m.release binding) = viewOf j m := by
  simp only [viewOf, decide_eq_true_eq] at ho
  simp only [Manager.release, viewOf, View.mk.injEq, true_and]
  funext p
  by_cases hp : p = binding.port
  · subst hp
    simp [ho, Ne.symm h]
  · simp [AList.lookup_erase_ne hp]

theorem viewOf_discard :
    viewOf id (m.discardExecution id) =
      ⟨(viewOf id m).res.map fun r => { r with execution := none }, (viewOf id m).owned⟩ :=
  viewOf_updateResources _

theorem viewOf_discard_of_ne (h : j ≠ id) : viewOf j (m.discardExecution id) = viewOf j m :=
  viewOf_updateResources_of_ne h _

end Views

/-! ## Specifications of the atomic operations -/

/-- From view `v` the thread of session `id` ends as `post` says. -/
abbrev Does (id : Str) {α : Type} (v : View) (p : Rt α)
    (post : Except Exn α → View → Prop) : Prop :=
  Prog.Spec viewOf Keep id v p post

section Atomic

variable {id : Str} {α : Type} {v : View} {r : SessionRuntimeResources} {owned : Nat → Bool}

theorem request_spec {call : GrCall} {post : Except Exn call.Result → View → Prop}
    (h : ∀ answer, post answer v) : Does id v (request call) post :=
  Prog.spec_ask fun answer => Prog.spec_ret (h answer)

theorem read_spec {f : Manager → α} {post : Except Exn α → View → Prop} (hv : Always v)
    (h : ∀ m, viewOf id m = v → post (.ok (f m)) v) : Does id v (Prog.read f) post := by
  refine Prog.spec_act fun m hm => ⟨fun _ _ => rfl, .of_eq (hm ▸ hv) rfl, ?_⟩
  exact Prog.spec_ret (by simpa only [id_eq, hm] using h m hm)

theorem findResources_spec {post : Except Exn Bool → View → Prop} (hv : Always v)
    (h : post (.ok v.res.isSome) v) : Does id v (findResources id) post :=
  read_spec hv fun m hm => by subst hm; exact h

theorem readResources_spec {post : Except Exn SessionRuntimeResources → View → Prop}
    (hv : Held owned r) (h : post (.ok r) ⟨some r, owned⟩) :
    Does id ⟨some r, owned⟩ (readResources id) post :=
  read_spec (always_some hv) fun m hm => by
    have hr : m.resources.lookup id = some r := congrArg View.res hm
    simpa only [hr, Option.getD_some] using h

theorem getOrCreateResources_spec {session : Session} {post : Except Exn Unit → View → Prop}
    (hv : Always ⟨some (v.res.getD { sessionId := session.id }), v.owned⟩)
    (h : post (.ok ()) ⟨some (v.res.getD { sessionId := session.id }), v.owned⟩) :
    Does session.id v (getOrCreateResources session) post := by
  refine Prog.spec_act fun m hm => ?_
  subst hm
  rw [← viewOf_getOrCreate] at hv h
  exact ⟨fun j hj => viewOf_getOrCreate_of_ne hj, .of_eq hv getOrCreate_discarded,
    Prog.spec_ret h⟩

theorem updateResources_spec {f : SessionRuntimeResources → SessionRuntimeResources}
    {post : Except Exn Unit → View → Prop} (hv : Held owned (f r))
    (h : post (.ok ()) ⟨some (f r), owned⟩) :
    Does id ⟨some r, owned⟩ (updateResources id f) post := by
  refine Prog.spec_act fun m hm => ?_
  have hview : viewOf id (m.updateResources id f) = ⟨some (f r), owned⟩ := by
    rw [viewOf_updateResources, hm]
    rfl
  refine ⟨fun j hj => viewOf_updateResources_of_ne hj f, ?_, ?_⟩
  · exact .of_eq (hview ▸ always_some hv) (updateResources_discarded f)
  · exact Prog.spec_ret (hview ▸ h)

theorem discardExecution_spec {post : Except Exn Unit → View → Prop} (hv : Held owned r)
    (he : ∀ e, r.execution = some e → e.running = false ∧ e.started = false)
    (h : post (.ok ()) ⟨some { r with execution := none }, owned⟩) :
    Does id ⟨some r, owned⟩ (discardExecution id) post := by
  refine Prog.spec_act fun m hm => ?_
  have hview : viewOf id (m.discardExecution id) = ⟨some { r with execution := none }, owned⟩ := by
    rw [viewOf_discard, hm]
    rfl
  have hr : m.resources.lookup id = some r := congrArg View.res hm
  refine ⟨fun j hj => viewOf_discard_of_ne hj, ⟨fun _ => ?_, ?_⟩, ?_⟩
  · rw [hview]
    exact always_some ⟨hv.distinct, hv.owned⟩
  · intro e hmem
    simp only [Manager.discardExecution, Manager.executions, hr, Option.bind_some,
      List.mem_append, Option.mem_toList] at hmem
    exact hmem.elim (fun h => .inr (he e h)) .inl
  · exact Prog.spec_ret (hview ▸ h)

theorem eraseResources_spec {post : Except Exn Unit → View → Prop} (he : r.execution = none)
    (h : post (.ok ()) ⟨none, owned⟩) : Does id ⟨some r, owned⟩ (eraseResources id) post := by
  refine Prog.spec_act fun m hm => ?_
  have hr : m.resources.lookup id = some r := congrArg View.res hm
  have ho : (viewOf id m).owned = owned := congrArg View.owned hm
  have hview : viewOf id (m.eraseResources id) = ⟨none, owned⟩ := by
    exact View.ext (by simp [viewOf, Manager.eraseResources]) ho
  refine ⟨fun j hj => ?_, ?_, ?_⟩
  · exact View.ext (AList.lookup_erase_ne hj) rfl
  · refine .of_eq (hview ▸ always_none _) ?_
    simp [Manager.eraseResources, Manager.executions, hr, he]
  · exact Prog.spec_ret (hview ▸ h)

/-- A port is granted only if nobody has it. -/
theorem insertPort_spec {port : Nat} {post : Except Exn Bool → View → Prop}
    (hv : Held owned r)
    (hnew : owned port = false → post (.ok true) ⟨some r, Function.update owned port true⟩)
    (hold : post (.ok false) ⟨some r, owned⟩) :
    Does id ⟨some r, owned⟩ (insertPort id port) post := by
  refine Prog.spec_act fun m hm => ⟨fun j hj => viewOf_insertPort_of_ne hj port, ?_⟩
  by_cases hp : port ∈ m.allocatedPorts
  · rw [insertPort_of_mem hp]
    exact ⟨.refl _ _, Prog.spec_ret (by simpa [hp, hm] using hold)⟩
  · have hview : viewOf id (m.insertPort id port) = _ := viewOf_insertPort hp
    have hnot : (viewOf id m).owned port = false := owned_eq_false hp
    have hfree : owned port = false := by simpa [hm] using hnot
    rw [hm] at hview
    refine ⟨.of_eq ?_ (by simp [Manager.insertPort, hp]), ?_⟩
    · rw [hview]
      refine always_some ⟨hv.distinct, fun p hpm => ?_⟩
      have hne : p ≠ port := by
        rintro rfl
        simp [hv.owned p hpm] at hfree
      simpa [Function.update_of_ne hne] using hv.owned p hpm
    · exact Prog.spec_ret (by simpa [hp, hview] using hnew hfree)

end Atomic

/-! ## Releasing -/

theorem held_release {owned : Nat → Bool} {r : SessionRuntimeResources}
    {binding : RuntimeStreamBinding} {rest : List RuntimeStreamBinding}
    (hd : r.streamBindings.drop r.released = binding :: rest) (hv : Held owned r) :
    owned binding.internal.port = true ∧
      Held (Function.update owned binding.internal.port false)
        { r with released := r.released + 1 } := by
  have hlive : r.livePorts = binding.internal.port :: rest.map (·.internal.port) := by
    simp [SessionRuntimeResources.livePorts, hd]
  have hlive' : SessionRuntimeResources.livePorts { r with released := r.released + 1 } =
      rest.map (·.internal.port) := by
    simp [SessionRuntimeResources.livePorts, ← List.tail_drop, hd]
  have hdistinct := hv.distinct
  rw [hlive, List.nodup_cons] at hdistinct
  refine ⟨hv.owned _ (by simp [hlive]), by simpa only [hlive'] using hdistinct.2, ?_⟩
  intro p hp
  rw [hlive'] at hp
  have hne : p ≠ binding.internal.port := by
    rintro rfl
    exact hdistinct.1 hp
  simpa [Function.update_of_ne hne] using hv.owned p (by simp [hlive, hp])

theorem held_nil {owned : Nat → Bool} {r : SessionRuntimeResources} (h : r.streamBindings = []) :
    Held owned r :=
  ⟨by simp [SessionRuntimeResources.livePorts, h], by simp [SessionRuntimeResources.livePorts, h]⟩

section Release

variable {id : Str} {post : Except Exn Unit → View → Prop}

theorem releaseLoop_spec {bindings : List RuntimeStreamBinding} {r : SessionRuntimeResources}
    {owned : Nat → Bool} (hd : r.streamBindings.drop r.released = bindings) (hv : Held owned r)
    (h : ∀ n owned', Held owned' { r with released := n } →
      post (.ok ()) ⟨some { r with released := n }, owned'⟩) :
    Does id ⟨some r, owned⟩ (releaseLoop id bindings) post := by
  induction bindings generalizing r owned with
  | nil => exact Prog.spec_pure (h r.released owned hv)
  | cons binding rest ih =>
    obtain ⟨hown, hheld⟩ := held_release hd hv
    refine Prog.spec_act fun m hm => ?_
    have hown' : (viewOf id m).owned binding.internal.port = true := by rw [hm]; exact hown
    have hview : viewOf id (m.releaseOwn id binding) =
        ⟨some { r with released := r.released + 1 },
          Function.update owned binding.internal.port false⟩ := by
      rw [Manager.releaseOwn, viewOf_updateResources, viewOf_release, hm]
      rfl
    refine ⟨fun j hj => ?_, .of_eq (hview ▸ always_some hheld) ?_, ?_⟩
    · rw [Manager.releaseOwn, viewOf_updateResources_of_ne hj, viewOf_release_of_ne hj hown']
    · rw [Manager.releaseOwn, updateResources_discarded]
      rfl
    · rw [hview]
      refine ih (by simp [← List.tail_drop, hd]) hheld fun n owned' hn => ?_
      exact h n owned' hn

theorem releaseStreamBindingsLocked_spec {r : SessionRuntimeResources} {owned : Nat → Bool}
    (hr : r.released = 0) (hv : Held owned r)
    (h : ∀ owned', post (.ok ()) ⟨some { r with streamBindings := [], released := 0 }, owned'⟩) :
    Does id ⟨some r, owned⟩ (releaseStreamBindingsLocked id) post := by
  refine Prog.spec_bind (readResources_spec hv ?_)
  refine Prog.spec_bind (releaseLoop_spec (by simp [hr]) hv fun n owned' _ => ?_)
  exact updateResources_spec (held_nil rfl) (h owned')

/-- The handler of `prepare_locked` gives back ports that are the session's
own. -/
theorem releaseAll_spec {bindings : List RuntimeStreamBinding} {r : SessionRuntimeResources}
    {owned : Nat → Bool} (hb : r.streamBindings = [])
    (hn : (bindings.map (·.internal.port)).Nodup)
    (ho : ∀ binding ∈ bindings, owned binding.internal.port = true)
    (h : ∀ owned', post (.ok ()) ⟨some r, owned'⟩) :
    Does id ⟨some r, owned⟩ (releaseAll bindings) post := by
  induction bindings generalizing owned with
  | nil => exact Prog.spec_pure (h owned)
  | cons binding rest ih =>
    simp only [List.map_cons, List.nodup_cons] at hn
    refine Prog.spec_act fun m hm => ?_
    have hown : (viewOf id m).owned binding.internal.port = true := by
      rw [hm]
      exact ho binding (by simp)
    have hview : viewOf id (m.release binding.internal) =
        ⟨some r, Function.update owned binding.internal.port false⟩ := by
      rw [viewOf_release, hm]
    refine ⟨fun j hj => viewOf_release_of_ne hj hown, ?_, ?_⟩
    · exact .of_eq (hview ▸ always_some (held_nil hb)) rfl
    · rw [hview]
      refine ih hn.2 fun b hmem => ?_
      have hne : b.internal.port ≠ binding.internal.port := fun heq =>
        hn.1 (List.mem_map.2 ⟨b, hmem, heq⟩)
      simpa [Function.update_of_ne hne] using ho b (by simp [hmem])

end Release

/-! ## Allocating -/

section Allocate

variable {id : Str} {r : SessionRuntimeResources} {owned : Nat → Bool}

theorem allocatePort_spec {stream attempts : Nat} {exhausted : Str}
    {post : Except Exn Nat → View → Prop} (hv : Held owned r)
    (hok : ∀ port, owned port = false →
      post (.ok port) ⟨some r, Function.update owned port true⟩)
    (herr : ∀ e, post (.error e) ⟨some r, owned⟩) :
    Does id ⟨some r, owned⟩ (allocatePort id stream exhausted attempts) post := by
  induction attempts with
  | zero => exact Prog.spec_throw (herr _)
  | succ attemptsLeft ih =>
    refine Prog.spec_bind (request_spec fun answer => ?_)
    cases answer with
    | error e => exact herr e
    | ok port =>
      refine Prog.spec_bind (insertPort_spec hv (fun hfree => ?_) ih)
      exact Prog.spec_pure (hok port hfree)

theorem allocate_spec {stream : Nat} {kind : BindingKind}
    {post : Except Exn InternalStreamBinding → View → Prop} (hv : Held owned r)
    (hok : ∀ internal : InternalStreamBinding, owned internal.port = false →
      post (.ok internal) ⟨some r, Function.update owned internal.port true⟩)
    (herr : ∀ e, post (.error e) ⟨some r, owned⟩) :
    Does id ⟨some r, owned⟩ (allocate id stream kind) post := by
  refine Prog.spec_bind (allocatePort_spec hv (fun port hfree => ?_) herr)
  exact Prog.spec_pure (hok _ hfree)

theorem allocateFor_spec {stream : Nat} {plan : RuntimeStreamBindingPlan}
    {post : Except Exn InternalStreamBinding → View → Prop} (hv : Held owned r)
    (hok : ∀ internal : InternalStreamBinding, owned internal.port = false →
      post (.ok internal) ⟨some r, Function.update owned internal.port true⟩)
    (herr : ∀ e, post (.error e) ⟨some r, owned⟩) :
    Does id ⟨some r, owned⟩ (allocateFor id stream plan) post := by
  unfold allocateFor
  split
  · exact allocate_spec hv hok herr
  · exact allocate_spec hv hok herr

/-- What the allocation loop returns: a binding for each plan, on ports of
the session's own that it did not have before. -/
structure Granted (owned owned' : Nat → Bool) (plans : List RuntimeStreamBindingPlan)
    (bindings : List RuntimeStreamBinding) : Prop where
  distinct : (bindings.map (·.internal.port)).Nodup
  fresh : ∀ binding ∈ bindings, owned binding.internal.port = false
  granted : ∀ binding ∈ bindings, owned' binding.internal.port = true
  mono : ∀ port, owned port = true → owned' port = true
  planned : bindings.map (·.plan) = plans.map fun plan => { plan with ready := true }

theorem Granted.cons {owned' : Nat → Bool} {plan : RuntimeStreamBindingPlan}
    {plans : List RuntimeStreamBindingPlan} {internal : InternalStreamBinding}
    {bindings : List RuntimeStreamBinding} (hfree : owned internal.port = false)
    (h : Granted (Function.update owned internal.port true) owned' plans bindings) :
    Granted owned owned' (plan :: plans) (makeBinding plan internal :: bindings) := by
  have hne : ∀ b ∈ bindings, b.internal.port ≠ internal.port := fun b hb heq => by
    simpa [heq] using h.fresh b hb
  refine ⟨?_, ?_, ?_, ?_, ?_⟩
  · simp only [List.map_cons, List.nodup_cons, List.mem_map, not_exists, not_and]
    exact ⟨hne, h.distinct⟩
  · intro b hb
    rcases List.mem_cons.1 hb with rfl | hb
    · exact hfree
    · simpa [Function.update_of_ne (hne b hb)] using h.fresh b hb
  · intro b hb
    rcases List.mem_cons.1 hb with rfl | hb
    · exact h.mono _ (by simp [makeBinding])
    · exact h.granted b hb
  · intro port hport
    refine h.mono port ?_
    by_cases hp : port = internal.port
    · simp [hp]
    · simpa [Function.update_of_ne hp] using hport
  · simp only [List.map_cons, h.planned]
    rfl

theorem allocateBindings_spec {stream : Nat} {plans : List RuntimeStreamBindingPlan}
    {post : Except Exn (List RuntimeStreamBinding) → View → Prop} (hb : r.streamBindings = [])
    (hok : ∀ bindings owned', Granted owned owned' plans bindings →
      post (.ok bindings) ⟨some r, owned'⟩)
    (herr : ∀ e owned', post (.error e) ⟨some r, owned'⟩) :
    Does id ⟨some r, owned⟩ (allocateBindings id stream plans) post := by
  induction plans generalizing stream owned post with
  | nil => exact Prog.spec_pure (hok [] owned ⟨by simp, by simp, by simp, fun _ h => h, rfl⟩)
  | cons plan plans ih =>
    refine Prog.spec_bind (allocateFor_spec (held_nil hb) (fun internal hfree => ?_) fun e => ?_)
    · refine Prog.spec_bind (ih (fun bindings owned' hg => ?_) fun e owned' => ?_)
      · exact Prog.spec_pure (hok _ owned' (.cons hfree hg))
      · exact herr e owned'
    · exact herr e owned

end Allocate

/-! ## Preparing -/

/-- What holds of the entry of a session between calls. -/
structure ResSettled (P : List RuntimeStreamBindingPlan → Prop) (owned : Nat → Bool)
    (r : SessionRuntimeResources) : Prop where
  released : r.released = 0
  held : Held owned r
  unbound : r.execution = none → r.streamBindings = []
  started : ∀ e, r.execution = some e → e.started = e.running
  planned : ∀ e, r.execution = some e → P (r.streamBindings.map (·.plan))

def Settled (P : List RuntimeStreamBindingPlan → Prop) (v : View) : Prop :=
  ∀ r, v.res = some r → ResSettled P v.owned r

section Calls

variable {P : List RuntimeStreamBindingPlan → Prop} {owned : Nat → Bool}
  {r : SessionRuntimeResources} {v : View} {y : Yaml} {session : Session}

theorem Settled.always (h : Settled P v) : Always v := fun r hr => (h r hr).held

theorem settled_none (P : List RuntimeStreamBindingPlan → Prop) (owned : Nat → Bool) :
    Settled P ⟨none, owned⟩ := by simp [Settled]

theorem settled_some (h : ResSettled P owned r) : Settled P ⟨some r, owned⟩ := by
  rintro _ ⟨⟩
  exact h

/-- An entry that neither runs nor holds anything. -/
theorem resSettled_unbound (hrel : r.released = 0) (hb : r.streamBindings = [])
    (he : r.execution = none) : ResSettled P owned r :=
  ⟨hrel, held_nil hb, fun _ => hb, by simp [he], by simp [he]⟩

/-- Fields that neither calls nor releases depend on may change. -/
theorem ResSettled.congr {r' : SessionRuntimeResources} (h : ResSettled P owned r)
    (hrel : r'.released = r.released) (hb : r'.streamBindings = r.streamBindings)
    (he : r'.execution = r.execution) : ResSettled P owned r' := by
  have hlive : r'.livePorts = r.livePorts := by simp [SessionRuntimeResources.livePorts, hrel, hb]
  refine ⟨hrel.trans h.released, ⟨hlive ▸ h.held.distinct, hlive ▸ h.held.owned⟩, ?_, ?_, ?_⟩
  · rw [he, hb]
    exact h.unbound
  · rw [he]
    exact h.started
  · rw [he, hb]
    exact h.planned

/-- The derived plan says `ready` already. -/
theorem planStreams_ready (y : Yaml) (session : Session) :
    ((planStreams y session).map fun plan => { plan with ready := true }) =
      planStreams y session := by
  unfold planStreams
  cases h : deriveStreamRuntimePlan y session with
  | none => rfl
  | some plan =>
    obtain ⟨-, -, hstreams⟩ := (derive_eq_some_iff y session plan).mp h
    simp [hstreams, planEntry]

theorem defaultSchedulerAlias_spec {id : Str} {post : Except Exn Str → View → Prop}
    (h : ∀ result, post result v) : Does id v defaultSchedulerAlias post := by
  refine Prog.spec_bind (request_spec fun answer => ?_)
  cases answer with
  | error e => exact h _
  | ok available => exact Prog.spec_pure (h _)

/-- Loading a graph touches nothing of the manager. -/
theorem loadGraph_spec {id : Str} {streamBindings : List RuntimeStreamBinding}
    {post : Except Exn Unit → View → Prop} (h : ∀ result, post result v) :
    Does id v (loadGraph y session streamBindings) post := by
  refine Prog.spec_bind (Prog.spec_ret ?_)
  cases normalizeGraphContent y session.grcContent streamBindings with
  | error e => exact h _
  | ok content =>
    refine Prog.spec_bind (request_spec fun answer => ?_)
    cases answer with
    | error e => exact h _
    | ok _ =>
      refine Prog.spec_bind (defaultSchedulerAlias_spec fun result => ?_)
      cases result with
      | error e => exact h _
      | ok defaultAlias =>
        refine Prog.spec_bind (request_spec fun answer => ?_)
        rcases answer with e | found
        · exact h _
        · cases found with
          | false => exact Prog.spec_throw (h _)
          | true => exact request_spec fun answer => h _

theorem tryLoadGraph_spec {id : Str} {streamBindings : List RuntimeStreamBinding}
    {post : Except Exn Unit → View → Prop} (hb : r.streamBindings = [])
    (hn : (streamBindings.map (·.internal.port)).Nodup)
    (ho : ∀ binding ∈ streamBindings, owned binding.internal.port = true)
    (hok : post (.ok ()) ⟨some r, owned⟩) (herr : ∀ e owned', post (.error e) ⟨some r, owned'⟩) :
    Does id ⟨some r, owned⟩ (tryLoadGraph y session streamBindings) post := by
  refine Prog.spec_handle (loadGraph_spec fun result => ?_)
  cases result with
  | ok _ => exact hok
  | error e =>
    cases e with
    | other => exact Prog.spec_throw (herr _ owned)
    | std what =>
      refine Prog.spec_bind (releaseAll_spec hb hn ho fun owned' => ?_)
      exact Prog.spec_throw (herr _ owned')

theorem resSettled_prepared {owned' : Nat → Bool} {bindings : List RuntimeStreamBinding}
    (hP : P (planStreams y session)) (hg : Granted owned owned' (planStreams y session) bindings)
    (hrel : r.released = 0) : ResSettled P owned' (commitPrepared bindings r) := by
  have hlive : (commitPrepared bindings r).livePorts = bindings.map (·.internal.port) := by
    simp [SessionRuntimeResources.livePorts, commitPrepared, hrel]
  refine ⟨hrel, ⟨hlive ▸ hg.distinct, ?_⟩, by simp [commitPrepared], ?_, ?_⟩
  · rw [hlive]
    intro port hport
    obtain ⟨b, hb, rfl⟩ := List.mem_map.1 hport
    exact hg.granted b hb
  · rintro e ⟨⟩
    rfl
  · rintro e ⟨⟩
    have : bindings.map (·.plan) = planStreams y session := hg.planned.trans (planStreams_ready _ _)
    simpa only [commitPrepared, this] using hP

theorem bindAndLoad_spec {post : Except Exn Unit → View → Prop} (hs : ResSettled P owned r)
    (hP : P (planStreams y session)) (he : r.execution = none)
    (hok : ∀ r' owned', ResSettled P owned' r' → r'.execution = some {} →
      r'.lifecyclePhase = .idle → post (.ok ()) ⟨some r', owned'⟩)
    (herr : ∀ e v', Settled P v' → post (.error e) v') :
    Does session.id ⟨some r, owned⟩ (bindAndLoad y session) post := by
  refine Prog.spec_bind (request_spec fun answer => ?_)
  cases answer with
  | error e => exact herr e _ (settled_some hs)
  | ok _ =>
    refine Prog.spec_bind (releaseStreamBindingsLocked_spec hs.released hs.held fun owned₁ => ?_)
    have hsettled : ∀ o, Settled P ⟨some { r with streamBindings := [], released := 0 }, o⟩ :=
      fun o => settled_some (resSettled_unbound rfl rfl he)
    refine Prog.spec_bind (allocateBindings_spec rfl (fun bindings owned₂ hg => ?_)
      fun e o => herr e _ (hsettled o))
    refine Prog.spec_bind (tryLoadGraph_spec rfl hg.distinct hg.granted ?_
      fun e o => herr e _ (hsettled o))
    have hprep := resSettled_prepared
      (r := { r with streamBindings := [], released := 0, execution := none }) hP hg rfl
    refine Prog.spec_bind (discardExecution_spec (held_nil rfl) (by simp [he]) ?_)
    exact updateResources_spec hprep.held (hok _ _ hprep rfl rfl)

theorem prepareLocked_spec {post : Except Exn Unit → View → Prop} (hs : ResSettled P owned r)
    (hP : P (planStreams y session))
    (hok : ∀ r' owned', ResSettled P owned' r' → r'.execution.isSome = true →
      post (.ok ()) ⟨some r', owned'⟩)
    (herr : ∀ e v', Settled P v' → post (.error e) v') :
    Does session.id ⟨some r, owned⟩ (prepareLocked y session) post := by
  refine Prog.spec_bind (readResources_spec hs.held ?_)
  simp only
  split
  · exact Prog.spec_throw (herr _ _ (settled_some hs))
  · split
    · rename_i hex
      exact Prog.spec_pure (hok r owned hs hex)
    · rename_i hex
      cases validateStreamRuntimeContract y session with
      | some contractError => exact Prog.spec_throw (herr _ _ (settled_some hs))
      | none =>
        refine bindAndLoad_spec hs hP (by simpa using hex) (fun r' owned' h he _ => ?_) herr
        exact hok r' owned' h (by simp [he])

theorem getOrCreate_settled (session : Session) (h : Settled P v) :
    ResSettled P v.owned (v.res.getD { sessionId := session.id }) := by
  cases hr : v.res with
  | none => exact resSettled_unbound rfl rfl rfl
  | some r => exact h r hr

theorem prepare_spec {post : Except Exn Unit → View → Prop} (hs : Settled P v)
    (hP : P (planStreams y session)) (h : ∀ result v', Settled P v' → post result v') :
    Does session.id v (prepare y session) post := by
  have hsettled := getOrCreate_settled session hs
  refine Prog.spec_bind (getOrCreateResources_spec (always_some hsettled.held) ?_)
  exact prepareLocked_spec hsettled hP (fun r' owned' h' _ => h _ _ (settled_some h'))
    fun e v' h' => h _ v' h'

/-! ## Starting -/

/-- The session has an execution that runs. -/
def Runs (v : View) : Prop :=
  ∃ r e, v.res = some r ∧ r.execution = some e ∧ e.running = true ∧ r.lifecyclePhase = .running

theorem startLocked_spec {id : Str} (hid : session.id = id) {post : Except Exn Unit → View → Prop}
    (hs : ResSettled P owned r) (hex : r.execution.isSome = true)
    (hok : ∀ v', Settled P v' → Runs v' → post (.ok ()) v')
    (herr : ∀ e v', Settled P v' → post (.error e) v') :
    Does id ⟨some r, owned⟩ (startLocked session) post := by
  subst hid
  obtain ⟨e, he⟩ := Option.isSome_iff_exists.1 hex
  refine Prog.spec_bind (readResources_spec hs.held ?_)
  simp only [he, Option.map_some, Option.getD_some]
  split
  · exact Prog.spec_throw (herr _ _ (settled_some hs))
  · split
    · rename_i hrun
      simp only [Bool.and_eq_true, decide_eq_true_eq] at hrun
      exact Prog.spec_pure (hok _ (settled_some hs) ⟨r, e, rfl, he, hrun⟩)
    · have hbegin : ResSettled P owned (beginStart r) := hs.congr rfl rfl rfl
      refine Prog.spec_bind (updateResources_spec hbegin.held ?_)
      refine Prog.spec_bind (request_spec fun answer => ?_)
      cases answer with
      | error e => exact herr e _ (settled_some hbegin)
      | ok _ =>
        have hmark : ResSettled P owned (markRunning (beginStart r)) := by
          refine ⟨hs.released, ⟨hs.held.distinct, hs.held.owned⟩, ?_, ?_, ?_⟩
          · simp [markRunning, beginStart, he]
          · simp [markRunning, beginStart, he]
          · intro _ _
            exact hs.planned e he
        refine Prog.spec_bind (updateResources_spec hmark.held ?_)
        have hend : ResSettled P owned
            { markRunning (beginStart r) with lifecyclePhase := .running } :=
          hmark.congr rfl rfl rfl
        refine updateResources_spec hend.held (hok _ (settled_some hend) ?_)
        exact ⟨_, ⟨true, true⟩, rfl, by simp [markRunning, beginStart, he], rfl, rfl⟩

theorem start_spec {post : Except Exn Unit → View → Prop} (hs : Settled P v)
    (hP : P (planStreams y session)) (hok : ∀ v', Settled P v' → Runs v' → post (.ok ()) v')
    (herr : ∀ e v', Settled P v' → post (.error e) v') :
    Does session.id v (start y session) post := by
  have hsettled := getOrCreate_settled session hs
  refine Prog.spec_bind (getOrCreateResources_spec (always_some hsettled.held) ?_)
  refine Prog.spec_bind (prepareLocked_spec hsettled hP (fun r' owned' h hex => ?_) herr)
  exact startLocked_spec rfl h hex hok herr

/-! ## Stopping -/

/-- The session has neither an execution nor bindings. -/
def Unbound (v : View) : Prop :=
  ∀ r, v.res = some r → r.execution = none ∧ r.streamBindings = []

theorem finishStop_spec {post : Except Exn Unit → View → Prop} (hrel : r.released = 0)
    (hv : Held owned r) (he : ∀ e, r.execution = some e → e.started = false)
    (hok : ∀ r' owned', ResSettled P owned' r' → r'.execution = none → r'.streamBindings = [] →
      post (.ok ()) ⟨some r', owned'⟩)
    (herr : ∀ e v', Settled P v' → post (.error e) v') :
    Does session.id ⟨some r, owned⟩ (finishStop session) post := by
  refine Prog.spec_bind (updateResources_spec ⟨hv.distinct, hv.owned⟩ ?_)
  refine Prog.spec_bind (releaseStreamBindingsLocked_spec hrel ⟨hv.distinct, hv.owned⟩
    fun owned' => ?_)
  refine Prog.spec_bind (discardExecution_spec (held_nil rfl) ?_ ?_)
  · intro e hmem
    obtain ⟨e₀, he₀, rfl⟩ := Option.map_eq_some_iff.1 hmem
    exact ⟨rfl, he e₀ he₀⟩
  · refine Prog.spec_bind (readResources_spec (held_nil rfl) ?_)
    simp only
    cases r.asyncError with
    | some asyncError =>
      refine Prog.spec_bind (updateResources_spec (held_nil rfl) ?_)
      exact Prog.spec_throw (herr _ _ (settled_some (resSettled_unbound rfl rfl rfl)))
    | none =>
      exact updateResources_spec (held_nil rfl)
        (hok _ _ (resSettled_unbound rfl rfl rfl) rfl rfl)

/-- A scheduler that does not run has nothing to stop; one that runs is
either stopped or the call throws. -/
theorem stopIfRunning_spec {e : Execution} {post : Except Exn Unit → View → Prop}
    (hs : ResSettled P owned r) (he : r.execution = some e)
    (hok : ∀ r', r'.released = 0 → Held owned r' →
      (∀ e', r'.execution = some e' → e'.started = false) → post (.ok ()) ⟨some r', owned⟩)
    (herr : ∀ e v', Settled P v' → post (.error e) v') :
    Does session.id ⟨some r, owned⟩ (stopIfRunning session e) post := by
  unfold stopIfRunning
  split
  · refine Prog.spec_handle (Prog.spec_bind (request_spec fun answer => ?_))
    cases answer with
    | ok _ =>
      refine updateResources_spec ⟨hs.held.distinct, hs.held.owned⟩ (hok _ hs.released ?_ ?_)
      · exact ⟨hs.held.distinct, hs.held.owned⟩
      · intro e' he'
        obtain ⟨e₀, -, rfl⟩ := Option.map_eq_some_iff.1 he'
        rfl
    | error exn =>
      cases exn with
      | other => exact Prog.spec_throw (herr _ _ (settled_some hs))
      | std what =>
        refine Prog.spec_bind (updateResources_spec ⟨hs.held.distinct, hs.held.owned⟩ ?_)
        exact Prog.spec_throw (herr _ _ (settled_some (hs.congr rfl rfl rfl)))
  · rename_i hrun
    refine Prog.spec_pure (hok r hs.released hs.held fun e' he' => ?_)
    rw [hs.started e' he']
    cases he.symm.trans he'
    simpa using hrun

theorem stopLocked_spec {post : Except Exn Unit → View → Prop} (hs : ResSettled P owned r)
    (hok : ∀ r' owned', ResSettled P owned' r' → r'.execution = none → r'.streamBindings = [] →
      post (.ok ()) ⟨some r', owned'⟩)
    (herr : ∀ e v', Settled P v' → post (.error e) v') :
    Does session.id ⟨some r, owned⟩ (stopLocked session) post := by
  refine Prog.spec_bind (readResources_spec hs.held ?_)
  simp only
  cases hex : r.execution with
  | none =>
    refine Prog.spec_bind (releaseStreamBindingsLocked_spec hs.released hs.held fun owned' => ?_)
    exact updateResources_spec (held_nil rfl)
      (hok _ _ (resSettled_unbound rfl rfl hex) hex rfl)
  | some e =>
    simp only
    split
    · exact Prog.spec_throw (herr _ _ (settled_some hs))
    · refine Prog.spec_bind (updateResources_spec ⟨hs.held.distinct, hs.held.owned⟩ ?_)
      refine Prog.spec_bind (stopIfRunning_spec (P := P) (hs.congr rfl rfl rfl) hex ?_ herr)
      intro r' hrel hheld hstarted
      exact finishStop_spec hrel hheld hstarted hok herr

theorem stop_spec {post : Except Exn Unit → View → Prop} (hs : Settled P v)
    (hok : ∀ v', Settled P v' → Unbound v' → post (.ok ()) v')
    (herr : ∀ e v', Settled P v' → post (.error e) v') :
    Does session.id v (stop session) post := by
  refine Prog.spec_bind (findResources_spec hs.always ?_)
  rcases v with ⟨_ | r, owned⟩
  · refine Prog.spec_pure (hok _ hs ?_)
    rintro _ ⟨⟩
  · refine stopLocked_spec (hs r rfl) (fun r' owned' h he hb => ?_) herr
    refine hok _ (settled_some h) ?_
    rintro _ ⟨⟩
    exact ⟨he, hb⟩

theorem destroy_spec {post : Except Exn Unit → View → Prop} (hs : Settled P v)
    (hok : ∀ owned', post (.ok ()) ⟨none, owned'⟩)
    (herr : ∀ e v', Settled P v' → post (.error e) v') :
    Does session.id v (destroy session) post := by
  refine Prog.spec_bind (findResources_spec hs.always ?_)
  rcases v with ⟨_ | r, owned⟩
  · exact Prog.spec_pure (hok owned)
  · refine Prog.spec_bind (stopLocked_spec (hs r rfl) (fun r' owned' h he hb => ?_) herr)
    refine Prog.spec_bind (discardExecution_spec h.held (by simp [he]) ?_)
    refine Prog.spec_bind (releaseStreamBindingsLocked_spec h.released
      ⟨h.held.distinct, h.held.owned⟩ fun owned'' => ?_)
    refine Prog.spec_bind (updateResources_spec (held_nil rfl) ?_)
    exact eraseResources_spec rfl (hok owned'')

end Calls

end Gr4cp.Runtime

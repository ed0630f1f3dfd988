import Gr4ControlPlane.L3Runtime.RuntimeWatch
import Gr4ControlPlane.L4App.TwoLevel

/-!
# Watching an operation among the others

An operation of the service is several calls of the runtime manager, and the
clients of other sessions run between any two of their steps. They leave the
entry of its session alone (`Joint.frame`), so a client can be watched
through its whole operation as a single thread can.

* `Watching`: what is left of a client's calls, watched.
* `Watching.step`, `Watching.run`: it goes on through the steps of all
  clients until the operation ends; the offers it hears meanwhile are added up.
* `AllWatched`: every session is watched at once, from the admission of each
  operation to its end; between operations the entry is as each leaves it.
-/
namespace Gr4cp.App

open Gr4cp.Core Gr4cp.Domain Gr4cp.Runtime

/-- What is left of a client's operation, from manager `m` on. -/
def Watching (y : Yaml) (g : Guard) (post : List Offer → Except Exn Unit →
    Option SessionRuntimeResources → Prop) (es : List Offer) (m : Manager) :
    Client Manager GrCall Answer → Prop
  | .idle => True
  | .calling t _ _ prog todo =>
    (prog >>= fun _ => callAll y todo).Watched (entryWatch t.id g) post es m
  | .failing t _ _ => ∃ e, post es (.error e) (m.resources.lookup t.id)
  | .completing t => post es (.ok ()) (m.resources.lookup t.id)

/-- The step ends the operation of client `c`. -/
def Lbl.ends (c : Nat) : Lbl GrCall Answer → Prop
  | .fail c' _ | .complete c' _ => c' = c
  | _ => False

/-- The ports the operating system offers a client in its next step. -/
def Client.offered (ans : ∀ call, Answer call) : Client Manager GrCall Answer → List Offer
  | .calling _ _ _ (.ask call _) _ => offers call (ans call)
  | _ => []

/-- What a step offers client `c`. -/
def offered (c : Nat) (s : Composed) (l : Lbl GrCall Answer) (_ : Composed) : List Offer :=
  match l with
  | .runtime c' ans => if c' = c then (s.clients c).offered ans else []
  | _ => []

/-- The stop that `restart` and `remove` begin with, if they do. -/
theorem stopFirst_steps {y : Yaml} {g : Guard} {session : Session} {es : List Offer}
    {v : Option SessionRuntimeResources} (idle : Option SessionRuntimeResources → Prop)
    (todo : Session → List (RtCall × Session))
    {post : List Offer → Except Exn Unit → Option SessionRuntimeResources → Prop} (hv : idle v)
    (hstopped : ∀ r', r'.execution = none → idle (some r'))
    (herr : ∀ r, v = some r → StopThrows g r fun e r' => post es (.error e) (some r'))
    (hnext : ∀ session' v', session'.id = session.id → idle v' →
      Steps session'.id g es v' (callAll y (todo session')) post) :
    Steps session.id g es v (callAll y ((stopFirst session).1 ++ todo (stopFirst session).2))
      post := by
  unfold stopFirst
  split
  · refine Prog.watches_bind (stop_steps (fun hnone => ?_) (fun _ r' _ hexecution _ _ => ?_) herr)
    · exact hnext { session with state := .stopped } none rfl (hnone ▸ hv)
    · exact hnext { session with state := .stopped } (some r') rfl (hstopped r' hexecution)
  · exact hnext session v rfl hv

section Window

variable {y : Yaml} {g : Guard} {post : List Offer → Except Exn Unit →
  Option SessionRuntimeResources → Prop} {es : List Offer} {s s' : Composed} {c : Nat} {t : Ticket}

theorem Watching.frame {m m' : Manager} {client : Client Manager GrCall Answer}
    (h : Watching y g post es m client)
    (hv : ∀ t, client.ticket = some t → viewOf t.id m' = viewOf t.id m) :
    Watching y g post es m' client := by
  have hentry : ∀ t, client.ticket = some t →
      m'.resources.lookup t.id = m.resources.lookup t.id := fun t ht => congrArg View.res (hv t ht)
  cases client with
  | idle => trivial
  | calling t call arg prog todo => exact Prog.Watched.congr h (hentry t rfl)
  | failing t arg message => simpa only [Watching, hentry t rfl] using h
  | completing t => simpa only [Watching, hentry t rfl] using h

theorem watching_proceed {m : Manager} {calls : List (RtCall × Session)}
    (h : (callAll y calls).Watched (entryWatch t.id g) post es m) :
    Watching y g post es m (proceed (gr4Runtime y) t calls) := by
  rcases calls with _ | ⟨⟨call, arg⟩, todo⟩ <;> exact h

/-- An operation that is admitted is watched from its admission on. -/
theorem watching_begin {op : Op} {session : Session} {m : Manager} (hid : session.id = t.id)
    (h : Steps session.id g [] (m.resources.lookup session.id) (callAll y (op.calls session)) post) :
    Watching y g post [] m (proceed (gr4Runtime y) t (op.calls session)) :=
  watching_proceed (hid ▸ h m rfl)

theorem offered_others {l : Lbl GrCall Answer} (hc : l.client ≠ some c) :
    offered c s l s' = [] := by
  cases l with
  | runtime c' ans => exact if_neg fun heq => hc (congrArg some heq)
  | create | get | list | begin | fail | complete => rfl

/-- A client in a call is offered what its program hears. -/
theorem offered_own (id : Str) (g : Guard) {ans : ∀ call, Answer call} {call : RtCall}
    {arg : Session} {prog : Rt Unit} {todo : List (RtCall × Session)}
    (hc : s.clients c = .calling t call arg prog todo) :
    offered c s (.runtime c ans) s' = Prog.heard (entryWatch id g) ans prog := by
  simp only [offered, if_true, hc]
  cases prog <;> rfl

/-- A step of another client. -/
theorem Watching.others {l : Lbl GrCall Answer} (h : Joint y s) (hm : Moves (gr4Runtime y) s l s')
    (ht : (s.clients c).ticket = some t) (hc : l.client ≠ some c)
    (hw : Watching y g post es s.runtime (s.clients c)) :
    Watching y g post (es ++ offered c s l s') s'.runtime (s'.clients c) ∧
      (s'.clients c).ticket = some t := by
  have hview : viewOf t.id s'.runtime = viewOf t.id s.runtime := by
    refine h.frame hm fun c' t' hl ht' heq => hc ?_
    rw [hl, h.consistent.alone c' c t' t ht' ht heq]
  rw [offered_others hc, List.append_nil, hm.clients hc]
  refine ⟨hw.frame fun t' ht' => ?_, ht⟩
  obtain rfl := Option.some.inj (ht.symm.trans ht')
  exact hview

/-- A step of the client, within its operation. -/
theorem Watching.own {l : Lbl GrCall Answer} (hg : ∀ answer, g.stopEnds answer)
    (hm : Moves (gr4Runtime y) s l s') (ht : (s.clients c).ticket = some t)
    (hc : l.client = some c) (hl : ¬ l.ends c)
    (hw : Watching y g post es s.runtime (s.clients c)) :
    Watching y g post (es ++ offered c s l s') s'.runtime (s'.clients c) ∧
      (s'.clients c).ticket = some t := by
  cases hm with
  | notCreated | created | get | list => cases hc
  | refused | returned =>
    rw [show offered c s _ s = [] from rfl, List.append_nil]
    exact ⟨hw, ht⟩
  | admitted c' op id session hidle =>
    cases hc
    rw [hidle] at ht
    cases ht
  | called c' ans t' call arg todo hclient =>
    cases hc
    rw [hclient] at ht hw
    cases ht
    rw [offered_own t.id g hclient, Prog.heard, List.append_nil]
    rw [Sys.setClient_self]
    exact ⟨watching_proceed hw, proceed_ticket t todo⟩
  | threw c' ans t' call arg e todo hclient =>
    cases hc
    rw [hclient] at ht hw
    cases ht
    rw [offered_own t.id g hclient, Prog.heard, List.append_nil]
    rw [Sys.setClient_self]
    exact ⟨⟨e, hw⟩, rfl⟩
  | stepped c' ans t' call arg prog prog' todo m hclient hnext =>
    cases hc
    rw [hclient] at ht hw
    cases ht
    rw [offered_own t.id g hclient, ← Prog.heard_bind (f := fun _ => callAll y todo) hnext]
    rw [Sys.setClient_self]
    refine ⟨Prog.Watched.next hw (Prog.next_bind hnext fun _ => callAll y todo) ?_, rfl⟩
    intro call _ _
    cases call <;> first | exact hg _ | trivial
  | failed | completed =>
    cases hc
    exact (hl rfl).elim

theorem Watching.step {l : Lbl GrCall Answer} (hg : ∀ answer, g.stopEnds answer) (h : Joint y s)
    (hm : Moves (gr4Runtime y) s l s') (ht : (s.clients c).ticket = some t) (hl : ¬ l.ends c)
    (hw : Watching y g post es s.runtime (s.clients c)) :
    Watching y g post (es ++ offered c s l s') s'.runtime (s'.clients c) ∧
      (s'.clients c).ticket = some t := by
  by_cases hc : l.client = some c
  · exact hw.own hg hm ht hc hl
  · exact hw.others h hm ht hc

/-- A window in the life of an operation. -/
theorem Watching.run {ls : List (Lbl GrCall Answer)} {es' : List Offer}
    (hg : ∀ answer, g.stopEnds answer) (h : Joint y s)
    (hr : (composedRuns y).Shows (offered c) s ls s' es') (ht : (s.clients c).ticket = some t)
    (hl : ∀ l ∈ ls, ¬ l.ends c) (hw : Watching y g post es s.runtime (s.clients c)) :
    Watching y g post (es ++ es') s'.runtime (s'.clients c) ∧ (s'.clients c).ticket = some t := by
  induction hr generalizing es with
  | nil =>
    rw [List.append_nil]
    exact ⟨hw, ht⟩
  | cons hstep _ ih =>
    have hm := h.consistent.moves hstep
    obtain ⟨hw', ht'⟩ := hw.step hg h hm ht (hl _ (by simp))
    rw [← List.append_assoc]
    exact ih (joint_step h hm) ht' (fun l hmem => hl l (by simp [hmem])) hw'

end Window

/-! ## All sessions at once -/

/-- Between its operations the entry of a session is `idle`. -/
structure AllWatched (y : Yaml) (g : Guard) (idle : Option SessionRuntimeResources → Prop)
    (s : Composed) : Prop where
  joint : Joint y s
  rest : ∀ id, Free s id → idle (s.runtime.resources.lookup id)
  inOp : ∀ c, ∃ es, Watching y g (fun _ _ v => idle v) es s.runtime (s.clients c)

section All

variable {y : Yaml} {g : Guard} {idle : Option SessionRuntimeResources → Prop} {s s' : Composed}
  {l : Lbl GrCall Answer} {c : Nat} {t : Ticket}

/-- An operation that ends leaves its session idle. -/
theorem AllWatched.ended (h : AllWatched y g idle s) (hm : Moves (gr4Runtime y) s l s')
    (ht : (s.clients c).ticket = some t) (hl : l.ends c) :
    idle (s'.runtime.resources.lookup t.id) := by
  obtain ⟨es, hw⟩ := h.inOp c
  cases hm with
  | failed c' now t' arg message service hc =>
    obtain rfl : c' = c := hl
    rw [hc] at ht hw
    cases ht
    exact hw.elim fun _ h => h
  | completed c' now t' service hc =>
    obtain rfl : c' = c := hl
    rw [hc] at ht hw
    cases ht
    exact hw
  | _ => exact hl.elim

/-- A client without an operation, and the one it may begin. -/
theorem AllWatched.begun (h : AllWatched y g idle s) (hm : Moves (gr4Runtime y) s l s')
    (ht : (s.clients c).ticket = none)
    (hbegin : ∀ op id session, l = .begin c op id →
      (s.service.admitOp op id).1 = .ok (.admitted session) → session.id = id → Free s id →
      Steps session.id g [] (s.runtime.resources.lookup session.id) (callAll y (op.calls session))
        fun _ _ v => idle v) :
    ∃ es, Watching y g (fun _ _ v => idle v) es s'.runtime (s'.clients c) := by
  have hidle : s.clients c = .idle := by
    cases hc : s.clients c with
    | idle => rfl
    | calling | failing | completing => rw [hc] at ht; cases ht
  by_cases hc : l.client = some c
  · cases hm with
    | notCreated | created | get | list => cases hc
    | refused | returned => exact ⟨[], by rw [hidle]; trivial⟩
    | admitted c' op id session hclient hresult hget hphase =>
      cases hc
      have hid := (h.joint.consistent.kept id session hget).id
      have hfree := h.joint.consistent.free hget hphase
      refine ⟨[], ?_⟩
      rw [Sys.setClient_self]
      exact watching_begin (t := ⟨op, id, session⟩) hid (hbegin op id session rfl
        (by rw [hresult]) hid hfree)
    | called c' _ t _ _ _ hclient =>
      cases hc
      rw [hidle] at hclient
      cases hclient
    | threw c' _ t _ _ _ _ hclient =>
      cases hc
      rw [hidle] at hclient
      cases hclient
    | stepped c' _ t _ _ _ _ _ _ hclient =>
      cases hc
      rw [hidle] at hclient
      cases hclient
    | failed c' =>
      cases hc
      exact ⟨[], by rw [Sys.setClient_self]; trivial⟩
    | completed c' =>
      cases hc
      exact ⟨[], by rw [Sys.setClient_self]; trivial⟩
  · exact ⟨[], by rw [hm.clients hc, hidle]; trivial⟩

/-- Every step, if the operations that begin with it can be watched. -/
theorem AllWatched.step (hg : ∀ answer, g.stopEnds answer) (h : AllWatched y g idle s)
    (hm : Moves (gr4Runtime y) s l s')
    (hbegin : ∀ c op id session, l = .begin c op id →
      (s.service.admitOp op id).1 = .ok (.admitted session) → session.id = id → Free s id →
      Steps session.id g [] (s.runtime.resources.lookup session.id) (callAll y (op.calls session))
        fun _ _ v => idle v) :
    AllWatched y g idle s' := by
  refine ⟨joint_step h.joint hm, fun id hfree => ?_, fun c => ?_⟩
  · by_cases hold : Free s id
    · have hview : viewOf id s'.runtime = viewOf id s.runtime :=
        h.joint.frame hm fun c t _ ht => hold c t ht
      have hentry : s'.runtime.resources.lookup id = s.runtime.resources.lookup id :=
        congrArg View.res hview
      rw [hentry]
      exact h.rest id hold
    · simp only [Free, not_forall, not_not] at hold
      obtain ⟨c, t, ht, rfl⟩ := hold
      by_cases hl : l.ends c
      · exact h.ended hm ht hl
      · -- the operation goes on, so that the session is not free
        obtain ⟨es, hw⟩ := h.inOp c
        exact (hfree c t (hw.step hg h.joint hm ht hl).2 rfl).elim
  · cases ht : (s.clients c).ticket with
    | none => exact h.begun hm ht (hbegin c)
    | some t =>
      by_cases hl : l.ends c
      · refine ⟨[], ?_⟩
        cases hm with
        | failed c' | completed c' =>
          obtain rfl : c' = c := hl
          rw [Sys.setClient_self]
          trivial
        | _ => exact hl.elim
      · obtain ⟨es, hw⟩ := h.inOp c
        exact ⟨_, (hw.step hg h.joint hm ht hl).1⟩

end All

end Gr4cp.App

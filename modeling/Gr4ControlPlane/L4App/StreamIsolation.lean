import Gr4ControlPlane.L4App.SessionStreams
import Gr4ControlPlane.L4App.TwoLevel

/-!
# Reading a stream of another session

`fetch_http_stream` and `resolve_websocket_stream` copy the endpoint of a
stream under the mutex of the session's entry and use it after they have
given the mutex back. By then the session may be stopped, its port handed
back, offered again and allocated for another session, whose data the reader
gets. (`set_block_settings` and `get_block_settings` hold the mutex until
they have their answer.)

`streamRuns` adds readers to the clients of the service. A reader passes the
service, looks the endpoint up while no call is inside the entry's mutex, and
contacts it at any later time; a fetch may try again.

* `lookup_owned`: the endpoint looked up is the session's own.
* `contacts_isolated`: in a run in which no port is handed over while it is
  held, whatever is contacted is no other session's.
* `held_isolated_iff`: no more can be left out; a port handed over may be
  contacted next.
* `contacts_other_session`: the run in which one is.
-/
namespace Gr4cp.App

open Gr4cp.Core Gr4cp.Domain Gr4cp.Storage Gr4cp.Runtime

/-! ## Between calls -/

/-- What holds for a client in or between the calls of its operation. -/
def InCall (m : Manager) : Client Manager GrCall Answer → Prop
  | .idle => True
  | .calling t _ _ prog _ => prog.Sat viewOf (Keep t.id) t.id (fun _ v => Calm v) m
  | .failing t _ _ | .completing t => Calm (viewOf t.id m)

/-- Calls leave their entry settled; within them its bindings stay held. -/
structure Orderly (y : Yaml) (s : Composed) : Prop where
  joint : Joint y s
  always : ∀ id, Always (viewOf id s.runtime)
  inCall : ∀ c, InCall s.runtime (s.clients c)

section Orderly

variable {y : Yaml} {s s' : Composed} {c : Nat} {t : Ticket} {id : Str}

theorem Made.calm {session : Session} {v : View} (h : Made y session v) : Calm v := by
  intro r hr
  obtain ⟨hreleased, hheld, hunbound, hstarted, -⟩ := h r hr
  exact ⟨hreleased, hheld, hunbound, hstarted, fun _ _ => trivial⟩

theorem call_calm (call : RtCall) (arg : Session) {v : View} (hv : Calm v) :
    Does arg.id v ((gr4Runtime y).call call arg) fun _ v' => Calm v' := by
  cases call with
  | prepare => exact call_spec y (.prepare arg) hv
  | start => exact call_spec y (.start arg) hv
  | stop => exact call_spec y (.stop arg) hv
  | destroy => exact call_spec y (.destroy arg) hv

theorem inCall_proceed {m : Manager} {calls : List (RtCall × Session)}
    (hcalm : Calm (viewOf t.id m)) (hargs : ∀ x ∈ calls, x.2.id = t.id) :
    InCall m (proceed (gr4Runtime y) t calls) := by
  rcases calls with _ | ⟨⟨call, arg⟩, todo⟩
  · exact hcalm
  · have hid : arg.id = t.id := hargs (call, arg) (by simp)
    rw [← hid] at hcalm
    change ((gr4Runtime y).call call arg).Sat viewOf (Keep t.id) t.id (fun _ v => Calm v) m
    rw [← hid]
    exact call_calm call arg hcalm m rfl

theorem InCall.frame {m m' : Manager} {client : Client Manager GrCall Answer}
    (h : InCall m client) (hv : ∀ t, client.ticket = some t → viewOf t.id m' = viewOf t.id m) :
    InCall m' client := by
  cases client with
  | idle => trivial
  | calling t call arg prog todo => exact Prog.Sat.congr h (hv t rfl)
  | failing t arg message => simpa only [InCall, hv t rfl] using h
  | completing t => simpa only [InCall, hv t rfl] using h

/-- A free session is between calls. -/
theorem Joint.calm (h : Joint y s) (hfree : Free s id) : Calm (viewOf id s.runtime) := by
  have hagree := h.agree id hfree
  cases hget : s.service.repository.get id with
  | none =>
    rw [hget] at hagree
    intro r hr
    rw [hagree] at hr
    cases hr
  | some session =>
    rw [hget] at hagree
    exact Made.calm hagree.1

/-- The steps of a client that is not idle. -/
theorem Orderly.own {l : Lbl GrCall Answer} (h : Orderly y s) (hm : Moves (gr4Runtime y) s l s')
    (hc : l.client = some c) : InCall s'.runtime (s'.clients c) := by
  have hin := h.inCall c
  have hargs := h.joint.consistent.args c
  cases hm with
  | notCreated | created | get | list => cases hc
  | refused | returned => exact hin
  | admitted c' op id session _ _ hget hphase =>
    cases hc
    have hcalm := h.joint.calm (h.joint.consistent.free hget hphase)
    have hid := (h.joint.consistent.kept id session hget).id
    rw [Sys.setClient_self]
    exact inCall_proceed (t := ⟨op, id, session⟩) hcalm fun x hx =>
      (Op.calls_own op session x hx).trans hid
  | called c' ans t call arg todo hclient =>
    cases hc
    rw [hclient] at hin hargs
    rw [Sys.setClient_self]
    exact inCall_proceed hin hargs.2
  | threw c' ans t call arg e todo hclient =>
    cases hc
    rw [hclient] at hin
    rw [Sys.setClient_self]
    exact hin
  | stepped c' ans t call arg prog prog' todo m hclient hnext =>
    cases hc
    rw [hclient] at hin
    rw [Sys.setClient_self]
    exact (Prog.Sat.next (Keep.refl t.id) hin hnext).1
  | failed | completed =>
    cases hc
    rw [Sys.setClient_self]
    trivial

theorem Orderly.keep {l : Lbl GrCall Answer} (h : Orderly y s) (hm : Moves (gr4Runtime y) s l s') :
    Always (viewOf id s'.runtime) := by
  have hold := h.always id
  cases hm with
  | notCreated | created | get | list | refused | returned | admitted => exact hold
  | called | threw | failed | completed => exact hold
  | stepped c ans t call arg prog prog' todo m hclient hnext =>
    have hin := h.inCall c
    rw [hclient] at hin
    obtain ⟨-, hframe, hkeep⟩ := Prog.Sat.next (Keep.refl t.id) hin hnext
    by_cases hid : id = t.id
    · subst hid
      exact hkeep.always hold
    · change Always (viewOf id m)
      rwa [hframe id hid]

theorem orderly_step {l : Lbl GrCall Answer} (h : Orderly y s) (hm : Moves (gr4Runtime y) s l s') :
    Orderly y s' := by
  refine ⟨joint_step h.joint hm, fun _ => h.keep hm, fun c => ?_⟩
  by_cases hc : l.client = some c
  · exact h.own hm hc
  · rw [hm.clients hc]
    refine (h.inCall c).frame fun t ht => h.joint.frame hm fun c' t' hl ht' heq => hc ?_
    rw [hl, h.joint.consistent.alone c' c t' t ht' ht heq]

theorem orderly_init (hs : (composedRuns y).init s) : Orderly y s := by
  refine ⟨(joint_inductive y).init s hs, ?_, ?_⟩ <;> cases hs
  · rintro id r ⟨⟩
  · exact fun _ => trivial

end Orderly

/-! ## Readers -/

/-- Whether a client is inside a call on the session. From its first access
to its last a call holds the mutex of the session's entry. -/
def Client.inside (id : Str) : Client Manager GrCall Answer → Prop
  | .calling _ _ _ (.ret _) _ => False
  | .calling t _ _ _ _ => t.id = id
  | _ => False

def MutexFree (s : Composed) (id : Str) : Prop := ∀ c, ¬ (s.clients c).inside id

inductive Access where
  /-- `fetch_http_stream` -/
  | fetch
  /-- `resolve_websocket_stream`, and the connection of the upgrade handler -/
  | attach
  deriving DecidableEq, Repr

/-- The lookup made under the mutex. -/
def Access.endpoint (m : Manager) : Access → Session → Str → Except Exn InternalStreamBinding
  | .fetch => m.fetchTarget
  | .attach => m.resolveWebsocketStream

inductive Reader where
  | idle
  /-- the service has found the session running -/
  | admitted (access : Access) (session : Session) (streamId : Str)
  /-- the endpoint is copied, and the mutex given back -/
  | holding (access : Access) (session : Session) (streamId : Str)
      (internal : InternalStreamBinding)

structure Streaming where
  sys : Composed
  readers : Nat → Reader

def Streaming.setReader (s : Streaming) (n : Nat) (reader : Reader) : Streaming :=
  { s with readers := Function.update s.readers n reader }

inductive StreamLbl where
  | service (l : Lbl GrCall Answer)
  | accept (n : Nat) (access : Access) (id streamId : Str)
  | lookup (n : Nat)
  | contact (n : Nat) (again : Bool)

inductive StreamStep (y : Yaml) (s : Streaming) : StreamLbl → Streaming → Prop
  | service (l : Lbl GrCall Answer) (sys : Composed) (h : (composedRuns y).step s.sys l sys) :
    StreamStep y s (.service l) { s with sys }
  | accept (n : Nat) (access : Access) (id streamId : Str) (session : Session)
    (hidle : s.readers n = .idle) (h : s.sys.service.runningSession id = .ok session) :
    StreamStep y s (.accept n access id streamId)
      (s.setReader n (.admitted access session streamId))
  | found (n : Nat) (access : Access) (session : Session) (streamId : Str)
    (internal : InternalStreamBinding) (hreader : s.readers n = .admitted access session streamId)
    (hmutex : MutexFree s.sys session.id)
    (h : access.endpoint s.sys.runtime session streamId = .ok internal) :
    StreamStep y s (.lookup n) (s.setReader n (.holding access session streamId internal))
  | missing (n : Nat) (access : Access) (session : Session) (streamId : Str) (e : Exn)
    (hreader : s.readers n = .admitted access session streamId)
    (hmutex : MutexFree s.sys session.id)
    (h : access.endpoint s.sys.runtime session streamId = .error e) :
    StreamStep y s (.lookup n) (s.setReader n .idle)
  /-- the request is made, and that of a fetch may be repeated -/
  | contact (n : Nat) (access : Access) (session : Session) (streamId : Str)
    (internal : InternalStreamBinding) (again : Bool)
    (hreader : s.readers n = .holding access session streamId internal) :
    StreamStep y s (.contact n again)
      (s.setReader n (if again = true ∧ access = .fetch then .admitted access session streamId
        else .idle))

def streamRuns (y : Yaml) : LTS Streaming StreamLbl where
  init s := (composedRuns y).init s.sys ∧ ∀ n, s.readers n = .idle
  step := StreamStep y

/-! ## Isolation -/

/-- The endpoint is allocated for no other session, and is no other
session's binding. -/
def OwnEndpoint (m : Manager) (session : Session) (internal : InternalStreamBinding) : Prop :=
  (∀ owner, m.allocatedPorts.lookup internal.port = some owner → owner = session.id) ∧
    ∀ owner k b, Live m owner k b → owner ≠ session.id → b.internal.port ≠ internal.port

/-- Whatever endpoint is held, and so may be contacted next, is no other
session's. -/
def Isolated (s : Streaming) : Prop :=
  ∀ n access session streamId internal,
    s.readers n = .holding access session streamId internal →
    OwnEndpoint s.sys.runtime session internal

/-- A port is allocated for a session while a reader of another one holds
it. -/
def HandsOver (s s' : Streaming) : Prop :=
  ∃ n access session streamId internal owner,
    s.readers n = .holding access session streamId internal ∧ owner ≠ session.id ∧
    s.sys.runtime.allocatedPorts.lookup internal.port ≠ some owner ∧
    s'.sys.runtime.allocatedPorts.lookup internal.port = some owner

/-- The runs in which no port that is held is handed over. -/
def undisturbedRuns (y : Yaml) : LTS Streaming StreamLbl where
  init := (streamRuns y).init
  step s l s' := (streamRuns y).step s l s' ∧ ¬ HandsOver s s'

section Isolation

variable {y : Yaml} {s s' : Streaming} {l : StreamLbl} {m : Manager} {session : Session}
  {streamId : Str} {internal : InternalStreamBinding}

theorem Free.mutexFree {s : Composed} {id : Str} (h : Free s id) : MutexFree s id := by
  intro c hinside
  cases hc : s.clients c with
  | idle | failing | completing => simp [hc, Client.inside] at hinside
  | calling t call arg prog todo =>
    have hid : t.id = id := by
      rw [hc] at hinside
      cases prog with
      | ret r => exact hinside.elim
      | act | ask => exact hinside
    exact h c t (by rw [hc]; rfl) hid

/-- An entry that no call is in is settled. -/
theorem Orderly.calm {s : Composed} (h : Orderly y s) {id : Str} (hmutex : MutexFree s id) :
    Calm (viewOf id s.runtime) := by
  by_cases hfree : Free s id
  · exact h.joint.calm hfree
  · simp only [Free, not_forall, not_not] at hfree
    obtain ⟨c, t, ht, rfl⟩ := hfree
    have hin := h.inCall c
    have hout := hmutex c
    cases hc : s.clients c with
    | idle => rw [hc] at ht; cases ht
    | calling t' call arg prog todo =>
      rw [hc] at ht hin hout
      cases ht
      cases prog with
      | ret r => exact hin
      | act | ask => exact (hout rfl).elim
    | failing t' arg message =>
      rw [hc] at ht hin
      cases ht
      exact hin
    | completing t' =>
      rw [hc] at ht hin
      cases ht
      exact hin

/-- Both lookups return the endpoint of one of the session's bindings. -/
theorem endpoint_mem {access : Access} (h : access.endpoint m session streamId = .ok internal) :
    ∃ r, m.resources.lookup session.id = some r ∧
      ∃ b ∈ r.streamBindings, b.internal = internal := by
  have hbindings : ∃ bindings, m.runningBindings session = some bindings ∧
      ∃ b ∈ bindings, b.internal = internal := by
    cases access with
    | fetch =>
      replace h : m.fetchTarget session streamId = .ok internal := h
      unfold Manager.fetchTarget at h
      split at h
      · cases h
      · split at h
        · cases h
        · rename_i bindings hb _ b hfind
          cases h
          exact ⟨bindings, hb, b, List.mem_of_find?_eq_some hfind, rfl⟩
    | attach =>
      replace h : m.resolveWebsocketStream session streamId = .ok internal := h
      unfold Manager.resolveWebsocketStream at h
      split at h
      · cases h
      · split at h
        · cases h
        · rename_i bindings hb _ b hfind
          cases h
          exact ⟨bindings, hb, b, List.mem_of_find?_eq_some hfind, rfl⟩
  obtain ⟨bindings, hb, hmem⟩ := hbindings
  unfold Manager.runningBindings at hb
  split at hb
  · cases hb
  · rename_i r hr
    split at hb
    · cases hb
    · split at hb
      · cases hb
      · cases hb
        exact ⟨r, hr, hmem⟩

/-- The endpoint looked up is allocated for the session. -/
theorem lookup_owned {access : Access} (hcalm : Calm (viewOf session.id m))
    (h : access.endpoint m session streamId = .ok internal) :
    m.allocatedPorts.lookup internal.port = some session.id := by
  obtain ⟨r, hr, b, hb, rfl⟩ := endpoint_mem h
  obtain ⟨k, hk⟩ := List.mem_iff_getElem?.1 hb
  have hreleased : r.released = 0 := (hcalm r hr).released
  have hlive : Live m session.id k b := ⟨r, hr, by omega, hk⟩
  exact hlive.owned hcalm.always

/-! ## Runs -/

theorem setReader_eq_holding {n k : Nat} {reader : Reader} {access : Access}
    (h : (s.setReader n reader).readers k = .holding access session streamId internal) :
    reader = .holding access session streamId internal ∨
      s.readers k = .holding access session streamId internal := by
  by_cases hk : k = n
  · subst hk
    exact .inl (by simpa [Streaming.setReader] using h)
  · exact .inr (by simpa [Streaming.setReader, hk] using h)

/-- What is allocated for no other session is no other session's binding. -/
theorem Orderly.isolated (h : Orderly y s.sys)
    (hown : ∀ n access session streamId internal,
      s.readers n = .holding access session streamId internal →
      ∀ owner, s.sys.runtime.allocatedPorts.lookup internal.port = some owner →
        owner = session.id) : Isolated s := by
  intro n access session streamId internal hreader
  refine ⟨hown n access session streamId internal hreader, fun owner k b hlive hne heq => hne ?_⟩
  refine hown n access session streamId internal hreader owner ?_
  rw [← heq]
  exact hlive.owned (h.always owner)

/-- A step that hands nothing over. -/
theorem isolated_step (h : Orderly y s.sys) (hisolated : Isolated s)
    (hstep : (streamRuns y).step s l s') (hnot : ¬ HandsOver s s') :
    Orderly y s'.sys ∧ Isolated s' := by
  cases hstep with
  | service l sys hs =>
    have hmoves := h.joint.consistent.moves hs
    have horderly := orderly_step h hmoves
    refine ⟨horderly, Orderly.isolated horderly ?_⟩
    intro n access session streamId internal hreader owner howner
    by_contra hne
    by_cases hold : s.sys.runtime.allocatedPorts.lookup internal.port = some owner
    · exact hne ((hisolated n access session streamId internal hreader).1 owner hold)
    · exact hnot ⟨n, access, session, streamId, internal, owner, hreader, hne, hold, howner⟩
  | accept | missing =>
    refine ⟨h, fun k access session streamId internal hreader => ?_⟩
    exact hisolated k _ _ _ _ ((setReader_eq_holding hreader).resolve_left (by rintro ⟨⟩))
  | found n access session streamId internal _ hmutex hlookup =>
    refine ⟨h, Orderly.isolated h fun k access' session' streamId' internal' hreader => ?_⟩
    rcases setReader_eq_holding hreader with heq | hold
    · cases heq
      intro owner howner
      have hmine := lookup_owned (h.calm hmutex) hlookup
      exact Option.some.inj (howner.symm.trans hmine)
    · exact (hisolated k access' session' streamId' internal' hold).1
  | contact n access session streamId internal again =>
    refine ⟨h, fun k access' session' streamId' internal' hreader => ?_⟩
    refine hisolated k _ _ _ _ ((setReader_eq_holding hreader).resolve_left ?_)
    split <;> rintro ⟨⟩

/-- A port handed over while it is held is still held. -/
theorem not_isolated_of_handsOver (hstep : (streamRuns y).step s l s') (h : HandsOver s s') :
    ¬ Isolated s' := by
  obtain ⟨n, access, session, streamId, internal, owner, hreader, hne, hold, hnew⟩ := h
  intro hisolated
  cases hstep with
  | service => exact hne ((hisolated n access session streamId internal hreader).1 owner hnew)
  | accept | missing | found | contact => exact hold hnew

theorem not_handsOver (h : s'.sys = s.sys) : ¬ HandsOver s s' := by
  rintro ⟨n, access, session, streamId, internal, owner, -, -, hold, hnew⟩
  rw [h] at hnew
  exact hold hnew

theorem undisturbed_run {ls : List StreamLbl} (h : (undisturbedRuns y).Run s ls s') :
    (streamRuns y).Run s ls s' := by
  induction h with
  | nil => exact .nil _
  | cons hstep _ ih => exact .cons hstep.1 ih

theorem runIn_of_undisturbed {ls : List StreamLbl} (hr : (undisturbedRuns y).Run s ls s')
    (h : Orderly y s.sys) (hisolated : Isolated s) : (streamRuns y).RunIn Isolated s ls s' := by
  induction hr with
  | nil => exact .nil hisolated
  | cons hstep _ ih =>
    obtain ⟨horderly, hnext⟩ := isolated_step h hisolated hstep.1 hstep.2
    exact .cons hisolated hstep.1 (ih horderly hnext)

theorem undisturbed_of_runIn {ls : List StreamLbl}
    (hr : (streamRuns y).RunIn Isolated s ls s') : (undisturbedRuns y).Run s ls s' := by
  induction hr with
  | nil => exact .nil _
  | cons _ hstep hrest ih =>
    exact .cons ⟨hstep, fun h => not_isolated_of_handsOver hstep h hrest.first⟩ ih

theorem isolated_init (h : (streamRuns y).init s) : Isolated s := by
  intro n access session streamId internal hreader
  rw [h.2 n] at hreader
  cases hreader

/-- The condition leaves out no more than it must: a port handed over while a
reader holds it is one the reader may contact next. -/
theorem held_isolated_iff {s₀ : Streaming} {ls : List StreamLbl} (h₀ : (streamRuns y).init s₀) :
    (streamRuns y).RunIn Isolated s₀ ls s ↔ (undisturbedRuns y).Run s₀ ls s :=
  ⟨undisturbed_of_runIn, fun hundisturbed =>
    runIn_of_undisturbed hundisturbed (orderly_init h₀.1) (isolated_init h₀)⟩

/-- **Streams are isolated but for ports handed over.** In every run of the
clients of the service and the readers of streams, from the start on, no step
of which allocates a port for a session while a reader of another one holds
it: whenever a reader contacts an endpoint, then at that moment the port is
allocated for no session but the reader's, and no other session's binding
has it. -/
theorem contacts_isolated (y : Yaml) {s₀ s s' : Streaming} {ls : List StreamLbl} {n : Nat}
    {again : Bool} (h₀ : (streamRuns y).init s₀) (hrun : (undisturbedRuns y).Run s₀ ls s)
    (hcontact : (streamRuns y).step s (.contact n again) s') :
    ∃ access session streamId internal,
      s.readers n = .holding access session streamId internal ∧
      OwnEndpoint s.sys.runtime session internal := by
  have hisolated : Isolated s := ((held_isolated_iff h₀).2 hrun).last
  cases hcontact with
  | contact _ access session streamId internal _ hreader =>
    exact ⟨access, session, streamId, internal, hreader, hisolated n _ _ _ _ hreader⟩

end Isolation

/-! ## One run -/

theorem Streaming.run_service {y : Yaml} {a b : Composed} {ls : List (Lbl GrCall Answer)}
    (h : (composedRuns y).Run a ls b) (readers : Nat → Reader) :
    (streamRuns y).Run ⟨a, readers⟩ (ls.map .service) ⟨b, readers⟩ := by
  induction h with
  | nil => exact .nil _
  | @cons s s' _ l _ hstep _ ih => exact .cons (StreamStep.service (s := ⟨s, readers⟩) l s' hstep) ih

def noReaders : Streaming := ⟨⟨Service.empty, Manager.empty, fun _ => .idle⟩, fun _ => .idle⟩

/-- What reader 0 holds after a lookup. -/
def holding (sys : Composed) (session : Session) (streamId : Str)
    (internal : InternalStreamBinding) : Streaming where
  sys
  readers := Function.update (fun _ => .idle) 0 (.holding .attach session streamId internal)

theorem lookup_run {y : Yaml} {sys : Composed} {id streamId : Str} {session : Session}
    {internal : InternalStreamBinding} (hadmitted : sys.service.runningSession id = .ok session)
    (hmutex : MutexFree sys session.id)
    (hlookup : Access.attach.endpoint sys.runtime session streamId = .ok internal) :
    (undisturbedRuns y).Run ⟨sys, fun _ => .idle⟩ [.accept 0 .attach id streamId, .lookup 0]
      (holding sys session streamId internal) := by
  have hstep := StreamStep.found (y := y)
    (s := Streaming.setReader ⟨sys, fun _ => .idle⟩ 0 (.admitted .attach session streamId)) 0 .attach
    session streamId internal (by simp [Streaming.setReader]) hmutex hlookup
  have hfound : (streamRuns y).step
      (Streaming.setReader ⟨sys, fun _ => .idle⟩ 0 (.admitted .attach session streamId))
      (.lookup 0) (holding sys session streamId internal) := by
    simpa [streamRuns, Streaming.setReader, holding] using hstep
  exact .cons ⟨.accept 0 .attach id streamId session rfl hadmitted, not_handsOver rfl⟩
    (.cons ⟨hfound, not_handsOver rfl⟩ (.nil _))

/-- Reader 0 contacts what it holds. -/
theorem holding_contact {y : Yaml} (sys : Composed) (session : Session) (streamId : Str)
    (internal : InternalStreamBinding) :
    (streamRuns y).step (holding sys session streamId internal) (.contact 0 false)
      ⟨sys, fun _ => .idle⟩ := by
  have hstep := StreamStep.contact (y := y) (s := holding sys session streamId internal) 0 .attach
    session streamId internal false (by simp [holding])
  have hidle : (holding sys session streamId internal).setReader 0 .idle =
      ⟨sys, fun _ => .idle⟩ := by
    simp [holding, Streaming.setReader, Function.update_idem]
  simpa [streamRuns, hidle] using hstep

/-- The stream of the session that runs on port 40000 is looked up. -/
def lookUp : List StreamLbl :=
  startSink.map .service ++ [.accept 0 .attach firstId (str "spectrum"), .lookup 0]

def holdingSink (sys : Composed) : Streaming :=
  holding sys runningSink (str "spectrum") (websocketBinding.on 40000)

/-- Nothing is handed over where nothing is held. -/
theorem Streaming.run_undisturbed {y : Yaml} {a b : Composed}
    {ls : List (Lbl GrCall Answer)} (h : (composedRuns y).Run a ls b) :
    (undisturbedRuns y).Run ⟨a, fun _ => .idle⟩ (ls.map .service) ⟨b, fun _ => .idle⟩ := by
  induction h with
  | nil => exact .nil _
  | @cons s s' _ l _ hstep _ ih =>
    refine .cons ⟨StreamStep.service (s := ⟨s, fun _ => .idle⟩) l s' hstep, ?_⟩ ih
    rintro ⟨n, access, session, streamId, internal, owner, hreader, -⟩
    cases hreader

theorem lookUp_undisturbed :
    (undisturbedRuns (readingSinks oneSink)).Run noReaders lookUp (holdingSink sinkRunning) := by
  refine (Streaming.run_undisturbed sinkRunning_run).append
    (lookup_run (by decide +kernel) ?_ (by decide +kernel))
  exact (sinkRunning_free _).mutexFree

/-- The endpoint is contacted while the session still runs. -/
theorem holdingSink_contacts_own :
    ∃ access session streamId internal,
      (holdingSink sinkRunning).readers 0 = .holding access session streamId internal ∧
      OwnEndpoint (holdingSink sinkRunning).sys.runtime session internal :=
  contacts_isolated (readingSinks oneSink) (s := holdingSink sinkRunning)
    (show (streamRuns (readingSinks oneSink)).init noReaders from ⟨rfl, fun _ => rfl⟩)
    lookUp_undisturbed (holding_contact _ _ _ _)

def secondId : Str := Service.generateSessionId 2

/-- The session is stopped, and another one started, which is offered the
same port. -/
def stopAndStartOther : List (Lbl GrCall Answer) :=
  [.begin 0 .stop firstId] ++ List.replicate 13 (.runtime 0 (granting 40000)) ++ [.complete 0 2] ++
    [.create (str "other") (sinksText oneSink) none [2] 3, .begin 0 .start secondId] ++
    List.replicate 22 (.runtime 0 (granting 40000)) ++ [.complete 0 4]

theorem stopAndStartOther_isSome :
    (LTS.runFn (Sys.step (gr4Runtime (readingSinks oneSink))) sinkRunning
      stopAndStartOther).isSome = true := by decide +kernel

def otherRunning : Composed :=
  (LTS.runFn (Sys.step (gr4Runtime (readingSinks oneSink))) sinkRunning stopAndStartOther).get
    stopAndStartOther_isSome

theorem otherRunning_live :
    ∃ b, Live otherRunning.runtime secondId 0 b ∧ b.internal.port = 40000 := by
  have hother : ((otherRunning.runtime.resources.lookup secondId).bind fun r =>
      if r.released ≤ 0 then r.streamBindings[0]?.map (·.internal.port) else none) =
      some 40000 := by decide +kernel
  obtain ⟨r, hr, hport⟩ := Option.bind_eq_some_iff.1 hother
  split at hport
  · obtain ⟨b, hb, hport⟩ := Option.map_eq_some_iff.1 hport
    exact ⟨b, ⟨r, hr, ‹_›, hb⟩, hport⟩
  · cases hport

/-- The endpoint that is contacted is now that of the other session. -/
theorem contacts_other_session :
    (streamRuns (readingSinks oneSink)).Run noReaders
        (lookUp ++ stopAndStartOther.map .service) (holdingSink otherRunning) ∧
      (streamRuns (readingSinks oneSink)).step (holdingSink otherRunning) (.contact 0 false)
        ⟨otherRunning, fun _ => .idle⟩ ∧
      (holdingSink otherRunning).readers 0 =
        .holding .attach runningSink (str "spectrum") (websocketBinding.on 40000) ∧
      secondId ≠ runningSink.id ∧
      (∃ b, Live otherRunning.runtime secondId 0 b ∧ b.internal.port = 40000) ∧
      ¬ OwnEndpoint otherRunning.runtime runningSink (websocketBinding.on 40000) := by
  have hrun : (composedRuns (readingSinks oneSink)).Run sinkRunning stopAndStartOther otherRunning :=
    LTS.run_of_runFn _ _ _ (Option.some_get _).symm
  have hne : secondId ≠ runningSink.id := by decide +kernel
  refine ⟨(undisturbed_run lookUp_undisturbed).append (Streaming.run_service hrun _),
    holding_contact _ _ _ _, by simp [holdingSink, holding], hne, otherRunning_live,
    fun hown => ?_⟩
  obtain ⟨b, hb, hport⟩ := otherRunning_live
  exact hown.2 secondId 0 b hb hne hport

end Gr4cp.App

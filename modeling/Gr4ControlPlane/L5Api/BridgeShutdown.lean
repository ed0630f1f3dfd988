import Gr4ControlPlane.Core.LTS

/-!
# Shutdown of the bridges (`HttpServer::Impl`)

`stop` copies `active_bridges_` under `bridge_mutex_` and closes the bridges
it has copied, so that the connection threads which run them come to their
end; then it joins these threads. A connection thread registers its bridge
under the same mutex, but does not look at `stopping_`: a bridge registered
behind the copy is closed by nobody, and the join waits for its browser.

* `stop_reaches_iff`: along a run every bridge that runs once the copy is
  made is closed by `stop`, or about to be, exactly when every bridge is
  registered before the copy.
* `join_waits`: a thread whose bridge is missed is waited for until its
  bridge ends by itself.
-/
namespace Gr4cp.Api

open Gr4cp.Core

/-! ## The threads -/

/-- Where a connection thread is.
mirrors src/api/http_server.cpp:870-886,945-990 -/
inductive ConnectionPc where
  /-- reading the request -/
  | reading
  /-- in `proxy_http_request` -/
  | proxying
  /-- in `resolve_websocket_stream` -/
  | resolving
  /-- connecting to the internal stream -/
  | attaching
  /-- in the browser's handshake -/
  | accepting
  /-- the bridge is made, and not yet registered -/
  | made
  /-- the bridge is registered, and runs -/
  | running
  /-- `run` has returned -/
  | ran
  | done
  deriving DecidableEq, Repr

/-- How a part of `handle_connection` ends. -/
inductive Turn where
  /-- the thread ends: nothing was read, or an error was written -/
  | failed
  /-- not a stream route -/
  | proxied
  | goesOn
  deriving DecidableEq, Repr

/-- The parts that touch nothing shared.
mirrors src/api/http_server.cpp:870-886,945-980 -/
def ConnectionPc.next : ConnectionPc → Turn → Option ConnectionPc
  | .reading, .proxied => some .proxying
  | .reading, .goesOn => some .resolving
  | .resolving, .goesOn => some .attaching
  | .attaching, .goesOn => some .accepting
  | .accepting, .goesOn => some .made
  | .proxying, .goesOn => some .done
  | .reading, .failed | .resolving, .failed | .attaching, .failed | .accepting, .failed => some .done
  | _, _ => none

/-- Where the listening thread is; `join_connection_threads` holds the
threads it has still to join.
mirrors src/api/http_server.cpp:769-796,861-868 -/
inductive ListenerPc where
  | idle | looking | accepting | accepted | swapping
  | joining (threads : List Nat)
  | joiningInternal | returned
  deriving DecidableEq, Repr

/-- Where the call of `stop` is that found `stopping_` false.
mirrors src/api/http_server.cpp:798-822,861-868 -/
inductive StopPc where
  | notCalled | stoppingInternal | closingAcceptor | copying
  | closing (todo : List Nat)
  | swapping
  | joining (threads : List Nat)
  | joiningInternal | returned
  deriving DecidableEq, Repr

/-- The copy of `active_bridges_` is made. -/
def StopPc.copied : StopPc → Bool
  | .notCalled | .stoppingInternal | .closingAcceptor | .copying => false
  | _ => true

/-- The bridges `stop` has still to close. -/
def StopPc.toClose : StopPc → List Nat
  | .closing todo => todo
  | _ => []

/-- The shared state and the threads; connection threads, and the bridge of
each, go by their number. -/
structure HttpServer where
  /-- `stopping_` -/
  stopping : Bool
  acceptorOpen : Bool
  /-- `internal_server.stop()` has been called -/
  internalStopped : Bool
  listener : ListenerPc
  stopper : StopPc
  threads : List ConnectionPc
  /-- `connection_threads_` -/
  connectionThreads : List Nat
  /-- `active_bridges_` -/
  activeBridges : List Nat
  /-- the copy, in `stop` -/
  bridges : List Nat
  /-- the bridges whose `closed_` is set -/
  closed : List Nat
  deriving DecidableEq, Repr

namespace HttpServer

/-- Bound, and not listening yet. -/
def bound : HttpServer where
  stopping := true
  acceptorOpen := true
  internalStopped := false
  listener := .idle
  stopper := .notCalled
  threads := []
  connectionThreads := []
  activeBridges := []
  bridges := []
  closed := []

/-- mirrors src/api/http_server.cpp:641-652 -/
def close (s : HttpServer) (t : Nat) : HttpServer :=
  if t ∈ s.closed then s else { s with closed := t :: s.closed }

def move (s : HttpServer) (t : Nat) (pc : ConnectionPc) : HttpServer :=
  { s with threads := s.threads.set t pc }

end HttpServer

/-! ## Steps -/

/-- What `accept` gives. -/
inductive Accepted where
  | socket
  | wouldBlock
  /-- `operation_aborted` and `bad_descriptor`, or another error -/
  | error (ends : Bool)
  deriving DecidableEq, Repr

inductive ShutdownLbl where
  /-- the listening thread: `stopping_.store(false)` -/
  | listen
  | look
  | accept (result : Accepted)
  /-- a connection thread is started -/
  | spawn
  | listenerNext
  /-- a call of `stop` -/
  | stop
  /-- the copy, in the order of the set, which is that of the addresses -/
  | copy (bridges : List Nat)
  | stopNext
  | turn (t : Nat) (turn : Turn)
  | register (t : Nat)
  /-- a direction of the bridge ends, and closes it -/
  | hangUp (t : Nat)
  /-- `run` returns -/
  | runReturns (t : Nat)
  | erase (t : Nat)
  deriving DecidableEq, Repr

namespace HttpServer

/-- mirrors src/api/http_server.cpp:776-788 -/
def acceptStep (s : HttpServer) : Accepted → Option HttpServer
  | .socket => if s.acceptorOpen then some { s with listener := .accepted } else none
  | .wouldBlock => if s.acceptorOpen then some { s with listener := .looking } else none
  | .error ends =>
    some { s with listener := if s.stopping || ends then .swapping else .looking }

/-- mirrors src/api/http_server.cpp:793-795,855-868 -/
def listenerNext (s : HttpServer) : Option HttpServer :=
  match s.listener with
  | .swapping =>
    some { s with listener := .joining s.connectionThreads, connectionThreads := [] }
  | .joining [] => some { s with listener := .joiningInternal }
  | .joining (t :: threads) =>
    if s.threads[t]? = some .done then some { s with listener := .joining threads } else none
  | .joiningInternal =>
    if s.internalStopped then some { s with listener := .returned } else none
  | _ => none

/-- mirrors src/api/http_server.cpp:803-808,815-821,855-868 -/
def stopNext (s : HttpServer) : Option HttpServer :=
  match s.stopper with
  | .stoppingInternal => some { s with internalStopped := true, stopper := .closingAcceptor }
  | .closingAcceptor => some { s with acceptorOpen := false, stopper := .copying }
  | .closing [] => some { s with stopper := .swapping }
  | .closing (t :: todo) => some { s.close t with stopper := .closing todo }
  | .swapping =>
    some { s with stopper := .joining s.connectionThreads, connectionThreads := [] }
  | .joining [] => some { s with stopper := .joiningInternal }
  | .joining (t :: threads) =>
    if s.threads[t]? = some .done then some { s with stopper := .joining threads } else none
  | .joiningInternal => some { s with stopper := .returned }
  | .notCalled | .copying | .returned => none

/-- mirrors src/api/http_server.cpp:633-639,769-822,861-886,945-990 -/
def step (s : HttpServer) : ShutdownLbl → Option HttpServer
  | .listen =>
    if s.listener = .idle then some { s with stopping := false, listener := .looking } else none
  | .look =>
    if s.listener = .looking then
      some { s with listener := if s.stopping then .swapping else .accepting }
    else none
  | .accept result => if s.listener = .accepting then s.acceptStep result else none
  | .spawn =>
    if s.listener = .accepted then
      some { s with listener := .looking
                    threads := s.threads ++ [.reading]
                    connectionThreads := s.connectionThreads ++ [s.threads.length] }
    else none
  | .listenerNext => s.listenerNext
  | .stop =>
    if s.stopping then some s else some { s with stopping := true, stopper := .stoppingInternal }
  | .copy bridges =>
    if s.stopper = .copying ∧ bridges.isPerm s.activeBridges then
      some { s with bridges := bridges, stopper := .closing bridges }
    else none
  | .stopNext => s.stopNext
  | .turn t turn => (s.threads[t]?.bind fun pc => pc.next turn).map (s.move t)
  | .register t =>
    if s.threads[t]? = some .made then
      some { s.move t .running with activeBridges := t :: s.activeBridges }
    else none
  | .hangUp t => if s.threads[t]? = some .running then some (s.close t) else none
  | .runReturns t =>
    if s.threads[t]? = some .running ∧ t ∈ s.closed then some (s.move t .ran) else none
  | .erase t =>
    if s.threads[t]? = some .ran then
      some { s.move t .done with activeBridges := s.activeBridges.filter (· ≠ t) }
    else none

end HttpServer

/-- A server that is run once, with any number of connections and of calls
of `stop`. -/
def httpServer : LTS HttpServer ShutdownLbl := .ofFn (· = .bound) HttpServer.step

/-! ## What is registered, copied and closed -/

namespace ConnectionPc

/-- The thread's bridge is in `active_bridges_`. -/
def registered : ConnectionPc → Bool
  | .running | .ran => true
  | _ => false

/-- The thread will not register a bridge any more. -/
def past : ConnectionPc → Bool
  | .running | .ran | .done => true
  | _ => false

/-- A part that touches nothing shared is one of a thread without bridge. -/
theorem next_spec {pc pc' : ConnectionPc} {turn : Turn} (h : pc.next turn = some pc') :
    pc.past = false ∧ pc.registered = false ∧ pc'.registered = false ∧ pc' ≠ .running := by
  cases pc <;> cases turn <;> cases h <;> decide

end ConnectionPc

namespace HttpServer

/-- The thread's bridge runs. -/
def Runs (s : HttpServer) (t : Nat) : Prop := s.threads[t]? = some .running

structure Inv (s : HttpServer) : Prop where
  active : ∀ t, t ∈ s.activeBridges ↔ s.threads[t]?.any (·.registered) = true
  copied : ∀ t ∈ s.bridges, s.threads[t]?.any (·.past) = true
  todo : ∀ t ∈ s.stopper.toClose, t ∈ s.bridges
  closed : s.stopper.copied = true → ∀ t ∈ s.bridges, t ∉ s.stopper.toClose → t ∈ s.closed

/-- Every bridge that runs was there when `stop` made its copy. -/
def Covers (s : HttpServer) : Prop :=
  s.stopper.copied = true → ∀ t, s.Runs t → t ∈ s.bridges

variable {s s' : HttpServer} {t u : Nat} {pc pc' : ConnectionPc}

theorem threads_move (h : s.threads[t]? = some pc) (pc' : ConnectionPc) (u : Nat) :
    (s.move t pc').threads[u]? = if u = t then some pc' else s.threads[u]? := by
  obtain ⟨hlt, -⟩ := List.getElem?_eq_some_iff.1 h
  unfold move
  rw [List.getElem?_set]
  by_cases hu : t = u
  · subst hu
    simp [hlt]
  · simp [hu, Ne.symm hu]

/-- One thread goes on, and its bridge is registered or taken out. -/
theorem Inv.move (hI : s.Inv) (h : s.threads[t]? = some pc)
    (hpast : pc.past = true → pc'.past = true) {active : List Nat}
    (hactive : ∀ u, u ∈ active ↔ if u = t then pc'.registered = true else u ∈ s.activeBridges) :
    Inv { s.move t pc' with activeBridges := active } where
  active := by
    intro u
    rw [hactive, threads_move h]
    split
    · simp
    · exact hI.active u
  copied := by
    intro u hu
    have hold := hI.copied u hu
    rw [threads_move h]
    split
    · rename_i heq
      subst heq
      rw [h] at hold
      simpa using hpast (by simpa using hold)
    · exact hold
  todo := hI.todo
  closed := hI.closed

theorem Covers.move (hc : s.Covers) (h : s.threads[t]? = some pc) (hpc : pc' ≠ .running)
    (active : List Nat) : Covers { s.move t pc' with activeBridges := active } := by
  intro hcopied u hu
  have hold : s.Runs u := by
    unfold Runs at hu ⊢
    rw [threads_move h] at hu
    split at hu
    · exact absurd (Option.some.inj hu) hpc
    · exact hu
  exact hc hcopied u hold

theorem mem_close : u ∈ (s.close t).closed ↔ u = t ∨ u ∈ s.closed := by
  unfold close
  split
  · rename_i h
    constructor
    · exact .inr
    · intro hu
      obtain rfl | hu := hu
      · exact h
      · exact hu
  · exact List.mem_cons

/-- Closing a bridge changes nothing else. -/
theorem close_eq : s.close t = { s with closed := (s.close t).closed } := by
  unfold close
  split <;> rfl

theorem Inv.closeMore (hI : s.Inv) (t : Nat) : Inv (s.close t) := by
  rw [close_eq]
  exact ⟨hI.active, hI.copied, hI.todo, fun hc u hu hn => mem_close.2 (.inr (hI.closed hc u hu hn))⟩

/-! ## Steps keep it -/

/-- The bridge is registered while `stop` has not made its copy. -/
def RegisteredInTime (s : HttpServer) : ShutdownLbl → Prop
  | .register _ => s.stopper.copied = false
  | _ => True

/-- What a step keeps. -/
def Kept (s s' : HttpServer) : Prop := s'.Inv ∧ (s.Covers → s'.Covers)

/-- A step of the listening thread. -/
theorem kept_listener (hI : s.Inv) (listener : ListenerPc) (stopping : Bool)
    (connectionThreads : List Nat) :
    Kept s { s with listener, stopping, connectionThreads } :=
  ⟨⟨hI.active, hI.copied, hI.todo, hI.closed⟩, fun hc => hc⟩

/-- A step of `stop` that closes nothing and makes no copy. -/
theorem kept_stopper (hI : s.Inv) {stopper : StopPc} (htodo : stopper.toClose = [])
    (hcopied : stopper.copied = true → s.stopper.copied = true ∧ s.stopper.toClose = [])
    (stopping acceptorOpen internalStopped : Bool) (connectionThreads : List Nat) :
    Kept s { s with stopper, stopping, acceptorOpen, internalStopped, connectionThreads } := by
  constructor
  · refine ⟨hI.active, hI.copied, ?_, ?_⟩
    · intro t ht
      rw [show (_ : HttpServer).stopper.toClose = [] from htodo] at ht
      cases ht
    · intro hc t ht _
      obtain ⟨hwas, hnone⟩ := hcopied hc
      exact hI.closed hwas t ht (by rw [hnone]; exact List.not_mem_nil)
  · intro hcovers hc
    exact hcovers (hcopied hc).1

theorem threads_spawn (s : HttpServer) (t : Nat) :
    (s.threads ++ [.reading])[t]? =
      if t = s.threads.length then some .reading else s.threads[t]? := by
  split
  · rename_i heq
    subst heq
    exact List.getElem?_concat_length
  · rename_i hne
    obtain hlt | hge := Nat.lt_or_ge t s.threads.length
    · exact List.getElem?_append_left hlt
    · have hlen : (s.threads ++ [ConnectionPc.reading]).length ≤ t := by
        rw [List.length_append, List.length_singleton]
        omega
      rw [List.getElem?_eq_none hge, List.getElem?_eq_none hlen]

/-- A thread that has done nothing yet. -/
theorem kept_spawn (hI : s.Inv) (listener : ListenerPc) (connectionThreads : List Nat) :
    Kept s { s with listener, threads := s.threads ++ [.reading], connectionThreads } := by
  have hnone : s.threads[s.threads.length]? = none := List.getElem?_eq_none (Nat.le_refl _)
  constructor
  · refine ⟨?_, ?_, hI.todo, hI.closed⟩
    · intro t
      rw [hI.active t]
      show _ ↔ (s.threads ++ [.reading])[t]?.any _ = true
      rw [threads_spawn]
      split
      · rename_i heq
        subst heq
        simp [ConnectionPc.registered]
      · rfl
    · intro t ht
      show (s.threads ++ [.reading])[t]?.any _ = true
      have hold := hI.copied t ht
      rw [threads_spawn]
      split
      · rename_i heq
        subst heq
        rw [hnone] at hold
        cases hold
      · exact hold
  · intro hcovers hc t ht
    have hruns : (s.threads ++ [.reading])[t]? = some .running := ht
    rw [threads_spawn] at hruns
    split at hruns
    · cases hruns
    · exact hcovers hc t hruns

theorem kept_listenerNext (hI : s.Inv) (h : s.listenerNext = some s') : Kept s s' := by
  unfold listenerNext at h
  split at h
  · cases h
    exact kept_listener hI _ s.stopping _
  · cases h
    exact kept_listener hI _ s.stopping s.connectionThreads
  · split at h
    · cases h
      exact kept_listener hI _ s.stopping s.connectionThreads
    · cases h
  · split at h
    · cases h
      exact kept_listener hI _ s.stopping s.connectionThreads
    · cases h
  · cases h

theorem kept_accept (hI : s.Inv) {result : Accepted} (h : s.acceptStep result = some s') :
    Kept s s' := by
  cases result with
  | socket =>
    simp only [acceptStep] at h
    split at h
    · cases h
      exact kept_listener hI _ s.stopping s.connectionThreads
    · cases h
  | wouldBlock =>
    simp only [acceptStep] at h
    split at h
    · cases h
      exact kept_listener hI _ s.stopping s.connectionThreads
    · cases h
  | error ends =>
    cases h
    exact kept_listener hI _ s.stopping s.connectionThreads

/-- The first bridge still to be closed is. -/
theorem kept_close (hI : s.Inv) {todo : List Nat} (h : s.stopper = .closing (t :: todo)) :
    Kept s { s.close t with stopper := .closing todo } := by
  rw [close_eq]
  constructor
  · refine ⟨hI.active, hI.copied, ?_, ?_⟩
    · intro u hu
      exact hI.todo u (by rw [h]; exact List.mem_cons_of_mem _ hu)
    · intro _ u hu hnot
      rw [mem_close]
      by_cases heq : u = t
      · exact .inl heq
      · refine .inr (hI.closed (by rw [h]; rfl) u hu ?_)
        rw [h]
        intro hmem
        obtain rfl | hmem := List.mem_cons.1 hmem
        · exact heq rfl
        · exact hnot hmem
  · intro hcovers _
    exact hcovers (by rw [h]; rfl)

theorem kept_stopNext (hI : s.Inv) (h : s.stopNext = some s') : Kept s s' := by
  unfold stopNext at h
  split at h
  · cases h
    exact kept_stopper hI rfl (by rintro ⟨⟩) s.stopping _ _ s.connectionThreads
  · cases h
    exact kept_stopper hI rfl (by rintro ⟨⟩) s.stopping _ _ s.connectionThreads
  · rename_i hpc
    cases h
    exact kept_stopper hI rfl (fun _ => by rw [hpc]; decide) s.stopping _ _ s.connectionThreads
  · rename_i hpc
    cases h
    exact kept_close hI hpc
  · rename_i hpc
    cases h
    exact kept_stopper hI rfl (fun _ => by rw [hpc]; decide) s.stopping _ _ _
  · rename_i hpc
    cases h
    exact kept_stopper hI rfl (fun _ => by rw [hpc]; decide) s.stopping _ _ s.connectionThreads
  · rename_i hpc
    split at h
    · cases h
      exact kept_stopper hI rfl (fun _ => by rw [hpc]; exact ⟨rfl, rfl⟩) s.stopping _ _
        s.connectionThreads
    · cases h
  · rename_i hpc
    cases h
    exact kept_stopper hI rfl (fun _ => by rw [hpc]; decide) s.stopping _ _ s.connectionThreads
  · cases h
  · cases h
  · cases h

/-- The copy holds every bridge that runs. -/
theorem kept_copy (hI : s.Inv) {bridges : List Nat} (h : bridges.Perm s.activeBridges) :
    Kept s { s with bridges, stopper := .closing bridges } := by
  constructor
  · refine ⟨hI.active, ?_, fun _ ht => ht, fun _ _ ht hnot => absurd ht hnot⟩
    intro t ht
    have hreg := (hI.active t).1 (h.mem_iff.1 ht)
    obtain ⟨pc, hpc, hreg⟩ := Option.any_eq_true _ _ |>.1 hreg
    refine Option.any_eq_true _ _ |>.2 ⟨pc, hpc, ?_⟩
    cases pc <;> first | rfl | cases hreg
  · intro _ _ t ht
    have hruns : s.threads[t]? = some .running := ht
    exact h.mem_iff.2 ((hI.active t).2 (by rw [hruns]; rfl))

/-- A thread goes on, and `active_bridges_` stays as it is. -/
theorem kept_move (hI : s.Inv) (h : s.threads[t]? = some pc)
    (hpast : pc.past = true → pc'.past = true) (hreg : pc'.registered = pc.registered)
    (hpc : pc' ≠ .running) : Kept s (s.move t pc') := by
  refine ⟨hI.move h hpast fun u => ?_, fun hcovers => hcovers.move h hpc s.activeBridges⟩
  split
  · rename_i heq
    subst heq
    rw [hI.active u, h, Option.any_some, hreg]
  · rfl

theorem turn_cases {turn : Turn} (h : s.step (.turn t turn) = some s') :
    ∃ pc pc', s.threads[t]? = some pc ∧ pc.next turn = some pc' ∧ s' = s.move t pc' := by
  unfold step at h
  obtain ⟨pc', hnext, heq⟩ := Option.map_eq_some_iff.1 h
  obtain ⟨pc, hpc, hnext⟩ := Option.bind_eq_some_iff.1 hnext
  exact ⟨pc, pc', hpc, hnext, heq.symm⟩

theorem kept_turn (hI : s.Inv) {turn : Turn} (h : s.step (.turn t turn) = some s') :
    Kept s s' := by
  obtain ⟨pc, pc', hpc, hnext, rfl⟩ := turn_cases h
  obtain ⟨hpast, hreg, hreg', hrun⟩ := ConnectionPc.next_spec hnext
  refine kept_move hI hpc ?_ (hreg'.trans hreg.symm) hrun
  intro hwas
  rw [hpast] at hwas
  cases hwas

theorem kept_erase (hI : s.Inv) (h : s.threads[t]? = some .ran) :
    Kept s { s.move t .done with activeBridges := s.activeBridges.filter (· ≠ t) } := by
  refine ⟨hI.move h (fun _ => rfl) fun u => ?_, fun hcovers => hcovers.move h (by decide) _⟩
  rw [List.mem_filter]
  split
  · rename_i heq
    simp [heq, ConnectionPc.registered]
  · rename_i hne
    simp [hne]

/-- A bridge registered behind the copy is not covered. -/
theorem register_spec (hI : s.Inv) (h : s.threads[t]? = some .made) :
    let after := { s.move t .running with activeBridges := t :: s.activeBridges }
    after.Inv ∧ (s.Covers → (after.Covers ↔ s.stopper.copied = false)) := by
  intro after
  have hruns : after.Runs t := by
    show (s.move t .running).threads[t]? = some .running
    rw [threads_move h, if_pos rfl]
  have hnot : t ∉ s.bridges := by
    intro ht
    have hpast := hI.copied t ht
    rw [h] at hpast
    cases hpast
  constructor
  · refine hI.move h (fun _ => rfl) fun u => ?_
    rw [List.mem_cons]
    split
    · rename_i heq
      simp [heq, ConnectionPc.registered]
    · rename_i hne
      simp [hne]
  · intro _
    constructor
    · intro hafter
      cases hcopied : s.stopper.copied with
      | false => rfl
      | true => exact absurd (hafter hcopied t hruns) hnot
    · intro hcopied hc
      exact absurd (hc.symm.trans hcopied) (by decide)

/-- **One step.** -/
theorem step_spec (hI : s.Inv) {l : ShutdownLbl} (h : s.step l = some s') :
    s'.Inv ∧ (s.Covers → (s'.Covers ↔ s.RegisteredInTime l)) := by
  have hkept : Kept s s' → (∀ t, l ≠ .register t) →
      s'.Inv ∧ (s.Covers → (s'.Covers ↔ s.RegisteredInTime l)) := by
    intro hk hl
    refine ⟨hk.1, fun hc => iff_of_true (hk.2 hc) ?_⟩
    cases l <;> first | trivial | exact absurd rfl (hl _)
  cases l with
  | listen =>
    simp only [step] at h
    split at h
    · cases h
      exact hkept (kept_listener hI _ _ s.connectionThreads) (by simp)
    · cases h
  | look =>
    simp only [step] at h
    split at h
    · cases h
      exact hkept (kept_listener hI _ s.stopping s.connectionThreads) (by simp)
    · cases h
  | accept result =>
    simp only [step] at h
    split at h
    · exact hkept (kept_accept hI h) (by simp)
    · cases h
  | spawn =>
    simp only [step] at h
    split at h
    · cases h
      exact hkept (kept_spawn hI _ _) (by simp)
    · cases h
  | listenerNext => exact hkept (kept_listenerNext hI h) (by simp)
  | stop =>
    simp only [step] at h
    split at h
    · cases h
      exact hkept ⟨hI, fun hc => hc⟩ (by simp)
    · cases h
      exact hkept (kept_stopper hI rfl (by rintro ⟨⟩) _ s.acceptorOpen s.internalStopped
        s.connectionThreads) (by simp)
  | copy bridges =>
    simp only [step] at h
    split at h
    · rename_i hcond
      cases h
      exact hkept (kept_copy hI (List.isPerm_iff.1 hcond.2)) (by simp)
    · cases h
  | stopNext => exact hkept (kept_stopNext hI h) (by simp)
  | turn t turn => exact hkept (kept_turn hI h) (by simp)
  | register t =>
    simp only [step] at h
    split at h
    · rename_i hpc
      cases h
      exact register_spec hI hpc
    · cases h
  | hangUp t =>
    simp only [step] at h
    split at h
    · cases h
      refine hkept ⟨hI.closeMore t, fun hc => ?_⟩ (by simp)
      rw [close_eq]
      exact hc
    · cases h
  | runReturns t =>
    simp only [step] at h
    split at h
    · rename_i hcond
      cases h
      exact hkept (kept_move hI hcond.1 (fun _ => rfl) rfl (by decide)) (by simp)
    · cases h
  | erase t =>
    simp only [step] at h
    split at h
    · rename_i hpc
      cases h
      exact hkept (kept_erase hI hpc) (by simp)
    · cases h

theorem inv_inductive : httpServer.Inductive Inv where
  init := by
    intro s hs
    subst hs
    refine ⟨?_, ?_, ?_, ?_⟩
    · intro t
      simp [bound]
    · intro t ht
      cases ht
    · intro t ht
      cases ht
    · intro hc
      cases hc
  step := by
    intro s l s' hI hs
    exact (step_spec hI hs).1

/-! ## Runs -/

/-- `stop` has closed the bridge. -/
def ClosedByStop (s : HttpServer) (t : Nat) : Prop := t ∈ s.bridges ∧ t ∈ s.closed

/-- Once the copy is made, `stop` has closed every bridge that runs, or is
about to; when it joins the connection threads, it has closed the bridge of
each. -/
structure StopReaches (s : HttpServer) : Prop where
  covered : s.stopper.copied = true → ∀ t, s.Runs t → t ∈ s.stopper.toClose ∨ s.ClosedByStop t
  joined : ∀ threads, s.stopper = .joining threads → ∀ t ∈ threads, s.Runs t → s.ClosedByStop t

theorem stopReaches_iff (hI : s.Inv) : s.StopReaches ↔ s.Covers := by
  constructor
  · intro h hc t ht
    obtain htodo | hclosed := h.covered hc t ht
    · exact hI.todo t htodo
    · exact hclosed.1
  · intro h
    have hcovered : s.stopper.copied = true → ∀ t, s.Runs t →
        t ∈ s.stopper.toClose ∨ s.ClosedByStop t := by
      intro hc t ht
      by_cases htodo : t ∈ s.stopper.toClose
      · exact .inl htodo
      · have hbridge := h hc t ht
        exact .inr ⟨hbridge, hI.closed hc t hbridge htodo⟩
    refine ⟨hcovered, fun threads hpc t _ ht => ?_⟩
    obtain htodo | hclosed := hcovered (by rw [hpc]; rfl) t ht
    · rw [hpc] at htodo
      cases htodo
    · exact hclosed

/-- **Closed by `stop`, exactly.** Along a run, in every state, `stop` has
closed every bridge that runs once the copy is made, or is about to, if and
only if each of its steps that registers a bridge finds the copy not made. -/
theorem stop_reaches_iff (ls : List ShutdownLbl) (s : HttpServer) :
    httpServer.RunIn StopReaches bound ls s ↔
      (httpServer.restrict RegisteredInTime).Run bound ls s := by
  have hI : bound.Inv := inv_inductive.init _ rfl
  have hstart : bound.StopReaches := (stopReaches_iff hI).2 fun hc => by cases hc
  refine LTS.runIn_iff_restrict inv_inductive ?_ hI hstart
  intro s l s' hI hreach hstep
  obtain ⟨hI', hcovers⟩ := step_spec hI hstep
  rw [stopReaches_iff hI', hcovers ((stopReaches_iff hI).1 hreach)]

/-! ## A bridge that is missed -/

/-- Once `stop` has gone through, `stopping_` stays set. -/
structure Called (s : HttpServer) : Prop where
  stays : s.stopper ≠ .notCalled → s.stopping = true
  listening : s.stopping = false ∨ s.stopper ≠ .notCalled → s.listener ≠ .idle

/-- `stop` waits for a thread whose bridge nobody has closed. -/
structure Waits (threads : List Nat) (t : Nat) (s : HttpServer) : Prop where
  joins : s.stopper = .joining (t :: threads)
  runs : s.Runs t
  unclosed : t ∉ s.closed

theorem called_step (hI : s.Called) {l : ShutdownLbl} (h : s.step l = some s') : s'.Called := by
  obtain ⟨hstays, hlistening⟩ := hI
  cases l with
  | turn t turn =>
    obtain ⟨pc, pc', -, -, rfl⟩ := turn_cases h
    exact ⟨hstays, hlistening⟩
  | _ =>
    simp only [step, acceptStep, listenerNext, stopNext] at h
    constructor <;> grind [move, close]

theorem called_inductive : httpServer.Inductive Called where
  init := by
    intro s hs
    subst hs
    exact ⟨fun _ => rfl, by simp [bound]⟩
  step := by
    intro s l s' hI hs
    exact called_step hI hs

/-- Nothing but the end of its bridge lets the thread go on. -/
theorem waits_step {threads : List Nat} (hI : s.Called) (hw : Waits threads t s)
    {l : ShutdownLbl} (h : s.step l = some s') (hl : l ≠ .hangUp t) : Waits threads t s' := by
  obtain ⟨hjoins, hruns, hopen⟩ := hw
  have hstopping := hI.stays (by rw [hjoins]; simp)
  unfold Runs at hruns
  cases l with
  | turn u turn =>
    obtain ⟨pc, pc', hpc, hnext, rfl⟩ := turn_cases h
    have hne : t ≠ u := by
      intro heq
      subst heq
      rw [hruns] at hpc
      cases hpc
      cases turn <;> cases hnext
    refine ⟨hjoins, ?_, hopen⟩
    unfold Runs
    rw [threads_move hpc, if_neg hne]
    exact hruns
  | _ =>
    simp only [step, acceptStep, listenerNext, stopNext] at h
    constructor <;> grind [move, close, Runs]

/-- In every run in which the missed bridge does not end by itself, `stop`
goes on waiting for its thread. -/
theorem join_waits {threads : List Nat} (hs : httpServer.Reachable s) (hw : Waits threads t s)
    {ls : List ShutdownLbl} (hrun : httpServer.Run s ls s') (hls : .hangUp t ∉ ls) :
    Waits threads t s' := by
  have hI := called_inductive.reachable hs
  clear hs
  induction hrun with
  | nil => exact hw
  | cons hstep _ ih =>
    simp only [List.mem_cons, not_or] at hls
    exact ih (waits_step hI hw hstep (Ne.symm hls.1)) hls.2 (called_step hI hstep)

/-- One connection, whose bridge is made when `stop` is called. -/
def oneBridge : List ShutdownLbl :=
  [.listen, .look, .accept .socket, .spawn, .turn 0 .goesOn, .turn 0 .goesOn, .turn 0 .goesOn,
    .turn 0 .goesOn, .stop, .stopNext, .stopNext]

/-- Registered before the copy, the bridge is closed and `stop` returns. -/
example : (LTS.runFn step bound (oneBridge ++ [.register 0, .copy [0], .stopNext, .stopNext,
    .stopNext, .runReturns 0, .erase 0, .stopNext, .stopNext, .stopNext])).map (·.stopper) =
      some .returned := by
  decide

/-- Registered behind it, the bridge is closed by nobody. -/
def lateBridge : List ShutdownLbl := oneBridge ++ [.copy [], .register 0, .stopNext, .stopNext]

theorem lateBridge_isSome : (LTS.runFn step bound lateBridge).isSome = true := by decide

/-- `stop` joins the thread of a bridge it has not closed, and goes on
waiting while the bridge does not end by itself. -/
theorem bridge_missed :
    ∃ s, httpServer.Run bound lateBridge s ∧ ¬ s.StopReaches ∧ s.stopper = .joining [0] ∧
      ∀ ls s', httpServer.Run s ls s' → .hangUp 0 ∉ ls → s'.stopper = .joining [0] := by
  let s := (LTS.runFn step bound lateBridge).get lateBridge_isSome
  have hrun : httpServer.Run bound lateBridge s :=
    LTS.run_of_runFn _ _ _ (Option.some_get lateBridge_isSome).symm
  have hruns : s.Runs 0 := by
    unfold Runs
    decide
  have hwaits : Waits [] 0 s := ⟨by decide, hruns, by decide⟩
  refine ⟨s, hrun, fun h => ?_, hwaits.joins, fun ls s' hrun' hls => ?_⟩
  · exact hwaits.unclosed (h.joined [0] hwaits.joins 0 (by simp) hwaits.runs).2
  · exact (join_waits ⟨bound, lateBridge, rfl, hrun⟩ hwaits hrun' hls).joins

end HttpServer

end Gr4cp.Api

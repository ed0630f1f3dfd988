import Mathlib.Logic.Function.Basic
import Gr4ControlPlane.Core.Once
import Gr4ControlPlane.Core.Progress
import Gr4ControlPlane.Core.Bytes

/-!
# The WebSocket bridge (`WebSocketBridge`)

A bridge has two sockets, the browser's and the internal one, and a thread
for each direction that reads a message from one socket and writes it to the
other. When a read or a write fails, by whatever error, the thread closes both
sockets; so does `HttpServer::stop`, and at the end the thread that runs the
bridge. `close` runs once, under its mutex. A read waits for a message and a
write for the peer it goes to, neither with a limit.

* `bridge_relays`: in every run, what was written to a socket, with what the
  thread holds, is the first so many messages of the other socket, in order,
  each as text or binary as it came.
* `bridge_settles`: once the peers do nothing more, every run is bounded; it
  comes to rest with both sockets shut down and closed, each once, and every
  thread done, or with nothing closed and each direction at a peer: it has
  delivered everything and waits for more, or its message is not taken.
* `bridge_orderly`: unless something fails or the server is stopped, a bridge
  that closes has delivered everything that one of the sides ever sent.
-/
namespace Gr4cp.Api

open Gr4cp.Core

inductive Side where
  | browser | internal
  deriving DecidableEq, Repr

def Side.other : Side → Side
  | .browser => .internal
  | .internal => .browser

/-- A message of a WebSocket. -/
structure WsMessage where
  text : Bool
  data : Str
  deriving DecidableEq, Repr

/-- A call of `close` on a socket.
mirrors src/api/http_server.cpp:647-651 -/
inductive CloseCall where
  | shutdown (side : Side)
  | close (side : Side)
  deriving DecidableEq, Repr

def CloseCall.side : CloseCall → Side
  | .shutdown side | .close side => side

def closeCalls : List CloseCall :=
  [.shutdown .browser, .close .browser, .shutdown .internal, .close .internal]

/-- Where `forward` is.
mirrors src/api/http_server.cpp:660-678 -/
inductive ForwardPc where
  | reading
  /-- before `destination.text(source.got_text())` -/
  | marking (message : WsMessage)
  | writing (message : WsMessage)
  | closing
  | done
  deriving DecidableEq, Repr

/-- A direction: the socket its thread reads, the one it writes, and the
thread. -/
structure Lane where
  /-- what the peer of the source has sent so far -/
  sent : List WsMessage := []
  /-- how many of these have been read -/
  taken : Nat := 0
  /-- the peer of the source has sent all it has to send, and closed -/
  ended : Bool := false
  /-- the mode of the next write to the destination -/
  text : Bool := false
  /-- how many messages the peer of the destination takes before a write has
  to wait for it -/
  room : Nat := 0
  /-- what was written to the destination -/
  written : List WsMessage := []
  pc : ForwardPc := .reading
  deriving DecidableEq, Repr

/-- How a call on a socket turns out. -/
inductive SocketTurn where
  | ok
  /-- the socket is closed here, or its peer has closed and all is read -/
  | ends
  | fault
  deriving DecidableEq, Repr

/-- A step of `forward(source, destination)`; every error leads to `close`.
mirrors src/api/http_server.cpp:654-678 -/
def Lane.step (sourceOpen destinationOpen : Bool) (l : Lane) (turn : SocketTurn) : Option Lane :=
  match l.pc, turn with
  | .reading, .ok =>
    match l.sent[l.taken]? with
    | some message =>
      if sourceOpen then some { l with taken := l.taken + 1, pc := .marking message } else none
    | none => none
  | .reading, .ends =>
    if sourceOpen = false ∨ l.ended = true ∧ l.taken = l.sent.length then
      some { l with pc := .closing }
    else none
  | .marking message, .ok => some { l with text := message.text, pc := .writing message }
  | .writing message, .ok =>
    -- `destination.write` has no timeout
    if destinationOpen = true ∧ 0 < l.room then
      some { l with
        room := l.room - 1
        written := l.written ++ [⟨l.text, message.data⟩]
        pc := .reading }
    else none
  | .writing _, .ends => if destinationOpen then none else some { l with pc := .closing }
  | .reading, .fault | .writing _, .fault => some { l with pc := .closing }
  | _, _ => none

/-- Where `run` is.
mirrors src/api/http_server.cpp:633-639 -/
inductive RunPc where
  | joining (source : Side)
  | closing
  | done
  deriving DecidableEq, Repr

/-- Who calls `close`; from outside it may be called more than once. -/
inductive Closer where
  | forward (source : Side)
  | run
  | stop (n : Nat)
  deriving DecidableEq, Repr

structure Bridge where
  /-- the direction from each side to the other -/
  lane : Side → Lane
  run : RunPc
  /-- whether each call from outside is still in `close` -/
  stops : List Bool
  /-- `close_mutex_` and `closed_`, with the calls made under them -/
  closed : Once Closer CloseCall

namespace Bridge

def start : Bridge where
  lane _ := {}
  run := .joining .browser
  stops := []
  closed := .unused

/-- The socket has been neither shut down nor closed. -/
def isOpen (b : Bridge) (side : Side) : Bool := b.closed.log.all fun call => call.side != side

def setLane (b : Bridge) (source : Side) (l : Lane) : Bridge :=
  { b with lane := Function.update b.lane source l }

/-- The thread is in `close`. -/
def inClose (b : Bridge) : Closer → Bool
  | .forward source => (b.lane source).pc == .closing
  | .run => b.run == .closing
  | .stop n => b.stops[n]? == some true

/-- The thread returns from `close`, which is the last thing it does. -/
def leaveClose (b : Bridge) : Closer → Bridge
  | .forward source => b.setLane source { b.lane source with pc := .done }
  | .run => { b with run := .done }
  | .stop n => { b with stops := b.stops.set n false }

end Bridge

inductive BridgeLbl where
  /-- a peer sends a message -/
  | send (source : Side) (message : WsMessage)
  /-- a peer closes -/
  | finish (source : Side)
  /-- the peer at the other end of a direction takes one more message -/
  | take (source : Side)
  /-- `close` is called from outside -/
  | stop
  | forward (source : Side) (turn : SocketTurn)
  /-- a join of `run` returns -/
  | join
  /-- a step in `close` -/
  | close (t : Closer)
  deriving DecidableEq, Repr

/-- mirrors src/api/http_server.cpp:633-652 -/
def Bridge.step (b : Bridge) : BridgeLbl → Option Bridge
  | .send source message =>
    if (b.lane source).ended then none
    else
      some (b.setLane source { b.lane source with sent := (b.lane source).sent ++ [message] })
  | .finish source => some (b.setLane source { b.lane source with ended := true })
  | .take source =>
    some (b.setLane source { b.lane source with room := (b.lane source).room + 1 })
  | .stop => some { b with stops := b.stops ++ [true] }
  | .forward source turn =>
    ((b.lane source).step (b.isOpen source) (b.isOpen source.other) turn).map (b.setLane source)
  | .join =>
    match b.run with
    | .joining .browser =>
      if (b.lane .browser).pc = .done then some { b with run := .joining .internal } else none
    | .joining .internal =>
      if (b.lane .internal).pc = .done then some { b with run := .closing } else none
    | _ => none
  | .close t =>
    if b.inClose t then
      match b.closed.step closeCalls t with
      | some (false, closed) => some { b with closed }
      | some (true, closed) => some { b.leaveClose t with closed }
      | none => none
    else none

def bridge : LTS Bridge BridgeLbl := .ofFn (· = .start) Bridge.step

/-! ## One direction -/

/-- What was written, against what was read, by where the thread is. -/
def Relayed (written read : List WsMessage) : ForwardPc → Prop
  | .reading => written = read
  | .marking message | .writing message => written ++ [message] = read
  | .closing | .done => written = read ∨ ∃ message, written ++ [message] = read

structure LaneInv (l : Lane) : Prop where
  relayed : Relayed l.written (l.sent.take l.taken) l.pc
  taken : l.taken ≤ l.sent.length
  marked : ∀ message, l.pc = .writing message → l.text = message.text

/-- What a step of `forward` can do. -/
inductive LaneStep (sourceOpen destinationOpen : Bool) (l : Lane) : SocketTurn → Lane → Prop
  | read {message : WsMessage} (hpc : l.pc = .reading) (hnext : l.sent[l.taken]? = some message)
      (hopen : sourceOpen = true) :
      LaneStep sourceOpen destinationOpen l .ok
        { l with taken := l.taken + 1, pc := .marking message }
  | mark {message : WsMessage} (hpc : l.pc = .marking message) :
      LaneStep sourceOpen destinationOpen l .ok
        { l with text := message.text, pc := .writing message }
  | write {message : WsMessage} (hpc : l.pc = .writing message) (hopen : destinationOpen = true)
      (hroom : 0 < l.room) :
      LaneStep sourceOpen destinationOpen l .ok
        { l with
          room := l.room - 1
          written := l.written ++ [⟨l.text, message.data⟩]
          pc := .reading }
  | readEnds (hpc : l.pc = .reading)
      (hend : sourceOpen = false ∨ l.ended = true ∧ l.taken = l.sent.length) :
      LaneStep sourceOpen destinationOpen l .ends { l with pc := .closing }
  | writeEnds {message : WsMessage} (hpc : l.pc = .writing message)
      (hclosed : destinationOpen = false) :
      LaneStep sourceOpen destinationOpen l .ends { l with pc := .closing }
  | readFails (hpc : l.pc = .reading) :
      LaneStep sourceOpen destinationOpen l .fault { l with pc := .closing }
  | writeFails {message : WsMessage} (hpc : l.pc = .writing message) :
      LaneStep sourceOpen destinationOpen l .fault { l with pc := .closing }

section Lane

variable {sourceOpen destinationOpen : Bool} {l l' : Lane} {turn : SocketTurn}

theorem laneStep_cases (h : l.step sourceOpen destinationOpen turn = some l') :
    LaneStep sourceOpen destinationOpen l turn l' := by
  unfold Lane.step at h
  split at h
  case h_1 hpc =>
    split at h
    case h_1 message hnext =>
      split at h
      case isTrue hopen =>
        cases h
        exact .read hpc hnext hopen
      case isFalse => cases h
    case h_2 => cases h
  case h_2 hpc =>
    split at h
    case isTrue hend =>
      cases h
      exact .readEnds hpc hend
    case isFalse => cases h
  case h_3 message hpc =>
    cases h
    exact .mark hpc
  case h_4 message hpc =>
    split at h
    case isTrue hopen =>
      cases h
      exact .write hpc hopen.1 hopen.2
    case isFalse => cases h
  case h_5 message hpc =>
    split at h
    case isTrue => cases h
    case isFalse hopen =>
      cases h
      exact .writeEnds hpc (by simpa using hopen)
  case h_6 hpc =>
    cases h
    exact .readFails hpc
  case h_7 message hpc =>
    cases h
    exact .writeFails hpc
  case h_8 => cases h

theorem LaneInv.step (hi : LaneInv l) (h : l.step sourceOpen destinationOpen turn = some l') :
    LaneInv l' := by
  obtain ⟨hrelayed, htaken, hmarked⟩ := hi
  cases laneStep_cases h with
  | @read message hpc hnext hopen =>
    rw [hpc] at hrelayed
    have hlt : l.taken < l.sent.length := (List.getElem?_eq_some_iff.1 hnext).1
    refine ⟨?_, hlt, by simp⟩
    show l.written ++ [message] = l.sent.take (l.taken + 1)
    rw [show l.written = l.sent.take l.taken from hrelayed, List.take_add_one, hnext]
    rfl
  | mark hpc =>
    rw [hpc] at hrelayed
    exact ⟨hrelayed, htaken, by simp⟩
  | @write message hpc hopen hroom =>
    rw [hpc] at hrelayed
    refine ⟨?_, htaken, by simp⟩
    show l.written ++ [⟨l.text, message.data⟩] = l.sent.take l.taken
    rw [hmarked message hpc]
    exact hrelayed
  | readEnds hpc | readFails hpc =>
    rw [hpc] at hrelayed
    exact ⟨.inl hrelayed, htaken, by simp⟩
  | writeEnds hpc | writeFails hpc =>
    rw [hpc] at hrelayed
    exact ⟨.inr ⟨_, hrelayed⟩, htaken, by simp⟩

/-- More messages come behind those read. -/
theorem LaneInv.send (hi : LaneInv l) (message : WsMessage) :
    LaneInv { l with sent := l.sent ++ [message] } where
  relayed := by
    show Relayed l.written ((l.sent ++ [message]).take l.taken) l.pc
    rw [List.take_append_of_le_length hi.taken]
    exact hi.relayed
  taken := by
    have htaken := hi.taken
    simp only [List.length_append, List.length_singleton]
    omega
  marked := hi.marked

theorem LaneInv.finish (hi : LaneInv l) : LaneInv { l with ended := true } :=
  ⟨hi.relayed, hi.taken, hi.marked⟩

theorem LaneInv.take (hi : LaneInv l) (n : Nat) : LaneInv { l with room := n } :=
  ⟨hi.relayed, hi.taken, hi.marked⟩

theorem LaneInv.leave (hi : LaneInv l) (hpc : l.pc = .closing) : LaneInv { l with pc := .done } :=
  ⟨by simpa [hpc, Relayed] using hi.relayed, hi.taken, by simp⟩

/-- What was written is the beginning of what was sent, and at most one
message that was read is missing. -/
theorem LaneInv.relays (hi : LaneInv l) :
    l.written <+: l.sent ∧ l.taken ≤ l.written.length + 1 := by
  have hlen : (l.sent.take l.taken).length = l.taken := by
    rw [List.length_take]
    exact Nat.min_eq_left hi.taken
  have htake := List.take_prefix l.taken l.sent
  have hone : ∀ message, l.written ++ [message] = l.sent.take l.taken →
      l.written <+: l.sent ∧ l.taken ≤ l.written.length + 1 := by
    intro message h
    rw [← h] at hlen htake
    rw [List.length_append, List.length_singleton] at hlen
    exact ⟨(List.prefix_append _ _).trans htake, by omega⟩
  have hall : l.written = l.sent.take l.taken →
      l.written <+: l.sent ∧ l.taken ≤ l.written.length + 1 := by
    intro h
    rw [← h] at hlen htake
    exact ⟨htake, by omega⟩
  have hrelayed := hi.relayed
  cases hpc : l.pc with
  | reading => rw [hpc] at hrelayed; exact hall hrelayed
  | marking message | writing message => rw [hpc] at hrelayed; exact hone message hrelayed
  | closing | done =>
    rw [hpc] at hrelayed
    obtain h | ⟨message, h⟩ := hrelayed
    · exact hall h
    · exact hone message h

end Lane

/-! ## What a step of the bridge can do -/

namespace Bridge

@[simp] theorem setLane_self (b : Bridge) (side : Side) (l : Lane) :
    (b.setLane side l).lane side = l := Function.update_self _ _ _

theorem setLane_of_ne {a side : Side} (h : a ≠ side) (b : Bridge) (l : Lane) :
    (b.setLane side l).lane a = b.lane a := Function.update_of_ne h _ _

@[simp] theorem setLane_run (b : Bridge) (side : Side) (l : Lane) :
    (b.setLane side l).run = b.run := rfl

@[simp] theorem setLane_stops (b : Bridge) (side : Side) (l : Lane) :
    (b.setLane side l).stops = b.stops := rfl

@[simp] theorem setLane_closed (b : Bridge) (side : Side) (l : Lane) :
    (b.setLane side l).closed = b.closed := rfl

end Bridge

inductive BridgeStep (b : Bridge) : BridgeLbl → Bridge → Prop
  | send {source : Side} {message : WsMessage} (hnot : (b.lane source).ended = false) :
      BridgeStep b (.send source message)
        (b.setLane source { b.lane source with sent := (b.lane source).sent ++ [message] })
  | finish {source : Side} :
      BridgeStep b (.finish source) (b.setLane source { b.lane source with ended := true })
  | take {source : Side} :
      BridgeStep b (.take source)
        (b.setLane source { b.lane source with room := (b.lane source).room + 1 })
  | stop : BridgeStep b .stop { b with stops := b.stops ++ [true] }
  | forward {source : Side} {turn : SocketTurn} {l : Lane}
      (h : (b.lane source).step (b.isOpen source) (b.isOpen source.other) turn = some l) :
      BridgeStep b (.forward source turn) (b.setLane source l)
  | joinBrowser (hrun : b.run = .joining .browser) (hdone : (b.lane .browser).pc = .done) :
      BridgeStep b .join { b with run := .joining .internal }
  | joinInternal (hrun : b.run = .joining .internal) (hdone : (b.lane .internal).pc = .done) :
      BridgeStep b .join { b with run := .closing }
  | inside {t : Closer} {closed : Once Closer CloseCall} (hin : b.inClose t = true)
      (h : b.closed.step closeCalls t = some (false, closed)) :
      BridgeStep b (.close t) { b with closed }
  | leave {t : Closer} {closed : Once Closer CloseCall} (hin : b.inClose t = true)
      (h : b.closed.step closeCalls t = some (true, closed)) :
      BridgeStep b (.close t) { b.leaveClose t with closed }

theorem bridgeStep_cases {b b' : Bridge} {l : BridgeLbl} (h : b.step l = some b') :
    BridgeStep b l b' := by
  cases l with
  | send source message =>
    simp only [Bridge.step] at h
    split at h
    case isTrue => cases h
    case isFalse hnot =>
      cases h
      exact .send (by simpa using hnot)
  | finish source =>
    cases h
    exact .finish
  | take source =>
    cases h
    exact .take
  | stop =>
    cases h
    exact .stop
  | forward source turn =>
    obtain ⟨l, hl, rfl⟩ := Option.map_eq_some_iff.1 h
    exact .forward hl
  | join =>
    simp only [Bridge.step] at h
    split at h
    case h_1 hrun =>
      split at h
      case isTrue hdone =>
        cases h
        exact .joinBrowser hrun hdone
      case isFalse => cases h
    case h_2 hrun =>
      split at h
      case isTrue hdone =>
        cases h
        exact .joinInternal hrun hdone
      case isFalse => cases h
    case h_3 => cases h
  | close t =>
    simp only [Bridge.step] at h
    split at h
    case isFalse => cases h
    case isTrue hin =>
      split at h
      case h_1 closed hclosed =>
        cases h
        exact .inside hin hclosed
      case h_2 closed hclosed =>
        cases h
        exact .leave hin hclosed
      case h_3 => cases h

/-! ## What holds in every run -/

/-- The thread has come out of `close`. -/
def Bridge.outOfClose (b : Bridge) : Closer → Bool
  | .forward source => (b.lane source).pc == .done
  | .run => b.run == .done
  | .stop n => b.stops[n]? == some false

structure BridgeInv (b : Bridge) : Prop where
  lane : ∀ source, LaneInv (b.lane source)
  once : b.closed.Inv closeCalls
  holder : ∀ t phase, b.closed.holder = some (t, phase) → b.inClose t = true
  out : ∀ t, b.outOfClose t = true → b.closed.log = closeCalls
  browser : b.run ≠ .joining .browser → (b.lane .browser).pc = .done
  internal : b.run = .closing ∨ b.run = .done → (b.lane .internal).pc = .done

section Invariant

variable {b b' : Bridge}

theorem laneStep_pc {sourceOpen destinationOpen : Bool} {l l' : Lane} {turn : SocketTurn}
    (h : l.step sourceOpen destinationOpen turn = some l') :
    l.pc ≠ .closing ∧ l.pc ≠ .done ∧ l'.pc ≠ .done := by
  cases laneStep_cases h with
  | read hpc | mark hpc | write hpc | readEnds hpc | writeEnds hpc | readFails hpc
  | writeFails hpc => simp [hpc]

theorem BridgeInv.start : BridgeInv .start where
  lane _ := ⟨rfl, Nat.le_refl _, by simp [Bridge.start]⟩
  once := Once.inv_unused _
  holder _ _ h := by cases h
  out t h := by cases t <;> simp [Bridge.outOfClose, Bridge.start] at h
  browser h := absurd rfl h
  internal h := by simp [Bridge.start] at h

/-- A lane that changes, and not in or out of `close` but into it. -/
theorem BridgeInv.setLane (hi : BridgeInv b) {source : Side} {l : Lane} (hl : LaneInv l)
    (hin : (b.lane source).pc = .closing → l.pc = .closing)
    (hout : l.pc = .done ↔ (b.lane source).pc = .done) : BridgeInv (b.setLane source l) := by
  have hpc : ∀ side, ((b.setLane source l).lane side).pc = .done ↔ (b.lane side).pc = .done := by
    intro side
    by_cases hside : side = source
    · subst hside
      simpa using hout
    · rw [Bridge.setLane_of_ne hside]
  refine ⟨fun side => ?_, hi.once, fun t phase hholder => ?_, fun t ht => ?_,
    fun hrun => (hpc _).2 (hi.browser hrun), fun hrun => (hpc _).2 (hi.internal hrun)⟩
  · by_cases hside : side = source
    · subst hside
      simpa using hl
    · rw [Bridge.setLane_of_ne hside]
      exact hi.lane side
  · have hbefore := hi.holder t phase hholder
    cases t with
    | run | stop => exact hbefore
    | forward side =>
      by_cases hside : side = source
      · subst hside
        simp only [Bridge.inClose, beq_iff_eq, Bridge.setLane_self] at hbefore ⊢
        exact hin hbefore
      · simpa [Bridge.inClose, Bridge.setLane_of_ne hside] using hbefore
  · refine hi.out t ?_
    cases t with
    | run | stop => exact ht
    | forward side =>
      simp only [Bridge.outOfClose, beq_iff_eq] at ht ⊢
      exact (hpc side).1 ht

theorem BridgeInv.step {l : BridgeLbl} (hi : BridgeInv b) (h : b.step l = some b') :
    BridgeInv b' := by
  cases bridgeStep_cases h with
  | @send source message _ => exact hi.setLane ((hi.lane source).send message) id Iff.rfl
  | @finish source => exact hi.setLane (hi.lane source).finish id Iff.rfl
  | @take source => exact hi.setLane ((hi.lane source).take _) id Iff.rfl
  | stop =>
    refine ⟨hi.lane, hi.once, fun t phase hholder => ?_, fun t ht => hi.out t ?_, hi.browser,
      hi.internal⟩
    · have hbefore := hi.holder t phase hholder
      cases t with
      | forward | run => exact hbefore
      | stop n =>
        simp only [Bridge.inClose, beq_iff_eq] at hbefore ⊢
        rw [List.getElem?_append_left (List.getElem?_eq_some_iff.1 hbefore).1]
        exact hbefore
    · cases t with
      | forward | run => exact ht
      | stop n =>
        simp only [Bridge.outOfClose, beq_iff_eq, List.getElem?_append] at ht ⊢
        split at ht
        · exact ht
        · cases hn : n - b.stops.length <;> simp [hn] at ht
  | @forward source turn l hl =>
    obtain ⟨hclosing, hdone, hdone'⟩ := laneStep_pc hl
    exact hi.setLane ((hi.lane source).step hl) (fun hpc => absurd hpc hclosing)
      ⟨fun hpc => absurd hpc hdone', fun hpc => absurd hpc hdone⟩
  | joinBrowser hrun hdone =>
    refine ⟨hi.lane, hi.once, fun t phase hholder => ?_, fun t ht => ?_, fun _ => hdone, by simp⟩
    · have hbefore := hi.holder t phase hholder
      cases t with
      | forward | stop => exact hbefore
      | run => simp [Bridge.inClose, hrun] at hbefore
    · cases t with
      | forward side => exact hi.out (.forward side) ht
      | stop n => exact hi.out (.stop n) ht
      | run => simp [Bridge.outOfClose] at ht
  | joinInternal hrun hdone =>
    refine ⟨hi.lane, hi.once, fun t phase hholder => ?_, fun t ht => ?_,
      fun _ => hi.browser (by simp [hrun]), fun _ => hdone⟩
    · have hbefore := hi.holder t phase hholder
      cases t with
      | forward | stop => exact hbefore
      | run => rfl
    · cases t with
      | forward side => exact hi.out (.forward side) ht
      | stop n => exact hi.out (.stop n) ht
      | run => simp [Bridge.outOfClose] at ht
  | @inside t closed hin hclosed =>
    refine ⟨hi.lane, hi.once.step hclosed, fun t' phase hholder => ?_, fun t' ht => ?_, hi.browser,
      hi.internal⟩
    · obtain ⟨rfl, -⟩ := (Once.holder_step hclosed).1 t' phase hholder
      exact hin
    · exact hi.once.full (hi.out t' ht) hclosed
  | @leave t closed hin hclosed =>
    have hlog := hi.once.leaves hclosed
    have hholder : ∀ t' phase, closed.holder ≠ some (t', phase) := by
      intro t' phase h
      cases ((Once.holder_step hclosed).1 t' phase h).2
    cases t with
    | forward source =>
      have hpc : (b.lane source).pc = .closing := by simpa [Bridge.inClose] using hin
      have hdone : ∀ side, (b.lane side).pc = .done →
          ((b.leaveClose (.forward source)).lane side).pc = .done := by
        intro side hside
        by_cases heq : side = source
        · subst heq
          simp [Bridge.leaveClose]
        · simpa [Bridge.leaveClose, Bridge.setLane_of_ne heq] using hside
      refine ⟨fun side => ?_, hi.once.step hclosed, fun t' phase h => absurd h (hholder t' phase),
        fun _ _ => hlog, fun hrun => hdone _ (hi.browser hrun),
        fun hrun => hdone _ (hi.internal hrun)⟩
      by_cases heq : side = source
      · subst heq
        simpa [Bridge.leaveClose] using (hi.lane side).leave hpc
      · simpa [Bridge.leaveClose, Bridge.setLane_of_ne heq] using hi.lane side
    | run =>
      have hrun : b.run = .closing := by simpa [Bridge.inClose] using hin
      exact ⟨hi.lane, hi.once.step hclosed, fun t' phase h => absurd h (hholder t' phase),
        fun _ _ => hlog, fun _ => hi.browser (by simp [hrun]), fun _ => hi.internal (.inl hrun)⟩
    | stop n =>
      exact ⟨hi.lane, hi.once.step hclosed, fun t' phase h => absurd h (hholder t' phase),
        fun _ _ => hlog, hi.browser, hi.internal⟩

theorem bridgeInv_inductive : bridge.Inductive BridgeInv where
  init _ h := h ▸ BridgeInv.start
  step _ _ _ hi h := hi.step h

end Invariant

/-! ## Coming to rest -/

/-- The steps to `done`, with so many messages to be read. -/
def ForwardPc.rank (unread : Nat) : ForwardPc → Nat
  | .reading => 3 * unread + 14
  | .marking _ => 3 * unread + 16
  | .writing _ => 3 * unread + 15
  | .closing => 7
  | .done => 0

def Lane.rank (l : Lane) : Nat := l.pc.rank (l.sent.length - l.taken)

def RunPc.rank : RunPc → Nat
  | .joining .browser => 16
  | .joining .internal => 15
  | .closing => 7
  | .done => 0

/-- A thread in `close` has seven steps at most before it, three more than
there are calls. -/
def Bridge.rank (b : Bridge) : Nat :=
  (b.lane .browser).rank + (b.lane .internal).rank + b.run.rank + 7 * b.stops.count true +
    b.closed.left closeCalls

/-- Nobody outside does anything. -/
def BridgeLbl.silent : BridgeLbl → Bool
  | .send _ _ | .finish _ | .take _ | .stop => false
  | _ => true

def BridgeLbl.faulty : BridgeLbl → Bool
  | .forward _ .fault => true
  | _ => false

/-- Every thread has come to its end. -/
structure Bridge.Over (b : Bridge) : Prop where
  lane : ∀ source, (b.lane source).pc = .done
  run : b.run = .done
  stop : ∀ n : Nat, b.stops[n]? ≠ some true

/-- Nothing is left to deliver, and the peer of the source has not closed. -/
structure Lane.Idle (l : Lane) : Prop where
  reading : l.pc = .reading
  delivered : l.written = l.sent
  connected : l.ended = false

/-- The write that is under way is not taken by the peer it goes to. -/
structure Lane.Waiting (l : Lane) : Prop where
  writing : ∃ message, l.pc = .writing message
  room : l.room = 0

/-- Nothing is closed, nobody has asked for it, and each thread is in a call
that only its peer can end. -/
structure Bridge.Resting (b : Bridge) : Prop where
  lane : ∀ source, (b.lane source).Idle ∨ (b.lane source).Waiting
  connected : ∀ side, b.isOpen side = true
  run : b.run = .joining .browser
  stop : b.stops = []

section Rest

variable {b b' : Bridge}

theorem lane_ranked {sourceOpen destinationOpen : Bool} {l l' : Lane} {turn : SocketTurn}
    (h : l.step sourceOpen destinationOpen turn = some l') : l'.rank < l.rank := by
  unfold Lane.rank
  cases laneStep_cases h with
  | read hpc hnext _ =>
    have hlt := (List.getElem?_eq_some_iff.1 hnext).1
    simp only [hpc, ForwardPc.rank]
    omega
  | mark hpc | write hpc | readEnds hpc | writeEnds hpc | readFails hpc | writeFails hpc =>
    simp only [hpc, ForwardPc.rank]
    omega

/-- A lane that comes nearer to its end, by `n`. -/
theorem Bridge.rank_setLane {b : Bridge} {source : Side} {l : Lane} {n : Nat}
    (h : l.rank + n ≤ (b.lane source).rank) : (b.setLane source l).rank + n ≤ b.rank := by
  unfold Bridge.rank
  cases source with
  | browser =>
    rw [Bridge.setLane_self, Bridge.setLane_of_ne (by decide)]
    simp only [Bridge.setLane_run, Bridge.setLane_stops, Bridge.setLane_closed]
    omega
  | internal =>
    rw [Bridge.setLane_self, Bridge.setLane_of_ne (by decide)]
    simp only [Bridge.setLane_run, Bridge.setLane_stops, Bridge.setLane_closed]
    omega

/-- Who comes out of `close` is seven steps nearer. -/
theorem Bridge.rank_leaveClose {t : Closer} (h : b.inClose t = true) :
    (b.leaveClose t).rank + 7 ≤ b.rank := by
  cases t with
  | forward source =>
    have hpc : (b.lane source).pc = .closing := by simpa [Bridge.inClose] using h
    refine Bridge.rank_setLane ?_
    simp only [Lane.rank, hpc, ForwardPc.rank]
    omega
  | run =>
    have hrun : b.run = .closing := by simpa [Bridge.inClose] using h
    simp only [Bridge.rank, Bridge.leaveClose, hrun, RunPc.rank]
    omega
  | stop n =>
    have hn : b.stops[n]? = some true := by simpa [Bridge.inClose] using h
    obtain ⟨hlt, hget⟩ := List.getElem?_eq_some_iff.1 hn
    have hpos : 0 < b.stops.count true := List.count_pos_iff.2 (List.mem_of_getElem? hn)
    simp only [Bridge.rank, Bridge.leaveClose, List.count_set hlt, hget]
    simp
    omega

theorem bridge_ranked {l : BridgeLbl} (hsilent : l.silent = true) (h : b.step l = some b') :
    b'.rank < b.rank := by
  cases bridgeStep_cases h with
  | send | finish | take | stop => cases hsilent
  | forward hl =>
    have hlt := lane_ranked hl
    have hle := Bridge.rank_setLane (n := 1) hlt
    omega
  | joinBrowser hrun | joinInternal hrun =>
    simp only [Bridge.rank, hrun, RunPc.rank]
    omega
  | @inside t closed hin hclosed =>
    have hleft := Once.left_step hclosed
    simp only [Bool.false_eq_true, if_false, Nat.add_zero] at hleft
    simp only [Bridge.rank]
    omega
  | @leave t closed hin hclosed =>
    have hleft := Once.left_step hclosed
    have hrank := Bridge.rank_leaveClose hin
    have hsame : (b.leaveClose t).closed = b.closed := by cases t <;> rfl
    simp only [if_true, closeCalls, List.length_cons, List.length_nil] at hleft
    simp only [Bridge.rank, hsame, closeCalls] at hrank ⊢
    omega

/-- Whoever is in `close` gets on, or the one who holds the mutex does. -/
theorem close_goes_on (hi : BridgeInv b) {t : Closer} (hin : b.inClose t = true) :
    ∃ t, (b.step (.close t)).isSome = true := by
  have hstep : ∀ t, b.inClose t = true → (b.closed.step closeCalls t).isSome = true →
      (b.step (.close t)).isSome = true := by
    intro t hin hsome
    obtain ⟨⟨out, closed⟩, hclosed⟩ := Option.isSome_iff_exists.1 hsome
    simp only [Bridge.step, hin, if_true, hclosed]
    cases out <;> rfl
  cases hholder : b.closed.holder with
  | none => exact ⟨t, hstep t hin (Once.step_isSome _ fun _ _ h => by simp [hholder] at h)⟩
  | some holder =>
    refine ⟨holder.1, hstep _ (hi.holder holder.1 holder.2 hholder) (Once.step_isSome _ ?_)⟩
    intro t' phase h
    rw [hholder] at h
    cases h
    rfl

/-- A direction gets on, or it waits for one of its peers, or its thread is
past the loop. -/
theorem lane_goes_on (hi : BridgeInv b) (source : Side) :
    (∃ turn, turn ≠ .fault ∧ (b.step (.forward source turn)).isSome = true) ∨
      (b.lane source).Idle ∧ b.isOpen source = true ∨
      (b.lane source).Waiting ∧ b.isOpen source.other = true ∨
      (b.lane source).pc = .closing ∨ (b.lane source).pc = .done := by
  have hstep : ∀ turn, ((b.lane source).step (b.isOpen source) (b.isOpen source.other)
      turn).isSome = true → (b.step (.forward source turn)).isSome = true := by
    intro turn h
    simpa [Bridge.step] using h
  cases hpc : (b.lane source).pc with
  | closing => exact .inr (.inr (.inr (.inl rfl)))
  | done => exact .inr (.inr (.inr (.inr rfl)))
  | marking message =>
    exact .inl ⟨.ok, by simp, hstep .ok (by simp [Lane.step, hpc])⟩
  | writing message =>
    cases hopen : b.isOpen source.other with
    | false => exact .inl ⟨.ends, by simp, hstep .ends (by simp [Lane.step, hpc, hopen])⟩
    | true =>
      obtain hroom | hroom := Nat.eq_zero_or_pos (b.lane source).room
      · exact .inr (.inr (.inl ⟨⟨⟨message, hpc⟩, hroom⟩, rfl⟩))
      · exact .inl ⟨.ok, by simp, hstep .ok (by simp [Lane.step, hpc, hopen, hroom])⟩
  | reading =>
    cases hopen : b.isOpen source with
    | false => exact .inl ⟨.ends, by simp, hstep .ends (by simp [Lane.step, hpc, hopen])⟩
    | true =>
      cases hnext : (b.lane source).sent[(b.lane source).taken]? with
      | some message =>
        exact .inl ⟨.ok, by simp, hstep .ok (by simp [Lane.step, hpc, hopen, hnext])⟩
      | none =>
        have hall : (b.lane source).taken = (b.lane source).sent.length :=
          Nat.le_antisymm (hi.lane source).taken (List.getElem?_eq_none_iff.1 hnext)
        cases hended : (b.lane source).ended with
        | false =>
          have hrelayed := (hi.lane source).relayed
          rw [hpc, hall, List.take_length] at hrelayed
          exact .inr (.inl ⟨⟨hpc, hrelayed, hended⟩, rfl⟩)
        | true =>
          exact .inl ⟨.ends, by simp, hstep .ends (by simp [Lane.step, hpc, hopen, hended, hall])⟩

theorem not_open_of_full (hlog : b.closed.log = closeCalls) (side : Side) :
    b.isOpen side = false := by
  cases side <;> simp [Bridge.isOpen, hlog, closeCalls, CloseCall.side]

/-- A step that needs nobody outside, and no fault. -/
def Bridge.GoesOn (b : Bridge) : Prop :=
  ∃ l : BridgeLbl, l.silent = true ∧ l.faulty = false ∧ (b.step l).isSome = true

/-- Where nobody is in `close`, a direction gets on, or waits, or is done. -/
theorem lane_ends (hi : BridgeInv b) (hnot : ∀ t, b.inClose t = false) (source : Side) :
    b.GoesOn ∨ (b.lane source).Idle ∧ b.isOpen source = true ∨
      (b.lane source).Waiting ∧ b.isOpen source.other = true ∨ (b.lane source).pc = .done := by
  obtain ⟨turn, hturn, hstep⟩ | hidle | hwaiting | hclosing | hdone := lane_goes_on hi source
  · exact .inl ⟨.forward source turn, rfl, by cases turn <;> simp_all [BridgeLbl.faulty], hstep⟩
  · exact .inr (.inl hidle)
  · exact .inr (.inr (.inl hwaiting))
  · have hin := hnot (.forward source)
    simp [Bridge.inClose, hclosing] at hin
  · exact .inr (.inr (.inr hdone))

/-- Nothing is closed: each thread gets on, or is in a call of its own. -/
theorem open_goes_on (hi : BridgeInv b) (hnot : ∀ t, b.inClose t = false)
    (hlog : b.closed.log = []) : b.GoesOn ∨ b.Resting := by
  have hout : ∀ t, b.outOfClose t = false := fun t => by
    cases ht : b.outOfClose t with
    | false => rfl
    | true => simp [hi.out t ht, closeCalls] at hlog
  have hcall : ∀ source, b.GoesOn ∨ (b.lane source).Idle ∨ (b.lane source).Waiting := by
    intro source
    obtain hstep | hidle | hwaiting | hdone := lane_ends hi hnot source
    · exact .inl hstep
    · exact .inr (.inl hidle.1)
    · exact .inr (.inr hwaiting.1)
    · have ht := hout (.forward source)
      simp [Bridge.outOfClose, hdone] at ht
  obtain hstep | hbrowser := hcall .browser
  · exact .inl hstep
  obtain hstep | hinternal := hcall .internal
  · exact .inl hstep
  refine .inr ⟨fun source => ?_, fun side => by simp [Bridge.isOpen, hlog], ?_, ?_⟩
  · cases source
    · exact hbrowser
    · exact hinternal
  · by_contra hrun
    have ht := hout (.forward .browser)
    simp [Bridge.outOfClose, hi.browser hrun] at ht
  · cases hstops : b.stops with
    | nil => rfl
    | cons now rest =>
      have hin := hnot (.stop 0)
      have ht := hout (.stop 0)
      cases now <;> simp [Bridge.inClose, Bridge.outOfClose, hstops] at hin ht

/-- Both sockets are closed: no read and no write goes on. -/
theorem closed_goes_on (hi : BridgeInv b) (hnot : ∀ t, b.inClose t = false)
    (hlog : b.closed.log = closeCalls) : b.GoesOn ∨ b.Over := by
  have hend : ∀ source, b.GoesOn ∨ (b.lane source).pc = .done := by
    intro source
    obtain hstep | hidle | hwaiting | hdone := lane_ends hi hnot source
    · exact .inl hstep
    · rw [not_open_of_full hlog] at hidle
      cases hidle.2
    · rw [not_open_of_full hlog] at hwaiting
      cases hwaiting.2
    · exact .inr hdone
  obtain hstep | hbrowser := hend .browser
  · exact .inl hstep
  obtain hstep | hinternal := hend .internal
  · exact .inl hstep
  cases hrun : b.run with
  | joining side =>
    refine .inl ⟨.join, rfl, rfl, ?_⟩
    cases side <;> simp [Bridge.step, hrun, hbrowser, hinternal]
  | closing =>
    have hin := hnot .run
    simp [Bridge.inClose, hrun] at hin
  | done =>
    refine .inr ⟨fun source => ?_, hrun, fun n hn => ?_⟩
    · cases source
      · exact hbrowser
      · exact hinternal
    · have hin := hnot (.stop n)
      simp [Bridge.inClose, hn] at hin

/-- Either a step is possible, or the bridge is over, or it waits for its
peers. -/
theorem bridge_goes_on (hi : BridgeInv b) :
    b.GoesOn ∨ b.Over ∨ b.Resting ∧ b.closed.log = [] := by
  by_cases hclose : ∃ t, b.inClose t = true
  · obtain ⟨t, hin⟩ := hclose
    obtain ⟨t, hstep⟩ := close_goes_on hi hin
    exact .inl ⟨.close t, rfl, rfl, hstep⟩
  have hnot : ∀ t, b.inClose t = false := fun t => by
    cases hin : b.inClose t with
    | true => exact absurd ⟨t, hin⟩ hclose
    | false => rfl
  have hfree : b.closed.holder = none := by
    cases hholder : b.closed.holder with
    | none => rfl
    | some holder => exact absurd ⟨_, hi.holder holder.1 holder.2 hholder⟩ hclose
  obtain hlog | hlog := hi.once.nothing_or_all hfree
  · exact (open_goes_on hi hnot hlog).imp_right fun hresting => .inr ⟨hresting, hlog⟩
  · exact (closed_goes_on hi hnot hlog).imp_right .inl

end Rest

/-! ## An orderly end -/

/-- Nothing fails, and nobody calls `close` from outside. -/
def BridgeLbl.smooth : BridgeLbl → Bool
  | .stop => false
  | .forward _ .fault => false
  | _ => true

/-- The peer of the source has closed, and everything it sent is delivered;
the thread has seen the end. -/
structure Lane.Complete (l : Lane) : Prop where
  ended : l.ended = true
  delivered : l.written = l.sent
  past : l.pc = .closing ∨ l.pc = .done

/-- Nothing is closed, and no thread is about to. -/
structure Bridge.Untouched (b : Bridge) : Prop where
  inClose : ∀ t, b.inClose t = false
  lane : ∀ source, (b.lane source).pc ≠ .done
  log : b.closed.log = []

section Orderly

variable {b b' : Bridge}

theorem Lane.Complete.step {sourceOpen destinationOpen : Bool} {l l' : Lane} {turn : SocketTurn}
    (hl : l.Complete) (h : l.step sourceOpen destinationOpen turn = some l') : False := by
  obtain ⟨hclosing, hdone, -⟩ := laneStep_pc h
  obtain hpc | hpc := hl.past
  · exact hclosing hpc
  · exact hdone hpc

/-- What is delivered to the end stays so. -/
theorem complete_step {l : BridgeLbl} {side : Side} (hside : (b.lane side).Complete)
    (h : b.step l = some b') : (b'.lane side).Complete := by
  have hset : ∀ source l', (source = side → l'.Complete) →
      ((b.setLane source l').lane side).Complete := by
    intro source l' hl'
    by_cases heq : side = source
    · subst heq
      rw [Bridge.setLane_self]
      exact hl' rfl
    · rw [Bridge.setLane_of_ne heq]
      exact hside
  cases bridgeStep_cases h with
  | send hnot =>
    refine hset _ _ fun heq => ?_
    subst heq
    rw [hside.ended] at hnot
    cases hnot
  | finish =>
    refine hset _ _ fun heq => ?_
    subst heq
    exact ⟨rfl, hside.delivered, hside.past⟩
  | take =>
    refine hset _ _ fun heq => ?_
    subst heq
    exact ⟨hside.ended, hside.delivered, hside.past⟩
  | forward hl =>
    refine hset _ _ fun heq => ?_
    subst heq
    exact (hside.step hl).elim
  | stop | joinBrowser | joinInternal | inside => exact hside
  | @leave t closed hin hclosed =>
    cases t with
    | run | stop => exact hside
    | forward source =>
      refine hset _ _ fun heq => ?_
      subst heq
      exact ⟨hside.ended, hside.delivered, .inr rfl⟩

/-- Nothing is closed before something is delivered to the end. -/
theorem untouched_step {l : BridgeLbl} (hi : BridgeInv b) (hb : b.Untouched)
    (hl : l.smooth = true) (h : b.step l = some b') :
    b'.Untouched ∨ ∃ side, (b'.lane side).Complete := by
  have hopen : ∀ side, b.isOpen side = true := fun side => by simp [Bridge.isOpen, hb.log]
  have hset : ∀ source l', l'.pc ≠ .closing → l'.pc ≠ .done → (b.setLane source l').Untouched := by
    intro source l' hclosing hdone
    refine ⟨fun t => ?_, fun side => ?_, hb.log⟩
    · cases t with
      | run => exact hb.inClose .run
      | stop n => exact hb.inClose (.stop n)
      | forward side =>
        by_cases heq : side = source
        · subst heq
          simpa [Bridge.inClose] using hclosing
        · simpa [Bridge.inClose, Bridge.setLane_of_ne heq] using hb.inClose (.forward side)
    · by_cases heq : side = source
      · subst heq
        simpa using hdone
      · rw [Bridge.setLane_of_ne heq]
        exact hb.lane side
  have hpc : ∀ source, (b.lane source).pc ≠ .closing := fun source hpc => by
    have hin := hb.inClose (.forward source)
    simp [Bridge.inClose, hpc] at hin
  cases bridgeStep_cases h with
  | stop => cases hl
  | send hnot => exact .inl (hset _ _ (hpc _) (hb.lane _))
  | finish | take => exact .inl (hset _ _ (hpc _) (hb.lane _))
  | joinBrowser _ hdone => exact absurd hdone (hb.lane _)
  | joinInternal _ hdone => exact absurd hdone (hb.lane _)
  | inside hin _ | leave hin _ =>
    rw [hb.inClose] at hin
    cases hin
  | @forward source turn l' hstep =>
    cases laneStep_cases hstep with
    | read | mark | write => exact .inl (hset _ _ (by simp) (by simp))
    | writeEnds _ hclosed =>
      rw [hopen] at hclosed
      cases hclosed
    | readFails | writeFails => cases hl
    | readEnds hreading hend =>
      obtain hclosed | ⟨hended, hall⟩ := hend
      · rw [hopen] at hclosed
        cases hclosed
      · have hrelayed := (hi.lane source).relayed
        rw [hreading, hall, List.take_length] at hrelayed
        refine .inr ⟨source, ?_⟩
        rw [Bridge.setLane_self]
        exact ⟨hended, hrelayed, .inl rfl⟩

end Orderly

/-- The browser says hello and closes, and the other side listens. -/
def hello : List BridgeLbl :=
  [.send .browser ⟨true, str "hello"⟩, .finish .browser, .take .browser]

/-- The bridge passes it on, and comes to its end. -/
def goodbye : List BridgeLbl :=
  [.forward .browser .ok, .forward .browser .ok, .forward .browser .ok, .forward .browser .ends] ++
  List.replicate 5 (.close (.forward .browser)) ++ [.forward .internal .ends] ++
  List.replicate 2 (.close (.forward .browser)) ++ List.replicate 3 (.close (.forward .internal)) ++
  [.join, .join] ++ List.replicate 3 (.close .run)

theorem hello_goodbye : ∃ b b', bridge.Run .start hello b ∧ bridge.Run b goodbye b' ∧
    b'.closed.flag = true :=
  ⟨_, _, LTS.run_of_runFn _ _ _ rfl, LTS.run_of_runFn _ _ _ rfl, rfl⟩

section Results

variable {b : Bridge}

/-- **The bridge relays.** In every run, whatever the threads' turns, and
whatever fails or closes, each side has been written a beginning of what the
other side has sent: the messages in order, none twice, none made up, each
as text or as binary as it came. At most one message that was read is not
written, and none while the thread reads. -/
theorem bridge_relays (h : bridge.Reachable b) (source : Side) :
    (b.lane source).written <+: (b.lane source).sent ∧
    (b.lane source).taken ≤ (b.lane source).written.length + 1 ∧
    ((b.lane source).pc = .reading →
      (b.lane source).written = (b.lane source).sent.take (b.lane source).taken) := by
  have hlane := (bridgeInv_inductive.reachable h).lane source
  refine ⟨hlane.relays.1, hlane.relays.2, fun hpc => ?_⟩
  have hrelayed := hlane.relayed
  rw [hpc] at hrelayed
  exact hrelayed

theorem goodbye_relays : ∃ b, bridge.Reachable b ∧
    (b.lane .browser).written <+: (b.lane .browser).sent ∧
    (b.lane .browser).taken ≤ (b.lane .browser).written.length + 1 ∧
    ((b.lane .browser).pc = .reading →
      (b.lane .browser).written = (b.lane .browser).sent.take (b.lane .browser).taken) := by
  obtain ⟨b, b', hhello, hgoodbye, -⟩ := hello_goodbye
  have hb' : bridge.Reachable b' := ⟨.start, _, rfl, hhello.append hgoodbye⟩
  exact ⟨b', hb', bridge_relays hb' .browser⟩

/-- **The bridge settles.** From any state that a run reaches, as long as
nobody outside does anything, the run has a bounded number of steps left.
Where no step but a fault is possible, either every thread is done, and each
socket has been shut down and closed, once; or nobody has closed anything or
asked for it, and each direction waits for a peer: it has delivered all that
its side has sent and reads on, or it is in a write that the other side does
not take. At no time is a socket shut down or closed twice. -/
theorem bridge_settles (h : bridge.Reachable b) {ls : List BridgeLbl} {b' : Bridge}
    (hrun : bridge.Run b ls b') (hsilent : ∀ l ∈ ls, l.silent = true) :
    ls.length ≤ b.rank ∧ b'.closed.log <+: closeCalls ∧
    ((∀ l : BridgeLbl, l.silent = true → l.faulty = false → b'.step l = none) →
      b'.Over ∧ b'.closed.log = closeCalls ∨ b'.Resting ∧ b'.closed.log = []) := by
  have hi := bridgeInv_inductive.reachable h
  have hi' := bridgeInv_inductive.run hrun hi
  refine ⟨?_, hi'.once.log_within, fun hlast => ?_⟩
  · have hranked : (bridge.restrict fun _ l => l.silent = true).Ranked BridgeInv Bridge.rank :=
      fun _ l _ _ hstep => bridge_ranked hstep.2 hstep.1
    have hinv : (bridge.restrict fun _ l => l.silent = true).Inductive BridgeInv :=
      ⟨bridgeInv_inductive.init, fun s l s' hs hstep => bridgeInv_inductive.step s l s' hs hstep.1⟩
    have hlen := hranked.length_le hinv (hrun.restrict fun l hl _ => hsilent l hl) hi
    omega
  · obtain ⟨l, hl, hfaulty, hstep⟩ | hover | hresting := bridge_goes_on hi'
    · rw [hlast l hl hfaulty] at hstep
      cases hstep
    · refine .inl ⟨hover, hi'.out .run ?_⟩
      simp [Bridge.outOfClose, hover.run]
    · exact .inr hresting

theorem goodbye_settles : ∃ b b', bridge.Reachable b ∧ bridge.Run b goodbye b' ∧
    goodbye.length ≤ b.rank ∧ b'.closed.log <+: closeCalls ∧
    ((∀ l : BridgeLbl, l.silent = true → l.faulty = false → b'.step l = none) →
      b'.Over ∧ b'.closed.log = closeCalls ∨ b'.Resting ∧ b'.closed.log = []) := by
  obtain ⟨b, b', hhello, hgoodbye, -⟩ := hello_goodbye
  have hb : bridge.Reachable b := ⟨.start, _, rfl, hhello⟩
  exact ⟨b, b', hb, hgoodbye, bridge_settles hb hgoodbye (by decide)⟩

/-- **An orderly end loses nothing on one side.** In every run in which no
call on a socket fails and nobody closes the bridge from outside: once the
bridge sets out to close, the peer of one side has closed, and everything it
ever sent has been written to the other side. -/
theorem bridge_orderly {ls : List BridgeLbl} (hrun : bridge.Run .start ls b)
    (hsmooth : ∀ l ∈ ls, l.smooth = true) (hclosed : b.closed.flag = true) :
    ∃ source, (b.lane source).ended = true ∧ (b.lane source).written = (b.lane source).sent := by
  have hinv : (bridge.restrict fun _ l => l.smooth = true).Inductive fun b =>
      BridgeInv b ∧ (b.Untouched ∨ ∃ side, (b.lane side).Complete) := by
    refine ⟨fun b hb => ?_, fun b l b' hb hstep => ?_⟩
    · obtain rfl : b = .start := hb
      refine ⟨BridgeInv.start, .inl ⟨fun t => ?_, fun _ => by simp [Bridge.start], rfl⟩⟩
      cases t <;> simp [Bridge.inClose, Bridge.start]
    · refine ⟨hb.1.step hstep.1, ?_⟩
      obtain huntouched | ⟨side, hside⟩ := hb.2
      · exact untouched_step hb.1 huntouched hstep.2 hstep.1
      · exact .inr ⟨side, complete_step hside hstep.1⟩
  have hend := hinv.run (hrun.restrict fun l hl _ => hsmooth l hl) (hinv.init _ rfl)
  obtain ⟨hi, huntouched | ⟨side, hside⟩⟩ := hend
  · -- the flag is set and no call is made yet, so somebody is in `close`
    obtain ⟨t, phase, hholder⟩ := hi.once.holder_of_flag hclosed (by simp [huntouched.log, closeCalls])
    have hin := hi.holder t phase hholder
    rw [huntouched.inClose] at hin
    cases hin
  · exact ⟨side, hside.ended, hside.delivered⟩

theorem goodbye_orderly : ∃ b, bridge.Run .start (hello ++ goodbye) b ∧
    ∃ source, (b.lane source).ended = true ∧ (b.lane source).written = (b.lane source).sent := by
  obtain ⟨b, b', hhello, hgoodbye, hflag⟩ := hello_goodbye
  have hrun := hhello.append hgoodbye
  exact ⟨b', hrun, bridge_orderly hrun (by decide) hflag⟩

end Results

end Gr4cp.Api

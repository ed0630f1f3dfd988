import Gr4ControlPlane.Core.LTS
import Gr4ControlPlane.Core.Mailbox
import Gr4ControlPlane.L4App.BlockAddressing

/-!
# A settings request and its reply (`send_block_settings_request`, `runtime/gr4_runtime_manager.cpp`)

A call connects two ports of its own to the scheduler, sends its request and
looks through what comes back for the reply to it, for a second at most. The
blocks carry requests out in their own time: a reply may come when its call
has given up, and is then in the port of the next one. Calls of one session
hold its mutex, so they come one after the other.

GNU Radio is not part of the repository. `serve` stands for its blocks and
`Messaging` for the way of a message to a block and back to the port. What is
relied on is `Echoes`, that a reply bears the id of its request, and
`Messaging.Orderly`: a request is carried out once at most, and not after one
sent later to the same block; what comes to the port was given by a block, or
is no reply and has no id. Replies may be lost, repeated, and come in any
order. For a call to get an answer at all, `Messaging.Live` is relied on too.

* `settings_answered`: with distinct request ids, in every run, a call that
  gets an answer gets the one to its own request, in the state that those
  carried out before it have led its block to, also those of calls that gave
  up; none of these can come later.
* `settings_answers`: a call that is given the time gets one.
-/
namespace Gr4cp.App

open Gr4cp.Core Gr4cp.Domain Gr4cp.Runtime

/-! ## The two parties -/

/-- `width` digits, the last ones. -/
def hexPadded : Nat → Nat → Str
  | 0, _ => []
  | width + 1, n => hexPadded width (n / 16) ++ [hexDigit (n % 16)]

/-- `draw` is what the generator gives.
mirrors src/runtime/gr4_runtime_manager.cpp:303-307 -/
def nextRequestId (draw : UInt64) : Str := str "req_" ++ hexPadded 16 draw.toNat

structure SettingsRequest where
  message : SettingsMessage
  clientRequestID : Str
  deriving DecidableEq, Repr

structure SettingsReply where
  serviceName : Str
  endpoint : Str
  clientRequestID : Str
  data : Except Str PropertyMap
  deriving DecidableEq

/-- mirrors src/runtime/gr4_runtime_manager.cpp:646-648 -/
def SettingsRequest.isAnsweredBy (request : SettingsRequest) (reply : SettingsReply) : Bool :=
  reply.clientRequestID == request.clientRequestID && reply.endpoint == request.message.endpoint &&
    reply.serviceName == request.message.serviceName

/-- mirrors src/runtime/gr4_runtime_manager.cpp:656-661 -/
def SettingsReply.delivery (reply : SettingsReply) : Delivery :=
  match reply.data with
  | .ok settings => .data settings
  | .error what => .error what

/-- Where the calling thread is.
mirrors src/runtime/gr4_runtime_manager.cpp:618-654 -/
inductive Caller where
  | idle
  | requesting (message : SettingsMessage)
  | responding (message : SettingsMessage)
  | sending (message : SettingsMessage)
  | waiting (request : SettingsRequest)
  /-- `request` is what was sent -/
  | returned (message : SettingsMessage) (request : Option SettingsRequest) (outcome : Delivery)

/-- The block a request is for. -/
def SettingsRequest.block (request : SettingsRequest) : Str := request.message.serviceName

/-- How messages get about: which of the requests sent may be carried out
next, when those in the places `carried` have been; and which message may come
to the response port, when the blocks have given some. -/
structure Messaging where
  carries : (sent : List SettingsRequest) → (carried : List Nat) → Nat → Bool
  brings : (given : List SettingsReply) → SettingsReply → Bool

/-- What may have been sent and carried out. -/
inductive Messaging.History (m : Messaging) : List SettingsRequest → List Nat → Prop
  | nil : m.History [] []
  | send {sent : List SettingsRequest} {carried : List Nat} (h : m.History sent carried)
      (request : SettingsRequest) : m.History (sent ++ [request]) carried
  | carry {sent : List SettingsRequest} {carried : List Nat} {i : Nat}
      (h : m.History sent carried) (hi : m.carries sent carried i = true) :
      m.History sent (carried ++ [i])

/-- What is relied on of every message. -/
structure Messaging.Orderly (m : Messaging) : Prop where
  sent : ∀ {sent carried i}, m.History sent carried → m.carries sent carried i = true →
    i < sent.length
  once : ∀ {sent carried i}, m.History sent carried → m.carries sent carried i = true →
    i ∉ carried
  /-- nothing is overtaken by a request to the same block -/
  order : ∀ {sent carried i}, m.History sent carried → m.carries sent carried i = true →
    ∀ j ∈ carried, ∀ a b, sent[j]? = some a → sent[i]? = some b → a.block = b.block → j < i
  given : ∀ {given reply}, m.brings given reply = true →
    reply ∈ given ∨ reply.clientRequestID = []

/-- Nothing is carried out while something sent to its block before it is
not. -/
def Messaging.Lossless (m : Messaging) : Prop :=
  ∀ {sent carried i}, m.History sent carried → m.carries sent carried i = true →
    ∀ j < i, ∀ a b, sent[j]? = some a → sent[i]? = some b → a.block = b.block → j ∈ carried

/-- What is sent is carried out at last, and a reply reaches the port. -/
structure Messaging.Live (m : Messaging) : Prop where
  carries : ∀ {sent carried i}, m.History sent carried → i < sent.length → i ∉ carried →
    ∃ j, m.carries sent carried j = true
  brings : ∀ {given reply}, reply ∈ given → m.brings given reply = true

structure Exchange (σ : Type) where
  caller : Caller
  /-- what is in the response port of the call -/
  port : Option (List SettingsReply)
  /-- every request sent, and what the blocks have done -/
  box : Mailbox Str σ SettingsRequest SettingsReply

inductive ExchangeLbl where
  | call (message : SettingsMessage)
  | requestConnects
  | requestFails (what : Str)
  | responseConnects
  | responseFails (what : Str)
  | send (draw : UInt64)
  /-- the caller looks at what has come -/
  | poll
  /-- the deadline is over -/
  | expire
  | finish
  /-- a block carries out the request in this place -/
  | carry (i : Nat)
  /-- a message comes to the port, if there is one -/
  | arrive (reply : SettingsReply)

variable {σ : Type}

/-- A step of the calling thread, of a block or of a message; the thread
mirrors src/runtime/gr4_runtime_manager.cpp:618-654 -/
def exchangeStep (m : Messaging) (serve : σ → SettingsRequest → σ × List SettingsReply)
    (s : Exchange σ) : ExchangeLbl → Option (Exchange σ)
  | .call message =>
    match s.caller with
    | .idle => some { s with caller := .requesting message }
    | _ => none
  | .requestConnects =>
    match s.caller with
    | .requesting message => some { s with caller := .responding message }
    | _ => none
  | .requestFails what =>
    match s.caller with
    | .requesting message => some { s with caller := .returned message none (.requestPort what) }
    | _ => none
  | .responseConnects =>
    match s.caller with
    | .responding message => some { s with caller := .sending message, port := some [] }
    | _ => none
  | .responseFails what =>
    match s.caller with
    | .responding message => some { s with caller := .returned message none (.responsePort what) }
    | _ => none
  | .send draw =>
    match s.caller with
    | .sending message =>
      let request : SettingsRequest := ⟨message, nextRequestId draw⟩
      some { s with caller := .waiting request, box := s.box.send request }
    | _ => none
  | .poll =>
    match s.caller, s.port with
    | .waiting request, some replies =>
      match replies.find? request.isAnsweredBy with
      | some reply =>
        some { s with
               caller := .returned request.message (some request) reply.delivery
               port := none }
      -- what has been looked at is gone
      | none => some { s with port := some [] }
    | _, _ => none
  | .expire =>
    match s.caller with
    | .waiting request =>
      some { s with caller := .returned request.message (some request) .silence, port := none }
    | _ => none
  | .finish =>
    match s.caller with
    | .returned _ _ _ => some { s with caller := .idle }
    | _ => none
  | .carry i =>
    if m.carries s.box.sent s.box.carried i then
      (s.box.carry SettingsRequest.block serve i).map fun box => { s with box }
    else none
  | .arrive reply =>
    if m.brings s.box.given reply then some { s with port := s.port.map (· ++ [reply]) } else none

/-- The calls of a session; `start` has the states of its blocks. -/
def settingsExchange (m : Messaging) (serve : σ → SettingsRequest → σ × List SettingsReply)
    (start : Str → σ) : LTS (Exchange σ) ExchangeLbl :=
  LTS.ofFn (fun s => s = ⟨.idle, none, [], [], start, []⟩) (exchangeStep m serve)

/-- A reply bears the id of its request. -/
def Echoes (serve : σ → SettingsRequest → σ × List SettingsReply) : Prop :=
  ∀ state request, ∀ reply ∈ (serve state request).2,
    reply.clientRequestID = request.clientRequestID

/-- No two requests of those sent share an id. -/
def Exchange.Distinct (s : Exchange σ) : Prop := (s.box.sent.map (·.clientRequestID)).Nodup

/-! ## SettingsRequest ids -/

theorem nextRequestId_ne_nil (draw : UInt64) : nextRequestId draw ≠ [] := by
  unfold nextRequestId
  nofun

/-! ## Steps -/

/-- What each step does. -/
inductive ExchangeStep (m : Messaging) (serve : σ → SettingsRequest → σ × List SettingsReply)
    (s : Exchange σ) : ExchangeLbl → Exchange σ → Prop
  | call {message : SettingsMessage} : s.caller = .idle →
      ExchangeStep m serve s (.call message) { s with caller := .requesting message }
  | requestConnects {message : SettingsMessage} : s.caller = .requesting message →
      ExchangeStep m serve s .requestConnects { s with caller := .responding message }
  | requestFails {message : SettingsMessage} {what : Str} : s.caller = .requesting message →
      ExchangeStep m serve s (.requestFails what)
        { s with caller := .returned message none (.requestPort what) }
  | responseConnects {message : SettingsMessage} : s.caller = .responding message →
      ExchangeStep m serve s .responseConnects
        { s with caller := .sending message, port := some [] }
  | responseFails {message : SettingsMessage} {what : Str} : s.caller = .responding message →
      ExchangeStep m serve s (.responseFails what)
        { s with caller := .returned message none (.responsePort what) }
  | send {message : SettingsMessage} {draw : UInt64} : s.caller = .sending message →
      ExchangeStep m serve s (.send draw)
        { s with
          caller := .waiting ⟨message, nextRequestId draw⟩
          box := s.box.send ⟨message, nextRequestId draw⟩ }
  | found {request : SettingsRequest} {replies : List SettingsReply} {reply : SettingsReply} :
      s.caller = .waiting request → s.port = some replies →
      replies.find? request.isAnsweredBy = some reply →
      ExchangeStep m serve s .poll
        { s with caller := .returned request.message (some request) reply.delivery, port := none }
  | missed {request : SettingsRequest} {replies : List SettingsReply} :
      s.caller = .waiting request → s.port = some replies →
      replies.find? request.isAnsweredBy = none →
      ExchangeStep m serve s .poll { s with port := some [] }
  | expire {request : SettingsRequest} : s.caller = .waiting request →
      ExchangeStep m serve s .expire
        { s with caller := .returned request.message (some request) .silence, port := none }
  | finish {message : SettingsMessage} {request : Option SettingsRequest} {outcome : Delivery} :
      s.caller = .returned message request outcome →
      ExchangeStep m serve s .finish { s with caller := .idle }
  | carry {i : Nat} {box : Mailbox Str σ SettingsRequest SettingsReply} :
      m.carries s.box.sent s.box.carried i = true →
      s.box.carry SettingsRequest.block serve i = some box →
      ExchangeStep m serve s (.carry i) { s with box }
  | arrive {reply : SettingsReply} : m.brings s.box.given reply = true →
      ExchangeStep m serve s (.arrive reply) { s with port := s.port.map (· ++ [reply]) }

theorem exchangeStep_cases {m : Messaging} {serve : σ → SettingsRequest → σ × List SettingsReply}
    {s s' : Exchange σ} {l : ExchangeLbl} (h : exchangeStep m serve s l = some s') :
    ExchangeStep m serve s l s' := by
  cases l <;> simp only [exchangeStep] at h
  case call =>
    split at h
    · cases h
      exact .call ‹_›
    · cases h
  case requestConnects =>
    split at h
    · cases h
      exact .requestConnects ‹_›
    · cases h
  case requestFails =>
    split at h
    · cases h
      exact .requestFails ‹_›
    · cases h
  case responseConnects =>
    split at h
    · cases h
      exact .responseConnects ‹_›
    · cases h
  case responseFails =>
    split at h
    · cases h
      exact .responseFails ‹_›
    · cases h
  case send =>
    split at h
    · cases h
      exact .send ‹_›
    · cases h
  case poll =>
    split at h
    · split at h
      · cases h
        exact .found ‹_› ‹_› ‹_›
      · cases h
        exact .missed ‹_› ‹_› ‹_›
    · cases h
  case expire =>
    split at h
    · cases h
      exact .expire ‹_›
    · cases h
  case finish =>
    split at h
    · cases h
      exact .finish ‹_›
    · cases h
  case carry =>
    split at h
    · obtain ⟨box, hbox, rfl⟩ := Option.map_eq_some_iff.1 h
      exact .carry ‹_› hbox
    · cases h
  case arrive =>
    split at h
    · cases h
      exact .arrive ‹_›
    · cases h

/-! ## The order of requests and replies -/

section Invariant

variable {m : Messaging} {serve : σ → SettingsRequest → σ × List SettingsReply} {start : Str → σ}
  {s s' : Exchange σ}

/-- The request is the last one sent, and this is the block's answer to it. -/
def Exchange.Settled (serve : σ → SettingsRequest → σ × List SettingsReply) (start : Str → σ)
    (s : Exchange σ) (request : SettingsRequest) (outcome : Delivery) : Prop :=
  ∃ before reply, s.box.sent = before ++ [request] ∧
    Mailbox.GivenAt SettingsRequest.block serve start s.box.sent s.box.carried before.length
      reply ∧
    request.isAnsweredBy reply = true ∧ outcome = reply.delivery

structure ExchangeInv (m : Messaging) (serve : σ → SettingsRequest → σ × List SettingsReply)
    (start : Str → σ) (s : Exchange σ) : Prop where
  box : s.box.Inv SettingsRequest.block serve start
  history : m.History s.box.sent s.box.carried
  skipped : m.Lossless → Mailbox.NoneSkipped SettingsRequest.block s.box.sent s.box.carried
  ids : ∀ request ∈ s.box.sent, request.clientRequestID ≠ []
  port : ∀ replies, s.port = some replies → ∀ reply ∈ replies,
    reply ∈ s.box.given ∨ reply.clientRequestID = []
  ready : ∀ message, s.caller = .sending message → s.port.isSome = true
  awaited : ∀ request, s.caller = .waiting request →
    s.port.isSome = true ∧ ∃ before, s.box.sent = before ++ [request]
  unsent : ∀ message outcome, s.caller = .returned message none outcome →
    ∃ what, outcome = .requestPort what ∨ outcome = .responsePort what
  settled : s.Distinct → ∀ message request outcome,
    s.caller = .returned message (some request) outcome → request.message = message ∧
      (outcome = .silence ∨ s.Settled serve start request outcome)

/-- A reply that is taken is the block's answer to the call's own request. -/
theorem settled_of_found (hecho : Echoes serve) (hi : ExchangeInv m serve start s)
    (hdistinct : s.Distinct) {request : SettingsRequest} {replies : List SettingsReply}
    {reply : SettingsReply} (hcaller : s.caller = .waiting request)
    (hport : s.port = some replies) (hfound : replies.find? request.isAnsweredBy = some reply) :
    s.Settled serve start request reply.delivery := by
  obtain ⟨-, before, hsent⟩ := hi.awaited request hcaller
  have hmatches := List.find?_some hfound
  have hid : reply.clientRequestID = request.clientRequestID := by
    simp only [SettingsRequest.isAnsweredBy, Bool.and_eq_true, beq_iff_eq] at hmatches
    exact hmatches.1.1
  have hgiven : reply ∈ s.box.given := by
    obtain hgiven | hnone := hi.port replies hport reply (List.mem_of_find?_eq_some hfound)
    · exact hgiven
    · rw [hid] at hnone
      exact absurd hnone (hi.ids request (by simp [hsent]))
  obtain ⟨i, hgivenAt⟩ := (hi.box.given reply).1 hgiven
  -- it was given to a request with the same id, so to this one
  have hserved := hgivenAt
  obtain ⟨_, _, own, _, hown, hmem⟩ := hserved
  have hlast : s.box.sent[before.length]? = some request := by simp [hsent]
  obtain rfl := Mailbox.place_of_tag hdistinct hown hlast ((hecho _ _ _ hmem).symm.trans hid)
  exact ⟨before, reply, hsent, hgivenAt, hmatches, rfl⟩

/-- The caller goes on, with what it has in its port or less. -/
theorem ExchangeInv.move (hi : ExchangeInv m serve start s) (caller : Caller)
    {port : Option (List SettingsReply)}
    (hport : ∀ replies, port = some replies → replies = [] ∨ s.port = some replies)
    (hready : ∀ message, caller = .sending message → port.isSome = true)
    (hawaited : ∀ request, caller = .waiting request →
      port.isSome = true ∧ ∃ before, s.box.sent = before ++ [request])
    (hunsent : ∀ message outcome, caller = .returned message none outcome →
      ∃ what, outcome = .requestPort what ∨ outcome = .responsePort what)
    (hsettled : s.Distinct → ∀ message request outcome,
      caller = .returned message (some request) outcome → request.message = message ∧
        (outcome = .silence ∨ s.Settled serve start request outcome)) :
    ExchangeInv m serve start { s with caller, port } where
  box := hi.box
  history := hi.history
  skipped := hi.skipped
  ids := hi.ids
  port replies hr reply hmem := by
    obtain rfl | hold := hport replies hr
    · cases hmem
    · exact hi.port replies hold reply hmem
  ready := hready
  awaited := hawaited
  unsent := hunsent
  settled := hsettled

/-- A block carries out a request. -/
theorem ExchangeInv.carry (hm : m.Orderly) (hi : ExchangeInv m serve start s) {i : Nat}
    {box : Mailbox Str σ SettingsRequest SettingsReply}
    (hcarries : m.carries s.box.sent s.box.carried i = true)
    (hbox : s.box.carry SettingsRequest.block serve i = some box) :
    ExchangeInv m serve start { s with box } := by
  have hafter := hi.box.carry hbox (hm.once hi.history hcarries)
    (hm.order hi.history hcarries)
  obtain ⟨request, hrequest, rfl⟩ := Option.map_eq_some_iff.1 hbox
  exact
    { box := hafter
      history := hi.history.carry hcarries
      skipped := fun hlossless => (hi.skipped hlossless).carry (hlossless hi.history hcarries)
      ids := hi.ids
      port := fun replies hr reply hmem =>
        (hi.port replies hr reply hmem).imp (List.mem_append_left _) id
      ready := hi.ready
      awaited := hi.awaited
      unsent := hi.unsent
      settled := fun hdistinct message request outcome hcaller => by
        obtain ⟨hmessage, hsilent | hsettled⟩ := hi.settled hdistinct message request outcome hcaller
        · exact ⟨hmessage, .inl hsilent⟩
        · obtain ⟨before, reply, hsent, hgiven, hrest⟩ := hsettled
          exact ⟨hmessage, .inr ⟨before, reply, hsent, hgiven.carry i, hrest⟩⟩ }

/-- A request is sent. -/
theorem ExchangeInv.send (hi : ExchangeInv m serve start s) (message : SettingsMessage)
    (draw : UInt64) (hport : s.port.isSome = true) :
    ExchangeInv m serve start
      { s with
        caller := .waiting ⟨message, nextRequestId draw⟩
        box := s.box.send ⟨message, nextRequestId draw⟩ } where
  box := hi.box.send _
  history := hi.history.send _
  skipped hlossless := (hi.skipped hlossless).send hi.box.inOrder.within _
  ids request hmem := by
    obtain h | h := List.mem_append.1 hmem
    · exact hi.ids request h
    · obtain rfl := List.mem_singleton.1 h
      exact nextRequestId_ne_nil draw
  port := hi.port
  ready _ hcaller := by cases hcaller
  awaited request hcaller := by
    obtain rfl := Caller.waiting.inj hcaller
    exact ⟨hport, s.box.sent, rfl⟩
  unsent _ _ hcaller := by cases hcaller
  settled _ _ _ _ hcaller := by cases hcaller

/-- A message comes to the port. -/
theorem ExchangeInv.arrive (hm : m.Orderly) (hi : ExchangeInv m serve start s)
    {reply : SettingsReply} (hbrings : m.brings s.box.given reply = true) :
    ExchangeInv m serve start { s with port := s.port.map (· ++ [reply]) } where
  box := hi.box
  history := hi.history
  skipped := hi.skipped
  ids := hi.ids
  port replies hr reply' hmem := by
    obtain ⟨old, hold, rfl⟩ := Option.map_eq_some_iff.1 hr
    obtain h | h := List.mem_append.1 hmem
    · exact hi.port old hold reply' h
    · obtain rfl := List.mem_singleton.1 h
      exact hm.given hbrings
  ready message hcaller := by
    rw [Option.isSome_map]
    exact hi.ready message hcaller
  awaited request hcaller := by
    rw [Option.isSome_map]
    exact hi.awaited request hcaller
  unsent := hi.unsent
  settled := hi.settled

theorem exchange_inv (hm : m.Orderly) (hecho : Echoes serve) (hi : ExchangeInv m serve start s)
    {l : ExchangeLbl} (h : exchangeStep m serve s l = some s') : ExchangeInv m serve start s' := by
  cases exchangeStep_cases h with
  | call _ => exact hi.move _ (fun _ => .inr) nofun nofun nofun nofun
  | requestConnects _ => exact hi.move _ (fun _ => .inr) nofun nofun nofun nofun
  | requestFails _ =>
    refine hi.move _ (fun _ => .inr) nofun nofun (fun _ _ hreturned => ?_) nofun
    cases hreturned
    exact ⟨_, .inl rfl⟩
  | responseConnects _ =>
    refine hi.move _ (fun replies hr => .inl ?_) (fun _ _ => rfl) nofun nofun nofun
    exact (Option.some.inj hr).symm
  | responseFails _ =>
    refine hi.move _ (fun _ => .inr) nofun nofun (fun _ _ hreturned => ?_) nofun
    cases hreturned
    exact ⟨_, .inr rfl⟩
  | send hcaller => exact hi.send _ _ (hi.ready _ hcaller)
  | found hcaller hport hfound =>
    refine hi.move _ nofun nofun nofun (fun _ _ h => by cases h) fun hdistinct _ _ _ hreturned => ?_
    cases hreturned
    exact ⟨rfl, .inr (settled_of_found hecho hi hdistinct hcaller hport hfound)⟩
  | missed hcaller hport hmissed =>
    refine hi.move _ (fun replies hr => .inl (Option.some.inj hr).symm) (fun _ _ => rfl)
      (fun request hwaiting => ⟨rfl, (hi.awaited request hwaiting).2⟩) hi.unsent hi.settled
  | expire _ =>
    refine hi.move _ nofun nofun nofun (fun _ _ h => by cases h) fun _ _ _ _ hreturned => ?_
    cases hreturned
    exact ⟨rfl, .inl rfl⟩
  | finish _ => exact hi.move _ (fun _ => .inr) nofun nofun nofun nofun
  | carry hcarries hbox => exact hi.carry hm hcarries hbox
  | arrive hbrings => exact hi.arrive hm hbrings

theorem exchangeInv_inductive (hm : m.Orderly) (hecho : Echoes serve) (start : Str → σ) :
    (settingsExchange m serve start).Inductive (ExchangeInv m serve start) where
  init := by
    intro s hs
    subst hs
    exact
      { box := .empty
        history := .nil
        skipped := fun _ => nofun
        ids := nofun
        port := nofun
        ready := nofun
        awaited := nofun
        unsent := nofun
        settled := nofun }
  step s l s' hi h := exchange_inv hm hecho hi h

/-- `own` is the last request sent, and `reply` is what its block answered
when it had its turn after the requests in the places `front`. -/
structure AnsweredInTurn (m : Messaging) (serve : σ → SettingsRequest → σ × List SettingsReply)
    (start : Str → σ) (s : Exchange σ) (own : SettingsRequest) (reply : SettingsReply)
    (before : List SettingsRequest) (front back : List Nat) : Prop where
  sent : s.box.sent = before ++ [own]
  carried : s.box.carried = front ++ before.length :: back
  answer : reply ∈ (serve (Mailbox.after serve (start own.block)
    (Mailbox.turns SettingsRequest.block before front own.block)) own).2
  matching : own.isAnsweredBy reply = true
  /-- those carried out before it by its block, in the order they were sent -/
  earlier : (Mailbox.turns SettingsRequest.block before front own.block).Sublist
    (before.filter fun request => request.block = own.block)
  /-- none comes later -/
  last : ∀ i, m.carries s.box.sent s.box.carried i = true → ∀ request,
    s.box.sent[i]? = some request → request.block ≠ own.block
  all : m.Lossless → Mailbox.turns SettingsRequest.block before front own.block =
    before.filter fun request => request.block = own.block

theorem ExchangeInv.answered (hm : m.Orderly) (hi : ExchangeInv m serve start s)
    {before : List SettingsRequest} {own : SettingsRequest} {reply : SettingsReply}
    (hsent : s.box.sent = before ++ [own])
    (hgiven : Mailbox.GivenAt SettingsRequest.block serve start s.box.sent s.box.carried
      before.length reply) (hown : own.isAnsweredBy reply = true) :
    ∃ front back, AnsweredInTurn m serve start s own reply before front back := by
  obtain ⟨front, back, request, hcarried, hrequest, hmem⟩ := hgiven
  have hplace : s.box.sent[before.length]? = some own := by simp [hsent]
  obtain rfl := Option.some.inj (hplace.symm.trans hrequest)
  have hin := hi.box.inOrder
  rw [hsent, hcarried] at hin
  obtain ⟨hfront, hback⟩ := hin.last
  rw [hsent, Mailbox.turns_send hfront.within] at hmem
  refine ⟨front, back, hsent, hcarried, hmem, hown, hfront.turns_sublist _, ?_, fun hlossless => ?_⟩
  · intro i hcarries request hplace' hblock
    have hlt := hm.order hi.history hcarries before.length (by simp [hcarried]) own request
      hplace hplace' hblock.symm
    have hlength := hm.sent hi.history hcarries
    rw [hsent, List.length_append, List.length_singleton] at hlength
    omega
  · refine hfront.turns_eq fun j a ha hblock => ?_
    have hj : j < before.length := (List.getElem?_eq_some_iff.1 ha).1
    have ha' : (before ++ [own])[j]? = some a := by rw [Mailbox.getElem?_send hj, ha]
    have hmemj := hi.skipped hlossless before.length (by simp [hcarried]) j hj a own
      (by rw [hsent, ha']) hplace hblock
    rw [hcarried] at hmemj
    obtain hmemj | hmemj := List.mem_append.1 hmemj
    · exact hmemj
    · obtain rfl | hmemj := List.mem_cons.1 hmemj
      · exact absurd hj (Nat.lt_irrefl _)
      · exact absurd hblock (hback j hmemj a ha')

/-- How many requests have still to be carried out. -/
def Exchange.left (s : Exchange σ) : Nat := s.box.sent.length - s.box.carried.length

/-- **A call that is given the time gets an answer.** Where messaging is
live: the request is the last one sent, and as long as it has not been
carried out some request can be, with one less left then, and the call waits
on; once it has been, and its block answers such a request, an answer can
come to the port, and the call waits on; once an answer is in the port, the
next look at it ends the call with one, and not by its deadline. -/
theorem settings_answers (hm : m.Orderly) (hlive : m.Live) (hecho : Echoes serve)
    (hs : (settingsExchange m serve start).Reachable s) {request : SettingsRequest}
    (hcaller : s.caller = .waiting request) :
    ∃ before replies, s.box.sent = before ++ [request] ∧ s.port = some replies ∧
      (before.length ∉ s.box.carried → ∃ i s', exchangeStep m serve s (.carry i) = some s' ∧
        s'.left + 1 = s.left ∧ s'.caller = .waiting request) ∧
      (before.length ∈ s.box.carried →
        (∀ state, ∃ reply ∈ (serve state request).2, request.isAnsweredBy reply = true) →
        ∃ reply s', request.isAnsweredBy reply = true ∧
          exchangeStep m serve s (.arrive reply) = some s' ∧ s'.caller = .waiting request ∧
          s'.port = some (replies ++ [reply])) ∧
      ((∃ reply ∈ replies, request.isAnsweredBy reply = true) →
        ∃ s' reply, exchangeStep m serve s .poll = some s' ∧
          s'.caller = .returned request.message (some request) reply.delivery ∧
          request.isAnsweredBy reply = true) := by
  have hi := (exchangeInv_inductive hm hecho start).reachable hs
  obtain ⟨hport, before, hsent⟩ := hi.awaited request hcaller
  obtain ⟨replies, hreplies⟩ := Option.isSome_iff_exists.1 hport
  have hplace : s.box.sent[before.length]? = some request := by simp [hsent]
  refine ⟨before, replies, hsent, hreplies, fun hnot => ?_, fun hcarried hanswers => ?_,
    fun hthere => ?_⟩
  · obtain ⟨i, hcarries⟩ := hlive.carries hi.history (List.getElem?_eq_some_iff.1 hplace).1 hnot
    have hlt := hm.sent hi.history hcarries
    have hlength := (hi.box.inOrder.carry hlt (hm.once hi.history hcarries)
      (hm.order hi.history hcarries)).length_le
    obtain ⟨box, hbox⟩ := Mailbox.carry_isSome SettingsRequest.block serve s.box hlt
    obtain ⟨hsame, hmore⟩ := Mailbox.carry_length hbox
    refine ⟨i, { s with box }, ?_, ?_, hcaller⟩
    · simp only [exchangeStep, hcarries, if_true, hbox, Option.map_some]
    · simp only [List.length_append, List.length_singleton] at hlength
      simp only [Exchange.left, hsame, hmore]
      omega
  · obtain ⟨front, back, hsplit⟩ := List.append_of_mem hcarried
    obtain ⟨reply, hmem, hown⟩ := hanswers (Mailbox.after serve (start request.block)
      (Mailbox.turns SettingsRequest.block s.box.sent front request.block))
    have hgiven : reply ∈ s.box.given :=
      (hi.box.given reply).2 ⟨before.length, front, back, request, hsplit, hplace, hmem⟩
    refine ⟨reply, { s with port := s.port.map (· ++ [reply]) }, hown, ?_, hcaller, ?_⟩
    · simp only [exchangeStep, hlive.brings hgiven, if_true]
    · simp only [hreplies, Option.map_some]
  · obtain ⟨reply, hmem, hown⟩ := hthere
    cases hfound : replies.find? request.isAnsweredBy with
    | none => exact absurd hown (List.find?_eq_none.1 hfound reply hmem)
    | some found =>
      refine ⟨{ s with caller := .returned request.message (some request) found.delivery,
                       port := none }, found, ?_, rfl, List.find?_some hfound⟩
      simp only [exchangeStep, hcaller, hreplies, hfound]

end Invariant

/-- All messages go through one queue, and none is lost. -/
def oneQueue : Messaging where
  carries sent carried i := decide (i = carried.length ∧ i < sent.length)
  brings given reply := decide (reply ∈ given)

/-- What has been carried out are the first so many. -/
theorem oneQueue_history {sent : List SettingsRequest} {carried : List Nat}
    (h : oneQueue.History sent carried) :
    carried = List.range carried.length ∧ carried.length ≤ sent.length := by
  induction h with
  | nil => exact ⟨rfl, Nat.le_refl _⟩
  | send _ request ih =>
    refine ⟨ih.1, ?_⟩
    rw [List.length_append]
    exact Nat.le_add_right_of_le ih.2
  | @carry sent carried i _ hi ih =>
    obtain ⟨rfl, hlt⟩ := of_decide_eq_true hi
    rw [List.length_append, List.length_singleton]
    refine ⟨?_, hlt⟩
    rw [List.range_succ, ← ih.1]

theorem oneQueue_carried {sent : List SettingsRequest} {carried : List Nat}
    (h : oneQueue.History sent carried) (i : Nat) : i ∈ carried ↔ i < carried.length := by
  rw [(oneQueue_history h).1, List.mem_range, List.length_range]

theorem oneQueue_orderly : oneQueue.Orderly where
  sent _ hi := (of_decide_eq_true hi).2
  once h hi hmem := by
    obtain ⟨rfl, -⟩ := of_decide_eq_true hi
    exact Nat.lt_irrefl _ ((oneQueue_carried h _).1 hmem)
  order h hi j hj _ _ _ _ _ := by
    obtain ⟨rfl, -⟩ := of_decide_eq_true hi
    exact (oneQueue_carried h j).1 hj
  given h := .inl (of_decide_eq_true h)

theorem oneQueue_live : oneQueue.Live where
  carries {sent carried i} h hi hnot := by
    refine ⟨carried.length, decide_eq_true ⟨rfl, ?_⟩⟩
    rw [oneQueue_carried h] at hnot
    omega
  brings h := decide_eq_true h

/-- A block which sets and gets its settings. -/
def oneBlock (settings : PropertyMap) (request : SettingsRequest) :
    PropertyMap × List SettingsReply :=
  let settings' :=
    match request.message.command with
    | .set => request.message.payload
    | .get => settings
  (settings', [⟨request.message.serviceName, request.message.endpoint, request.clientRequestID,
    .ok settings'⟩])

theorem oneBlock_echoes : Echoes oneBlock := by
  intro state request reply hmem
  obtain rfl := List.mem_singleton.1 hmem
  rfl

def gainSet : SettingsMessage :=
  ⟨.set, str "Gain#0", str "Settings", [(str "gain", .bool true)]⟩

def gainGet : SettingsMessage := ⟨.get, str "Gain#0", str "Settings", []⟩

def gainReply (draw : UInt64) : SettingsReply :=
  ⟨str "Gain#0", str "Settings", nextRequestId draw, .ok [(str "gain", .bool true)]⟩

/-- A call sets, and gives up; the next one gets, and finds the late reply in
front of its own. -/
def lateReply : List ExchangeLbl :=
  [.call gainSet, .requestConnects, .responseConnects, .send 1, .expire, .finish, .call gainGet,
    .requestConnects, .responseConnects, .send 2, .carry 0, .arrive (gainReply 1), .carry 1,
    .arrive (gainReply 2), .poll]

/-- The state of the blocks when both have been carried out. -/
def lateStates : Str → PropertyMap :=
  Function.update (Function.update (fun _ => []) (str "Gain#0") [(str "gain", .bool true)])
    (str "Gain#0") [(str "gain", .bool true)]

/-- What has been set late is what is got. -/
def lateEnd : Exchange PropertyMap where
  caller := .returned gainGet (some ⟨gainGet, nextRequestId 2⟩) (.data [(str "gain", .bool true)])
  port := none
  box :=
    { sent := [⟨gainSet, nextRequestId 1⟩, ⟨gainGet, nextRequestId 2⟩]
      carried := [0, 1]
      state := lateStates
      given := [gainReply 1, gainReply 2] }

/-- The same run, up to the last look at the port. -/
def lateWait : Exchange PropertyMap :=
  { lateEnd with
    caller := .waiting ⟨gainGet, nextRequestId 2⟩
    port := some [gainReply 1, gainReply 2] }

theorem late_get_returns : ∃ s' reply, exchangeStep oneQueue oneBlock lateWait .poll = some s' ∧
    s'.caller = .returned gainGet (some ⟨gainGet, nextRequestId 2⟩) reply.delivery ∧
    (⟨gainGet, nextRequestId 2⟩ : SettingsRequest).isAnsweredBy reply = true := by
  have hreached : (settingsExchange oneQueue oneBlock fun _ => []).Reachable lateWait :=
    ⟨_, lateReply.dropLast, rfl, LTS.run_of_runFn _ _ _ rfl⟩
  obtain ⟨before, replies, -, hport, -, -, hlook⟩ :=
    settings_answers oneQueue_orderly oneQueue_live oneBlock_echoes hreached rfl
  obtain rfl := Option.some.inj hport
  exact hlook ⟨gainReply 2, by simp, by simp [SettingsRequest.isAnsweredBy, gainReply, gainGet]⟩

end Gr4cp.App

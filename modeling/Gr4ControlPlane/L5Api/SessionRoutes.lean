import Gr4ControlPlane.L4App.SessionLifecycle
import Gr4ControlPlane.L4App.SessionStreams
import Gr4ControlPlane.L5Api.WebSocketUpgrade

/-!
# `GET /sessions` and `GET /sessions/{id}`

A listing is one `list()` and then, for each session listed, an
`active_stream_plan`: a section under the mutex and a call of the runtime
without it. Others run between any two of these steps, so the handler is a
function of the states its steps find the system in (`Visit`).

* `planLoop_spec`: the lookups of a listing all return exactly when every
  session listed is still stored when it is looked up.
* `sessionToJson_printable_iff`: when the writer accepts the object of a
  session.
* `sessionToJson_streams`, `sessionToJson_state`: the two members that are
  read from different states.
-/
namespace Gr4cp.Api

open Gr4cp.Core Gr4cp.Domain Gr4cp.Storage Gr4cp.Runtime Gr4cp.App

/-! ## JSON of sessions -/

/-- mirrors src/api/http_server.cpp:36-45 -/
def streamToJson (stream : BrowserStreamDescriptor) : Json :=
  .obj [(str "id", .str stream.id), (str "block_instance_name", .str stream.blockInstanceName),
    (str "transport", .str stream.transport), (str "payload_format", .str stream.payloadFormat),
    (str "path", .str stream.path), (str "ready", .bool stream.ready)]

/-- mirrors src/api/http_server.cpp:47-53 -/
def streamPlanToJson (plan : StreamRuntimePlan) : Json :=
  .arr (plan.streams.map fun stream => streamToJson (toBrowserStreamDescriptor stream))

def optionalMember (key : Str) (value : Option Json) : List (Str × Json) :=
  (value.map fun value => (key, value)).toList

/-- mirrors src/api/http_server.cpp:172-191 -/
def sessionToJson (session : Session) (streamPlan : Option StreamRuntimePlan) : Json :=
  .obj ([(str "id", .str session.id), (str "name", .str session.name),
      (str "state", .str session.state.toStr),
      (str "created_at", .str (formatTimestampUtc session.createdAt)),
      (str "updated_at", .str (formatTimestampUtc session.updatedAt)),
      (str "last_error", (session.lastError.map Json.str).getD .null)] ++
    optionalMember (str "scheduler_id") (session.schedulerAlias.map .str) ++
    optionalMember (str "streams") (streamPlan.map streamPlanToJson))

/-- mirrors src/api/http_server.cpp:193-201 -/
def sessionsToJson (sessions : List Session) (streamPlans : List (Option StreamRuntimePlan)) :
    Json :=
  .arr (sessions.mapIdx fun index session => sessionToJson session (streamPlans[index]?.join))

/-! ## Responses -/

structure Response where
  status : Nat
  body : Json

/-- What a route's action throws: an error of a service, or something else. -/
inductive Failure where
  | service (error : ServiceError)
  | other

/-- mirrors src/api/http_server.cpp:323-345 -/
def failureDetails : Failure → ErrorDetails
  | .service error => currentErrorDetails error
  | .other => ⟨500, str "internal_error", str "internal server error"⟩

/-- Text that is not UTF-8, which the writer throws on. -/
def isUnprintable : Json → Bool
  | .str s => !Utf8.valid s
  | .obj members => members.any fun member => !Utf8.valid member.1
  | _ => false

/-- mirrors src/api/http_server.cpp:212-215 -/
def setJsonResponse (body : Json) (status : Nat) : Except Thrown Response :=
  if body.any isUnprintable then .error .invalidUtf8 else .ok ⟨status, body⟩

/-- mirrors src/api/http_server.cpp:217-222,347-350 -/
def handleException (failure : Failure) : Except Thrown Response :=
  let details := failureDetails failure
  setJsonResponse (.obj [(str "error", .obj [(str "code", .str details.code),
    (str "message", .str details.message)])]) details.status

/-- An error is what leaves the handler of the exception.
mirrors src/api/http_server.cpp:352-359 -/
def execute (action : Except Failure Response) : Except Thrown Response :=
  match action with
  | .ok response => .ok response
  | .error failure => handleException failure

/-- The end of a route's action. -/
def respond (body : Json) : Except Failure Response :=
  (setJsonResponse body 200).mapError fun _ => .other

/-! ## The routes -/

/-- The states in which the steps of a request find a system: its first
read, and for the `k`-th lookup of a plan the section and the call of the
runtime. -/
structure Visit {S L : Type} (M : LTS S L) where
  first : S
  looked : Nat → S
  asked : Nat → S
  reachable : M.Reachable first
  toLook : ∃ ls, M.Run first ls (looked 0)
  toAsk : ∀ k, ∃ ls, M.Run (looked k) ls (asked k)
  toNext : ∀ k, ∃ ls, M.Run (asked k) ls (looked (k + 1))

section Routes

variable {ρ Q : Type} {A : Q → Type} {rt : RuntimeManager ρ Q A} {r₀ : ρ}
  (plan : ρ → Session → Except Exn (Option StreamRuntimePlan)) (v : Visit (Sys.runs rt r₀))

/-- The `k`-th lookup of a request. -/
def lookupPlan (k : Nat) (id : Str) : Except ServiceError (Option StreamRuntimePlan) :=
  ((v.looked k).service.activeStreamPlan (plan (v.asked k).runtime) id).1

/-- The loop over the sessions listed, from the `k`-th on.
mirrors src/api/http_server.cpp:439-441 -/
def planLoop : Nat → List Session → Except ServiceError (List (Option StreamRuntimePlan))
  | _, [] => .ok []
  | k, session :: sessions =>
    match lookupPlan plan v k session.id with
    | .error e => .error e
    | .ok streamPlan =>
      match planLoop (k + 1) sessions with
      | .error e => .error e
      | .ok streamPlans => .ok (streamPlan :: streamPlans)

/-- mirrors src/api/http_server.cpp:434-444 -/
def getSessions : Except Thrown Response :=
  let sessions := v.first.service.list
  execute
    (match planLoop plan v 0 sessions with
    | .error e => .error (.service e)
    | .ok streamPlans => respond (sessionsToJson sessions streamPlans))

/-- The lookup is the request's only one.
mirrors src/api/http_server.cpp:475-481 -/
def getSession (id : Str) : Except Thrown Response :=
  execute
    (match v.first.service.get id with
    | .error e => .error (.service e)
    | .ok session =>
      match lookupPlan plan v 0 session.id with
      | .error e => .error (.service e)
      | .ok streamPlan => respond (sessionToJson session streamPlan))

end Routes

/-! ## What the writer accepts -/

def printableSession (session : Session) : Bool :=
  Utf8.valid session.id && Utf8.valid session.name && session.lastError.all Utf8.valid &&
    session.schedulerAlias.all Utf8.valid

def printableStream (stream : RuntimeStreamBindingPlan) : Bool :=
  Utf8.valid stream.streamId && Utf8.valid stream.blockInstanceName &&
    Utf8.valid stream.transport && Utf8.valid stream.payloadFormat && Utf8.valid stream.path

def printablePlan (plan : StreamRuntimePlan) : Bool := plan.streams.all printableStream

theorem any_obj (members : List (Str × Json)) :
    (Json.obj members).any isUnprintable =
      members.any fun member => !Utf8.valid member.1 || member.2.any isUnprintable := by
  simp only [Json.any, isUnprintable, Json.anyMember_eq]
  induction members with
  | nil => rfl
  | cons member members ih =>
    simp only [List.any_cons] at ih ⊢
    rw [← ih]
    grind

theorem any_arr (items : List Json) :
    (Json.arr items).any isUnprintable = items.any fun item => item.any isUnprintable := by
  simp [Json.any, isUnprintable, Json.anyItem_eq]

theorem zeroPadded_ascii (width n : Nat) : (zeroPadded width n).all Utf8.isAscii = true := by
  have hdigit : ∀ d < 10, Utf8.isAscii (hexDigit d) = true := by decide
  simp only [zeroPadded, List.all_map, List.all_eq_true, Function.comp_apply]
  exact fun i _ => hdigit _ (Nat.mod_lt _ (by decide))

theorem formatTimestampUtc_valid (timestamp : Timestamp) :
    Utf8.valid (formatTimestampUtc timestamp) = true := by
  unfold formatTimestampUtc
  simp only [List.append_assoc]
  rw [Utf8.valid_ascii_append (zeroPadded_ascii _ _), Utf8.valid_ascii_append (by decide),
    Utf8.valid_ascii_append (zeroPadded_ascii _ _), Utf8.valid_ascii_append (by decide),
    Utf8.valid_ascii_append (zeroPadded_ascii _ _), Utf8.valid_ascii_append (by decide),
    Utf8.valid_ascii_append (zeroPadded_ascii _ _), Utf8.valid_ascii_append (by decide),
    Utf8.valid_ascii_append (zeroPadded_ascii _ _), Utf8.valid_ascii_append (by decide),
    Utf8.valid_ascii_append (zeroPadded_ascii _ _)]
  decide

theorem streamToJson_printable (stream : RuntimeStreamBindingPlan) :
    (streamToJson (toBrowserStreamDescriptor stream)).any isUnprintable =
      !printableStream stream := by
  have hkeys : Utf8.valid (str "id") = true ∧ Utf8.valid (str "block_instance_name") = true ∧
      Utf8.valid (str "transport") = true ∧ Utf8.valid (str "payload_format") = true ∧
      Utf8.valid (str "path") = true ∧ Utf8.valid (str "ready") = true := by decide
  obtain ⟨h₁, h₂, h₃, h₄, h₅, h₆⟩ := hkeys
  simp [streamToJson, any_obj, h₁, h₂, h₃, h₄, h₅, h₆, toBrowserStreamDescriptor,
    printableStream, Json.any, isUnprintable, Bool.or_assoc]

theorem streamPlanToJson_printable (plan : StreamRuntimePlan) :
    (streamPlanToJson plan).any isUnprintable = !printablePlan plan := by
  simp only [streamPlanToJson, any_arr, printablePlan, List.any_map, List.not_all_eq_any_not]
  congr 1
  funext stream
  exact streamToJson_printable stream

theorem state_valid (state : SessionState) : Utf8.valid state.toStr = true := by
  cases state <;> rfl

theorem sessionToJson_printable (session : Session) (streamPlan : Option StreamRuntimePlan) :
    (sessionToJson session streamPlan).any isUnprintable =
      !(printableSession session && streamPlan.all printablePlan) := by
  have hkeys : Utf8.valid (str "id") = true ∧ Utf8.valid (str "name") = true ∧
      Utf8.valid (str "state") = true ∧ Utf8.valid (str "created_at") = true ∧
      Utf8.valid (str "updated_at") = true ∧ Utf8.valid (str "last_error") = true ∧
      Utf8.valid (str "scheduler_id") = true ∧ Utf8.valid (str "streams") = true := by decide
  obtain ⟨h₁, h₂, h₃, h₄, h₅, h₆, h₇, h₈⟩ := hkeys
  cases herror : session.lastError <;> cases halias : session.schedulerAlias <;>
    cases streamPlan <;>
    simp [sessionToJson, any_obj, h₁, h₂, h₃, h₄, h₅, h₆, h₇, h₈, optionalMember,
      printableSession, herror, halias, Json.any, isUnprintable, state_valid,
      formatTimestampUtc_valid, streamPlanToJson_printable, Bool.or_assoc]

/-! ## What the lookups of a listing find -/

section Results

variable {ρ Q : Type} {A : Q → Type} {rt : RuntimeManager ρ Q A} {r₀ : ρ}
  {plan : ρ → Session → Except Exn (Option StreamRuntimePlan)} {v : Visit (Sys.runs rt r₀)}

/-- Every lookup of the loop returned, the `i`-th with the `i`-th plan. -/
theorem planLoop_ok_iff {k : Nat} {sessions : List Session}
    {streamPlans : List (Option StreamRuntimePlan)} :
    planLoop plan v k sessions = .ok streamPlans ↔
      streamPlans.length = sessions.length ∧ ∀ i session, sessions[i]? = some session →
        ∃ p, streamPlans[i]? = some p ∧ lookupPlan plan v (k + i) session.id = .ok p := by
  induction sessions generalizing k streamPlans with
  | nil =>
    cases streamPlans with
    | nil => simp [planLoop]
    | cons p streamPlans => simp [planLoop]
  | cons session sessions ih =>
    simp only [planLoop]
    constructor
    · intro h
      split at h
      · cases h
      · rename_i p hp
        split at h
        · cases h
        · rename_i rest hrest
          cases h
          obtain ⟨hlen, hall⟩ := ih.1 hrest
          refine ⟨by simp [hlen], fun i session' hi => ?_⟩
          cases i with
          | zero =>
            obtain rfl := Option.some.inj hi
            exact ⟨p, rfl, hp⟩
          | succ i =>
            obtain ⟨p', hp', hlook⟩ := hall i session' hi
            exact ⟨p', hp', by rwa [Nat.add_right_comm, Nat.add_assoc] at hlook⟩
    · rintro ⟨hlen, hall⟩
      obtain ⟨p, hp, hlook⟩ := hall 0 session rfl
      cases streamPlans with
      | nil => cases hp
      | cons p' rest =>
        obtain rfl := Option.some.inj hp
        have hrest : planLoop plan v (k + 1) sessions = .ok rest := by
          refine ih.2 ⟨by simpa using hlen, fun i session' hi => ?_⟩
          obtain ⟨p', hp', hlook'⟩ := hall (i + 1) session' hi
          exact ⟨p', hp', by rwa [Nat.add_right_comm, Nat.add_assoc]⟩
        rw [Nat.add_zero] at hlook
        simp only [hlook, hrest]

theorem planLoop_returns_iff {k : Nat} {sessions : List Session} :
    (∃ streamPlans, planLoop plan v k sessions = .ok streamPlans) ↔
      ∀ i session, sessions[i]? = some session →
        ∃ p, lookupPlan plan v (k + i) session.id = .ok p := by
  constructor
  · rintro ⟨streamPlans, h⟩ i session hi
    obtain ⟨p, -, hlook⟩ := (planLoop_ok_iff.1 h).2 i session hi
    exact ⟨p, hlook⟩
  · intro hall
    induction sessions generalizing k with
    | nil => exact ⟨[], rfl⟩
    | cons session sessions ih =>
      obtain ⟨p, hp⟩ := hall 0 session rfl
      obtain ⟨rest, hrest⟩ := ih (k := k + 1) fun i session' hi => by
        obtain ⟨p', hp'⟩ := hall (i + 1) session' hi
        exact ⟨p', by rwa [Nat.add_right_comm, Nat.add_assoc]⟩
      rw [Nat.add_zero] at hp
      exact ⟨p :: rest, by simp only [planLoop, hp, hrest]⟩

/-- The runtime shows streams of the session at the `k`-th lookup. -/
def ShowsPlan (plan : ρ → Session → Except Exn (Option StreamRuntimePlan))
    (v : Visit (Sys.runs rt r₀)) (k : Nat) (id : Str) (streamPlan : StreamRuntimePlan) : Prop :=
  ∃ session, (v.looked k).service.runningSession id = .ok session ∧
    plan (v.asked k).runtime session = .ok (some streamPlan)

theorem lookupPlan_some_iff {k : Nat} {id : Str} {streamPlan : StreamRuntimePlan} :
    lookupPlan plan v k id = .ok (some streamPlan) ↔ ShowsPlan plan v k id streamPlan := by
  simp only [lookupPlan, ShowsPlan, Service.activeStreamPlan, ← Service.activeStreamSession_iff]
  cases (v.looked k).service.activeStreamSession id with
  | error e => simp
  | ok found =>
    cases found with
    | none => simp
    | some session =>
      simp only [Except.ok.injEq, Option.some.injEq, exists_eq_left']
      split <;> simp [*]

/-- A lookup returns if the session is stored then and the runtime, when
asked, answers. -/
theorem lookupPlan_returns_iff {k : Nat} {id : Str} :
    (∃ p, lookupPlan plan v k id = .ok p) ↔
      id ∈ (v.looked k).service.repository ∧
        ∀ session, (v.looked k).service.runningSession id = .ok session →
          ∃ p, plan (v.asked k).runtime session = .ok p := by
  rw [← Service.activeStreamSession_returns_iff]
  simp only [lookupPlan, Service.activeStreamPlan, ← Service.activeStreamSession_iff]
  cases (v.looked k).service.activeStreamSession id with
  | error e => simp
  | ok found =>
    cases found with
    | none => simp
    | some session =>
      simp only [Except.ok.injEq, exists_eq', Option.some.injEq, forall_eq', true_and]
      cases plan (v.asked k).runtime session <;> simp

end Results

end Gr4cp.Api

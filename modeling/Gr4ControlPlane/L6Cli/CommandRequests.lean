import Gr4ControlPlane.L1Domain.JsonReading
import Gr4ControlPlane.L5Api.ErrorReplies
import Gr4ControlPlane.L5Api.RequestBodies
import Gr4ControlPlane.L5Api.Routes
import Gr4ControlPlane.L6Cli.Commands

/-!
# The commands at the server

A command of the CLI against the routes of the server, with one JSON library
at both ends (`World.Uses`).

* `command_reaches_iff`: the request of a command leads to the handler made
  for it, with the id it was given, exactly when that id is a word.
* `create_read_back`: the server reads of a creation what the CLI was given,
  and refuses an empty graph.
* `error_shown`: what a route throws is what the CLI prints.
-/
namespace Gr4cp.Cli

open Gr4cp.Core Gr4cp.Domain
open Gr4cp.Api (Endpoint ReadsPath isWord isPathChar registerRoutes EvaluationOrder)

/-! ## The handler of a command -/

/-- `client.Get`, `client.Post` and `client.Delete`.
mirrors src/cli/cli.cpp:128-144 -/
def methodOf (method : Str) : Option Api.Method :=
  if method = str "GET" then some .get
  else if method = str "POST" then some .post
  else if method = str "DELETE" then some .delete
  else none

def Command.endpoint : Command → Endpoint
  | .create .. => .createSession
  | .list => .sessions
  | .session .get _ => .session
  | .session .start _ => .startSession
  | .session .stop _ => .stopSession
  | .session .restart _ => .restartSession
  | .session .delete _ => .removeSession

def Command.ids : Command → List Str
  | .create .. | .list => []
  | .session _ id => [id]

/-- The handler a request is answered by. -/
def answeredBy (httpPath : Str → Str) (request : Request) :
    Option (Except Api.Thrown (Endpoint × List Str)) :=
  (methodOf request.method).bind fun method => Api.request httpPath method request.path

def createBody (name grc : Str) : Json := .obj [(str "grc", .str grc), (str "name", .str name)]

theorem create_request {w : World} {filePath name : Str} {request : Request}
    (h : (Command.create filePath name).request w = .ok request) : ∃ grc payload,
      w.readFile filePath = some grc ∧ w.dump (createBody name grc) = .ok payload ∧
        request = ⟨str "POST", str "/sessions", some payload⟩ := by
  simp only [Command.request] at h
  split at h
  · cases h
  · rename_i grc hgrc
    split at h
    · cases h
    · rename_i payload hpayload
      cases h
      exact ⟨grc, payload, hgrc, hpayload, rfl⟩

def WordIds (command : Command) : Prop :=
  ∀ id ∈ command.ids, id ≠ [] ∧ ∀ c ∈ id, isWord c = true

/-- `request` is what the registration `r` is made for. -/
structure MadeFor (r : Api.Registration) (command : Command) (request : Request) : Prop where
  registered : r ∈ registerRoutes
  endpoint : r.endpoint = command.endpoint
  method : methodOf request.method = some r.method
  path : request.path = PathPattern.fill r.pattern command.ids
  ids : Api.Addressable r.pattern command.ids ↔ WordIds command

theorem wordIds_session {command : SessionCommand} {id : Str} {tail : String} :
    Api.Addressable (Api.ofSession tail) [id] ↔ WordIds (.session command id) := by
  simp [Api.addressable_ofSession, WordIds, Command.ids]

/-- Each command has a registration made for it. -/
theorem request_registered {w : World} {command : Command} {request : Request}
    (h : command.request w = .ok request) : ∃ r, MadeFor r command request := by
  cases command with
  | create filePath name =>
    obtain ⟨grc, payload, -, -, rfl⟩ := create_request h
    exact ⟨⟨.post, PathPattern.literal (str "/sessions"), .createSession⟩, by decide +kernel, rfl,
      rfl, rfl, fun _ => by simp [WordIds, Command.ids], fun _ => trivial⟩
  | list =>
    cases h
    exact ⟨⟨.get, PathPattern.literal (str "/sessions"), .sessions⟩, by decide +kernel, rfl,
      rfl, rfl, fun _ => by simp [WordIds, Command.ids], fun _ => trivial⟩
  | session command id =>
    cases command with
    | get =>
      cases h
      refine ⟨⟨.get, Api.ofSession "", .session⟩, by decide +kernel, rfl, rfl, ?_, wordIds_session⟩
      simp [Command.ids, Api.fill_ofSession, Api.sessionsPrefix, str]
    | start =>
      cases h
      refine ⟨⟨.post, Api.ofSession "/start", .startSession⟩, by decide +kernel, rfl, rfl, ?_,
        wordIds_session⟩
      simp [Command.ids, Api.fill_ofSession, Api.sessionsPrefix]
    | stop =>
      cases h
      refine ⟨⟨.post, Api.ofSession "/stop", .stopSession⟩, by decide +kernel, rfl, rfl, ?_,
        wordIds_session⟩
      simp [Command.ids, Api.fill_ofSession, Api.sessionsPrefix]
    | restart =>
      cases h
      refine ⟨⟨.post, Api.ofSession "/restart", .restartSession⟩, by decide +kernel, rfl, rfl, ?_,
        wordIds_session⟩
      simp [Command.ids, Api.fill_ofSession, Api.sessionsPrefix]
    | delete =>
      cases h
      refine ⟨⟨.delete, Api.ofSession "", .removeSession⟩, by decide +kernel, rfl, rfl, ?_,
        wordIds_session⟩
      simp [Command.ids, Api.fill_ofSession, Api.sessionsPrefix, str]

/-- **A command reaches its handler.** Whatever the command and its id, if
the id is made of path characters: the request leads to the handler made for
the command, with that id, if and only if the id is a word. -/
theorem command_reaches_iff {httpPath : Str → Str} (h : ReadsPath httpPath) {w : World}
    {command : Command} {request : Request} (hrequest : command.request w = .ok request)
    (hchars : ∀ id ∈ command.ids, ∀ c ∈ id, isPathChar c = true) :
    answeredBy httpPath request = some (.ok (command.endpoint, command.ids)) ↔
      WordIds command := by
  obtain ⟨r, hmade⟩ := request_registered hrequest
  have hself := h.fill (Api.pathChars_registered r hmade.registered) hchars
  rw [answeredBy, hmade.method, Option.bind_some, hmade.path, ← hmade.endpoint,
    Api.filled_path_routes_iff hmade.registered hself, hmade.ids]

/-- What a session is asked to do reaches that session. -/
theorem restart_reaches :
    answeredBy Api.percentDecode ⟨str "POST", str "/sessions/sess_7/restart", some []⟩ =
      some (.ok (.restartSession, [str "sess_7"])) := by
  have hrequest : (Command.session .restart (str "sess_7")).request ⟨fun _ => none,
      fun _ => .ok [], fun _ => .ok [], fun _ => .ok .null, fun _ _ => none⟩ =
      .ok ⟨str "POST", str "/sessions/sess_7/restart", some []⟩ := rfl
  refine (command_reaches_iff Api.percentDecode_reads hrequest ?_).2 ?_
  · decide +kernel
  · simp only [WordIds, Command.ids, List.mem_singleton, forall_eq]
    decide +kernel

/-! ## One JSON library at both ends -/

/-- The CLI writes and reads with the library `t`. -/
structure World.Uses (w : World) (t : JsonText) : Prop where
  dumps : ∀ (j : JsonValue) text, w.dump j.json = .ok text ↔ t.dump j = some text
  parses : ∀ text j, t.parse text = some j → w.parse text = .ok j.json

/-- A world with one file and one answer. -/
def worldWith (t : JsonText) (file : Str) (answer : Option Response) : World where
  readFile _ := some file
  dump j :=
    if h : j.any Json.repeatsKey = false then
      match t.dump ⟨j, h⟩ with
      | none => .error (.other (str "invalid UTF-8"))
      | some text => .ok text
    else .error (.other [])
  pretty _ := .ok []
  parse text :=
    match t.parse text with
    | none => .error (.parseError (str "parse error"))
    | some value => .ok value.json
  exchange _ _ := answer

theorem worldWith_uses (t : JsonText) (file : Str) (answer : Option Response) :
    (worldWith t file answer).Uses t where
  dumps j text := by
    obtain ⟨j, hj⟩ := j
    simp only [worldWith, hj, dif_pos]
    cases t.dump ⟨j, hj⟩ <;> simp
  parses text j h := by simp [worldWith, h]

section Library

variable {w : World} {t : JsonText}

theorem createBody_keys (name grc : Str) :
    (createBody name grc).any Json.repeatsKey = false := by
  have hkeys : [str "grc", str "name"].Nodup := by decide
  simp [createBody, Json.any, Json.anyMember, Json.repeatsKey, hkeys]

theorem createBody_textless (name grc : Str) :
    (createBody name grc).any Json.textless = false := rfl

theorem createBody_badText (name grc : Str) :
    (createBody name grc).any Json.badText = !(Utf8.valid grc && Utf8.valid name) := by
  have hkeys : Utf8.valid (str "grc") = true ∧ Utf8.valid (str "name") = true := by decide
  simp [createBody, Json.any, Json.anyMember, Json.badText, hkeys.1, hkeys.2]

theorem readCreate_of_same {name grc : Str} {body : Json}
    (hsame : Json.Same (createBody name grc) body) {order : List Api.CreateArgument}
    (horder : EvaluationOrder order) : Api.readCreate order body =
      if grc = [] then .error (Api.invalid "grc must be a non-empty string")
      else .ok ⟨name, grc, none⟩ := by
  have hgrcMember : body.member (str "grc") = some (.str grc) := Json.same_member_str hsame rfl
  have hnameMember : body.member (str "name") = some (.str name) := Json.same_member_str hsame rfl
  have hidMember : body.member (str "scheduler_id") = none := Json.same_member_none hsame rfl rfl
  have hname : Api.getOptionalName body = .ok name := by simp [Api.getOptionalName, hnameMember]
  have hid : Api.getOptionalSchedulerId body = .ok none := by
    simp [Api.getOptionalSchedulerId, hidMember]
  split
  · rename_i hempty
    have hgrc : Api.getRequiredGrc body =
        .error (Api.invalid "grc must be a non-empty string") := by
      simp [Api.getRequiredGrc, hgrcMember, hempty]
    cases hread : Api.readCreate order body with
    | ok request =>
      have hok := ((Api.readCreate_ok_iff horder).1 hread).2.1
      rw [hgrc] at hok
      cases hok
    | error e =>
      -- only the graph can have thrown
      obtain ⟨a, ha⟩ := Api.readCreate_refused horder hread
      cases a with
      | name => simp [Api.CreateArgument.thrown, hname, Api.thrownBy] at ha
      | schedulerId => simp [Api.CreateArgument.thrown, hid, Api.thrownBy] at ha
      | grc =>
        simp only [Api.CreateArgument.thrown, hgrc, Api.thrownBy, Option.some.injEq] at ha
        rw [ha]
  · rename_i hne
    have hgrc : Api.getRequiredGrc body = .ok grc := by
      simp [Api.getRequiredGrc, hgrcMember, hne]
    exact (Api.readCreate_ok_iff horder).2 ⟨hname, hgrc, hid⟩

/-- **What is created is what was given.** The CLI sends a creation exactly
when the file can be read and the graph and the name are UTF-8; the server
then reads the name, the graph and no scheduler, in whatever order it reads
them, and refuses an empty graph. -/
theorem create_read_back (ht : t.Lawful) (hw : w.Uses t) (filePath name : Str)
    {order : List Api.CreateArgument} (horder : EvaluationOrder order) :
    ((∃ request, (Command.create filePath name).request w = .ok request) ↔
      ∃ grc, w.readFile filePath = some grc ∧ Utf8.valid grc = true ∧ Utf8.valid name = true) ∧
    ∀ request grc, (Command.create filePath name).request w = .ok request →
      w.readFile filePath = some grc → ∃ payload body, request.body = some payload ∧
        Api.parseJsonBody t payload = .ok body ∧ Api.readCreate order body =
          if grc = [] then .error (Api.invalid "grc must be a non-empty string")
          else .ok ⟨name, grc, none⟩ := by
  have hdumps : ∀ grc, (∃ payload, w.dump (createBody name grc) = .ok payload) ↔
      Utf8.valid grc = true ∧ Utf8.valid name = true := by
    intro grc
    have hlib := ht.dumps ⟨_, createBody_keys name grc⟩
    simp only [createBody_badText, ← hw.dumps] at hlib
    simpa using hlib
  refine ⟨⟨?_, ?_⟩, ?_⟩
  · rintro ⟨request, hrequest⟩
    obtain ⟨grc, payload, hgrc, hpayload, -⟩ := create_request hrequest
    exact ⟨grc, hgrc, (hdumps grc).1 ⟨payload, hpayload⟩⟩
  · rintro ⟨grc, hgrc, hvalid⟩
    obtain ⟨payload, hpayload⟩ := (hdumps grc).2 hvalid
    refine ⟨⟨str "POST", str "/sessions", some payload⟩, ?_⟩
    simp only [createBody] at hpayload
    simp only [Command.request, hgrc, hpayload]
  · intro request grc hrequest hgrc
    obtain ⟨grc', payload, hgrc', hpayload, rfl⟩ := create_request hrequest
    obtain rfl : grc = grc' := Option.some.inj (hgrc.symm.trans hgrc')
    have hwritten := (hw.dumps ⟨_, createBody_keys name grc⟩ payload).1 hpayload
    obtain ⟨value, hvalue, hsame⟩ := ht.reads _ _ (createBody_textless name grc) hwritten
    refine ⟨payload, value.json, rfl, by simp [Api.parseJsonBody, hvalue], ?_⟩
    exact readCreate_of_same hsame horder

/-- The library's text of the body of a creation. -/
def demoText : Str := str "\x7b\"grc\":\"blocks:\",\"name\":\"demo\"\x7d"

noncomputable def demoJson : JsonText :=
  conformingJson demoText ⟨_, createBody_keys (str "demo") (str "blocks:")⟩
    ⟨_, createBody_keys (str "demo") (str "blocks:")⟩

theorem demoJson_conforms : demoJson.Conforms :=
  conformingJson_conforms (c := chr '\x7b') (by decide +kernel) (by decide) (by decide)
    (Json.same_refl _ (createBody_keys _ _))

theorem demoJson_dump :
    demoJson.dump ⟨_, createBody_keys (str "demo") (str "blocks:")⟩ = some demoText := by
  have hbad : (createBody (str "demo") (str "blocks:")).any Json.badText = false := by
    decide +kernel
  simp only [demoJson, conformingJson, hbad, Bool.false_eq_true, if_false]
  rw [nulled_of_textless (createBody_textless _ _), if_pos rfl]

theorem demo_created : ∃ body,
    Api.parseJsonBody demoJson demoText = .ok body ∧
      Api.readCreate [.schedulerId, .grc, .name] body =
        .ok ⟨str "demo", str "blocks:", none⟩ := by
  have horder : EvaluationOrder [.schedulerId, .grc, .name] := by decide
  have hback := create_read_back demoJson_conforms.toLawful
    (worldWith_uses demoJson (str "blocks:") none) (str "demo.grc") (str "demo") horder
  obtain ⟨request, hrequest⟩ := hback.1.2 ⟨str "blocks:", rfl, by decide, by decide⟩
  obtain ⟨payload, body, hpayload, hparse, hread⟩ := hback.2 request (str "blocks:") hrequest rfl
  obtain ⟨grc, payload', hfile, hwritten, rfl⟩ := create_request hrequest
  obtain rfl : str "blocks:" = grc := Option.some.inj hfile
  obtain rfl : payload' = payload := Option.some.inj hpayload
  have hdump := ((worldWith_uses demoJson (str "blocks:") none).dumps
    ⟨_, createBody_keys (str "demo") (str "blocks:")⟩ payload').1 hwritten
  obtain rfl : demoText = payload' := Option.some.inj (demoJson_dump.symm.trans hdump)
  exact ⟨body, hparse, hread⟩

/-! ## Replies -/

/-- What the server sends of a reply. -/
structure SentAs (t : JsonText) (reply : Api.Reply) (response : Response) : Prop where
  status : reply.status = some response.status
  body : ∃ value : JsonValue, reply.content = some value.json ∧ t.dump value = some response.body

/-- What was sent is read back. -/
theorem SentAs.reads (ht : t.Conforms) (hw : w.Uses t) {reply : Api.Reply} {response : Response}
    (h : SentAs t reply response) {content : Json} (hcontent : reply.content = some content)
    (htext : content.any Json.textless = false) :
    response.body ≠ [] ∧ ∃ body, w.parse response.body = .ok body ∧ Json.Same content body := by
  obtain ⟨value, hvalue, hdump⟩ := h.body
  obtain rfl : value.json = content := Option.some.inj (hvalue.symm.trans hcontent)
  obtain ⟨value', hparse, hsame⟩ := ht.reads value _ htext hdump
  refine ⟨fun hempty => ?_, value'.json, hw.parses _ _ hparse, hsame⟩
  rw [hempty, ht.empty] at hparse
  cases hparse

/-- An error object is recognised. -/
theorem findErrorMessage_eq {response : Response} {body : Json} {code message : Str}
    (hne : response.body ≠ []) (hparse : w.parse response.body = .ok body)
    (hsame : Json.Same (Api.Reply.errorObject ⟨response.status, code, message⟩) body) :
    findErrorMessage w response = .ok (some (code ++ str ": " ++ message)) := by
  have hmember : (Api.Reply.errorObject ⟨response.status, code, message⟩).member (str "error") =
      some (.obj [(str "code", .str code), (str "message", .str message)]) := rfl
  obtain ⟨error, herror, hobj⟩ := Json.same_member_some hsame hmember
  have hcode : error.member (str "code") = some (.str code) := Json.same_member_str hobj rfl
  have hmessage : error.member (str "message") = some (.str message) :=
    Json.same_member_str hobj rfl
  have hbody : response.body.isEmpty = false := by simpa using hne
  simp only [findErrorMessage, hbody, hparse, herror, hcode, hmessage, Bool.false_eq_true, if_false]

/-- A status that no command takes for a success. -/
theorem output_failed {response : Response} {command : Command}
    (hstatus : ¬ (200 ≤ response.status ∧ response.status < 300)) :
    command.output w (some response) = .error (failedReply w response) := by
  have hcontent : response.status ≠ 204 := by omega
  unfold Command.output
  cases command with
  | session command id => cases command <;> simp [requireResponse, replyNoContent, replyJson, *]
  | _ => simp [requireResponse, replyJson, hstatus]

/-- No class of exceptions is answered as a success. -/
theorem assigned_fails (raised : Api.Raised) :
    ¬ (200 ≤ (Api.assigned raised).1 ∧ (Api.assigned raised).1 < 300) := by
  cases raised with
  | service error =>
    obtain ⟨kind, what⟩ := error
    cases kind <;> simp [Api.assigned]
  | _ => simp [Api.assigned]

/-- There is no NUL in what is shown. -/
theorem shown_no_nul (raised : Api.Raised) :
    0 ∉ (Api.assigned raised).2 ++ str ": " ++
      (Api.quoted raised).getD (str "internal server error") := by
  have hcodes : ∀ code ∈ [str "validation_error", str "not_found", str "invalid_state",
      str "timeout", str "runtime_error", str "scheduler_catalog_error", str "catalog_error",
      str "internal_error"], 0 ∉ code := by decide
  have hcode : 0 ∉ (Api.assigned raised).2 := by
    refine hcodes _ ?_
    cases raised with
    | service error =>
      obtain ⟨kind, what⟩ := error
      cases kind <;> simp [Api.assigned]
    | _ => simp [Api.assigned]
  have hcolon : 0 ∉ str ": " := by decide
  have hquoted : 0 ∉ (Api.quoted raised).getD (str "internal server error") := by
    have hinternal : 0 ∉ str "internal server error" := by decide
    cases raised with
    | service error =>
      obtain ⟨kind, what⟩ := error
      cases kind <;> first | exact nul_not_mem_cString _ | exact hinternal
    | schedulerCatalogLoad what => exact nul_not_mem_cString _
    | catalogLoad what => exact nul_not_mem_cString _
    | _ => exact hinternal
  simp only [List.mem_append, not_or]
  exact ⟨⟨hcode, hcolon⟩, hquoted⟩

/-- **Errors reach the user.** Whatever a route throws and whatever command
asked: if the text its class quotes is UTF-8, the CLI prints the code of the
class and that text, and fails. -/
theorem error_shown (ht : t.Conforms) (hw : w.Uses t) {action : Api.Reply.Action}
    {reply : Api.Reply} {raised : Api.Raised} (hthrown : (action reply).1 = .error raised)
    (hquoted : ∀ what, Api.quoted raised = some what → Utf8.valid what = true)
    {response : Response} (hsent : SentAs t (reply.execute action).2 response)
    {client : ParsedUrl} {command : Command} {request : Request}
    (hrequest : command.request w = .ok request)
    (hexchange : w.exchange client request = some response) :
    runCommand w client command =
      { exitCode := 1
        err := (Api.assigned raised).2 ++ str ": " ++
          (Api.quoted raised).getD (str "internal server error") ++ str "\n"
        requests := [⟨client, request⟩] } := by
  have hanswered := (Api.execute_iff hthrown).2 hquoted
  have hstatus : response.status = (Api.assigned raised).1 :=
    Option.some.inj (hsent.status.symm.trans hanswered.status)
  obtain ⟨hne, body, hparse, hsame⟩ := hsent.reads ht hw hanswered.content rfl
  have hmessage : findErrorMessage w response = .ok (some ((Api.assigned raised).2 ++ str ": " ++
      (Api.quoted raised).getD (str "internal server error"))) :=
    findErrorMessage_eq hne hparse hsame
  have hfails : ¬ (200 ≤ response.status ∧ response.status < 300) :=
    hstatus ▸ assigned_fails raised
  simp only [runCommand, hrequest, hexchange, output_failed hfails, failedReply, hmessage, caught,
    Thrown.what, cString_eq_self (shown_no_nul raised)]

/-- What `GET /sessions/{id}` throws for a session that is not stored. -/
def missingSession : Api.Raised := .service ⟨.notFound, str "session not found: sess_7"⟩

def throwing (raised : Api.Raised) : Api.Reply.Action := fun reply => (.error raised, reply)

def missingObject : JsonValue where
  json := Api.Reply.errorObject (Api.raisedDetails missingSession)
  keys := by decide +kernel

/-- The library's text of the error object. -/
def missingText : Str :=
  str "\x7b\"error\":\x7b\"code\":\"not_found\"," ++
  str "\"message\":\"session not found: sess_7\"\x7d\x7d"

theorem missing_shown :
    runCommand (worldWith (conformingJson missingText missingObject missingObject) []
        (some ⟨404, missingText⟩)) { host := str "localhost", port := 8080 } (.session .get (str "sess_7")) =
      { exitCode := 1
        err := str "not_found: session not found: sess_7\n"
        requests := [⟨{ host := str "localhost", port := 8080 }, ⟨str "GET", str "/sessions/sess_7", none⟩⟩] } := by
  have hconforms : (conformingJson missingText missingObject missingObject).Conforms :=
    conformingJson_conforms (c := chr '\x7b') (by decide +kernel) (by decide) (by decide)
      (Json.same_refl _ missingObject.keys)
  have hdump : (conformingJson missingText missingObject missingObject).dump missingObject =
      some missingText := by
    have hbad : missingObject.json.any Json.badText = false := by decide +kernel
    simp only [conformingJson, hbad, Bool.false_eq_true, if_false]
    rw [nulled_of_textless (by decide +kernel), if_pos rfl]
  have hthrown : (throwing missingSession {}).1 = .error missingSession := rfl
  refine (error_shown hconforms (worldWith_uses _ _ _) hthrown ?_
    ⟨rfl, missingObject, rfl, hdump⟩ rfl rfl).trans ?_
  · intro what hwhat
    obtain rfl := Option.some.inj hwhat
    decide +kernel
  · rfl

end Library

end Gr4cp.Cli

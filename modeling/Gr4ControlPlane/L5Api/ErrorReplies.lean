import Gr4ControlPlane.L3Catalog.BlockReflection
import Gr4ControlPlane.L4App.BlockCatalogService
import Gr4ControlPlane.L5Api.SessionRoutes

/-!
# Error replies (`execute`, `api/http_server.cpp`)

A route runs its action under `execute`, which catches everything and
answers with an error object. The object is built and dumped inside the
handler, from a message that may quote the client's bytes; the writer throws
on bytes that are not UTF-8, and nothing catches that throw.

* `execute_refines`: for what the session routes throw, this is the
  `execute` of `SessionRoutes`, which leaves out what was written before a
  throw.
* `error_reply_iff`: an exception is answered with the status and code of
  its class exactly when the text its class quotes is UTF-8; for an unknown
  block, when the id is, up to the first NUL in it.
-/
namespace Gr4cp.Api

open Gr4cp.Core Gr4cp.Domain Gr4cp.Runtime Gr4cp.App Gr4cp.Catalog

/-! ## Exceptions -/

/-- The exceptions `current_error_details` tells apart. -/
inductive Raised where
  /-- `ValidationError`, `NotFoundError`, `InvalidStateError`,
  `RuntimeError`, `TimeoutError`; the kind `repository` is none of them -/
  | service (error : ServiceError)
  | schedulerCatalogLoad (what : Str)
  | catalogLoad (what : Str)
  /-- any other `std::exception` -/
  | std
  | other

/-- mirrors src/api/http_server.cpp:323-345 -/
def raisedDetails : Raised → ErrorDetails
  | .service error => currentErrorDetails error
  | .schedulerCatalogLoad what => ⟨500, str "scheduler_catalog_error", cString what⟩
  | .catalogLoad what => ⟨500, str "catalog_error", cString what⟩
  | .std | .other => ⟨500, str "internal_error", str "internal server error"⟩

/-- The status and the code of an exception's class. -/
def assigned : Raised → Nat × Str
  | .service ⟨.validation, _⟩ => (400, str "validation_error")
  | .service ⟨.notFound, _⟩ => (404, str "not_found")
  | .service ⟨.invalidState, _⟩ => (409, str "invalid_state")
  | .service ⟨.timeout, _⟩ => (504, str "timeout")
  | .service ⟨.runtime, _⟩ => (500, str "runtime_error")
  | .schedulerCatalogLoad _ => (500, str "scheduler_catalog_error")
  | .catalogLoad _ => (500, str "catalog_error")
  | .service ⟨.repository, _⟩ | .std | .other => (500, str "internal_error")

/-- The text of the exception, for the classes whose handler quotes it. -/
def quoted : Raised → Option Str
  | .service ⟨.repository, _⟩ | .std | .other => none
  | .service error => some (cString error.what)
  | .schedulerCatalogLoad what | .catalogLoad what => some (cString what)

theorem raisedDetails_eq (raised : Raised) :
    raisedDetails raised = ⟨(assigned raised).1, (assigned raised).2,
      (quoted raised).getD (str "internal server error")⟩ := by
  cases raised with
  | service error =>
    obtain ⟨kind, what⟩ := error
    cases kind <;> rfl
  | schedulerCatalogLoad what => rfl
  | catalogLoad what => rfl
  | std => rfl
  | other => rfl

theorem raisedDetails_code (raised : Raised) :
    Utf8.valid (raisedDetails raised).code = true := by
  cases raised with
  | service error => exact currentErrorDetails_code error
  | schedulerCatalogLoad what => rfl
  | catalogLoad what => rfl
  | std => rfl
  | other => rfl

/-! ## The handler -/

/-- What has been written of a response. -/
structure Reply where
  status : Option Nat := none
  content : Option Json := none

namespace Reply

/-- The status is set before the body is dumped.
mirrors src/api/http_server.cpp:212-215 -/
def setJsonResponse (reply : Reply) (body : Json) (status : Nat) : Except Thrown Unit × Reply :=
  if body.any isUnprintable then (.error .invalidUtf8, { reply with status := some status })
  else (.ok (), { status := some status, content := some body })

def errorObject (details : ErrorDetails) : Json :=
  .obj [(str "error", .obj [(str "code", .str details.code),
    (str "message", .str details.message)])]

/-- mirrors src/api/http_server.cpp:217-222 -/
def setErrorResponse (reply : Reply) (details : ErrorDetails) : Except Thrown Unit × Reply :=
  reply.setJsonResponse (errorObject details) details.status

/-- mirrors src/api/http_server.cpp:347-350 -/
def handleException (reply : Reply) (raised : Raised) : Except Thrown Unit × Reply :=
  reply.setErrorResponse (raisedDetails raised)

/-- What a route does: it writes to the response, and may throw. -/
abbrev Action := Reply → Except Raised Unit × Reply

/-- mirrors src/api/http_server.cpp:352-359 -/
def execute (reply : Reply) (action : Action) : Except Thrown Unit × Reply :=
  match action reply with
  | (.ok _, reply) => (.ok (), reply)
  | (.error raised, reply) => reply.handleException raised

end Reply

/-- What the session routes throw, among all exceptions. -/
def Failure.raised : Failure → Raised
  | .service error => .service error
  | .other => .std

/-- A route of `SessionRoutes`, writing its response at its end. -/
def routeAction (route : Except Failure Response) : Reply.Action := fun reply =>
  match route with
  | .ok response => (.ok (), { status := some response.status, content := some response.body })
  | .error failure => (.error failure.raised, reply)

theorem details_raised (failure : Failure) :
    raisedDetails failure.raised = failureDetails failure := by
  cases failure with
  | service error => rfl
  | other => rfl

/-- The outcome is the response, or the throw, of `SessionRoutes`. -/
def Shows (outcome : Except Thrown Unit × Reply) : Except Thrown Response → Prop
  | .ok response =>
    outcome = (.ok (), { status := some response.status, content := some response.body })
  | .error thrown => outcome.1 = .error thrown

theorem setJsonResponse_shows (reply : Reply) (body : Json) (status : Nat) :
    Shows (reply.setJsonResponse body status) (setJsonResponse body status) := by
  unfold Reply.setJsonResponse setJsonResponse
  cases body.any isUnprintable with
  | true => rfl
  | false => rfl

/-- The two accounts of `execute` agree. -/
theorem execute_refines (route : Except Failure Response) (reply : Reply) :
    Shows (reply.execute (routeAction route)) (execute route) := by
  cases route with
  | ok response => rfl
  | error failure =>
    show Shows (reply.handleException failure.raised) (handleException failure)
    unfold Reply.handleException handleException
    rw [details_raised]
    exact setJsonResponse_shows _ _ _

/-! ## Answers -/

/-- `execute` has returned, and left the error object of the exception. -/
structure AnsweredFor (raised : Raised) (outcome : Except Thrown Unit × Reply) : Prop where
  returns : outcome.1 = .ok ()
  status : outcome.2.status = some (assigned raised).1
  content : outcome.2.content = some (.obj [(str "error", .obj
    [(str "code", .str (assigned raised).2),
      (str "message", .str ((quoted raised).getD (str "internal server error")))])])

theorem errorObject_printable {details : ErrorDetails} (hcode : Utf8.valid details.code = true) :
    (Reply.errorObject details).any isUnprintable = !Utf8.valid details.message := by
  have hkeys : Utf8.valid (str "error") = true ∧ Utf8.valid (str "code") = true ∧
      Utf8.valid (str "message") = true := by decide
  obtain ⟨herror, hkey, hmessage⟩ := hkeys
  simp only [Reply.errorObject, any_obj, List.any_cons, List.any_nil, herror, hkey, hmessage]
  simp [Json.any, isUnprintable, hcode]

/-- The handler of an exception. -/
theorem handleException_iff (reply : Reply) (raised : Raised) :
    AnsweredFor raised (reply.handleException raised) ↔
      ∀ what, quoted raised = some what → Utf8.valid what = true := by
  have hprints := errorObject_printable (raisedDetails_code raised)
  have hmessage : Utf8.valid (raisedDetails raised).message = true ↔
      ∀ what, quoted raised = some what → Utf8.valid what = true := by
    rw [raisedDetails_eq]
    cases quoted raised with
    | none => simpa using (by decide : Utf8.valid (str "internal server error") = true)
    | some what => simp
  rw [← hmessage]
  unfold Reply.handleException Reply.setErrorResponse Reply.setJsonResponse
  rw [hprints]
  cases hvalid : Utf8.valid (raisedDetails raised).message with
  | true =>
    refine iff_of_true ⟨rfl, ?_, ?_⟩ rfl
    · rw [raisedDetails_eq]
      rfl
    · rw [raisedDetails_eq]
      rfl
  | false => exact iff_of_false (fun h => by cases h.returns) (by decide)

/-! ## Blocks -/

/-- mirrors src/api/http_server.cpp:88-123 -/
def blockParameterToJson (parameter : BlockParameterDescriptor) : Json :=
  .ofFields (parameterFields (str "default") parameter)

/-- mirrors src/api/http_server.cpp:125-150 -/
def blockToJson (block : BlockDescriptor) : Json :=
  .ofFields (blockFields blockParameterToJson block)

/-- `GET /blocks/{raw}`; `raise` is the exception the provider throws.
mirrors src/api/http_server.cpp:400-407 -/
def getBlock (raise : ProviderExn → Raised) (s : BlockCatalogService)
    (provided : Except ProviderExn (List BlockDescriptor)) (raw : Str) : Reply.Action := fun reply =>
  match decodePercentEncoded raw with
  | .error _ => (.error .std, reply)
  | .ok id =>
    match (s.get provided id).1 with
    | .error (.provider e) => (.error (raise e), reply)
    | .error (.service e) => (.error (.service e), reply)
    | .ok block =>
      match reply.setJsonResponse (blockToJson block) 200 with
      | (.error _, reply) => (.error .std, reply)
      | (.ok _, reply) => (.ok (), reply)

/-- What `GET /blocks/{raw}` throws when the catalog has no such block. -/
theorem getBlock_unknown {s : BlockCatalogService} {provided : Except ProviderExn (List BlockDescriptor)}
    {catalog : CachedCatalog} {raw id : Str} (hraw : decodePercentEncoded raw = .ok id)
    (hcatalog : (s.catalog provided).1 = .ok catalog) (hid : catalog.exactBlocks.lookup id = none)
    (raise : ProviderExn → Raised) (reply : Reply) :
    getBlock raise s provided raw reply =
      (.error (.service ⟨.notFound, str "block not found: " ++ id⟩), reply) := by
  have hget : (s.get provided id).1 =
      .error (.service ⟨.notFound, str "block not found: " ++ id⟩) := by
    unfold BlockCatalogService.get
    generalize s.catalog provided = result at hcatalog
    obtain ⟨found, s'⟩ := result
    dsimp only at hcatalog
    subst hcatalog
    simp only [hid]
  unfold getBlock
  simp only [hraw, hget]

theorem execute_iff {action : Reply.Action} {reply : Reply} {raised : Raised}
    (h : (action reply).1 = .error raised) :
    AnsweredFor raised (reply.execute action) ↔
      ∀ what, quoted raised = some what → Utf8.valid what = true := by
  have hrun : reply.execute action = (action reply).2.handleException raised := by
    unfold Reply.execute
    generalize action reply = outcome at h
    obtain ⟨result, reply'⟩ := outcome
    dsimp only at h
    subst h
    rfl
  rw [hrun]
  exact handleException_iff _ _

/-- **Error replies, exactly.** Whatever a route throws is answered with the
status and code of its class if and only if the text its class quotes is
UTF-8; a request for a block the catalog does not have is answered with 404
if and only if its id is, up to the first NUL in it. -/
theorem error_reply_iff (reply : Reply) :
    (∀ (action : Reply.Action) (raised : Raised), (action reply).1 = .error raised →
      (AnsweredFor raised (reply.execute action) ↔
        ∀ what, quoted raised = some what → Utf8.valid what = true)) ∧
    ∀ (raise : ProviderExn → Raised) (s : BlockCatalogService)
      (provided : Except ProviderExn (List BlockDescriptor)) (catalog : CachedCatalog) (raw id : Str),
      decodePercentEncoded raw = .ok id →
        (s.catalog provided).1 = .ok catalog → catalog.exactBlocks.lookup id = none →
          (AnsweredFor (.service ⟨.notFound, str "block not found: " ++ id⟩)
            (reply.execute (getBlock raise s provided raw)) ↔ Utf8.valid (cString id) = true) := by
  refine ⟨fun action raised => execute_iff, ?_⟩
  intro raise s provided catalog raw id hraw hcatalog hid
  rw [execute_iff (congrArg Prod.fst (getBlock_unknown hraw hcatalog hid raise reply))]
  unfold quoted
  simp only [Option.some.injEq, forall_eq']
  rw [Utf8.valid_cString_plain_append (by decide)]

theorem catalog_of_none : (BlockCatalogService.empty.catalog (.ok [])).1 = .ok ⟨[], []⟩ := by
  have hbuild : buildCatalog [] = ⟨[], []⟩ := by
    simp [buildCatalog, scanCatalog, Ranking.sort]
  exact congrArg _ hbuild

/-- A provider that cannot load its plugins, and one that has no blocks. -/
theorem missing_block_answered :
    AnsweredFor (.catalogLoad (str "no plugins"))
        (Reply.execute {} (getBlock (fun _ => .catalogLoad (str "no plugins")) .empty
          (.error .other) (str "gr%3A%3Anone"))) ∧
      AnsweredFor (.service ⟨.notFound, str "block not found: " ++ str "gr::none"⟩)
        (Reply.execute {} (getBlock (fun _ => .other) .empty (.ok []) (str "gr%3A%3Anone"))) := by
  have hid : decodePercentEncoded (str "gr%3A%3Anone") = .ok (str "gr::none") := by
    decide +kernel
  constructor
  · refine ((error_reply_iff {}).1 _ _ ?_).2 ?_
    · unfold getBlock
      rw [hid]
      rfl
    · intro what hwhat
      obtain rfl := Option.some.inj hwhat
      decide
  · exact ((error_reply_iff {}).2 _ _ _ ⟨[], []⟩ _ _ hid catalog_of_none rfl).2 (by decide)

/-- The id is one byte that is not UTF-8: the reply has its status and no
body, and an exception leaves `execute`. -/
theorem unprintable_block_unanswered :
    let request := getBlock (fun _ => .other) .empty (.ok []) (str "%FF")
    (Reply.execute {} request).1 = .error .invalidUtf8 ∧
      (Reply.execute {} request).2 = { status := some 404 } ∧
      ¬ ∀ (action : Reply.Action) (reply : Reply) (raised : Raised),
        (action reply).1 = .error raised → AnsweredFor raised (reply.execute action) := by
  intro request
  have hid : decodePercentEncoded (str "%FF") = .ok [0xFF] := by decide +kernel
  have hraised : request {} =
      (.error (.service ⟨.notFound, str "block not found: " ++ [0xFF]⟩), {}) :=
    getBlock_unknown hid catalog_of_none rfl (fun _ => .other) {}
  have houtcome : Reply.execute {} request = (.error .invalidUtf8, { status := some 404 }) := by
    unfold Reply.execute
    rw [hraised]
    rfl
  rw [houtcome]
  refine ⟨rfl, rfl, fun h => ?_⟩
  have hanswered := h request {} _ (congrArg Prod.fst hraised)
  rw [houtcome] at hanswered
  cases hanswered.returns

end Gr4cp.Api

import Gr4ControlPlane.Core.Fields
import Gr4ControlPlane.L4App.FetchRetries
import Gr4ControlPlane.L5Api.ErrorReplies
import Gr4ControlPlane.L5Api.Routes

/-!
# The HTTP proxy (`HttpServer::Impl::proxy_http_request`, `api/http_server.cpp`)

The public server answers what is no websocket upgrade with what its internal
server answers on the same path. Some fields of the request are withheld, and
the answer is written anew: one value under each name, the fields that frame
the message set by the HTTP library (`Finishes`).

* `proxy_relays`: what the HTTP client is given of a request and what the
  browser reads of its answer; all fields come through exactly when no name
  stands twice.
* `websocket_route_answers`: a stream route reached without an upgrade is
  answered with 426 exactly when the client gets the handler's answer and the
  stream resolves, with 502 when it gets none, and never with 501.
* `http_stream_served`: when the client gets the handler's answer, a stream is
  answered with the reply of its endpoint exactly when one of twenty attempts
  brings one and those before it failed to connect; when it gets none, with
  502.
-/
namespace Gr4cp.Api

open Gr4cp.Core Gr4cp.Core.Fields Gr4cp.Domain Gr4cp.Runtime Gr4cp.App

/-! ## Messages -/

abbrev HttpFields := List (Str × Str)

/-- What names of fields are compared by. -/
def fieldKey (name : Str) : Str :=
  name.map fun c => if chr 'A' ≤ c && c ≤ chr 'Z' then c + 32 else c

/-- A request to the public server; no method is one that is not forwarded. -/
structure PublicRequest where
  method : Option Method
  target : Str
  fields : HttpFields
  body : Str
  version : Nat

/-- A request of the proxy; the content of a `POST`, with its type. -/
structure InternalRequest where
  method : Method
  path : Str
  headers : HttpFields
  content : Option (Str × Str)
  deriving DecidableEq, Repr

/-- An answer of the internal server, its fields in the order the container
gives them. -/
structure UpstreamResponse where
  status : Int
  headers : HttpFields
  body : Str
  deriving DecidableEq, Repr

/-- An answer of the public server. -/
structure PublicResponse where
  status : Int
  version : Nat
  fields : HttpFields
  body : Str
  deriving DecidableEq, Repr

/-! ## The proxy -/

/-- The fields that are not forwarded. -/
def withheld : List Str :=
  [str "host", str "connection", str "upgrade", str "content-length", str "accept-encoding"]

/-- mirrors src/api/http_server.cpp:565-577 -/
def toHttplibHeaders (fields : HttpFields) : HttpFields :=
  fields.filter fun field => !withheld.contains (fieldKey field.1)

/-- `keep_alive(false)` and `prepare_payload()` of the HTTP library. -/
abbrev Finish := PublicResponse → Except Thrown PublicResponse

/-- mirrors src/api/http_server.cpp:579-593 -/
def makeBeastResponse (finish : Finish) (upstream : UpstreamResponse) (version : Nat) :
    Except Thrown PublicResponse :=
  let kept := upstream.headers.filter fun field =>
    !(field.1 == str "Content-Length" || field.1 == str "Transfer-Encoding" ||
      field.1 == str "Connection")
  finish
    { status := upstream.status
      version := version
      fields := setAll fieldKey [] kept
      body := upstream.body }

/-- The request the proxy makes.
mirrors src/api/http_server.cpp:895-914 -/
def forwarded (method : Method) (r : PublicRequest) : InternalRequest :=
  let contentType := ((values fieldKey r.fields (str "Content-Type")).head?).getD []
  { method := method
    path := r.target
    headers := toHttplibHeaders r.fields
    content :=
      match method with
      | .get | .delete => none
      | .post => some (r.body, if contentType.isEmpty then str "application/json" else contentType) }

/-- `client` is what `httplib::Client` makes of a request: an answer, or the
text of its error.
mirrors src/api/http_server.cpp:888-943 -/
def proxyHttpRequest (finish : Finish) (client : InternalRequest → Except Str UpstreamResponse)
    (r : PublicRequest) : Except Thrown PublicResponse :=
  match r.method with
  | none =>
    finish ⟨405, r.version, [(str "Content-Type", str "text/plain")], str "method not allowed"⟩
  | some method =>
    match client (forwarded method r) with
    | .error error =>
      let message := str "failed to reach internal HTTP route: " ++ error
      match errorBody ⟨502, str "bad_gateway", message⟩ with
      | none => .error .invalidUtf8
      | some body =>
        finish ⟨502, r.version, [(str "Content-Type", str "application/json")], body⟩
    | .ok upstream => makeBeastResponse finish upstream r.version

/-! ## The HTTP library -/

/-- The fields that frame a message on its connection. -/
def framing : List Str := [str "connection", str "content-length", str "transfer-encoding"]

theorem ne_of_framing {name other : Str} (hname : fieldKey name ∉ framing)
    (hother : fieldKey other ∈ framing) : fieldKey other ≠ fieldKey name :=
  fun h => hname (h ▸ hother)

/-- A status whose message may have a body. -/
def carriesBody (status : Int) : Bool :=
  !(decide (100 ≤ status ∧ status < 200) || status == 204 || status == 304)

/-- What is documented of the two calls: a body where none may be is
refused, and only the framing is written. -/
structure Finishes (finish : Finish) : Prop where
  returns_iff : ∀ r, (∃ answer, finish r = .ok answer) ↔ carriesBody r.status = true ∨ r.body = []
  line : ∀ {r answer}, finish r = .ok answer →
    answer.status = r.status ∧ answer.version = r.version ∧ answer.body = r.body
  fields : ∀ {r answer}, finish r = .ok answer → ∀ name, fieldKey name ∉ framing →
    values fieldKey answer.fields name = values fieldKey r.fields name

/-- The two calls on a message of HTTP/1.1. -/
def closeAndMeasure (r : PublicResponse) : Except Thrown PublicResponse :=
  if !carriesBody r.status && !r.body.isEmpty then .error .invalidArgument
  else
    .ok
      { r with
        fields := setAll fieldKey
          (r.fields.filter fun field => fieldKey field.1 != str "transfer-encoding")
          [(str "Connection", str "close"), (str "Content-Length", natStr r.body.length)] }

theorem closeAndMeasure_finishes : Finishes closeAndMeasure where
  returns_iff r := by
    unfold closeAndMeasure
    cases carriesBody r.status <;> cases r.body <;> simp
  line {r answer} h := by
    unfold closeAndMeasure at h
    split at h
    · cases h
    · cases h
      exact ⟨rfl, rfl, rfl⟩
  fields {r answer} h name hname := by
    unfold closeAndMeasure at h
    split at h
    · cases h
    · cases h
      show values fieldKey (setAll fieldKey _ _) name = _
      rw [values_setAll, values_cons_of_ne fieldKey (ne_of_framing hname (by decide)),
        values_cons_of_ne fieldKey (ne_of_framing hname (by decide))]
      refine values_filter fieldKey ?_ r.fields
      intro field hfield
      rw [bne_iff_ne, hfield]
      have hne : fieldKey (str "transfer-encoding") ≠ fieldKey name :=
        ne_of_framing hname (by decide)
      exact hne.symm

/-! ## What comes through -/

/-- Under every name, what the proxy forwards. -/
theorem values_forwarded (method : Method) (r : PublicRequest) (name : Str) :
    values fieldKey (forwarded method r).headers name =
      if fieldKey name ∈ withheld then [] else values fieldKey r.fields name := by
  show values fieldKey (toHttplibHeaders r.fields) name = _
  unfold toHttplibHeaders
  split
  · rename_i h
    refine values_filter_none fieldKey ?_ r.fields
    intro field hfield
    simpa [hfield] using h
  · rename_i h
    refine values_filter fieldKey ?_ r.fields
    intro field hfield
    simpa [hfield] using h

/-- The answer of the internal server as the browser reads it: under each
name that does not frame the message, the last value. -/
structure RelayedAs (upstream : UpstreamResponse) (answer : PublicResponse) : Prop where
  status : answer.status = upstream.status
  body : answer.body = upstream.body
  fields : ∀ name, fieldKey name ∉ framing →
    values fieldKey answer.fields name =
      ((values fieldKey upstream.headers name).getLast?).toList

theorem makeBeastResponse_relays {finish : Finish} (hf : Finishes finish)
    (upstream : UpstreamResponse) (version : Nat) :
    ((∃ answer, makeBeastResponse finish upstream version = .ok answer) ↔
        carriesBody upstream.status = true ∨ upstream.body = []) ∧
      ∀ answer, makeBeastResponse finish upstream version = .ok answer →
        RelayedAs upstream answer := by
  unfold makeBeastResponse
  refine ⟨hf.returns_iff _, ?_⟩
  intro answer h
  obtain ⟨hstatus, -, hbody⟩ := hf.line h
  refine ⟨hstatus, hbody, ?_⟩
  intro name hname
  rw [hf.fields h name hname, values_setAll, values_filter]
  · cases (values fieldKey upstream.headers name).getLast? <;> rfl
  · -- the names that are left out are framing, in one spelling
    intro field hfield
    have hne : ∀ other, fieldKey other ∈ framing → field.1 ≠ other := by
      intro other hother heq
      exact ne_of_framing hname hother (heq ▸ hfield)
    simp only [Bool.not_eq_true', Bool.or_eq_false_iff, beq_eq_false_iff_ne]
    exact ⟨⟨hne _ (by decide), hne _ (by decide)⟩, hne _ (by decide)⟩

/-- Every field that does not frame the message has come through. -/
def KeepsFields (upstream : UpstreamResponse) (answer : PublicResponse) : Prop :=
  ∀ name, fieldKey name ∉ framing →
    values fieldKey answer.fields name = values fieldKey upstream.headers name

theorem keepsFields_iff {upstream : UpstreamResponse} {answer : PublicResponse}
    (h : RelayedAs upstream answer) :
    KeepsFields upstream answer ↔ ∀ name, fieldKey name ∉ framing →
      (values fieldKey upstream.headers name).length ≤ 1 := by
  unfold KeepsFields
  refine forall_congr' fun name => forall_congr' fun hname => ?_
  rw [h.fields name hname]
  cases values fieldKey upstream.headers name with
  | nil => simp
  | cons v vs =>
    cases vs with
    | nil => simp
    | cons v' vs => simp [List.getLast?_eq_some_getLast]

/-- The content type of a `POST`: the first one the request names, or that of
JSON where it names none or an empty one. -/
inductive PostType (r : PublicRequest) : Str → Prop
  | named {type : Str} (h : (values fieldKey r.fields (str "Content-Type")).head? = some type)
      (hne : type ≠ []) : PostType r type
  | json (h : ∀ type, (values fieldKey r.fields (str "Content-Type")).head? = some type → type = []) :
      PostType r (str "application/json")

theorem postType_of (r : PublicRequest) :
    let contentType := ((values fieldKey r.fields (str "Content-Type")).head?).getD []
    PostType r (if contentType.isEmpty then str "application/json" else contentType) := by
  intro contentType
  cases h : (values fieldKey r.fields (str "Content-Type")).head? with
  | none =>
    have hempty : contentType = [] := by simp [contentType, h]
    rw [hempty]
    exact .json fun type hsome => by rw [h] at hsome; cases hsome
  | some type =>
    have htype : contentType = type := by simp [contentType, h]
    rw [htype]
    cases type with
    | nil => exact .json fun type hsome => Option.some.inj (hsome.symm.trans h)
    | cons c type => exact .named h (List.cons_ne_nil c type)

/-- **The proxy is transparent, exactly.** For every request of a forwarded
method and every answer the client returns: the client is given the same
path, the body of a `POST` with its type, and under each name that is not
withheld the same values; an answer goes back exactly when it has no body where none may
be; the browser reads its status, its body and the last value of each name,
and so all fields exactly when no name stands twice. -/
theorem proxy_relays {finish : Finish} (hf : Finishes finish)
    (client : InternalRequest → Except Str UpstreamResponse) (r : PublicRequest) {method : Method}
    (hmethod : r.method = some method) {upstream : UpstreamResponse}
    (hclient : client (forwarded method r) = .ok upstream) :
    ((forwarded method r).path = r.target ∧
      (∀ name, values fieldKey (forwarded method r).headers name =
        if fieldKey name ∈ withheld then [] else values fieldKey r.fields name) ∧
      (method = .post → ∃ type, (forwarded method r).content = some (r.body, type) ∧
        PostType r type) ∧
      (method ≠ .post → (forwarded method r).content = none)) ∧
    ((∃ answer, proxyHttpRequest finish client r = .ok answer) ↔
      carriesBody upstream.status = true ∨ upstream.body = []) ∧
    ∀ answer, proxyHttpRequest finish client r = .ok answer →
      RelayedAs upstream answer ∧
        (KeepsFields upstream answer ↔ ∀ name, fieldKey name ∉ framing →
          (values fieldKey upstream.headers name).length ≤ 1) := by
  have hproxy : proxyHttpRequest finish client r = makeBeastResponse finish upstream r.version := by
    unfold proxyHttpRequest
    simp only [hmethod, hclient]
  obtain ⟨hreturns, hrelays⟩ := makeBeastResponse_relays hf upstream r.version
  rw [hproxy]
  refine ⟨⟨rfl, values_forwarded method r, ?_, ?_⟩, hreturns, ?_⟩
  · intro hpost
    subst hpost
    exact ⟨_, rfl, postType_of r⟩
  · intro hnot
    cases method with
    | post => exact absurd rfl hnot
    | get | delete => rfl
  · intro answer h
    exact ⟨hrelays answer h, keepsFields_iff (hrelays answer h)⟩

/-- A session is created, and the answer names its content type twice. -/
theorem created_relayed :
    let r : PublicRequest :=
      { method := some .post
        target := str "/sessions"
        fields := [(str "HOST", str "demo"), (str "accept", str "*/*")]
        body := str "\x7b\x7d"
        version := 11 }
    let upstream : UpstreamResponse :=
      { status := 201
        headers := [(str "Content-Type", str "text/plain"), (str "Connection", str "close"),
          (str "content-type", str "application/json")]
        body := str "\x7b\x7d" }
    proxyHttpRequest closeAndMeasure (fun _ => .ok upstream) r =
        .ok ⟨201, 11, [(str "content-type", str "application/json"),
          (str "Connection", str "close"), (str "Content-Length", str "2")], str "\x7b\x7d"⟩ ∧
      ¬ ∀ answer, proxyHttpRequest closeAndMeasure (fun _ => .ok upstream) r = .ok answer →
        KeepsFields upstream answer := by
  intro r upstream
  have hanswer : proxyHttpRequest closeAndMeasure (fun _ => .ok upstream) r =
      .ok ⟨201, 11, [(str "content-type", str "application/json"),
        (str "Connection", str "close"), (str "Content-Length", str "2")], str "\x7b\x7d"⟩ := by
    decide +kernel
  refine ⟨hanswer, fun hkeeps => ?_⟩
  have hmethod : r.method = some .post := rfl
  have hrelays := proxy_relays closeAndMeasure_finishes (fun _ => .ok upstream) r hmethod rfl
  have hsingle := (hrelays.2.2 _ hanswer).2.1 (hkeeps _ hanswer) (str "Content-Type") (by decide)
  exact absurd hsingle (by decide)

/-! ## The stream routes -/

/-- mirrors src/api/http_server.cpp:217-222,347-350 -/
def jsonReply (details : ErrorDetails) : Except Thrown UpstreamResponse :=
  match errorBody details with
  | none => .error .invalidUtf8
  | some body => .ok ⟨details.status, [(str "Content-Type", str "application/json")], body⟩

/-- mirrors src/api/http_server.cpp:234-239 -/
def isWebsocketUpgradeRequest (headers : HttpFields) : Bool :=
  let upgrade := ((values fieldKey headers (str "Upgrade")).head?).getD []
  let connection := ((values fieldKey headers (str "Connection")).head?).getD []
  upgrade == str "websocket" &&
    ((Str.find connection (str "Upgrade") 0).isSome ||
      (Str.find connection (str "upgrade") 0).isSome)

def upgradeRequired : UpstreamResponse where
  status := 426
  headers := [(str "Upgrade", str "websocket"), (str "Connection", str "Upgrade"),
    (str "Content-Type", str "text/plain")]
  body := []

/-- mirrors src/api/http_server.cpp:456-473 -/
def websocketStreamRoute (s : Service) (m : Manager) (headers : HttpFields)
    (sessionId streamId : Str) : Except Thrown UpstreamResponse :=
  match s.resolveWebsocketStream m.resolveWebsocketStream sessionId streamId with
  | .error error => jsonReply (currentErrorDetails error)
  | .ok _ =>
    if !isWebsocketUpgradeRequest headers then .ok upgradeRequired
    else
      jsonReply
        ⟨501, str "not_implemented",
          str "websocket proxy upgrade is not implemented on the current server stack"⟩

/-- mirrors src/api/http_server.cpp:229-232,446-454 -/
def httpStreamRoute (s : Service) (attempts : Nat → Attempt) (sessionId streamId : Str) :
    Except Thrown UpstreamResponse :=
  match (s.fetchHttpStream (fun k => (attempts k).fetch) sessionId streamId).1 with
  | .error error => jsonReply (currentErrorDetails error)
  | .ok response =>
    .ok ⟨response.status, [(str "Content-Type", response.contentType)], response.body⟩

/-- The internal server, for one request. -/
structure InternalServer where
  service : Service
  attempts : Nat → Attempt
  /-- what the HTTP library makes of a path -/
  httpPath : Str → Str
  /-- the fields the client adds to a request -/
  added : HttpFields
  /-- what the library answers when a handler throws -/
  failed : Thrown → UpstreamResponse
  /-- what the library answers by itself, if it does: to a request it cannot
  read or does not take, or that asks for a part -/
  byItself : InternalRequest → Option UpstreamResponse
  /-- the text of the client's error, when it does not connect in a second or
  reads nothing for 45 -/
  lost : InternalRequest → Option Str
  /-- the other routes, and no route -/
  other : InternalRequest → UpstreamResponse

/-- What a handler leaves, or the library answers for it. -/
def InternalServer.answer (i : InternalServer) : Except Thrown UpstreamResponse → UpstreamResponse
  | .ok response => response
  | .error thrown => i.failed thrown

/-- mirrors src/api/http_server.cpp:446-473 -/
def InternalServer.serve (i : InternalServer) (r : InternalRequest) : UpstreamResponse :=
  match i.byItself r with
  | some response => response
  | none =>
    match request i.httpPath r.method r.path with
    | some (.ok (.websocketStream, [sessionId, streamId])) =>
      i.answer (websocketStreamRoute i.service (i.attempts 0).runtime (i.added ++ r.headers)
        sessionId streamId)
    | some (.ok (.httpStream, [sessionId, streamId])) =>
      i.answer (httpStreamRoute i.service i.attempts sessionId streamId)
    | _ => i.other r

/-- The client asks for no upgrade of its own, a handler that throws is
answered with 500, the library sends none of the statuses below by itself, and
the texts of the client's errors can be printed. -/
structure InternalServer.Lawful (i : InternalServer) : Prop where
  added : values fieldKey i.added (str "Upgrade") = []
  failed : ∀ thrown, (i.failed thrown).status = 500
  byItself : ∀ q response, i.byItself q = some response → carriesBody response.status = true ∧
    response.status ≠ 426 ∧ response.status ≠ 501 ∧ response.status ≠ 502
  texts : ∀ q error, i.lost q = some error → Utf8.valid error = true

/-- The client gets what is served, or fails.
mirrors src/api/http_server.cpp:888-914 -/
def InternalServer.client (i : InternalServer) (q : InternalRequest) :
    Except Str UpstreamResponse :=
  match i.lost q with
  | some error => .error error
  | none => .ok (i.serve q)

/-- The answer of the public server. -/
def InternalServer.proxied (i : InternalServer) (finish : Finish) (r : PublicRequest) :
    Except Thrown PublicResponse :=
  proxyHttpRequest finish i.client r

theorem proxied_eq {finish : Finish} {i : InternalServer} {r : PublicRequest} {method : Method}
    (hmethod : r.method = some method) (hlost : i.lost (forwarded method r) = none) :
    i.proxied finish r = makeBeastResponse finish (i.serve (forwarded method r)) r.version := by
  unfold InternalServer.proxied proxyHttpRequest InternalServer.client
  simp only [hmethod, hlost]

/-- The browser reads that the internal server was not reached. -/
structure BadGateway (error : Str) (answer : PublicResponse) : Prop where
  status : answer.status = 502
  body : errorBody ⟨502, str "bad_gateway", str "failed to reach internal HTTP route: " ++ error⟩ =
    some answer.body
  type : values fieldKey answer.fields (str "Content-Type") = [str "application/json"]

theorem errorBody_of_valid {details : ErrorDetails} (hcode : Utf8.valid details.code = true)
    (hmessage : Utf8.valid details.message = true) : ∃ body, errorBody details = some body := by
  unfold errorBody dumpString
  simp only [hcode, hmessage, if_true]
  exact ⟨_, rfl⟩

/-- A client that fails is answered for. -/
theorem proxied_lost {finish : Finish} (hf : Finishes finish) {i : InternalServer} (hi : i.Lawful)
    {r : PublicRequest} {method : Method} (hmethod : r.method = some method) {error : Str}
    (hlost : i.lost (forwarded method r) = some error) :
    ∃ answer, i.proxied finish r = .ok answer ∧ BadGateway error answer := by
  obtain ⟨body, hbody⟩ : ∃ body, errorBody ⟨502, str "bad_gateway",
      str "failed to reach internal HTTP route: " ++ error⟩ = some body :=
    errorBody_of_valid (show Utf8.valid (str "bad_gateway") = true by decide) (by
      rw [Utf8.valid_ascii_append (by decide)]
      exact hi.texts _ _ hlost)
  have hproxied : i.proxied finish r =
      finish ⟨502, r.version, [(str "Content-Type", str "application/json")], body⟩ := by
    unfold InternalServer.proxied proxyHttpRequest InternalServer.client
    simp only [hmethod, hlost, hbody]
  obtain ⟨answer, hanswer⟩ := (hf.returns_iff
    ⟨502, r.version, [(str "Content-Type", str "application/json")], body⟩).2
    (.inl (show carriesBody 502 = true by decide))
  obtain ⟨hstatus, -, hsame⟩ := hf.line hanswer
  refine ⟨answer, hproxied.trans hanswer, hstatus, by rw [hbody, hsame], ?_⟩
  rw [hf.fields hanswer _ (by decide)]
  show values fieldKey [(str "Content-Type", str "application/json")] _ = _
  decide

/-- No request of the proxy asks for an upgrade. -/
theorem forwarded_not_upgrade {added : HttpFields}
    (hadded : values fieldKey added (str "Upgrade") = []) (method : Method) (r : PublicRequest) :
    isWebsocketUpgradeRequest (added ++ (forwarded method r).headers) = false := by
  have hnone : values fieldKey (forwarded method r).headers (str "Upgrade") = [] := by
    rw [values_forwarded, if_pos (by decide)]
  unfold isWebsocketUpgradeRequest
  rw [values_append, hadded, hnone]
  rfl

theorem jsonReply_status {details : ErrorDetails} {response : UpstreamResponse}
    (h : jsonReply details = .ok response) : response.status = details.status := by
  unfold jsonReply at h
  split at h
  · cases h
  · cases h
    rfl

/-- The statuses of errors. -/
theorem currentErrorDetails_status (error : ServiceError) :
    (currentErrorDetails error).status ∈ [400, 404, 409, 500, 504] := by
  obtain ⟨kind, what⟩ := error
  cases kind <;> simp [currentErrorDetails]

theorem error_carriesBody {status : Nat} (h : status ∈ [400, 404, 409, 500, 504]) :
    carriesBody status = true ∧ (status : Int) ≠ 426 ∧ (status : Int) ≠ 501 ∧
      (status : Int) ≠ 502 := by
  simp only [List.mem_cons, List.not_mem_nil, or_false] at h
  obtain rfl | rfl | rfl | rfl | rfl := h <;> decide

/-- What an error is answered with, whether its text can be written or
not. -/
theorem InternalServer.Lawful.error_status {i : InternalServer} (hi : i.Lawful)
    (error : ServiceError) :
    (i.answer (jsonReply (currentErrorDetails error))).status = 500 ∨
      (i.answer (jsonReply (currentErrorDetails error))).status =
        (currentErrorDetails error).status := by
  cases h : jsonReply (currentErrorDetails error) with
  | ok response => exact .inr (jsonReply_status h)
  | error thrown => exact .inl (hi.failed thrown)

theorem InternalServer.Lawful.error_plain {i : InternalServer} (hi : i.Lawful)
    (error : ServiceError) :
    let response := i.answer (jsonReply (currentErrorDetails error))
    carriesBody response.status = true ∧ response.status ≠ 426 ∧ response.status ≠ 501 ∧
      response.status ≠ 502 := by
  intro response
  obtain h | h := hi.error_status error
  · rw [show response.status = 500 from h]
    decide
  · rw [show response.status = _ from h]
    exact error_carriesBody (currentErrorDetails_status error)

/-- What is answered goes back, where it may have its body. -/
theorem proxied_relays {finish : Finish} (hf : Finishes finish) {i : InternalServer}
    {r : PublicRequest} {method : Method} (hmethod : r.method = some method)
    (hlost : i.lost (forwarded method r) = none)
    (h : carriesBody (i.serve (forwarded method r)).status = true ∨
      (i.serve (forwarded method r)).body = []) :
    ∃ answer, i.proxied finish r = .ok answer ∧ RelayedAs (i.serve (forwarded method r)) answer := by
  rw [proxied_eq hmethod hlost]
  obtain ⟨hreturns, hrelays⟩ :=
    makeBeastResponse_relays hf (i.serve (forwarded method r)) r.version
  obtain ⟨answer, hanswer⟩ := hreturns.2 h
  exact ⟨answer, hanswer, hrelays answer hanswer⟩

theorem proxied_plain {finish : Finish} (hf : Finishes finish) {i : InternalServer}
    {r : PublicRequest} {method : Method} (hmethod : r.method = some method)
    (hlost : i.lost (forwarded method r) = none)
    (hplain : carriesBody (i.serve (forwarded method r)).status = true ∧
      (i.serve (forwarded method r)).status ≠ 426 ∧ (i.serve (forwarded method r)).status ≠ 501 ∧
      (i.serve (forwarded method r)).status ≠ 502) :
    ∃ answer, i.proxied finish r = .ok answer ∧ answer.status ≠ 426 ∧ answer.status ≠ 501 ∧
      answer.status ≠ 502 := by
  obtain ⟨answer, hanswer, hrelay⟩ := proxied_relays hf hmethod hlost (.inl hplain.1)
  refine ⟨answer, hanswer, ?_⟩
  rw [hrelay.status]
  exact hplain.2

/-- The handler of the websocket route sees no upgrade. -/
theorem serve_websocket {i : InternalServer} (hi : i.Lawful) {r : PublicRequest}
    (hitself : i.byItself (forwarded .get r) = none) {sessionId streamId : Str}
    (hroute : request i.httpPath .get r.target =
      some (.ok (.websocketStream, [sessionId, streamId]))) :
    i.serve (forwarded .get r) = i.answer
      (match i.service.resolveWebsocketStream (i.attempts 0).runtime.resolveWebsocketStream
          sessionId streamId with
      | .error error => jsonReply (currentErrorDetails error)
      | .ok _ => .ok upgradeRequired) := by
  unfold InternalServer.serve
  rw [hitself, show (forwarded .get r).method = .get from rfl,
    show (forwarded .get r).path = r.target from rfl, hroute]
  dsimp only
  unfold websocketStreamRoute
  rw [forwarded_not_upgrade hi.added]
  rfl

theorem serve_http {i : InternalServer} {r : PublicRequest}
    (hitself : i.byItself (forwarded .get r) = none) {sessionId streamId : Str}
    (hroute : request i.httpPath .get r.target =
      some (.ok (.httpStream, [sessionId, streamId]))) :
    i.serve (forwarded .get r) =
      i.answer (httpStreamRoute i.service i.attempts sessionId streamId) := by
  unfold InternalServer.serve
  rw [hitself, show (forwarded .get r).method = .get from rfl,
    show (forwarded .get r).path = r.target from rfl, hroute]

/-- **A stream route without an upgrade.** Whatever the fields of the
request, a `GET` that is proxied to the websocket route is answered: with 426
and the protocol to upgrade to exactly when the client gets the answer, it is
not one the library gives by itself, and the stream resolves, with 502 exactly
when the client fails, and never with 501. -/
theorem websocket_route_answers {finish : Finish} (hf : Finishes finish) {i : InternalServer}
    (hi : i.Lawful) {r : PublicRequest} (hmethod : r.method = some .get)
    {sessionId streamId : Str}
    (hroute : request i.httpPath .get r.target =
      some (.ok (.websocketStream, [sessionId, streamId]))) :
    ∃ answer, i.proxied finish r = .ok answer ∧
      (answer.status = 426 ↔ i.lost (forwarded .get r) = none ∧
        i.byItself (forwarded .get r) = none ∧
        Resolves i.service (i.attempts 0).runtime sessionId streamId) ∧
      (answer.status = 426 → answer.body = [] ∧
        values fieldKey answer.fields (str "Upgrade") = [str "websocket"]) ∧
      (answer.status = 502 ↔ ∃ error, i.lost (forwarded .get r) = some error) ∧
      (∀ error, i.lost (forwarded .get r) = some error → BadGateway error answer) ∧
      answer.status ≠ 501 := by
  cases hlost : i.lost (forwarded .get r) with
  | some error =>
    obtain ⟨answer, hanswer, hgateway⟩ := proxied_lost hf hi hmethod hlost
    have hstatus := hgateway.status
    refine ⟨answer, hanswer, ?_, ?_, iff_of_true hstatus ⟨error, rfl⟩, ?_, ?_⟩
    · exact iff_of_false (by rw [hstatus]; decide) (fun h => by cases h.1)
    · intro h
      rw [hstatus] at h
      exact absurd h (by decide)
    · intro error' h
      obtain rfl := Option.some.inj h
      exact hgateway
    · rw [hstatus]
      decide
  | none =>
    have hreached : ¬∃ error, (none : Option Str) = some error := fun h => by
      obtain ⟨_, h⟩ := h
      cases h
    cases hitself : i.byItself (forwarded .get r) with
    | some response =>
      have hserve : i.serve (forwarded .get r) = response := by
        unfold InternalServer.serve
        rw [hitself]
      obtain ⟨answer, hanswer, h426, h501, h502⟩ :=
        proxied_plain hf hmethod hlost (hserve ▸ hi.byItself _ _ hitself)
      refine ⟨answer, hanswer, iff_of_false h426 ?_, fun h => absurd h h426,
        iff_of_false h502 hreached, nofun, h501⟩
      intro h
      cases h.2.1
    | none =>
      have hserve := serve_websocket hi hitself hroute
      obtain ⟨hresolves, route, hok⟩ | ⟨hnot, kind, what, herror, -, -⟩ :=
        resolve_cases i.service (i.attempts 0).runtime sessionId streamId
      · rw [hok] at hserve
        replace hserve : i.serve (forwarded .get r) = upgradeRequired := hserve
        obtain ⟨answer, hanswer, hrelay⟩ := proxied_relays hf hmethod hlost (.inr (by rw [hserve]; rfl))
        rw [hserve] at hrelay
        have hstatus : answer.status = 426 := hrelay.status
        have hupgrade : values fieldKey answer.fields (str "Upgrade") = [str "websocket"] := by
          rw [hrelay.fields _ (by decide)]
          decide
        refine ⟨answer, hanswer, iff_of_true hstatus ⟨rfl, rfl, hresolves⟩,
          fun _ => ⟨hrelay.body, hupgrade⟩, iff_of_false (by rw [hstatus]; decide) hreached, nofun,
          ?_⟩
        rw [hstatus]
        decide
      · rw [herror] at hserve
        obtain ⟨answer, hanswer, h426, h501, h502⟩ :=
          proxied_plain hf hmethod hlost (hserve ▸ hi.error_plain ⟨kind, what⟩)
        exact ⟨answer, hanswer, iff_of_false h426 fun h => hnot h.2.2, fun h => absurd h h426,
          iff_of_false h502 hreached, nofun, h501⟩

/-- The session of `sinkRunning`, with a runtime and its endpoints. -/
def sinkServer (runtime : Manager) (get : InternalStreamBinding → Option HttpReply) :
    InternalServer where
  service := sinkRunning.service
  attempts _ := ⟨runtime, get⟩
  httpPath := percentDecode
  added := [(str "Host", str "127.0.0.1:8080"), (str "Connection", str "close")]
  failed _ := ⟨500, [], []⟩
  byItself _ := none
  lost _ := none
  other _ := ⟨404, [], []⟩

theorem sinkServer_lawful (runtime : Manager) (get : InternalStreamBinding → Option HttpReply) :
    (sinkServer runtime get).Lawful where
  added := rfl
  failed _ := rfl
  byItself _ _ h := by cases h
  texts _ _ h := by cases h

/-- A request for a stream of this session, asking for an upgrade. -/
def sinkRequest (tail : String) : PublicRequest where
  method := some .get
  target := PathPattern.fill (withId (ofSession "/streams") tail) [firstId, str "spectrum"]
  fields := [(str "upgrade", str "websocket"), (str "Connection", str "Upgrade")]
  body := []
  version := 11

theorem sink_route_answers : ∃ answer,
    (sinkServer sinkRunning.runtime fun _ => none).proxied closeAndMeasure (sinkRequest "/ws") =
        .ok answer ∧ answer.status = 426 ∧
      Resolves sinkRunning.service sinkRunning.runtime firstId (str "spectrum") := by
  have hstatus : ((sinkServer sinkRunning.runtime fun _ => none).proxied closeAndMeasure
      (sinkRequest "/ws")).toOption.map (·.status) = some 426 := by decide +kernel
  have hroute : request percentDecode .get (sinkRequest "/ws").target =
      some (.ok (.websocketStream, [firstId, str "spectrum"])) := by decide +kernel
  obtain ⟨answer, hanswer, hresolves, -⟩ :=
    websocket_route_answers closeAndMeasure_finishes
      (sinkServer_lawful sinkRunning.runtime fun _ => none) (r := sinkRequest "/ws") rfl hroute
  rw [hanswer] at hstatus
  have h426 : answer.status = 426 := Option.some.inj hstatus
  have hfound := (hresolves.1 h426).2.2
  simp only [sinkServer] at hfound
  exact ⟨answer, hanswer, h426, hfound⟩

/-- The endpoint of the stream has answered at one of the attempts, after
failures to connect only. -/
def InternalServer.Brings (i : InternalServer) (session : Session) (streamId : Str)
    (reply : HttpReply) : Prop :=
  ∃ k < kTransientFetchRetries,
    (∃ internal, (i.attempts k).runtime.fetchTarget session streamId = .ok internal ∧
      (i.attempts k).get internal = some reply) ∧
    ∀ j < k, Transient ((i.attempts j).fetch session streamId)

/-- The type a reply is handed on with. -/
def replyType (reply : HttpReply) : Str :=
  if reply.contentType.isEmpty then str "application/octet-stream" else reply.contentType

theorem fetch_ok_iff (a : Attempt) (session : Session) (streamId : Str)
    (response : HttpStreamResponse) :
    a.fetch session streamId = .ok response ↔ ∃ reply,
      (∃ internal, a.runtime.fetchTarget session streamId = .ok internal ∧
        a.get internal = some reply) ∧
      response = ⟨reply.status, reply.body, replyType reply⟩ := by
  unfold Attempt.fetch Manager.fetchHttpStream
  cases a.runtime.fetchTarget session streamId with
  | error e => simp
  | ok internal =>
    have hone : ∀ reply, (∃ internal', Except.ok internal = (.ok internal' : Except Exn _) ∧
        a.get internal' = some reply) ↔ a.get internal = some reply := by
      intro reply
      simp
    simp only [hone]
    cases a.get internal with
    | none => simp
    | some reply =>
      simp only [Except.ok.injEq, Option.some.injEq, exists_eq_left']
      exact eq_comm

theorem fetched_iff {i : InternalServer} {sessionId streamId : Str} {session : Session}
    (hsession : i.service.runningSession sessionId = .ok session) (response : HttpStreamResponse) :
    (i.service.fetchHttpStream (fun k => (i.attempts k).fetch) sessionId streamId).1 =
        .ok response ↔
      ∃ reply, i.Brings session streamId reply ∧
        response = ⟨reply.status, reply.body, replyType reply⟩ := by
  unfold Service.fetchHttpStream
  rw [hsession]
  simp only
  rw [fetchAttempts_ok_iff]
  simp only [Nat.zero_add, fetch_ok_iff]
  constructor
  · intro h
    obtain ⟨k, hk, ⟨reply, hbrings, heq⟩, hbefore⟩ := h
    exact ⟨reply, ⟨k, hk, hbrings, hbefore⟩, heq⟩
  · intro h
    obtain ⟨reply, ⟨k, hk, hbrings, hbefore⟩, heq⟩ := h
    exact ⟨k, hk, ⟨reply, hbrings, heq⟩, hbefore⟩

/-- **A stream over HTTP, end to end.** For a session that runs and a `GET`
of its stream: when the client gets the answer, and not one that the library
gives by itself, what one of twenty attempts brings from the endpoint of the stream, those before it having failed to
connect, is what the browser reads, unless it has a body where none may be;
when none brings anything, the browser reads 500. When the client fails, as
it does when the attempts take longer than it waits, the browser reads 502. -/
theorem http_stream_served {finish : Finish} (hf : Finishes finish) {i : InternalServer}
    (hi : i.Lawful) {r : PublicRequest} (hmethod : r.method = some .get)
    {sessionId streamId : Str}
    (hroute : request i.httpPath .get r.target =
      some (.ok (.httpStream, [sessionId, streamId])))
    {session : Session} (hsession : i.service.runningSession sessionId = .ok session) :
    (i.lost (forwarded .get r) = none → i.byItself (forwarded .get r) = none →
      (∀ reply, i.Brings session streamId reply →
        ((∃ answer, i.proxied finish r = .ok answer) ↔
          carriesBody reply.status = true ∨ reply.body = []) ∧
        ∀ answer, i.proxied finish r = .ok answer →
          answer.status = reply.status ∧ answer.body = reply.body ∧
            values fieldKey answer.fields (str "Content-Type") = [replyType reply]) ∧
      ((∀ reply, ¬ i.Brings session streamId reply) →
        ∃ answer, i.proxied finish r = .ok answer ∧ answer.status = 500)) ∧
    ∀ error, i.lost (forwarded .get r) = some error →
      ∃ answer, i.proxied finish r = .ok answer ∧ BadGateway error answer := by
  refine ⟨fun hlost hitself => ?_, fun error hlost => proxied_lost hf hi hmethod hlost⟩
  rw [proxied_eq hmethod hlost]
  obtain ⟨hreturns, hrelays⟩ :=
    makeBeastResponse_relays hf (i.serve (forwarded .get r)) r.version
  have hserve := serve_http hitself hroute
  unfold httpStreamRoute at hserve
  constructor
  · intro reply hbrings
    rw [(fetched_iff hsession _).2 ⟨reply, hbrings, rfl⟩] at hserve
    rw [hserve] at hreturns hrelays ⊢
    refine ⟨hreturns, fun answer hanswer => ?_⟩
    have hrelay := hrelays answer hanswer
    refine ⟨hrelay.status, hrelay.body, ?_⟩
    rw [hrelay.fields _ (by decide)]
    show ((values fieldKey [(str "Content-Type", replyType reply)] _).getLast?).toList = _
    rw [values_cons_of_eq fieldKey rfl]
    rfl
  · intro hnone
    have hstatus : (i.serve (forwarded .get r)).status = 500 := by
      rw [hserve]
      cases hfetch : (i.service.fetchHttpStream (fun k => (i.attempts k).fetch) sessionId
          streamId).1 with
      | ok response =>
        obtain ⟨reply, hbrings, -⟩ := (fetched_iff hsession response).1 hfetch
        exact absurd hbrings (hnone reply)
      | error error =>
        have hkind : error.kind = .runtime := by
          unfold Service.fetchHttpStream at hfetch
          rw [hsession] at hfetch
          exact (fetchAttempts_spec _ sessionId 0 kTransientFetchRetries).1 error hfetch
        obtain h | h := hi.error_status error
        · exact h
        · refine h.trans ?_
          unfold currentErrorDetails
          rw [hkind]
          rfl
    obtain ⟨answer, hanswer⟩ := hreturns.2 (.inl (by rw [hstatus]; decide))
    exact ⟨answer, hanswer, (hrelays answer hanswer).status.trans hstatus⟩

/-- A runtime in which the stream goes over HTTP. -/
def snapshotRuntime : Manager :=
  let plan : RuntimeStreamBindingPlan :=
    ⟨str "spectrum", str "sink", str "http_poll", str "json", [], true⟩
  (Manager.empty.getOrCreateResources firstId).updateResources firstId fun r =>
    { r with
      lifecyclePhase := .running
      execution := some ⟨true, true⟩
      streamBindings := [⟨plan, httpBinding.on 40000, toBrowserStreamDescriptor plan⟩] }

/-- The endpoint answers with no content type. -/
theorem snapshot_served :
    let reply : HttpReply := ⟨200, str "[1,2]", []⟩
    ∀ answer, (sinkServer snapshotRuntime fun _ => some reply).proxied closeAndMeasure
        (sinkRequest "/http") = .ok answer →
      answer.status = 200 ∧ answer.body = str "[1,2]" ∧
        values fieldKey answer.fields (str "Content-Type") = [str "application/octet-stream"] := by
  intro reply
  have hsession : (sinkServer snapshotRuntime fun _ => some reply).service.runningSession
      firstId = .ok runningSink := by decide +kernel
  have hroute : request percentDecode .get (sinkRequest "/http").target =
      some (.ok (.httpStream, [firstId, str "spectrum"])) := by decide +kernel
  have hserved := http_stream_served closeAndMeasure_finishes
    (sinkServer_lawful snapshotRuntime fun _ => some reply) (r := sinkRequest "/http") rfl hroute
    hsession
  have hbrings : (sinkServer snapshotRuntime fun _ => some reply).Brings runningSink
      (str "spectrum") reply :=
    ⟨0, by decide, ⟨httpBinding.on 40000, by decide +kernel, rfl⟩,
      fun j hj => absurd hj (Nat.not_lt_zero j)⟩
  exact ((hserved.1 rfl rfl).1 reply hbrings).2

end Gr4cp.Api

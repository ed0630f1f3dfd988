import Gr4ControlPlane.Core.PathPattern
import Gr4ControlPlane.L3Runtime.PortSafety
import Gr4ControlPlane.L5Api.PercentEncoding
import Gr4ControlPlane.L5Api.WebSocketTarget

/-!
# The routes (`register_routes`, `api/http_server.cpp`)

The patterns of the internal server, in the order they are registered in, and
what a handler reads of the captures: a session id as it is, the id behind a
`(.+)` percent-decoded. The HTTP library has decoded the path once before it
looks for a route (`ReadsPath`), so such an id is decoded twice.

* `one_endpoint`: a path matches one pattern of its method at most, in one
  way, so the order of registration does not matter.
* `written_path_routes_iff`: the path a client writes for an endpoint and its
  ids is read back as these exactly when the session id is a word and the
  other id survives a second decoding.
* `advertised_path_routes_iff`: the path published for a stream leads to the
  handler of its transport exactly when the stream id holds no `+`.
-/
namespace Gr4cp.Api

open Gr4cp.Core Gr4cp.Core.PathPattern Gr4cp.Domain Gr4cp.Runtime Gr4cp.App

/-! ## The patterns -/

inductive Method where
  | get | post | delete
  deriving DecidableEq, Repr

inductive CharClass where
  /-- `[A-Za-z0-9_]` -/
  | word
  /-- `.`, which is no line terminator -/
  | any
  deriving DecidableEq, Repr

def isWord (c : UInt8) : Bool :=
  (chr 'A' ≤ c && c ≤ chr 'Z') || (chr 'a' ≤ c && c ≤ chr 'z') || (chr '0' ≤ c && c ≤ chr '9') ||
    c == chr '_'

def CharClass.mem : CharClass → UInt8 → Bool
  | .word, c => isWord c
  | .any, c => c != 0x0A && c != 0x0D

abbrev RoutePattern := Pattern UInt8 CharClass

/-- The handlers. -/
inductive Endpoint where
  | healthz
  | blocks
  | block
  | schedulers
  | scheduler
  | createSession
  | sessions
  | httpStream
  | websocketStream
  | session
  | removeSession
  | startSession
  | stopSession
  | restartSession
  | updateSettings
  | settings
  deriving DecidableEq, Repr

structure Registration where
  method : Method
  pattern : RoutePattern
  endpoint : Endpoint
  deriving DecidableEq

/-- `{path}/(.+){tail}` -/
def withId (path : RoutePattern) (tail : String) : RoutePattern :=
  path ++ [.char (chr '/'), .run .any] ++ literal (str tail)

/-- `/sessions/([A-Za-z0-9_]+){tail}` -/
def ofSession (tail : String) : RoutePattern :=
  literal (str "/sessions/") ++ [.run .word] ++ literal (str tail)

/-- mirrors src/api/http_server.cpp:384-538 -/
def registerRoutes : List Registration :=
  [⟨.get, literal (str "/healthz"), .healthz⟩,
    ⟨.get, literal (str "/blocks"), .blocks⟩,
    ⟨.get, withId (literal (str "/blocks")) "", .block⟩,
    ⟨.get, literal (str "/schedulers"), .schedulers⟩,
    ⟨.get, withId (literal (str "/schedulers")) "", .scheduler⟩,
    ⟨.post, literal (str "/sessions"), .createSession⟩,
    ⟨.get, literal (str "/sessions"), .sessions⟩,
    ⟨.get, withId (ofSession "/streams") "/http", .httpStream⟩,
    ⟨.get, withId (ofSession "/streams") "/ws", .websocketStream⟩,
    ⟨.get, ofSession "", .session⟩,
    ⟨.delete, ofSession "", .removeSession⟩,
    ⟨.post, ofSession "/start", .startSession⟩,
    ⟨.post, ofSession "/stop", .stopSession⟩,
    ⟨.post, ofSession "/restart", .restartSession⟩,
    ⟨.post, withId (ofSession "/blocks") "/settings", .updateSettings⟩,
    ⟨.get, withId (ofSession "/blocks") "/settings", .settings⟩]

/-! ## Routing a request -/

/-- The handlers of a method. -/
def handlersOf (method : Method) (registrations : List Registration) :
    List (RoutePattern × Endpoint) :=
  (registrations.filter fun r => r.method == method).map fun r => (r.pattern, r.endpoint)

/-- The first handler whose pattern matches, with the captures. -/
def dispatchIn (registrations : List Registration) (method : Method) (path : Str) :
    Option (Endpoint × List Str) :=
  route CharClass.mem (handlersOf method registrations) path

def dispatch (method : Method) (path : Str) : Option (Endpoint × List Str) :=
  dispatchIn registerRoutes method path

/-- The ids a handler reads of its captures. -/
def readIds : RoutePattern → List Str → Except Thrown (List Str)
  | .char _ :: p, caps => readIds p caps
  | .run .word :: p, cap :: caps => (readIds p caps).map (cap :: ·)
  | .run .any :: p, cap :: caps =>
    match decodePercentEncoded cap with
    | .error e => .error e
    | .ok id => (readIds p caps).map (id :: ·)
  | _, _ => .ok []

def patternOf (endpoint : Endpoint) : RoutePattern :=
  ((registerRoutes.find? fun r => r.endpoint == endpoint).map (·.pattern)).getD []

/-- The handler that answers a request, and the ids it reads; `httpPath` is
what the HTTP library makes of the path in the request. -/
def request (httpPath : Str → Str) (method : Method) (path : Str) :
    Option (Except Thrown (Endpoint × List Str)) :=
  (dispatch method (httpPath path)).map fun found =>
    (readIds (patternOf found.1) found.2).map fun ids => (found.1, ids)

/-! ## The table -/

/-- Each endpoint has one registration. -/
theorem patternOf_eq : ∀ r ∈ registerRoutes, patternOf r.endpoint = r.pattern := by
  decide +kernel

theorem pattern_unique {method method' : Method} {p p' : RoutePattern} {endpoint : Endpoint}
    (h : ⟨method, p, endpoint⟩ ∈ registerRoutes) (h' : ⟨method', p', endpoint⟩ ∈ registerRoutes) :
    p = p' :=
  (patternOf_eq _ h).symm.trans (patternOf_eq _ h')

theorem handlersOf_unambiguous (method : Method) :
    Unambiguous CharClass.mem (handlersOf method registerRoutes) where
  clear := by cases method <;> decide +kernel
  apart := by cases method <;> decide +kernel

theorem mem_handlersOf {method : Method} {registrations : List Registration} {p : RoutePattern}
    {endpoint : Endpoint} : (p, endpoint) ∈ handlersOf method registrations ↔
      ⟨method, p, endpoint⟩ ∈ registrations := by
  simp only [handlersOf, List.mem_map, List.mem_filter, beq_iff_eq, Prod.mk.injEq]
  constructor
  · rintro ⟨⟨m, p, e⟩, ⟨hr, rfl⟩, rfl, rfl⟩
    exact hr
  · intro h
    exact ⟨_, ⟨h, rfl⟩, rfl, rfl⟩

theorem dispatch_iff {method : Method} {path : Str} {endpoint : Endpoint} {caps : List Str} :
    dispatch method path = some (endpoint, caps) ↔
      ∃ p, ⟨method, p, endpoint⟩ ∈ registerRoutes ∧ Matches CharClass.mem p path caps := by
  rw [dispatch, dispatchIn, route_iff (handlersOf_unambiguous method)]
  simp only [mem_handlersOf]

/-- **One endpoint per path.** Whatever the path: the registrations of one
method that match it are one registration, its captures are determined, and
every order of registration routes the path as the order of the source
does. -/
theorem one_endpoint (method : Method) (path : Str) :
    (∀ r ∈ registerRoutes, ∀ r' ∈ registerRoutes, r.method = method → r'.method = method →
      ∀ caps caps', Matches CharClass.mem r.pattern path caps →
        Matches CharClass.mem r'.pattern path caps' → r = r' ∧ caps = caps') ∧
    ∀ registrations, registrations.Perm registerRoutes →
      dispatchIn registrations method path = dispatch method path := by
  constructor
  · intro r hr r' hr' hmethod hmethod' caps caps' hm hm'
    have hone := handlersOf_unambiguous method
    have hp : (r.pattern, r.endpoint) ∈ handlersOf method registerRoutes :=
      mem_handlersOf.2 (hmethod ▸ hr)
    have hp' : (r'.pattern, r'.endpoint) ∈ handlersOf method registerRoutes :=
      mem_handlersOf.2 (hmethod' ▸ hr')
    have heq := hone.one hp hp' hm hm'
    obtain ⟨m, p, e⟩ := r
    obtain ⟨m', p', e'⟩ := r'
    cases heq
    obtain rfl : m = m' := hmethod.trans hmethod'.symm
    exact ⟨rfl, matches_unique (hone.clear _ hp) hm hm'⟩
  · intro registrations hperm
    refine (route_perm (handlersOf_unambiguous method) ?_).symm
    exact (hperm.symm.filter _).map _

/-! ## Paths that are written for an endpoint -/

/-- The path for the ids, each percent-encoded. -/
def writePath (p : RoutePattern) (ids : List Str) : Str := fill p (ids.map urlEncode)

/-- A character that stands for itself in a path. -/
def isPathChar (c : UInt8) : Bool :=
  isUnreserved c || (str "!$&'()*+,;=:@/").contains c

/-- What the HTTP library makes of a path: the characters of a path stand for
themselves, an escape for its byte. -/
structure ReadsPath (httpPath : Str → Str) : Prop where
  empty : httpPath [] = []
  plain : ∀ c s, isPathChar c = true → httpPath (c :: s) = c :: httpPath s
  escape : ∀ c s, httpPath ([chr '%', hexDigitUpper (c.toNat / 16), hexDigitUpper (c.toNat % 16)] ++
    s) = c :: httpPath s

/-- No such character means something in a target, or ends a line. -/
theorem pathChar_plain {c : UInt8} (h : isPathChar c = true) :
    c ≠ chr '%' ∧ c ≠ chr '?' ∧ CharClass.any.mem c = true := by
  refine ⟨?_, ?_, ?_⟩
  · rintro rfl
    exact absurd h (by decide)
  · rintro rfl
    exact absurd h (by decide)
  · simp only [CharClass.mem, Bool.and_eq_true, bne_iff_ne]
    constructor
    · rintro rfl
      exact absurd h (by decide)
    · rintro rfl
      exact absurd h (by decide)

/-- `%HH` is a byte, and anything else itself. -/
def percentDecode : Str → Str
  | ch :: c₁ :: c₂ :: rest =>
    if ch = chr '%' ∧ hexPair (c₁ :: c₂ :: rest) then
      UInt8.ofNat (hexByte c₁ c₂) :: percentDecode rest
    else ch :: percentDecode (c₁ :: c₂ :: rest)
  | rest => rest

theorem percentDecode_reads : ReadsPath percentDecode where
  empty := rfl
  plain c s hc := by
    match s with
    | [] => rfl
    | [_] => rfl
    | c₁ :: c₂ :: s => simp [percentDecode, (pathChar_plain hc).1]
  escape c s := by
    have hlt : c.toNat < 256 := c.toNat_lt
    obtain ⟨hhigh, hhighValue⟩ := hexDigitUpper_reads (c.toNat / 16) (by omega)
    obtain ⟨hlow, hlowValue⟩ := hexDigitUpper_reads (c.toNat % 16) (by omega)
    have hbyte : 16 * (c.toNat / 16) + c.toNat % 16 = c.toNat := by omega
    simp [percentDecode, hexPair, hhigh, hlow, hexByte, hhighValue, hlowValue, hbyte]

/-- The ids that reach a handler through a path: a session id is a word, any
other id has no line terminator and reads the same after a second decoding. -/
def Addressable : RoutePattern → List Str → Prop
  | [], [] => True
  | .char _ :: p, ids => Addressable p ids
  | .run .word :: p, id :: ids => id ≠ [] ∧ (∀ c ∈ id, isWord c = true) ∧ Addressable p ids
  | .run .any :: p, id :: ids =>
    id ≠ [] ∧ (∀ c ∈ id, CharClass.any.mem c = true) ∧ keepsLiteral id ∧ Addressable p ids
  | _, _ => False

/-- Only characters come behind a `(.+)`. -/
def endsInId : RoutePattern → Bool
  | [] => true
  | .char _ :: p => endsInId p
  | .run .word :: p => endsInId p
  | .run .any :: p => p.all isChar

theorem addressable_iff {p : RoutePattern} {ids : List Str} :
    Addressable p ids ↔ Fits CharClass.mem p ids ∧ readIds p ids = .ok ids := by
  induction p generalizing ids with
  | nil => cases ids <;> simp [Addressable, Fits, readIds]
  | cons piece p ih =>
    cases piece with
    | char c => exact ih
    | run cls =>
      cases ids with
      | nil => cases cls <;> simp [Addressable, Fits]
      | cons id ids =>
        cases cls with
        | word =>
          simp only [Addressable, Fits, readIds, ih]
          cases readIds p ids <;> simp [Except.map, CharClass.mem, and_assoc]
        | any =>
          simp only [Addressable, Fits, readIds, ih, ← decode_eq_self_iff]
          cases decodePercentEncoded id <;> cases readIds p ids <;> simp [Except.map]
          grind

/-- The captures of the routes that carry a session id and another one. -/
theorem fits_withId {infixText tail : String} {caps : List Str} :
    Fits CharClass.mem (withId (ofSession infixText) tail) caps ↔
      ∃ sessionId raw, caps = [sessionId, raw] ∧
        (sessionId ≠ [] ∧ ∀ c ∈ sessionId, isWord c = true) ∧
        raw ≠ [] ∧ ∀ c ∈ raw, CharClass.any.mem c = true := by
  simp only [withId, ofSession, List.append_assoc, fits_literal, List.cons_append, List.nil_append]
  constructor
  · intro h
    rcases caps with _ | ⟨sessionId, _ | ⟨raw, caps⟩⟩
    · simp [Fits] at h
    · simp [Fits] at h
    · simp only [Fits, fits_literal, fits_literal_end] at h
      obtain ⟨hne, hword, hraw, hany, rfl⟩ := h
      exact ⟨sessionId, raw, rfl, ⟨hne, hword⟩, hraw, hany⟩
  · rintro ⟨sessionId, raw, rfl, ⟨hne, hword⟩, hraw, hany⟩
    simp only [Fits, fits_literal, fits_literal_end]
    exact ⟨hne, hword, hraw, hany, trivial⟩

theorem fill_withId (infixText tail : String) (sessionId raw : Str) :
    fill (withId (ofSession infixText) tail) [sessionId, raw] =
      sessionsPrefix ++ (sessionId ++ (str infixText ++ chr '/' :: (raw ++ str tail))) := by
  simp only [withId, ofSession, List.append_assoc, fill_literal, List.cons_append, List.nil_append,
    fill, fill_literal_end, sessionsPrefix]

theorem readIds_literal (t : Str) (p : RoutePattern) (caps : List Str) :
    readIds (literal t ++ p) caps = readIds p caps := by
  induction t with
  | nil => rfl
  | cons c t ih => exact ih

theorem readIds_withId (infixText tail : String) (sessionId raw : Str) :
    readIds (withId (ofSession infixText) tail) [sessionId, raw] =
      (decodePercentEncoded raw).map fun id => [sessionId, id] := by
  simp only [withId, ofSession, List.append_assoc, readIds_literal, List.cons_append,
    List.nil_append, readIds]
  rw [← List.append_nil (literal (str tail)), readIds_literal]
  cases decodePercentEncoded raw <;> rfl

theorem addressable_withId {infixText tail : String} {sessionId id : Str} :
    Addressable (withId (ofSession infixText) tail) [sessionId, id] ↔
      (sessionId ≠ [] ∧ ∀ c ∈ sessionId, isWord c = true) ∧
        (id ≠ [] ∧ ∀ c ∈ id, CharClass.any.mem c = true) ∧ keepsLiteral id := by
  rw [addressable_iff, fits_withId, readIds_withId, ← decode_eq_self_iff]
  constructor
  · rintro ⟨⟨sessionId', raw, heq, hword, hid⟩, hread⟩
    cases heq
    refine ⟨hword, hid, ?_⟩
    cases hdec : decodePercentEncoded id with
    | error e => simp [hdec, Except.map] at hread
    | ok out =>
      rw [hdec] at hread
      cases hread
      rfl
  · rintro ⟨hword, hid, hdec⟩
    refine ⟨⟨sessionId, id, rfl, hword, hid⟩, ?_⟩
    rw [hdec]
    rfl

theorem readIds_chars {p : RoutePattern} (hp : p.all isChar = true) (caps : List Str) :
    readIds p caps = .ok [] := by
  induction p with
  | nil => rfl
  | cons piece p ih =>
    cases piece with
    | char c => exact ih (by simpa [isChar] using hp)
    | run => simp [isChar] at hp

theorem fits_chars {p : RoutePattern} (hp : p.all isChar = true) {caps : List Str}
    (h : Fits CharClass.mem p caps) : caps = [] := by
  induction p with
  | nil =>
    cases caps with
    | nil => rfl
    | cons => cases h
  | cons piece p ih =>
    cases piece with
    | char c => exact ih (by simpa [isChar] using hp) h
    | run => simp [isChar] at hp

/-- Captures that are read as the ids the path was written for are these
ids. -/
theorem captures_eq_ids {p : RoutePattern} {ids caps : List Str} (hp : endsInId p = true)
    (hfits : Fits CharClass.mem p caps) (hfill : fill p ids = fill p caps)
    (hread : readIds p caps = .ok ids) : caps = ids := by
  induction p generalizing ids caps with
  | nil =>
    cases caps with
    | nil =>
      cases hread
      rfl
    | cons => cases hfits
  | cons piece p ih =>
    match piece, caps with
    | .char c, caps => exact ih hp hfits (List.cons.inj hfill).2 hread
    | .run .word, [] => cases hfits
    | .run .any, [] => cases hfits
    | .run .word, cap :: caps =>
      simp only [readIds] at hread
      cases hrest : readIds p caps with
      | error e => simp [hrest, Except.map] at hread
      | ok rest =>
        rw [hrest] at hread
        cases hread
        rw [ih hp hfits.2.2 (List.append_cancel_left hfill) hrest]
    | .run .any, cap :: caps =>
      simp only [readIds, readIds_chars hp] at hread
      split at hread
      · cases hread
      · rename_i id _
        cases hread
        obtain rfl := fits_chars hp hfits.2.2
        have hcap : id ++ fill p [] = cap ++ fill p [] := hfill
        rw [List.append_cancel_right hcap]

section Reading

variable {httpPath : Str → Str}

theorem ReadsPath.urlEncodeChar (h : ReadsPath httpPath) (c : UInt8) (s : Str) :
    httpPath (urlEncodeChar c ++ s) = c :: httpPath s := by
  unfold Api.urlEncodeChar
  split
  · rename_i hc
    exact h.plain c s (by simp [isPathChar, hc])
  · exact h.escape c s

theorem ReadsPath.urlEncode (h : ReadsPath httpPath) (id s : Str) :
    httpPath (urlEncode id ++ s) = id ++ httpPath s := by
  induction id with
  | nil => rfl
  | cons c id ih =>
    show httpPath (Api.urlEncodeChar c ++ Api.urlEncode id ++ s) = _
    rw [List.append_assoc, h.urlEncodeChar, ih]
    rfl

/-- The characters of the pattern stand for themselves. -/
def pathChars : RoutePattern → Bool
  | [] => true
  | .char c :: p => isPathChar c && pathChars p
  | .run _ :: p => pathChars p

/-- The HTTP library takes the encoding off. -/
theorem ReadsPath.writePath (h : ReadsPath httpPath) {p : RoutePattern} (hp : pathChars p = true)
    (ids : List Str) : httpPath (writePath p ids) = fill p ids := by
  unfold Api.writePath
  induction p generalizing ids with
  | nil => exact h.empty
  | cons piece p ih =>
    cases piece with
    | char c =>
      simp only [pathChars, Bool.and_eq_true] at hp
      rw [fill, h.plain c _ hp.1, ih hp.2]
      rfl
    | run c =>
      cases ids with
      | nil => exact h.empty
      | cons id ids =>
        rw [List.map_cons, fill, h.urlEncode, ih hp]
        rfl

theorem pathChars_registered : ∀ r ∈ registerRoutes, pathChars r.pattern = true := by
  decide +kernel

theorem endsInId_registered : ∀ r ∈ registerRoutes, endsInId r.pattern = true := by
  decide +kernel

/-- What a request is answered by, when its path is matched as it is. -/
theorem request_iff {method : Method} {path : Str} {endpoint : Endpoint} {ids : List Str} :
    request httpPath method path = some (.ok (endpoint, ids)) ↔
      ∃ p caps, ⟨method, p, endpoint⟩ ∈ registerRoutes ∧ Fits CharClass.mem p caps ∧
        httpPath path = fill p caps ∧ readIds p caps = .ok ids := by
  simp only [request, Option.map_eq_some_iff]
  constructor
  · rintro ⟨⟨endpoint', caps⟩, hfound, hread⟩
    obtain ⟨p, hp, hm⟩ := dispatch_iff.1 hfound
    obtain ⟨hfits, hfill⟩ := matches_iff.1 hm
    rw [patternOf_eq _ hp] at hread
    cases hids : readIds p caps with
    | error e => simp [hids, Except.map] at hread
    | ok found =>
      rw [hids] at hread
      cases hread
      exact ⟨p, caps, hp, hfits, hfill, hids⟩
  · rintro ⟨p, caps, hp, hfits, hfill, hread⟩
    refine ⟨(endpoint, caps), dispatch_iff.2 ⟨p, hp, matches_iff.2 ⟨hfits, hfill⟩⟩, ?_⟩
    rw [patternOf_eq _ hp, hread]
    rfl

/-- A path that is read as what the ids fill a route to. -/
theorem filled_path_routes_iff {r : Registration} (hr : r ∈ registerRoutes) {path : Str}
    {ids : List Str} (hpath : httpPath path = fill r.pattern ids) :
    request httpPath r.method path = some (.ok (r.endpoint, ids)) ↔ Addressable r.pattern ids := by
  rw [request_iff, addressable_iff, hpath]
  constructor
  · rintro ⟨p, caps, hp, hfits, hfill, hread⟩
    obtain rfl := pattern_unique hp hr
    obtain rfl := captures_eq_ids (endsInId_registered r hr) hfits hfill hread
    exact ⟨hfits, hread⟩
  · rintro ⟨hfits, hread⟩
    exact ⟨r.pattern, ids, hr, hfits, rfl, hread⟩

/-- **The way back from a path.** For every route, every ids and every HTTP
library that reads paths: the path written for the ids leads to the handler
of the route with these very ids if and only if they are addressable. -/
theorem written_path_routes_iff (h : ReadsPath httpPath) {r : Registration}
    (hr : r ∈ registerRoutes) (ids : List Str) :
    request httpPath r.method (writePath r.pattern ids) = some (.ok (r.endpoint, ids)) ↔
      Addressable r.pattern ids :=
  filled_path_routes_iff hr (h.writePath (pathChars_registered r hr) ids)

/-- A block name with a template argument. -/
theorem settings_path_comes_back :
    request percentDecode .post (writePath (withId (ofSession "/blocks") "/settings")
        [str "sess_7", str "gr::Sink<float>#0"]) =
      some (.ok (.updateSettings, [str "sess_7", str "gr::Sink<float>#0"])) :=
  (written_path_routes_iff percentDecode_reads
    (r := ⟨.post, withId (ofSession "/blocks") "/settings", .updateSettings⟩) (by decide +kernel)
    _).2 (addressable_withId.2 ⟨by decide +kernel, by decide +kernel,
      by decide +kernel, by decide +kernel⟩)

/-- A `+` does not come back: it is encoded once and decoded twice. -/
example : request percentDecode .get (writePath (withId (literal (str "/blocks")) "")
    [str "a+b"]) = some (.ok (.block, [str "a b"])) := by decide +kernel

/-! ## Paths that are sent as they are -/

theorem ReadsPath.self (h : ReadsPath httpPath) {s : Str} (hs : ∀ c ∈ s, isPathChar c = true) :
    httpPath s = s := by
  induction s with
  | nil => exact h.empty
  | cons c s ih =>
    rw [h.plain c s (hs c (by simp)), ih fun c' hc' => hs c' (by simp [hc'])]

/-- What a route is filled to, with ids made of path characters. -/
theorem ReadsPath.fill (h : ReadsPath httpPath) {p : RoutePattern} (hp : pathChars p = true)
    {ids : List Str} (hids : ∀ id ∈ ids, ∀ c ∈ id, isPathChar c = true) :
    httpPath (fill p ids) = fill p ids := by
  refine h.self ?_
  induction p generalizing ids with
  | nil => simp [PathPattern.fill]
  | cons piece p ih =>
    cases piece with
    | char c =>
      simp only [pathChars, Bool.and_eq_true] at hp
      simpa [PathPattern.fill, hp.1] using ih hp.2 hids
    | run c =>
      cases ids with
      | nil => simp [PathPattern.fill]
      | cons id ids =>
        intro c' hc'
        obtain hc' | hc' := List.mem_append.1 hc'
        · exact hids id (by simp) c' hc'
        · exact ih hp (fun id' hid' => hids id' (by simp [hid'])) c' hc'

/-- **Two readers of a websocket path.** On every target made of path
characters, the route of the internal server and the upgrade parser of the
public one read the same session and the same stream, except that the parser
also takes a session id that is no word. -/
theorem upgrade_and_route_agree (h : ReadsPath httpPath) {target : Str}
    (htarget : ∀ c ∈ target, isPathChar c = true) (sessionId streamId : Str) :
    request httpPath .get target = some (.ok (.websocketStream, [sessionId, streamId])) ↔
      parseWebsocketStreamTarget target = .ok (some (sessionId, streamId)) ∧
        ∀ c ∈ sessionId, isWord c = true := by
  have hmem : ⟨.get, withId (ofSession "/streams") "/ws", .websocketStream⟩ ∈ registerRoutes := by
    decide +kernel
  have hroute : routeOf target = target := by
    have hquery : chr '?' ∉ target := fun hc => (pathChar_plain (htarget _ hc)).2.1 rfl
    simpa [routeOf] using takeWhile_append_of_not_mem hquery []
  rw [request_iff, h.self htarget, parse_eq_some_iff]
  constructor
  · rintro ⟨p, caps, hp, hfits, hfill, hread⟩
    obtain rfl := pattern_unique hmem hp
    obtain ⟨sessionId', raw, rfl, ⟨hne, hword⟩, hraw, hany⟩ := fits_withId.1 hfits
    rw [readIds_withId] at hread
    cases hdec : decodePercentEncoded raw with
    | error e => simp [hdec, Except.map] at hread
    | ok id =>
      rw [hdec] at hread
      cases hread
      rw [fill_withId] at hfill
      refine ⟨⟨raw, ⟨hroute.trans hfill, hne, ?_, hraw⟩, hdec⟩, hword⟩
      intro hslash
      exact absurd (hword _ hslash) (by decide)
  · rintro ⟨⟨raw, hform, hdec⟩, hword⟩
    have htext := hroute.symm.trans hform.route
    refine ⟨_, [sessionId, raw], hmem, fits_withId.2 ⟨sessionId, raw, rfl,
      ⟨hform.session_ne, hword⟩, hform.raw_ne, fun c hc => ?_⟩, ?_, ?_⟩
    · exact (pathChar_plain (htarget c (by rw [htext]; simp [hc]))).2.2
    · rw [fill_withId]
      exact htext
    · rw [readIds_withId, hdec]
      rfl

theorem fill_ofSession (tail : String) (sessionId : Str) :
    fill (ofSession tail) [sessionId] = sessionsPrefix ++ (sessionId ++ str tail) := by
  simp only [ofSession, List.append_assoc, fill_literal, List.cons_append, List.nil_append, fill,
    fill_literal_end, sessionsPrefix]

theorem addressable_ofSession {tail : String} {sessionId : Str} :
    Addressable (ofSession tail) [sessionId] ↔
      sessionId ≠ [] ∧ ∀ c ∈ sessionId, isWord c = true := by
  rw [addressable_iff]
  simp only [ofSession, List.append_assoc, fits_literal, readIds_literal, List.cons_append,
    List.nil_append, Fits, fits_literal_end, readIds]
  rw [← List.append_nil (literal (str tail)), readIds_literal]
  exact ⟨fun h => ⟨h.1.1, h.1.2.1⟩, fun h => ⟨⟨h.1, h.2, trivial⟩, rfl⟩⟩

theorem isWord_unreserved {c : UInt8} (h : isWord c = true) : isUnreserved c = true := by
  simp only [isWord, isUnreserved, Bool.or_eq_true] at *
  grind

theorem generateSessionId_word (draw : UInt64) :
    ∀ c ∈ Service.generateSessionId draw, isWord c = true := by
  have hdigit : ∀ n < 16, isWord (hexDigit n) = true := by decide
  have hlead : ∀ c ∈ str "sess_", isWord c = true := by decide +kernel
  intro c hc
  obtain hc | hc := List.mem_append.1 hc
  · exact hlead c hc
  · obtain ⟨i, -, rfl⟩ := List.mem_map.1 hc
    exact hdigit _ (Nat.mod_lt _ (by decide))

theorem nested_target_agrees :
    request percentDecode .get (str "/sessions/a/streams/b/streams/c/ws") =
      some (.ok (.websocketStream, [str "a", str "b/streams/c"])) :=
  (upgrade_and_route_agree percentDecode_reads (by decide +kernel) (str "a") (str "b/streams/c")).2
    ⟨by decide +kernel, by decide +kernel⟩

/-- The handler of a transport. -/
def streamEndpoint (transport : Str) : Endpoint :=
  if transport = str "websocket" then .websocketStream else .httpStream

theorem streamEndpoint_registered (transport : Str) (sessionId streamId : Str) :
    ∃ tail, ⟨.get, withId (ofSession "/streams") tail, streamEndpoint transport⟩ ∈ registerRoutes ∧
      makeStreamPath sessionId streamId transport =
        fill (withId (ofSession "/streams") tail) [sessionId, streamId] := by
  have hinfix : str "/streams/" = str "/streams" ++ [chr '/'] := by decide
  unfold streamEndpoint
  rw [streamPath_eq, hinfix]
  split
  · refine ⟨"/ws", by decide +kernel, ?_⟩
    simp [fill_withId, sessionsPrefix]
  · refine ⟨"/http", by decide +kernel, ?_⟩
    simp [fill_withId, sessionsPrefix]

/-- **Advertised paths.** In a plan of a generated session, the path of a
stream whose id is made of path characters leads to the handler of the
stream's transport, with the two ids, if and only if the id holds no `+`. -/
theorem advertised_path_routes_iff (h : ReadsPath httpPath) {y : Yaml} {session : Session}
    {plan : StreamRuntimePlan} {draw : UInt64} (hid : session.id = Service.generateSessionId draw)
    (hplan : deriveStreamRuntimePlan y session = some plan) {s : RuntimeStreamBindingPlan}
    (hs : s ∈ plan.streams) (hchars : ∀ c ∈ s.streamId, isPathChar c = true) :
    request httpPath .get s.path =
        some (.ok (streamEndpoint s.transport, [session.id, s.streamId])) ↔
      chr '+' ∉ s.streamId := by
  obtain ⟨hvalid, -, hstreams⟩ := (derive_eq_some_iff y session plan).1 hplan
  have hpath : s.path = makeStreamPath session.id s.streamId s.transport ∧ s.streamId ≠ [] := by
    rw [hstreams] at hs
    obtain ⟨nb, hnb, rfl⟩ := List.mem_map.1 hs
    exact ⟨rfl, ((declaringBlocks_wellFormed hvalid).1 nb hnb).streamId⟩
  have hword : ∀ c ∈ session.id, isWord c = true := hid ▸ generateSessionId_word draw
  obtain ⟨tail, hr, hfill⟩ := streamEndpoint_registered s.transport session.id s.streamId
  have hids : ∀ id ∈ [session.id, s.streamId], ∀ c ∈ id, isPathChar c = true := by
    simp only [List.mem_cons, List.not_mem_nil, or_false, forall_eq_or_imp, forall_eq]
    exact ⟨fun c hc => by simp [isPathChar, isWord_unreserved (hword c hc)], hchars⟩
  have hself := h.fill (pathChars_registered _ hr) hids
  rw [hpath.1, hfill, filled_path_routes_iff hr hself, addressable_withId]
  constructor
  · intro haddr
    exact haddr.2.2.1
  · intro hplus
    refine ⟨⟨hid ▸ generateSessionId_ne_nil draw, hword⟩, ⟨hpath.2, fun c hc => ?_⟩, hplus, ?_⟩
    · exact (pathChar_plain (hchars c hc)).2.2
    · intro hpercent
      exact (pathChar_plain (hchars _ (List.mem_of_mem_take hpercent))).1 rfl

/-- A session with one sink. -/
def spectrumSession : Session := sinkSession (Service.generateSessionId 7) oneSink

theorem spectrumPlan_isSome :
    (deriveStreamRuntimePlan (readingSinks oneSink) spectrumSession).isSome = true := by
  decide +kernel

def spectrumPlan : StreamRuntimePlan :=
  (deriveStreamRuntimePlan (readingSinks oneSink) spectrumSession).get spectrumPlan_isSome

theorem spectrum_path_routes : spectrumPlan.streams.map (·.streamId) = oneSink ∧
    ∀ s ∈ spectrumPlan.streams, request percentDecode .get s.path =
      some (.ok (streamEndpoint s.transport, [spectrumSession.id, s.streamId])) := by
  have hids : spectrumPlan.streams.map (·.streamId) = oneSink := by decide +kernel
  refine ⟨hids, fun s hs => ?_⟩
  have hid : s.streamId = str "spectrum" := by
    simpa [hids, oneSink] using List.mem_map_of_mem (f := fun s => s.streamId) hs
  refine (advertised_path_routes_iff percentDecode_reads (y := readingSinks oneSink) rfl
    (Option.some_get _).symm hs ?_).2 ?_
  · rw [hid]
    decide +kernel
  · rw [hid]
    decide +kernel

end Reading

end Gr4cp.Api

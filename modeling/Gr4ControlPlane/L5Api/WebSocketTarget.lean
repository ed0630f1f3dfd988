import Gr4ControlPlane.L1Domain.StreamContract
import Gr4ControlPlane.L4App.SessionService
import Gr4ControlPlane.L5Api.PercentDecoding

/-!
# Websocket stream targets (`parse_websocket_stream_target`)

The domain layer writes the path of a stream by concatenation, the HTTP
layer takes a request target apart again and percent-decodes the stream id;
nothing encodes it on the way out.

* `parse_of_target`, `parse_eq_none_iff`: the targets the parser takes for a
  stream route are those of the form
  `/sessions/{session}/streams/{raw}/ws`, up to a query, and what it returns
  for one is the decoding of `{raw}`.
* `parse_by_grammar`: there is one such form at most, and no target makes
  the parser look behind the end.
* `path_leads_back_iff`: the advertised path of a stream leads back to it
  exactly when its id holds no `?`, no `+` and no `%` that two characters
  follow.
* `plan_routes_injective`: in a plan with such ids, no two websocket streams
  share a route.
-/
namespace Gr4cp.Api

open Gr4cp.Core Gr4cp.Domain Gr4cp.App

def sessionsPrefix : Str := str "/sessions/"

def streamsInfix : Str := str "/streams/"

def wsSuffix : Str := str "/ws"

/-- `target.substr(0, target.find('?'))` -/
def routeOf (target : Str) : Str := target.takeWhile fun c => c != chr '?'

def substr (s : Str) (pos count : Nat) : Except Thrown Str :=
  match Str.substr s pos count with
  | none => .error .outOfRange
  | some t => .ok t

/-- mirrors src/api/http_server.cpp:540-563 -/
def parseWebsocketStreamTarget (target : Str) : Except Thrown (Option (Str × Str)) := do
  let route := routeOf target
  if !sessionsPrefix.isPrefixOf route || !wsSuffix.isSuffixOf route then return none
  match Str.find route streamsInfix sessionsPrefix.length with
  | none => return none
  | some infixPos =>
    if infixPos ≤ sessionsPrefix.length then return none
    let sessionId ← substr route sessionsPrefix.length (infixPos - sessionsPrefix.length)
    let streamBegin := infixPos + streamsInfix.length
    let streamEnd := route.length - wsSuffix.length
    if streamEnd ≤ streamBegin || sessionId.contains (chr '/') then return none
    let stream ← substr route streamBegin (streamEnd - streamBegin)
    let streamId ← decodePercentEncoded stream
    return some (sessionId, streamId)

/-! ## The form of a target -/

/-- `target` is the route of the stream written `raw` in `sessionId`. -/
structure StreamTarget (target sessionId raw : Str) : Prop where
  route : routeOf target = sessionsPrefix ++ (sessionId ++ (streamsInfix ++ (raw ++ wsSuffix)))
  session_ne : sessionId ≠ []
  session_slash : chr '/' ∉ sessionId
  raw_ne : raw ≠ []

theorem substr_append (a b c : Str) : substr (a ++ (b ++ c)) a.length b.length = .ok b := by
  simp [substr, Str.substr]

/-- The first `/streams/` of a stream route is the one behind the session. -/
theorem find_infix {sessionId : Str} (h : chr '/' ∉ sessionId) (rest : Str) :
    Str.find (sessionsPrefix ++ (sessionId ++ (streamsInfix ++ rest))) streamsInfix
      sessionsPrefix.length = some (sessionsPrefix.length + sessionId.length) := by
  have hinfix : streamsInfix = chr '/' :: str "streams/" := by decide
  have hlen : sessionsPrefix.length ≤
      (sessionsPrefix ++ (sessionId ++ (streamsInfix ++ rest))).length := by
    simp
  rw [Str.find, if_pos hlen, List.drop_left, hinfix]
  exact Str.findFrom_append h _ rest _

theorem parse_of_target {target sessionId raw : Str} (h : StreamTarget target sessionId raw) :
    parseWebsocketStreamTarget target =
      (decodePercentEncoded raw).map fun streamId => some (sessionId, streamId) := by
  have hpre : sessionsPrefix.isPrefixOf (routeOf target) = true := by
    rw [h.route, List.isPrefixOf_iff_prefix]
    exact List.prefix_append _ _
  have hsuf : wsSuffix.isSuffixOf (routeOf target) = true := by
    rw [h.route, List.isSuffixOf_iff_suffix]
    simp only [← List.append_assoc]
    exact List.suffix_append _ _
  have hfind := find_infix h.session_slash (raw ++ wsSuffix)
  rw [← h.route] at hfind
  have hpos : 0 < sessionId.length := List.length_pos_iff.2 h.session_ne
  have hraw : 0 < raw.length := List.length_pos_iff.2 h.raw_ne
  have hlen : (routeOf target).length - wsSuffix.length -
      (sessionsPrefix.length + sessionId.length + streamsInfix.length) = raw.length := by
    simp only [h.route, List.length_append]
    omega
  have hsession : substr (routeOf target) sessionsPrefix.length
      (sessionsPrefix.length + sessionId.length - sessionsPrefix.length) = .ok sessionId := by
    rw [Nat.add_sub_cancel_left, h.route]
    exact substr_append _ _ _
  have hstream : substr (routeOf target)
      (sessionsPrefix.length + sessionId.length + streamsInfix.length) raw.length = .ok raw := by
    have := substr_append (sessionsPrefix ++ sessionId ++ streamsInfix) raw wsSuffix
    simpa [h.route, Nat.add_assoc] using this
  have hslash : sessionId.contains (chr '/') = false := by simpa using h.session_slash
  have hcont : ¬ sessionsPrefix.length + sessionId.length ≤ sessionsPrefix.length := by omega
  have hroom : ¬ (routeOf target).length - wsSuffix.length ≤
      sessionsPrefix.length + sessionId.length + streamsInfix.length := by omega
  simp only [parseWebsocketStreamTarget, hpre, hsuf, hfind, hcont, hsession, hlen, hstream, hslash,
    hroom, Bool.not_true, Bool.or_false, Bool.false_eq_true, if_false, decide_false, bind,
    Except.bind]
  cases decodePercentEncoded raw <;> rfl

/-- A target the parser does not pass over has the form of a stream route. -/
theorem target_of_parse {target : Str} (h : parseWebsocketStreamTarget target ≠ .ok none) :
    ∃ sessionId raw, StreamTarget target sessionId raw := by
  simp only [parseWebsocketStreamTarget, pure, Except.pure] at h
  split at h
  · exact absurd rfl h
  rename_i hends
  simp only [Bool.or_eq_true, Bool.not_eq_true', not_or, Bool.not_eq_false] at hends
  obtain ⟨rest, hrest⟩ := List.isPrefixOf_iff_prefix.1 hends.1
  have hsuf := List.isSuffixOf_iff_suffix.1 hends.2
  split at h
  · exact absurd rfl h
  rename_i infixPos hfind
  rw [Str.find, if_pos (by simp [← hrest]), ← hrest, List.drop_left] at hfind
  obtain ⟨sessionId, tail, rfl, rfl⟩ := Str.findFrom_eq_some hfind
  split at h
  · exact absurd rfl h
  rename_i hpos
  have hsession : substr (routeOf target) sessionsPrefix.length
      (sessionsPrefix.length + sessionId.length - sessionsPrefix.length) = .ok sessionId := by
    rw [Nat.add_sub_cancel_left, ← hrest, List.append_assoc]
    exact substr_append _ _ _
  simp only [hsession, bind, Except.bind] at h
  split at h
  · exact absurd rfl h
  rename_i hroom
  simp only [Bool.or_eq_true, decide_eq_true_eq, List.contains_iff_mem, not_or, Nat.not_le] at hroom
  have hlen : wsSuffix.length < tail.length := by
    have := congrArg List.length hrest
    simp only [List.length_append] at this
    omega
  -- what is behind the infix is longer than the suffix, so it ends in it
  have htail : tail <:+ routeOf target := by
    rw [← hrest, ← List.append_assoc]
    exact List.suffix_append _ _
  obtain ⟨raw, rfl⟩ := List.suffix_of_suffix_length_le hsuf htail (Nat.le_of_lt hlen)
  refine ⟨sessionId, raw, by rw [← hrest]; simp, ?_, hroom.2, ?_⟩
  · rintro rfl
    simp at hpos
  · rintro rfl
    simp at hlen

theorem parse_eq_none_iff (target : Str) :
    parseWebsocketStreamTarget target = .ok none ↔
      ∀ sessionId raw, ¬ StreamTarget target sessionId raw := by
  constructor
  · intro h sessionId raw htarget
    rw [parse_of_target htarget] at h
    cases hdec : decodePercentEncoded raw <;> rw [hdec] at h <;> cases h
  · intro h
    by_contra hne
    obtain ⟨sessionId, raw, htarget⟩ := target_of_parse hne
    exact h sessionId raw htarget

/-- What the parser returns for a stream route, and only for one. -/
theorem parse_eq_some_iff (target sessionId streamId : Str) :
    parseWebsocketStreamTarget target = .ok (some (sessionId, streamId)) ↔
      ∃ raw, StreamTarget target sessionId raw ∧ decodePercentEncoded raw = .ok streamId := by
  constructor
  · intro h
    obtain ⟨sessionId', raw, htarget⟩ := target_of_parse (by rw [h]; simp)
    rw [parse_of_target htarget] at h
    cases hdec : decodePercentEncoded raw with
    | error e => simp [hdec, Except.map] at h
    | ok out =>
      simp only [hdec, Except.map, Except.ok.injEq, Option.some.injEq, Prod.mk.injEq] at h
      obtain ⟨rfl, rfl⟩ := h
      exact ⟨raw, htarget, hdec⟩
  · rintro ⟨raw, htarget, hdec⟩
    rw [parse_of_target htarget, hdec]
    rfl

/-- A target has one form only. -/
theorem StreamTarget.unique {target sessionId raw sessionId' raw' : Str}
    (h : StreamTarget target sessionId raw) (h' : StreamTarget target sessionId' raw') :
    sessionId = sessionId' ∧ raw = raw' := by
  -- the first `/streams/` ends the session id in both
  have hfind := find_infix h.session_slash (raw ++ wsSuffix)
  have hfind' := find_infix h'.session_slash (raw' ++ wsSuffix)
  rw [← h.route] at hfind
  rw [← h'.route, hfind, Option.some.injEq] at hfind'
  have hroute := List.append_cancel_left (h.route.symm.trans h'.route)
  obtain ⟨hsession, htail⟩ := List.append_inj hroute (Nat.add_left_cancel hfind')
  exact ⟨hsession, List.append_cancel_right (List.append_cancel_left htail)⟩

theorem decode_ne_outOfRange (s : Str) : decodePercentEncoded s ≠ .error .outOfRange := by
  intro h
  cases hread : readableEscapes s with
  | false =>
    rw [decode_throws hread] at h
    cases h
  | true =>
    obtain ⟨out, hout⟩ := decode_returns hread
    rw [hout] at h
    cases h

theorem parse_ne_outOfRange (target : Str) :
    parseWebsocketStreamTarget target ≠ .error .outOfRange := by
  intro h
  obtain ⟨sessionId, raw, htarget⟩ := target_of_parse (by rw [h]; simp)
  rw [parse_of_target htarget] at h
  cases hdec : decodePercentEncoded raw with
  | ok out =>
    rw [hdec] at h
    cases h
  | error e =>
    rw [hdec] at h
    obtain rfl : e = .outOfRange := by simpa [Except.map] using h
    exact decode_ne_outOfRange raw hdec

/-- **The grammar of stream targets.** For every target whose stream part
can be decoded: the parser returns; it returns the session id and the
decoded stream part exactly when the route is
`/sessions/{session}/streams/{raw}/ws` with a session that is not empty and
has no `/`, and a stream part that is not empty; it finds nothing exactly
when the route has no such form; and there is one such form at most. For no
target at all is a position out of range. -/
theorem parse_by_grammar (target : Str)
    (hdecodes : ∀ sessionId raw, StreamTarget target sessionId raw →
      ∃ streamId, decodePercentEncoded raw = .ok streamId) :
    (∃ found, parseWebsocketStreamTarget target = .ok found) ∧
    (∀ sessionId streamId,
      parseWebsocketStreamTarget target = .ok (some (sessionId, streamId)) ↔
        ∃ raw, StreamTarget target sessionId raw ∧ decodePercentEncoded raw = .ok streamId) ∧
    (parseWebsocketStreamTarget target = .ok none ↔
      ¬ ∃ form : Str × Str, StreamTarget target form.1 form.2) ∧
    (∀ sessionId raw sessionId' raw', StreamTarget target sessionId raw →
      StreamTarget target sessionId' raw' → sessionId = sessionId' ∧ raw = raw') ∧
    ∀ any, parseWebsocketStreamTarget any ≠ .error .outOfRange := by
  refine ⟨?_, parse_eq_some_iff target, ?_, fun _ _ _ _ h h' => h.unique h', parse_ne_outOfRange⟩
  · by_cases hnone : parseWebsocketStreamTarget target = .ok none
    · exact ⟨none, hnone⟩
    · obtain ⟨sessionId, raw, htarget⟩ := target_of_parse hnone
      obtain ⟨streamId, hstream⟩ := hdecodes sessionId raw htarget
      exact ⟨_, (parse_eq_some_iff target sessionId streamId).2 ⟨raw, htarget, hstream⟩⟩
  · rw [parse_eq_none_iff]
    constructor
    · intro h hform
      obtain ⟨form, hform⟩ := hform
      exact h _ _ hform
    · intro h sessionId raw htarget
      exact h ⟨(sessionId, raw), htarget⟩

/-- A stream part with separators of its own. -/
theorem nested_separators_parse :
    parseWebsocketStreamTarget (str "/sessions/a/streams/b/streams/c/ws/ws?x=1") =
      .ok (some (str "a", str "b/streams/c/ws")) := by
  have htarget : StreamTarget (str "/sessions/a/streams/b/streams/c/ws/ws?x=1") (str "a")
      (str "b/streams/c/ws") := ⟨by decide, by decide, by decide, by decide⟩
  have hraw : decodePercentEncoded (str "b/streams/c/ws") = .ok (str "b/streams/c/ws") := rfl
  refine ((parse_by_grammar _ fun sessionId raw h => ?_).2.1 _ _).2 ⟨_, htarget, hraw⟩
  obtain ⟨-, rfl⟩ := htarget.unique h
  exact ⟨_, hraw⟩

/-- The separators overlap, so there is no stream part. -/
example : parseWebsocketStreamTarget (str "/sessions/a/streams/ws") = .ok none := rfl

/-! ## The path of a stream -/

theorem hexDigit_plain : ∀ n < 16, hexDigit n ≠ chr '/' ∧ hexDigit n ≠ chr '?' := by
  decide

/-- A generated session id has no character that means something in a
target. -/
theorem generateSessionId_plain (draw : UInt64) :
    chr '/' ∉ Service.generateSessionId draw ∧ chr '?' ∉ Service.generateSessionId draw := by
  have hdigits : ∀ c ∈ Service.hex16 draw, c ≠ chr '/' ∧ c ≠ chr '?' := by
    intro c hc
    obtain ⟨i, -, rfl⟩ := List.mem_map.1 hc
    exact hexDigit_plain _ (Nat.mod_lt _ (by decide))
  have hlead : chr '/' ∉ str "sess_" ∧ chr '?' ∉ str "sess_" := by decide
  unfold Service.generateSessionId
  simp only [List.mem_append, not_or]
  exact ⟨⟨hlead.1, fun h => (hdigits _ h).1 rfl⟩, ⟨hlead.2, fun h => (hdigits _ h).2 rfl⟩⟩

theorem generateSessionId_ne_nil (draw : UInt64) : Service.generateSessionId draw ≠ [] := by
  simp [Service.generateSessionId, str]

theorem websocketPath_eq (sessionId streamId : Str) :
    makeStreamPath sessionId streamId (str "websocket") =
      sessionsPrefix ++ (sessionId ++ (streamsInfix ++ (streamId ++ wsSuffix))) := by
  rw [streamPath_eq, if_pos rfl]
  simp only [List.append_assoc]
  rfl

theorem takeWhile_append_of_not_mem {c : UInt8} {a : Str} (h : c ∉ a) (b : Str) :
    (a ++ b).takeWhile (fun x => x != c) = a ++ b.takeWhile fun x => x != c :=
  List.takeWhile_append_of_pos fun x hx => by
    simpa using fun he : x = c => h (he ▸ hx)

/-- The route of a path, when the session id has no `?`. -/
theorem routeOf_path {sessionId : Str} (h : chr '?' ∉ sessionId) (streamId : Str) :
    routeOf (makeStreamPath sessionId streamId (str "websocket")) =
      sessionsPrefix ++ (sessionId ++ (streamsInfix ++ routeOf (streamId ++ wsSuffix))) := by
  have hsessions : chr '?' ∉ sessionsPrefix := by decide
  have hstreams : chr '?' ∉ streamsInfix := by decide
  simp only [websocketPath_eq, routeOf, takeWhile_append_of_not_mem hsessions,
    takeWhile_append_of_not_mem h, takeWhile_append_of_not_mem hstreams]

/-- A text that reads the same in a path as it is. -/
def pathSafe (streamId : Str) : Prop := chr '?' ∉ streamId ∧ keepsLiteral streamId

instance (streamId : Str) : Decidable (pathSafe streamId) :=
  inferInstanceAs (Decidable (_ ∧ _ ∧ _))

theorem path_target {sessionId streamId : Str} (hne : sessionId ≠ []) (hslash : chr '/' ∉ sessionId)
    (hquery : chr '?' ∉ sessionId) (hstream : streamId ≠ []) (hplain : chr '?' ∉ streamId) :
    StreamTarget (makeStreamPath sessionId streamId (str "websocket")) sessionId streamId where
  route := by
    have hws : chr '?' ∉ wsSuffix := by decide
    rw [routeOf_path hquery, routeOf, takeWhile_append_of_not_mem hplain,
      ← List.append_nil wsSuffix, takeWhile_append_of_not_mem hws]
    simp
  session_ne := hne
  session_slash := hslash
  raw_ne := hstream

/-- The part behind a `?` is lost. -/
theorem path_target_query {sessionId streamId raw : Str} (hquery : chr '?' ∉ sessionId)
    (hmem : chr '?' ∈ streamId)
    (h : StreamTarget (makeStreamPath sessionId streamId (str "websocket")) sessionId raw) :
    raw.length < streamId.length := by
  obtain ⟨shown, query, rfl, hshown⟩ := List.eq_append_cons_of_mem hmem
  have hroute : routeOf (shown ++ chr '?' :: query ++ wsSuffix) = shown := by
    rw [routeOf, List.append_assoc, takeWhile_append_of_not_mem hshown]
    simp
  have heq := h.route
  rw [routeOf_path hquery, hroute] at heq
  simp only [List.append_cancel_left_eq] at heq
  subst heq
  simp only [List.length_append, List.length_cons]
  omega

section Generated

variable (draw : UInt64) {streamId : Str}

theorem path_leads_back (hne : streamId ≠ []) (hsafe : pathSafe streamId) :
    parseWebsocketStreamTarget
        (makeStreamPath (Service.generateSessionId draw) streamId (str "websocket")) =
      .ok (some (Service.generateSessionId draw, streamId)) := by
  obtain ⟨hslash, hquery⟩ := generateSessionId_plain draw
  rw [parse_eq_some_iff]
  exact ⟨streamId, path_target (generateSessionId_ne_nil draw) hslash hquery hne hsafe.1,
    (decode_eq_self_iff _).2 hsafe.2⟩

theorem pathSafe_of_leads_back (hne : streamId ≠ [])
    (h : parseWebsocketStreamTarget
        (makeStreamPath (Service.generateSessionId draw) streamId (str "websocket")) =
      .ok (some (Service.generateSessionId draw, streamId))) : pathSafe streamId := by
  obtain ⟨hslash, hquery⟩ := generateSessionId_plain draw
  obtain ⟨raw, htarget, hdec⟩ := (parse_eq_some_iff _ _ _).1 h
  by_cases hmem : chr '?' ∈ streamId
  · -- what was parsed is shorter than the id, and decoding adds nothing
    have hlt := path_target_query hquery hmem htarget
    have hle := decode_length_le hdec
    omega
  · have hroute :=
      (path_target (generateSessionId_ne_nil draw) hslash hquery hne hmem).route.symm.trans
        htarget.route
    simp only [List.append_cancel_left_eq, List.append_cancel_right_eq] at hroute
    subst hroute
    exact ⟨hmem, (decode_eq_self_iff _).1 hdec⟩

/-- **Paths that lead back, exactly.** For every generated session id and
every stream id: parsing the advertised websocket path returns the two ids
if and only if the stream id is safe in a path. -/
theorem path_leads_back_iff (hne : streamId ≠ []) :
    parseWebsocketStreamTarget
        (makeStreamPath (Service.generateSessionId draw) streamId (str "websocket")) =
      .ok (some (Service.generateSessionId draw, streamId)) ↔ pathSafe streamId :=
  ⟨pathSafe_of_leads_back draw hne, path_leads_back draw hne⟩

end Generated

theorem sink_path_leads_back :
    parseWebsocketStreamTarget
        (makeStreamPath (Service.generateSessionId 7) (str "sink0/iq%") (str "websocket")) =
      .ok (some (Service.generateSessionId 7, str "sink0/iq%")) :=
  (path_leads_back_iff 7 (by decide)).2 (by decide)

/-- The path of stream `a+b` leads to the stream `a b`. -/
theorem paths_collide :
    parseWebsocketStreamTarget
        (makeStreamPath (Service.generateSessionId 7) (str "a+b") (str "websocket")) =
      .ok (some (Service.generateSessionId 7, str "a b")) ∧
    parseWebsocketStreamTarget
        (makeStreamPath (Service.generateSessionId 7) (str "a b") (str "websocket")) =
      .ok (some (Service.generateSessionId 7, str "a b")) := by
  decide +kernel

/-- In a derived plan with safe ids, a stream's path resolves to that stream
and to no other. -/
theorem plan_routes_injective {y : Yaml} {session : Session} {plan : StreamRuntimePlan}
    {draw : UInt64} (hid : session.id = Service.generateSessionId draw)
    (hplan : deriveStreamRuntimePlan y session = some plan)
    (hsafe : ∀ s ∈ plan.streams, s.transport = str "websocket" → pathSafe s.streamId) :
    ∀ s ∈ plan.streams, ∀ t ∈ plan.streams, s.transport = str "websocket" →
      t.transport = str "websocket" →
      (parseWebsocketStreamTarget s.path = parseWebsocketStreamTarget t.path ↔ s = t) := by
  obtain ⟨hvalid, -, hstreams⟩ := (derive_eq_some_iff y session plan).1 hplan
  obtain ⟨hwf, hnodup⟩ := declaringBlocks_wellFormed hvalid
  have hpath : ∀ s ∈ plan.streams, s.transport = str "websocket" →
      parseWebsocketStreamTarget s.path = .ok (some (session.id, s.streamId)) := by
    intro s hs hws
    have hs' := hs
    rw [hstreams] at hs'
    obtain ⟨nb, hnb, rfl⟩ := List.mem_map.1 hs'
    have hback := path_leads_back draw (hwf nb hnb).streamId (hsafe _ hs hws)
    rw [← hid, ← show nb.stream.transport.getD [] = str "websocket" from hws] at hback
    exact hback
  intro s hs t ht hsws htws
  rw [hpath s hs hsws, hpath t ht htws]
  refine ⟨fun h => ?_, fun h => by rw [h]⟩
  simp only [Except.ok.injEq, Option.some.injEq, Prod.mk.injEq, true_and] at h
  rw [hstreams] at hs ht
  obtain ⟨a, ha, rfl⟩ := List.mem_map.1 hs
  obtain ⟨b, hb, rfl⟩ := List.mem_map.1 ht
  rw [List.inj_on_of_nodup_map hnodup ha hb h]

end Gr4cp.Api

import Gr4ControlPlane.L4App.BlockSettings
import Gr4ControlPlane.L5Api.ErrorReplies
import Gr4ControlPlane.L5Api.RequestBodies

/-!
# The settings routes (`api/http_server.cpp`)

`POST` and `GET` of `/sessions/{id}/blocks/{raw}/settings`: the path names the
session and the block, the query the mode, and the body is the patch. The
body and the mode of an update are read inside one call, in an order the
language leaves open.

* `settings_update_answers`: which requests get as far as the runtime, with
  what, and which are answered with 200. The order shows in the message of a
  refusal only.
* `settings_read_answers`: the same for reading.
-/
namespace Gr4cp.Api

open Gr4cp.Core Gr4cp.Domain Gr4cp.Storage Gr4cp.Runtime Gr4cp.App
open Gr4cp.App.BlockSettings (propertyMapToJson)

/-! ## The handlers -/

/-- mirrors src/api/http_server.cpp:203-210 -/
def blockSettingsUpdateToJson (result : BlockSettingsUpdateResult) : Json :=
  .obj [(str "accepted", .bool result.accepted), (str "applied_via", .str result.appliedVia),
    (str "block", .str result.block), (str "session_id", .str result.sessionId)]

/-- mirrors src/api/http_server.cpp:253-262 -/
def parseSettingsMode (mode : Str) : Except ServiceError BlockSettingsMode :=
  if mode = [] ∨ mode = str "staged" then .ok .staged
  else if mode = str "immediate" then .ok .immediate
  else .error (invalid "mode must be 'staged' or 'immediate'")

/-- The body and the mode, the body first or not.
mirrors src/api/http_server.cpp:520-524 -/
def readUpdate (t : JsonText) (bodyFirst : Bool) (body mode : Str) :
    Except ServiceError (Json × BlockSettingsMode) :=
  if bodyFirst then do
    let patch ← parseJsonBody t body
    let mode ← parseSettingsMode mode
    return (patch, mode)
  else do
    let mode ← parseSettingsMode mode
    let patch ← parseJsonBody t body
    return (patch, mode)

/-- What the service throws. -/
def raisedBy : Option ServiceError → Raised
  | some e => .service e
  | none => .other

/-- An action that writes what it has found. -/
def writing (result : Except Raised Json) : Reply.Action := fun reply =>
  match result with
  | .error raised => (.error raised, reply)
  | .ok body =>
    match reply.setJsonResponse body 200 with
    | (.error _, reply) => (.error .std, reply)
    | (.ok _, reply) => (.ok (), reply)

section Routes

variable (t : JsonText) (repository : Repository)
  (setBlockSettings : SettingsCall → Except SettingsThrow Unit)
  (getBlockSettings : Session → Str → Except SettingsThrow PropertyMap)

/-- The body of the `POST`, with the calls made of the runtime.
mirrors src/api/http_server.cpp:515-525 -/
def updateSettings (bodyFirst : Bool) (sessionId raw body mode : Str) :
    Except Raised BlockSettingsUpdateResult × List SettingsCall :=
  match decodePercentEncoded raw with
  | .error _ => (.error .std, [])
  | .ok blockUniqueName =>
    match readUpdate t bodyFirst body mode with
    | .error e => (.error (.service e), [])
    | .ok (patch, mode) =>
      let (result, calls) :=
        update repository setBlockSettings sessionId blockUniqueName patch mode
      (result.mapError raisedBy, calls)

/-- mirrors src/api/http_server.cpp:512-527 -/
def postSettings (bodyFirst : Bool) (sessionId raw body mode : Str) (reply : Reply) :
    (Except Thrown Unit × Reply) × List SettingsCall :=
  let (result, calls) :=
    updateSettings t repository setBlockSettings bodyFirst sessionId raw body mode
  (reply.execute (writing (result.map blockSettingsUpdateToJson)), calls)

/-- The body of the `GET`.
mirrors src/api/http_server.cpp:532-535 -/
def readSettings (sessionId raw : Str) : Except Raised Json × List (Session × Str) :=
  match decodePercentEncoded raw with
  | .error _ => (.error .std, [])
  | .ok blockUniqueName =>
    let (result, calls) :=
      BlockSettings.get repository getBlockSettings sessionId blockUniqueName
    (result.mapError raisedBy, calls)

/-- mirrors src/api/http_server.cpp:529-537 -/
def getSettings (sessionId raw : Str) (reply : Reply) :
    (Except Thrown Unit × Reply) × List (Session × Str) :=
  let (result, calls) := readSettings repository getBlockSettings sessionId raw
  (reply.execute (writing (result.map fun settings => .obj [(str "settings", settings)])), calls)

end Routes

/-! ## Replies -/

theorem assigned_status (raised : Raised) : (assigned raised).1 ≠ 200 := by
  cases raised with
  | service error =>
    obtain ⟨kind, what⟩ := error
    cases kind <;> simp [assigned]
  | _ => simp [assigned]

theorem handleException_status (reply : Reply) (raised : Raised) :
    (reply.handleException raised).2.status = some (assigned raised).1 := by
  unfold Reply.handleException Reply.setErrorResponse Reply.setJsonResponse
  rw [raisedDetails_eq]
  split <;> rfl

/-- Status 200 says that the body was found and could be written. -/
theorem writing_ok_iff {result : Except Raised Json} {reply : Reply} :
    (reply.execute (writing result)).2.status = some 200 ↔
      ∃ body, result = .ok body ∧ body.any isUnprintable = false := by
  cases result with
  | error raised =>
    refine iff_of_false (fun h => ?_) (by rintro ⟨body, h, -⟩; cases h)
    have hstatus := handleException_status reply raised
    exact assigned_status raised (Option.some.inj (hstatus.symm.trans h))
  | ok body =>
    cases hprint : body.any isUnprintable with
    | false =>
      have hrun : (reply.execute (writing (.ok body))).2 = ⟨some 200, some body⟩ := by
        simp [Reply.execute, writing, Reply.setJsonResponse, hprint]
      rw [hrun]
      exact iff_of_true rfl ⟨body, rfl, hprint⟩
    | true =>
      have hrun : reply.execute (writing (.ok body)) =
          Reply.handleException { reply with status := some 200 } .std := by
        simp [Reply.execute, writing, Reply.setJsonResponse, hprint]
      rw [hrun, handleException_status]
      refine iff_of_false (fun h => assigned_status .std (Option.some.inj h)) ?_
      rintro ⟨body', hbody, hfalse⟩
      cases hbody
      rw [hprint] at hfalse
      cases hfalse

theorem writing_ok {body : Json} (h : body.any isUnprintable = false) (reply : Reply) :
    reply.execute (writing (.ok body)) = (.ok (), ⟨some 200, some body⟩) := by
  simp [Reply.execute, writing, Reply.setJsonResponse, h]

theorem writing_body_iff {result : Except Raised Json} {body : Json} {reply : Reply} :
    ((reply.execute (writing result)).2.status = some 200 ∧
        (reply.execute (writing result)).2.content = some body) ↔
      result = .ok body ∧ body.any isUnprintable = false := by
  rw [writing_ok_iff]
  constructor
  · rintro ⟨⟨written, rfl, hprint⟩, hcontent⟩
    rw [writing_ok hprint] at hcontent
    cases hcontent
    exact ⟨rfl, hprint⟩
  · rintro ⟨rfl, hprint⟩
    rw [writing_ok hprint]
    exact ⟨⟨body, rfl, hprint⟩, rfl⟩

/-! ## Updates -/

section Updates

variable {t : JsonText} {repository : Repository}
  {setBlockSettings : SettingsCall → Except SettingsThrow Unit} {bodyFirst : Bool}
  {sessionId raw body mode : Str}

theorem readUpdate_ok_iff {found : Json × BlockSettingsMode} :
    readUpdate t bodyFirst body mode = .ok found ↔
      parseJsonBody t body = .ok found.1 ∧ parseSettingsMode mode = .ok found.2 := by
  obtain ⟨patch, settingsMode⟩ := found
  unfold readUpdate
  cases hpatch : parseJsonBody t body <;> cases hmode : parseSettingsMode mode <;>
    cases bodyFirst <;> simp [bind, Except.bind, pure, Except.pure]

theorem loadRunning_ok_iff {id : Str} {session : Session} :
    loadRunningSessionOrThrow repository id = .ok session ↔
      repository.get id = some session ∧ session.state = .running := by
  unfold loadRunningSessionOrThrow
  cases repository.get id with
  | none => simp
  | some found =>
    simp only [Option.some.injEq]
    split
    · rename_i hnot
      refine iff_of_false nofun ?_
      rintro ⟨rfl, hrunning⟩
      exact hnot hrunning
    · rename_i hrunning
      rw [ne_eq, not_not] at hrunning
      constructor
      · intro h
        cases h
        exact ⟨rfl, hrunning⟩
      · rintro ⟨rfl, -⟩
        rfl

variable (t repository sessionId raw body mode) in
/-- What the request asks of the runtime. -/
structure Asks (call : SettingsCall) : Prop where
  session : repository.get sessionId = some call.session
  running : call.session.state = .running
  block : decodePercentEncoded raw = .ok call.block
  patch : ∃ patch, parseJsonBody t body = .ok patch ∧ jsonToPropertyMap patch = .ok call.patch
  mode : parseSettingsMode mode = .ok call.mode

/-- A request that asks something makes this one call. -/
theorem Asks.updates {call : SettingsCall} (h : Asks t repository sessionId raw body mode call) :
    updateSettings t repository setBlockSettings bodyFirst sessionId raw body mode =
      (match setBlockSettings call with
        | .error thrown => .error (raisedBy (settingsError thrown))
        | .ok _ => .ok ⟨call.session.id, call.block, call.mode.toStr, true⟩, [call]) := by
  obtain ⟨patch, hbody, hpatch⟩ := h.patch
  have hread : readUpdate t bodyFirst body mode = .ok (patch, call.mode) :=
    readUpdate_ok_iff.2 ⟨hbody, h.mode⟩
  have hload := loadRunning_ok_iff.2 ⟨h.session, h.running⟩
  simp only [updateSettings, h.block, hread, update, hload, hpatch]
  cases setBlockSettings call <;> rfl

variable (setBlockSettings bodyFirst) in
/-- Every other request is refused before the runtime is asked. -/
theorem updateSettings_refused
    (h : ∀ call, ¬ Asks t repository sessionId raw body mode call) :
    ∃ raised, updateSettings t repository setBlockSettings bodyFirst sessionId raw body mode =
      (.error raised, []) := by
  unfold updateSettings
  cases hblock : decodePercentEncoded raw with
  | error e => exact ⟨_, rfl⟩
  | ok block =>
    cases hread : readUpdate t bodyFirst body mode with
    | error e => exact ⟨_, rfl⟩
    | ok found =>
      obtain ⟨patch, settingsMode⟩ := found
      obtain ⟨hbody, hmode⟩ := readUpdate_ok_iff.1 hread
      simp only [update]
      cases hload : loadRunningSessionOrThrow repository sessionId with
      | error e => exact ⟨_, rfl⟩
      | ok session =>
        cases hpatch : jsonToPropertyMap patch with
        | error what => exact ⟨_, rfl⟩
        | ok propertyMap =>
          obtain ⟨hsession, hrunning⟩ := loadRunning_ok_iff.1 hload
          exact absurd ⟨hsession, hrunning, hblock, ⟨patch, hbody, hpatch⟩, hmode⟩
            (h ⟨session, block, propertyMap, settingsMode⟩)

theorem Asks.unique {call call' : SettingsCall}
    (h : Asks t repository sessionId raw body mode call)
    (h' : Asks t repository sessionId raw body mode call') : call = call' := by
  have hcall : (updateSettings t repository (fun _ => .ok ()) true sessionId raw body mode).2 =
      [call] := by rw [h.updates]
  have hcall' : (updateSettings t repository (fun _ => .ok ()) true sessionId raw body mode).2 =
      [call'] := by rw [h'.updates]
  exact List.singleton_inj.1 (hcall.symm.trans hcall')

/-- What an update is answered with. -/
def updated (call : SettingsCall) : Json :=
  blockSettingsUpdateToJson ⟨call.session.id, call.block, call.mode.toStr, true⟩

theorem updated_printable_iff (call : SettingsCall) :
    (updated call).any isUnprintable = false ↔
      Utf8.valid call.session.id = true ∧ Utf8.valid call.block = true := by
  have hkeys : Utf8.valid (str "accepted") = true ∧ Utf8.valid (str "applied_via") = true ∧
      Utf8.valid (str "block") = true ∧ Utf8.valid (str "session_id") = true := by decide
  have hmode : Utf8.valid call.mode.toStr = true := by cases call.mode <;> decide
  simp [updated, blockSettingsUpdateToJson, Json.any, Json.anyMember, isUnprintable, hkeys, hmode,
    and_comm]

/-- **Which updates get through.** In whatever order the body and the mode are
read: the runtime is called with what the request asks, once, and not at all
if it asks nothing; the reply is 200 exactly when it is called, returns, and
the ids can be written, and it then says what was done. -/
theorem settings_update_answers (t : JsonText) (repository : Repository)
    (setBlockSettings : SettingsCall → Except SettingsThrow Unit) (bodyFirst : Bool)
    (sessionId raw body mode : Str) (reply : Reply) :
    let (outcome, calls) :=
      postSettings t repository setBlockSettings bodyFirst sessionId raw body mode reply
    (∀ call, call ∈ calls ↔ Asks t repository sessionId raw body mode call) ∧ calls.length ≤ 1 ∧
    (outcome.2.status = some 200 ↔ ∃ call ∈ calls, setBlockSettings call = .ok () ∧
      Utf8.valid call.session.id = true ∧ Utf8.valid call.block = true) ∧
    ∀ call ∈ calls, outcome.2.status = some 200 →
      outcome = (.ok (), ⟨some 200, some (updated call)⟩) := by
  by_cases hasks : ∃ call, Asks t repository sessionId raw body mode call
  · obtain ⟨call, hcall⟩ := hasks
    have hrun : postSettings t repository setBlockSettings bodyFirst sessionId raw body mode reply =
        (reply.execute (writing (match setBlockSettings call with
          | .error thrown => .error (raisedBy (settingsError thrown))
          | .ok _ => .ok (updated call))), [call]) := by
      unfold postSettings
      rw [hcall.updates]
      cases setBlockSettings call <;> rfl
    rw [hrun]
    simp only [List.mem_singleton, exists_eq_left, forall_eq, List.length_singleton, le_refl,
      true_and]
    refine ⟨fun other => ⟨fun h => h ▸ hcall, fun h => h.unique hcall⟩, ?_⟩
    rw [writing_ok_iff]
    cases setBlockSettings call with
    | error thrown => simp
    | ok u =>
      simp only [Except.ok.injEq, exists_eq_left', true_and]
      exact ⟨updated_printable_iff call, fun hprint => writing_ok hprint reply⟩
  · rw [not_exists] at hasks
    obtain ⟨raised, hrefused⟩ := updateSettings_refused setBlockSettings bodyFirst hasks
    have hrun : postSettings t repository setBlockSettings bodyFirst sessionId raw body mode reply =
        (reply.execute (writing (.error raised)), []) := by
      unfold postSettings
      rw [hrefused]
      rfl
    rw [hrun]
    simp [hasks, writing_ok_iff]

end Updates

/-! ## Reading -/

section Reading

variable {repository : Repository}
  {getBlockSettings : Session → Str → Except SettingsThrow PropertyMap} {sessionId raw : Str}

/-- A reading of a session that runs makes one call. -/
theorem readSettings_asked {session : Session} {block : Str}
    (hsession : repository.get sessionId = some session) (hrunning : session.state = .running)
    (hblock : decodePercentEncoded raw = .ok block) :
    readSettings repository getBlockSettings sessionId raw =
      (match getBlockSettings session block with
        | .error thrown => .error (raisedBy (settingsError thrown))
        | .ok settings => (propertyMapToJson settings).mapError fun what =>
            .service ⟨.runtime, what⟩, [(session, block)]) := by
  have hload := loadRunning_ok_iff.2 ⟨hsession, hrunning⟩
  simp only [readSettings, hblock, BlockSettings.get, hload]
  cases getBlockSettings session block with
  | error thrown => rfl
  | ok settings =>
    simp only
    cases propertyMapToJson settings <;> rfl

variable (getBlockSettings) in
/-- Every other reading is refused before the runtime is asked. -/
theorem readSettings_refused (h : ∀ session block, ¬ (repository.get sessionId = some session ∧
      session.state = .running ∧ decodePercentEncoded raw = .ok block)) :
    ∃ raised, readSettings repository getBlockSettings sessionId raw = (.error raised, []) := by
  unfold readSettings
  cases hblock : decodePercentEncoded raw with
  | error e => exact ⟨_, rfl⟩
  | ok block =>
    simp only [BlockSettings.get]
    cases hload : loadRunningSessionOrThrow repository sessionId with
    | error e => exact ⟨_, rfl⟩
    | ok session =>
      obtain ⟨hsession, hrunning⟩ := loadRunning_ok_iff.1 hload
      exact absurd ⟨hsession, hrunning, hblock⟩ (h session block)

theorem settings_printable_iff (settings : Json) :
    (Json.obj [(str "settings", settings)]).any isUnprintable = false ↔
      settings.any isUnprintable = false := by
  have hkey : Utf8.valid (str "settings") = true := by decide
  simp [Json.any, Json.anyMember, isUnprintable, hkey]

/-- The reading finds settings when the runtime answers with such that have a
JSON form. -/
theorem readSettings_ok_iff {settings : Json} :
    (readSettings repository getBlockSettings sessionId raw).1 = .ok settings ↔
      ∃ session block found, (session, block) ∈
          (readSettings repository getBlockSettings sessionId raw).2 ∧
        getBlockSettings session block = .ok found ∧ propertyMapToJson found = .ok settings := by
  by_cases hasks : ∃ session block, repository.get sessionId = some session ∧
      session.state = .running ∧ decodePercentEncoded raw = .ok block
  · obtain ⟨session, block, hsession, hrunning, hblock⟩ := hasks
    rw [readSettings_asked hsession hrunning hblock]
    simp only [List.mem_singleton, Prod.mk.injEq]
    constructor
    · intro h
      refine ⟨session, block, ?_⟩
      cases hanswer : getBlockSettings session block with
      | error thrown =>
        rw [hanswer] at h
        cases h
      | ok found =>
        rw [hanswer] at h
        simp only at h
        cases hjson : propertyMapToJson found with
        | error what =>
          rw [hjson] at h
          cases h
        | ok written =>
          rw [hjson] at h
          cases h
          exact ⟨found, ⟨rfl, rfl⟩, rfl, hjson⟩
    · rintro ⟨_, _, found, ⟨rfl, rfl⟩, hanswer, hjson⟩
      simp only [hanswer, hjson, Except.mapError]
  · obtain ⟨raised, hrefused⟩ := readSettings_refused getBlockSettings fun session block h =>
      hasks ⟨session, block, h⟩
    rw [hrefused]
    simp

/-- The runtime is asked for the block of a session that runs. -/
theorem mem_readSettings_iff {session : Session} {block : Str} :
    (session, block) ∈ (readSettings repository getBlockSettings sessionId raw).2 ↔
      repository.get sessionId = some session ∧ session.state = .running ∧
        decodePercentEncoded raw = .ok block := by
  constructor
  · intro hmem
    by_contra hnot
    obtain ⟨raised, hrefused⟩ := readSettings_refused getBlockSettings fun session' block' h => by
      rw [readSettings_asked h.1 h.2.1 h.2.2, List.mem_singleton] at hmem
      cases hmem
      exact hnot h
    rw [hrefused] at hmem
    cases hmem
  · rintro ⟨hsession, hrunning, hblock⟩
    rw [readSettings_asked hsession hrunning hblock, List.mem_singleton]

variable (getBlockSettings) in
theorem readSettings_once :
    (readSettings repository getBlockSettings sessionId raw).2.length ≤ 1 := by
  by_cases hasks : ∃ session block, repository.get sessionId = some session ∧
      session.state = .running ∧ decodePercentEncoded raw = .ok block
  · obtain ⟨session, block, hsession, hrunning, hblock⟩ := hasks
    rw [readSettings_asked hsession hrunning hblock]
    exact Nat.le_refl 1
  · obtain ⟨raised, hrefused⟩ := readSettings_refused getBlockSettings fun session block h =>
      hasks ⟨session, block, h⟩
    rw [hrefused]
    exact Nat.zero_le 1

/-- **Which readings get through.** The runtime is asked, once, for the block
of a session that runs, and not at all otherwise; the reply is 200 with some
settings exactly when it answers with settings whose JSON form these are, and
they can be written. -/
theorem settings_read_answers (repository : Repository)
    (getBlockSettings : Session → Str → Except SettingsThrow PropertyMap) (sessionId raw : Str)
    (reply : Reply) :
    let (outcome, calls) := getSettings repository getBlockSettings sessionId raw reply
    (∀ session block, (session, block) ∈ calls ↔ repository.get sessionId = some session ∧
      session.state = .running ∧ decodePercentEncoded raw = .ok block) ∧ calls.length ≤ 1 ∧
    ∀ settings, (outcome.2.status = some 200 ∧
        outcome.2.content = some (.obj [(str "settings", settings)])) ↔
      ∃ session block found, (session, block) ∈ calls ∧
        getBlockSettings session block = .ok found ∧ propertyMapToJson found = .ok settings ∧
        settings.any isUnprintable = false := by
  refine ⟨fun session block => mem_readSettings_iff, readSettings_once getBlockSettings,
    fun settings => ?_⟩
  have hfound : (readSettings repository getBlockSettings sessionId raw).1.map
        (fun settings => Json.obj [(str "settings", settings)]) =
        .ok (.obj [(str "settings", settings)]) ↔
      (readSettings repository getBlockSettings sessionId raw).1 = .ok settings := by
    cases (readSettings repository getBlockSettings sessionId raw).1 <;> simp [Except.map]
  refine (writing_body_iff.trans (and_congr (hfound.trans readSettings_ok_iff)
    (settings_printable_iff settings))).trans ?_
  constructor
  · rintro ⟨⟨session, block, found, hcall, hanswer, hjson⟩, hprint⟩
    exact ⟨session, block, found, hcall, hanswer, hjson, hprint⟩
  · rintro ⟨session, block, found, hcall, hanswer, hjson, hprint⟩
    exact ⟨⟨session, block, found, hcall, hanswer, hjson⟩, hprint⟩

end Reading

end Gr4cp.Api

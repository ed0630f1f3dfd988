import Gr4ControlPlane.Core.Json
import Gr4ControlPlane.L1Domain.Pmt
import Gr4ControlPlane.L4App.SessionService

/-!
# Live block settings (`app/block_settings_service.cpp`)

`update` turns a JSON object into a property map and hands it to the
runtime. The conversion tests `is_number_integer` before
`is_number_unsigned`; the first also holds of unsigned values, so the range
check of the second is never reached and an integer above `2^63 - 1` is
forwarded modulo `2^64`.

* `jsonToPmtValue_spec`: the conversion fails exactly on arrays and binary
  values, at any depth, and otherwise carries everything over if no integer
  is too big.
* `update_meets_iff`: `update` does what its documentation says unless the
  patch is an object that is accepted with an integer above `2^63 - 1` in
  it.
-/
namespace Gr4cp.App

open Gr4cp.Core Gr4cp.Domain Gr4cp.Storage Gr4cp.Runtime

/-! ## The service -/

/-- mirrors include/gr4cp/runtime/block_settings.hpp:10-13 -/
inductive BlockSettingsMode where
  | staged | immediate
  deriving DecidableEq, Repr

/-- mirrors include/gr4cp/runtime/block_settings.hpp:15-21 -/
def BlockSettingsMode.toStr : BlockSettingsMode → Str
  | .staged => str "staged_settings"
  | .immediate => str "settings"

/-- mirrors include/gr4cp/app/block_settings_service.hpp:18-23 -/
structure BlockSettingsUpdateResult where
  sessionId : Str
  block : Str
  appliedVia : Str
  accepted : Bool
  deriving DecidableEq, Repr

/-- What `set_block_settings` may throw. -/
inductive SettingsThrow where
  | blockNotFound (what : Str)
  | replyTimeout (what : Str)
  | std (what : Str)
  | other

/-- `is_number_integer()`: signed or unsigned. -/
def isNumberInteger : Json → Bool
  | .int _ | .uint _ => true
  | _ => false

def isNumberUnsigned : Json → Bool
  | .uint _ => true
  | _ => false

/-- `get<std::int64_t>()` of a number: modulo `2^64`. -/
def getInt64 : Json → Int64
  | .int i => i
  | .uint u => u.toInt64
  | _ => 0

/-- `get<std::uint64_t>()` of a number: modulo `2^64`. -/
def getUInt64 : Json → UInt64
  | .int i => i.toUInt64
  | .uint u => u
  | _ => 0

/-- The tests for values without parts, in order; the one for unsigned
integers comes after the one that holds of all integers.
mirrors src/app/block_settings_service.cpp:79-100,107 -/
def scalarToPmtValue : Json → Except Str Value
  | .null => .ok .null
  | .bool b => .ok (.bool b)
  | value =>
    if isNumberInteger value then .ok (.int (getInt64 value))
    else if isNumberUnsigned value then
      let raw := getUInt64 value
      if 2 ^ 63 - 1 < raw.toNat then
        .error (str "unsigned integer settings values must fit in int64")
      else .ok (.int raw.toInt64)
    else
      match value with
      | .float d => .ok (.float d)
      | .str s => .ok (.str s)
      | _ => .error (str "unsupported JSON value in settings body")

mutual

/-- mirrors src/app/block_settings_service.cpp:78-108 -/
def jsonToPmtValue : Json → Except Str Value
  | .obj members => (membersToPropertyMap members []).map .map
  | .arr _ => .error (str "settings arrays are not supported")
  | value => scalarToPmtValue value

/-- The loop over an object's members.
mirrors src/app/block_settings_service.cpp:71-75 -/
def membersToPropertyMap : List (Str × Json) → PropertyMap → Except Str PropertyMap
  | [], result => .ok result
  | (key, item) :: members, result =>
    match jsonToPmtValue item with
    | .error e => .error e
    | .ok value => membersToPropertyMap members (Assoc.insertOrAssign key value result)

end

/-- mirrors src/app/block_settings_service.cpp:66-76 -/
def jsonToPropertyMap : Json → Except Str PropertyMap
  | .obj members => membersToPropertyMap members []
  | _ => .error (str "settings body must be a JSON object")

/-- mirrors src/app/block_settings_service.cpp:55-64 -/
def loadRunningSessionOrThrow (repository : Repository) (sessionId : Str) :
    Except ServiceError Session :=
  match repository.get sessionId with
  | none => .error ⟨.notFound, str "session not found: " ++ sessionId⟩
  | some session =>
    if session.state ≠ .running then
      .error ⟨.invalidState, str "session not running: " ++ sessionId⟩
    else .ok session

/-- The arguments of a call of `set_block_settings`. -/
structure SettingsCall where
  session : Session
  block : Str
  patch : PropertyMap
  mode : BlockSettingsMode
  deriving DecidableEq, Repr

/-- The handlers of `update`; `none` is a throw they do not catch.
mirrors src/app/block_settings_service.cpp:24-30 -/
def settingsError : SettingsThrow → Option ServiceError
  | .blockNotFound what => some ⟨.notFound, what⟩
  | .replyTimeout what => some ⟨.timeout, what⟩
  | .std what => some ⟨.runtime, what⟩
  | .other => none

/-- The result, and the calls made of the runtime.
mirrors src/app/block_settings_service.cpp:15-38 -/
def update (repository : Repository) (setBlockSettings : SettingsCall → Except SettingsThrow Unit)
    (sessionId blockUniqueName : Str) (patch : Json) (mode : BlockSettingsMode) :
    Except (Option ServiceError) BlockSettingsUpdateResult × List SettingsCall :=
  match loadRunningSessionOrThrow repository sessionId with
  | .error e => (.error (some e), [])
  | .ok session =>
    match jsonToPropertyMap patch with
    | .error what => (.error (some ⟨.validation, what⟩), [])
    | .ok propertyMap =>
      let call := { session, block := blockUniqueName, patch := propertyMap, mode }
      match setBlockSettings call with
      | .error thrown => (.error (settingsError thrown), [call])
      | .ok _ =>
        (.ok
          { sessionId := session.id
            block := blockUniqueName
            appliedVia := mode.toStr
            accepted := true }, [call])

namespace BlockSettings

mutual

/-- mirrors src/app/block_settings_service.cpp:118-153 -/
def pmtValueToJson : Value → Except Str Json
  | .null => .ok .null
  | .bool b => .ok (.bool b)
  | .int i => .ok (.int i)
  | .uint u => .ok (.uint u)
  | .float d => .ok (.float d)
  | .str s => .ok (.str s)
  | .map m => (propertyMapToMembers m []).map .obj
  | .tensor _ | .other _ => .error (str "runtime returned unsupported settings value")

/-- The loop over the entries of a property map.
mirrors src/app/block_settings_service.cpp:111-115 -/
def propertyMapToMembers : PropertyMap → List (Str × Json) → Except Str (List (Str × Json))
  | [], result => .ok result
  | (key, item) :: m, result =>
    match pmtValueToJson item with
    | .error e => .error e
    | .ok value => propertyMapToMembers m (Assoc.insertOrAssign key value result)

end

/-- mirrors src/app/block_settings_service.cpp:110-116 -/
def propertyMapToJson (m : PropertyMap) : Except Str Json := (propertyMapToMembers m []).map .obj

/-- The settings, and the calls of `get_block_settings`. A value that has no
JSON form is reported from inside the `try`, as a `RuntimeError`.
mirrors src/app/block_settings_service.cpp:40-53 -/
def get (repository : Repository)
    (getBlockSettings : Session → Str → Except SettingsThrow PropertyMap)
    (sessionId blockUniqueName : Str) :
    Except (Option ServiceError) Json × List (Session × Str) :=
  match loadRunningSessionOrThrow repository sessionId with
  | .error e => (.error (some e), [])
  | .ok session =>
    match getBlockSettings session blockUniqueName with
    | .error thrown => (.error (settingsError thrown), [(session, blockUniqueName)])
    | .ok settings =>
      match propertyMapToJson settings with
      | .error what => (.error (some ⟨.runtime, what⟩), [(session, blockUniqueName)])
      | .ok json => (.ok json, [(session, blockUniqueName)])

end BlockSettings

/-! ## What a patch may hold -/

/-- Arrays, and binary values, which no JSON text denotes. -/
def isArrayLike : Json → Bool
  | .arr _ | .binary _ => true
  | _ => false

/-- An integer above `2^63 - 1`. -/
def isTooBig : Json → Bool
  | .uint u => decide (2 ^ 63 ≤ u.toNat)
  | _ => false

/-- Built from null, booleans, integers that fit in `int64`, floats, strings
and objects of such values. -/
abbrev Supported (j : Json) : Prop := (j.any fun j => isArrayLike j || isTooBig j) = false

mutual

/-- The same value: the same keys at every depth, and for every integer the
same number. -/
def Carries : Json → Value → Prop
  | .null, .null => True
  | .bool a, .bool b => a = b
  | .int a, .int b => a.toInt = b.toInt
  | .uint a, .int b => (a.toNat : Int) = b.toInt
  | .float a, .float b => a = b
  | .str a, .str b => a = b
  | .obj members, .map m => CarriesAll members m
  | _, _ => False

def CarriesAll : List (Str × Json) → PropertyMap → Prop
  | [], [] => True
  | (key, item) :: members, (key', value) :: m => key = key' ∧ Carries item value ∧ CarriesAll members m
  | _, _ => False

end

/-! ## The conversion -/

theorem toInt64_of_small {u : UInt64} (h : u.toNat < 2 ^ 63) :
    (u.toNat : Int) = u.toInt64.toInt := by
  have h2 : 2 * u.toBitVec.toNat < 2 ^ 64 := by
    have : u.toBitVec.toNat = u.toNat := rfl
    omega
  exact (BitVec.toInt_eq_toNat_of_lt h2).symm

theorem scalarToPmtValue_spec (j : Json) (hobj : j.isObject = false) (harr : isArrayLike j = false) :
    ∃ v, scalarToPmtValue j = .ok v ∧ (isTooBig j = false → Carries j v) := by
  cases j with
  | null => exact ⟨.null, rfl, fun _ => trivial⟩
  | bool b => exact ⟨.bool b, rfl, fun _ => rfl⟩
  | int i => exact ⟨.int i, rfl, fun _ => rfl⟩
  | uint u =>
    refine ⟨.int u.toInt64, rfl, fun hbig => ?_⟩
    simp only [isTooBig, decide_eq_false_iff_not, Nat.not_le] at hbig
    exact toInt64_of_small hbig
  | float d => exact ⟨.float d, rfl, fun _ => rfl⟩
  | str s => exact ⟨.str s, rfl, fun _ => rfl⟩
  | arr items => cases harr
  | obj members => cases hobj
  | binary bytes => cases harr

mutual

theorem jsonToPmtValue_spec : ∀ j : Json, j.any Json.repeatsKey = false →
    (j.any isArrayLike = true → ∃ e, jsonToPmtValue j = .error e) ∧
    (j.any isArrayLike = false →
      ∃ v, jsonToPmtValue j = .ok v ∧ (j.any isTooBig = false → Carries j v))
  | .null, _ => ⟨by rintro ⟨⟩, fun _ => scalarToPmtValue_spec .null rfl rfl⟩
  | .bool b, _ => ⟨by rintro ⟨⟩, fun _ => scalarToPmtValue_spec (.bool b) rfl rfl⟩
  | .int i, _ => ⟨by rintro ⟨⟩, fun _ => scalarToPmtValue_spec (.int i) rfl rfl⟩
  | .uint u, _ => ⟨by rintro ⟨⟩, fun _ => scalarToPmtValue_spec (.uint u) rfl rfl⟩
  | .float d, _ => ⟨by rintro ⟨⟩, fun _ => scalarToPmtValue_spec (.float d) rfl rfl⟩
  | .str s, _ => ⟨by rintro ⟨⟩, fun _ => scalarToPmtValue_spec (.str s) rfl rfl⟩
  | .binary _, _ => ⟨fun _ => ⟨_, rfl⟩, by rintro ⟨⟩⟩
  | .arr _, _ => ⟨fun _ => ⟨_, rfl⟩, by simp [Json.any, isArrayLike]⟩
  | .obj members, hkeys => by
    simp only [Json.any, Bool.or_eq_false_iff, Json.repeatsKey, Bool.not_eq_false',
      decide_eq_true_eq] at hkeys
    obtain ⟨herr, hok⟩ := membersToPropertyMap_spec members [] hkeys.2 hkeys.1 (by simp)
    simp only [Json.any, isArrayLike, isTooBig, Bool.false_or, jsonToPmtValue]
    refine ⟨fun h => ?_, fun h => ?_⟩
    · obtain ⟨e, he⟩ := herr h
      exact ⟨e, by simp [he, Except.map]⟩
    · obtain ⟨m, hm, hcarries⟩ := hok h
      rw [List.nil_append] at hm
      exact ⟨.map m, by simp [hm, Except.map], hcarries⟩

/-- The members of an object are added behind the ones there already. -/
theorem membersToPropertyMap_spec : ∀ (members : List (Str × Json)) (result : PropertyMap),
    Json.anyMember Json.repeatsKey members = false → (members.map (·.1)).Nodup →
    (∀ key ∈ members.map (·.1), key ∉ result.map (·.1)) →
    (Json.anyMember isArrayLike members = true →
      ∃ e, membersToPropertyMap members result = .error e) ∧
    (Json.anyMember isArrayLike members = false →
      ∃ m, membersToPropertyMap members result = .ok (result ++ m) ∧
        (Json.anyMember isTooBig members = false → CarriesAll members m))
  | [], result, _, _, _ =>
    ⟨by rintro ⟨⟩, fun _ => ⟨[], by simp [membersToPropertyMap], fun _ => trivial⟩⟩
  | (key, item) :: members, result, hkeys, hnodup, hnew => by
    simp only [Json.anyMember, Bool.or_eq_false_iff] at hkeys
    simp only [List.map_cons, List.nodup_cons] at hnodup
    obtain ⟨herr, hok⟩ := jsonToPmtValue_spec item hkeys.1
    simp only [Json.anyMember, membersToPropertyMap]
    cases harr : item.any isArrayLike with
    | true =>
      obtain ⟨e, he⟩ := herr harr
      exact ⟨fun _ => ⟨e, by simp [he]⟩, by rintro ⟨⟩⟩
    | false =>
      obtain ⟨v, hv, hcarry⟩ := hok harr
      have hins : Assoc.insertOrAssign key v result = result ++ [(key, v)] :=
        Assoc.insertOrAssign_new (hnew key (by simp))
      have hnew' : ∀ k ∈ members.map (·.1), k ∉ (result ++ [(key, v)]).map (·.1) := by
        intro k hk
        simp only [List.map_append, List.mem_append, List.map_cons, List.map_nil,
          List.mem_singleton, not_or]
        refine ⟨hnew k (by simp [hk]), ?_⟩
        rintro rfl
        exact hnodup.1 hk
      obtain ⟨herr', hok'⟩ :=
        membersToPropertyMap_spec members (result ++ [(key, v)]) hkeys.2 hnodup.2 hnew'
      simp only [hv, hins, Bool.false_or]
      refine ⟨herr', fun h => ?_⟩
      obtain ⟨m, hm, hall⟩ := hok' h
      refine ⟨(key, v) :: m, by simpa using hm, fun hbig => ?_⟩
      simp only [Bool.or_eq_false_iff] at hbig
      exact ⟨rfl, hcarry hbig.1, hall hbig.2⟩

end

/-! ## What `update` promises -/

/-- For a patch to `session`: an object of supported values is forwarded
once, as the same value; anything else is rejected before the runtime is
called. -/
structure Meets (session : Session) (block : Str) (patch : Json) (mode : BlockSettingsMode)
    (outcome : Except (Option ServiceError) BlockSettingsUpdateResult × List SettingsCall) :
    Prop where
  forwards : patch.isObject = true → Supported patch →
    ∃ m, outcome.2 = [⟨session, block, m, mode⟩] ∧ Carries patch (.map m)
  rejects : ¬ (patch.isObject = true ∧ Supported patch) →
    (∃ what, outcome.1 = .error (some ⟨.validation, what⟩)) ∧ outcome.2 = []

/-- The conversion of a patch that is an object. -/
theorem jsonToPropertyMap_spec (patch : JsonValue) (hobj : patch.json.isObject = true) :
    (patch.json.any isArrayLike = true → ∃ e, jsonToPropertyMap patch.json = .error e) ∧
    (patch.json.any isArrayLike = false →
      ∃ m, jsonToPropertyMap patch.json = .ok m ∧
        (patch.json.any isTooBig = false → Carries patch.json (.map m))) := by
  obtain ⟨json, hkeys⟩ := patch
  cases json with
  | obj members =>
    obtain ⟨herr, hok⟩ := jsonToPmtValue_spec (.obj members) hkeys
    simp only [jsonToPmtValue, jsonToPropertyMap] at herr hok ⊢
    refine ⟨fun h => ?_, fun h => ?_⟩
    · obtain ⟨e, he⟩ := herr h
      cases hm : membersToPropertyMap members [] with
      | error e => exact ⟨e, rfl⟩
      | ok m => simp [hm, Except.map] at he
    · obtain ⟨v, hv, hcarries⟩ := hok h
      cases hm : membersToPropertyMap members [] with
      | error e => simp [hm, Except.map] at hv
      | ok m =>
        simp only [hm, Except.map, Except.ok.injEq] at hv
        exact ⟨m, rfl, fun hbig => hv ▸ hcarries hbig⟩
  | _ => cases hobj

/-- **Settings updates, exactly.** For a running session, any patch and any
behaviour of the runtime: `update` forwards what it should, unchanged, and
rejects the rest, if and only if the patch is not an object, or holds an
array, or holds no integer above `2^63 - 1`. -/
theorem update_meets_iff (repository : Repository)
    (setBlockSettings : SettingsCall → Except SettingsThrow Unit) (session : Session)
    (sessionId block : Str) (patch : JsonValue) (mode : BlockSettingsMode)
    (hget : repository.get sessionId = some session) (hrun : session.state = .running) :
    Meets session block patch.json mode
      (update repository setBlockSettings sessionId block patch.json mode) ↔
    (patch.json.isObject = false ∨ patch.json.any isArrayLike = true ∨
      patch.json.any isTooBig = false) := by
  have hload : loadRunningSessionOrThrow repository sessionId = .ok session := by
    simp [loadRunningSessionOrThrow, hget, hrun]
  have hsupported : Supported patch.json ↔
      patch.json.any isArrayLike = false ∧ patch.json.any isTooBig = false := by
    rw [Supported, Json.any_or, Bool.or_eq_false_iff]
  simp only [update, hload]
  cases hobj : patch.json.isObject with
  | false =>
    have hconv : ∃ what, jsonToPropertyMap patch.json = .error what := by
      cases hjson : patch.json with
      | obj members => rw [hjson] at hobj; cases hobj
      | _ => exact ⟨_, rfl⟩
    obtain ⟨what, hwhat⟩ := hconv
    simp only [hwhat, true_or, iff_true]
    exact ⟨fun h => by simp [hobj] at h, fun _ => ⟨⟨what, rfl⟩, rfl⟩⟩
  | true =>
    obtain ⟨herr, hok⟩ := jsonToPropertyMap_spec patch hobj
    cases harr : patch.json.any isArrayLike with
    | true =>
      obtain ⟨what, hwhat⟩ := herr harr
      simp only [hwhat, true_or, or_true, iff_true]
      refine ⟨fun _ h => ?_, fun _ => ⟨⟨what, rfl⟩, rfl⟩⟩
      rw [hsupported, harr] at h
      cases h.1
    | false =>
      obtain ⟨m, hm, hcarries⟩ := hok harr
      simp only [hm, Bool.true_eq_false, Bool.false_eq_true, false_or]
      cases hbig : patch.json.any isTooBig with
      | false =>
        have hsup : Supported patch.json := hsupported.2 ⟨harr, hbig⟩
        simp only [iff_true]
        refine ⟨fun _ _ => ⟨m, ?_, hcarries hbig⟩, fun h => (h ⟨hobj, hsup⟩).elim⟩
        split <;> rfl
      | true =>
        simp only [Bool.true_eq_false, iff_false]
        intro h
        have hnot : ¬ (patch.json.isObject = true ∧ Supported patch.json) := fun h => by
          have := (hsupported.1 h.2).2
          rw [hbig] at this
          cases this
        have hcalls := (h.rejects hnot).2
        split at hcalls <;> cases hcalls

/-! ## Two patches -/

/-- A repository with one running session. -/
def runningOnly : Repository :=
  AList.singleton (str "s") (Service.markRunning (Service.newSession [] (str "graph") none (str "s") 0) 1)

theorem update_small_meets :
    Meets (Service.markRunning (Service.newSession [] (str "graph") none (str "s") 0) 1) (str "src0")
      (.obj [(str "x", .uint 9223372036854775807)]) .staged
      (update runningOnly (fun _ => .ok ()) (str "s") (str "src0")
        (.obj [(str "x", .uint 9223372036854775807)]) .staged) :=
  (update_meets_iff runningOnly (fun _ => .ok ()) _ (str "s") (str "src0")
    ⟨.obj [(str "x", .uint 9223372036854775807)], by decide⟩ .staged rfl rfl).2 (by decide)

/-- `2^63` is accepted, and reaches the runtime as `-2^63`. -/
theorem update_forwards_wrapped :
    let session := Service.markRunning (Service.newSession [] (str "graph") none (str "s") 0) 1
    let patch := Json.obj [(str "x", .uint 9223372036854775808)]
    let outcome := update runningOnly (fun _ => .ok ()) (str "s") (str "src0") patch .staged
    outcome.2 = [⟨session, str "src0", [(str "x", .int (-9223372036854775808))], .staged⟩] ∧
      ¬ Meets session (str "src0") patch .staged outcome := by
  intro session patch outcome
  have hcalls : outcome.2 =
      [⟨session, str "src0", [(str "x", .int (-9223372036854775808))], .staged⟩] := by
    decide +kernel
  refine ⟨hcalls, fun h => ?_⟩
  have hbad : ¬ (patch.isObject = true ∧ Supported patch) := by
    rintro ⟨-, h⟩
    exact absurd h (by decide)
  have hnone := (h.rejects hbad).2
  rw [hcalls] at hnone
  cases hnone

end Gr4cp.App

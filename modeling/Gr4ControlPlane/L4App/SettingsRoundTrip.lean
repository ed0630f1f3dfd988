import Gr4ControlPlane.L4App.BlockSettings

/-!
# What is posted is what is read (`app/block_settings_service.cpp`)

`json_to_property_map` and `property_map_to_json` are written apart, each
with its own order of tests. `BlockSettings` says what the first makes of a
patch (`Carries`); here the second is shown to take it back, at every depth.

* `pmtValueToJson_carries`: a value that carries a JSON value over is
  written as that JSON value.
* `settings_round_trip`: posting an object of supported values and reading
  what was handed to the runtime gives the object again.
-/
namespace Gr4cp.App

open Gr4cp.Core Gr4cp.Domain Gr4cp.Storage Gr4cp.Runtime

namespace BlockSettings

mutual

/-- By the structure of the JSON value; `Carries` gives the alternative the
visitor finds. -/
theorem pmtValueToJson_carries : ∀ (j : Json) (value : Value),
    j.any Json.repeatsKey = false → Carries j value →
      ∃ j', pmtValueToJson value = .ok j' ∧ Json.Same j j'
  | .null, .null, _, _ => ⟨.null, rfl, rfl⟩
  | .bool _, .bool b, _, h => ⟨.bool b, rfl, by rw [Json.Same, show _ = b from h]⟩
  | .int _, .int i, _, h => ⟨.int i, rfl, congrArg some (Eq.symm h)⟩
  | .uint _, .int i, _, h => ⟨.int i, rfl, congrArg some (Eq.symm h)⟩
  | .float _, .float d, _, h => ⟨.float d, rfl, by rw [Json.Same, show _ = d from h]⟩
  | .str _, .str s, _, h => ⟨.str s, rfl, by rw [Json.Same, show _ = s from h]⟩
  | .obj members, .map m, hkeys, h => by
    simp only [Json.any, Bool.or_eq_false_iff, Json.repeatsKey, Bool.not_eq_false',
      decide_eq_true_eq] at hkeys
    obtain ⟨hnodup, hinner⟩ := hkeys
    obtain ⟨members', hmembers, hstep⟩ :=
      propertyMapToMembers_carries members m [] hinner hnodup (by simp) h
    rw [List.nil_append] at hmembers
    refine ⟨.obj members', ?_, Json.same_obj hstep hnodup⟩
    rw [pmtValueToJson, hmembers]
    rfl

/-- The entries of a map are added behind the members there already. -/
theorem propertyMapToMembers_carries : ∀ (members : List (Str × Json)) (m : PropertyMap)
    (result : List (Str × Json)), Json.anyMember Json.repeatsKey members = false →
    (members.map (·.1)).Nodup → (∀ key ∈ members.map (·.1), key ∉ result.map (·.1)) →
    CarriesAll members m →
      ∃ members', propertyMapToMembers m result = .ok (result ++ members') ∧
        Json.InStep members members'
  | [], [], result, _, _, _, _ => ⟨[], by simp [propertyMapToMembers], .nil⟩
  | (key, item) :: members, (key', value) :: m, result, hkeys, hnodup, hnew, h => by
    obtain ⟨hkey, hitem, hrest⟩ := h
    subst hkey
    simp only [Json.anyMember, Bool.or_eq_false_iff] at hkeys
    simp only [List.map_cons, List.nodup_cons] at hnodup
    obtain ⟨j', hj', hsame⟩ := pmtValueToJson_carries item value hkeys.1 hitem
    have hins : Assoc.insertOrAssign key j' result = result ++ [(key, j')] :=
      Assoc.insertOrAssign_new (hnew key (by simp))
    have hnew' : ∀ k ∈ members.map (·.1), k ∉ (result ++ [(key, j')]).map (·.1) := by
      intro k hk hmem
      rw [List.map_append, List.mem_append] at hmem
      obtain hmem | hmem := hmem
      · exact hnew k (List.mem_cons_of_mem _ hk) hmem
      · obtain rfl : k = key := by simpa using hmem
        exact hnodup.1 hk
    obtain ⟨members', hmembers, hstep⟩ :=
      propertyMapToMembers_carries members m (result ++ [(key, j')]) hkeys.2 hnodup.2 hnew' hrest
    refine ⟨(key, j') :: members', ?_, .cons hsame hstep⟩
    simp only [propertyMapToMembers, hj', hins, hmembers, List.append_assoc]
    rfl

end

theorem propertyMapToJson_carries {patch : JsonValue} {m : PropertyMap}
    (h : Carries patch.json (.map m)) :
    ∃ j', propertyMapToJson m = .ok j' ∧ Json.Same patch.json j' := by
  obtain ⟨j', hj', hsame⟩ := pmtValueToJson_carries patch.json (.map m) patch.keys h
  refine ⟨j', ?_, hsame⟩
  rw [propertyMapToJson, ← hj', pmtValueToJson]

end BlockSettings

/-- **Settings come back.** For every object built, to any depth, from null,
booleans, integers within `int64`, floats, strings and objects: it is turned
into a property map that is turned back into the same object. So when a
running session's runtime is handed the patch and answers a later read with
what it was handed, the reader gets what was posted. -/
theorem settings_round_trip (patch : JsonValue) (hobj : patch.json.isObject = true)
    (hsupported : Supported patch.json) :
    ∃ m j', jsonToPropertyMap patch.json = .ok m ∧ BlockSettings.propertyMapToJson m = .ok j' ∧
      Json.Same patch.json j' ∧
      ∀ (repository : Repository) (session : Session) (sessionId block : Str)
        (mode : BlockSettingsMode) (setBlockSettings : SettingsCall → Except SettingsThrow Unit)
        (getBlockSettings : Session → Str → Except SettingsThrow PropertyMap),
        repository.get sessionId = some session → session.state = .running →
        (update repository setBlockSettings sessionId block patch.json mode).2 =
            [⟨session, block, m, mode⟩] ∧
          (getBlockSettings session block = .ok m →
            (BlockSettings.get repository getBlockSettings sessionId block).1 = .ok j') := by
  rw [Supported, Json.any_or, Bool.or_eq_false_iff] at hsupported
  obtain ⟨m, hm, hcarries⟩ := (jsonToPropertyMap_spec patch hobj).2 hsupported.1
  obtain ⟨j', hj', hsame⟩ := BlockSettings.propertyMapToJson_carries (hcarries hsupported.2)
  refine ⟨m, j', hm, hj', hsame, ?_⟩
  intro repository session sessionId block mode setBlockSettings getBlockSettings hget hrun
  have hload : loadRunningSessionOrThrow repository sessionId = .ok session := by
    simp [loadRunningSessionOrThrow, hget, hrun]
  constructor
  · simp only [update, hload, hm]
    split
    · rfl
    · rfl
  · intro hread
    simp only [BlockSettings.get, hload, hread, hj']

/-- A patch with a nested object, an empty one, and numbers of each kind. -/
def nestedPatch : JsonValue where
  json := .obj [
    (str "gain", .float ⟨4607182418800017408⟩),
    (str "offset", .int (-3)),
    (str "taps", .obj [(str "count", .uint 9223372036854775807), (str "window", .obj [])]),
    (str "label", .null),
    (str "enabled", .bool true)]
  keys := by decide

theorem nestedPatch_comes_back :
    ∃ m j', jsonToPropertyMap nestedPatch.json = .ok m ∧ Json.Same nestedPatch.json j' ∧
      (BlockSettings.get runningOnly (fun _ _ => .ok m) (str "s") (str "src0")).1 = .ok j' := by
  obtain ⟨m, j', hm, -, hsame, hservice⟩ :=
    settings_round_trip nestedPatch (by decide) (by decide)
  refine ⟨m, j', hm, hsame, ?_⟩
  exact (hservice runningOnly
    (Service.markRunning (Service.newSession [] (str "graph") none (str "s") 0) 1) (str "s")
    (str "src0") .staged (fun _ => .ok ()) (fun _ _ => .ok m) rfl rfl).2 rfl

end Gr4cp.App

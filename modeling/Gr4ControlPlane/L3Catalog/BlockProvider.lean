import Gr4ControlPlane.Core.Ranking
import Gr4ControlPlane.L3Catalog.LiveReflection
import Gr4ControlPlane.L3Catalog.ReflectedDescriptors

/-!
# The blocks there are (`Gr4BlockCatalogProvider::list`, `catalog/gr4_block_catalog_provider.cpp`)

A call loads the plugins and keeps the loader for as long as the process
lives. Every id that the registry or a loader kept so far knows is reflected
in a process of its own; an id whose reflection fails is left out.

* `provider_lists`: whatever the processes do, the blocks answered are
  strictly sorted by id, each is an instance of its id as JSON carries its
  description, and each has a text; an id is left out only when its
  reflection fails. Which ids there are matters, not in which order or how
  often they are named.

What comes of staging the libraries and of `dlopen` is the loader, or a throw;
`LibraryStaging` and `RuntimeEnvironment` say what they do.
-/
namespace Gr4cp.Catalog

open Gr4cp.Core Gr4cp.Domain

/-! ## The provider -/

/-- `gr::PluginLoader`, once it has loaded. -/
structure PluginLoader where
  /-- in the order of iteration -/
  failedPlugins : List (Str × Str)
  availableBlocks : List Str
  instantiate : Str → Option BlockModel

/-- `gr::globalBlockRegistry()` -/
structure BlockRegistry where
  keys : List Str
  create : Str → Option BlockModel

/-- What a call of `list` comes upon. -/
structure Surroundings where
  /-- the loader of the staged plugins, or what is thrown before there is one -/
  loader : Except ProviderExn PluginLoader
  /-- the registry once the plugins are loaded -/
  registry : BlockRegistry

/-- mirrors src/catalog/gr4_block_catalog_provider.cpp:31-48 -/
def splitPluginDirectories (paths : Str) : List Str :=
  (paths.splitOn (chr ':')).filter fun token => !token.isEmpty

/-- `builtIn` is `GR4CP_DEFAULT_GNURADIO4_PLUGIN_DIR`.
mirrors src/catalog/gr4_block_catalog_provider.cpp:50-59 -/
def defaultPluginDirectories (env builtIn : Option Str) : List Str :=
  match env with
  | some (c :: paths) => splitPluginDirectories (c :: paths)
  | _ => builtIn.toList

/-- mirrors src/catalog/gr4_block_catalog_provider.cpp:108-118 -/
def availableBlocksFromRetainedLoaders (pool : List PluginLoader) : List Str :=
  Ranking.sortUnique Str.lt (pool.flatMap (·.availableBlocks))

/-- mirrors src/catalog/gr4_block_catalog_provider.cpp:1261-1265 -/
def candidateBlocks (registry : BlockRegistry) (pool : List PluginLoader) : List Str :=
  Ranking.sortUnique Str.lt (registry.keys ++ availableBlocksFromRetainedLoaders pool)

abbrev Reflection := Str → Except CatalogLoadError BlockDescriptor

/-- mirrors src/catalog/gr4_block_catalog_provider.cpp:1270-1278 -/
def reflectAll (reflect : Reflection) (blocks : List Str) : List BlockDescriptor :=
  blocks.filterMap fun id => (reflect id).toOption

/-- A `CatalogLoadError`, among what a provider throws. -/
def CatalogLoadError.exn (e : CatalogLoadError) : ProviderExn := .loadError e.what

def notConfigured : CatalogLoadError :=
  ⟨str "GNU Radio 4 plugin directories are not configured"⟩

def pluginFailed (path error : Str) : CatalogLoadError :=
  ⟨str "failed to load GNU Radio 4 plugin library (" ++ path ++ str ": " ++ error ++ str ")"⟩

def noBlocks : CatalogLoadError :=
  ⟨str "GNU Radio 4 plugin loader found no registered blocks"⟩

def noUsableBlocks : CatalogLoadError :=
  ⟨str "GNU Radio 4 catalog reflection produced no usable blocks"⟩

/-- `pool` has the loaders kept so far, the oldest first; `reflect` is what the
calls of `reflect_block_in_subprocess` return.
mirrors src/catalog/gr4_block_catalog_provider.cpp:1239-1283 -/
def listBlocks (pluginDirectories : List Str) (pool : List PluginLoader)
    (found : Surroundings) (reflect : Reflection) :
    Except ProviderExn (List BlockDescriptor) × List PluginLoader :=
  if pluginDirectories = [] then (.error notConfigured.exn, pool)
  else
    match found.loader with
    | .error e => (.error e, pool)
    | .ok loader =>
      match loader.failedPlugins with
      | (path, error) :: _ => (.error (pluginFailed path error).exn, pool)
      | [] =>
        let pool := pool ++ [loader]
        let blocks := candidateBlocks found.registry pool
        if blocks = [] then (.error noBlocks.exn, pool)
        else
          let descriptors := reflectAll reflect blocks
          if descriptors = [] then (.error noUsableBlocks.exn, pool) else (.ok descriptors, pool)

/-- Where a reflecting child takes its instances from: it is forked off with
the loaders and the registry. -/
def factoryOf (viewed : Bool) (registry : BlockRegistry) (pool : List PluginLoader) :
    BlockFactory where
  loaders := pool.map (·.instantiate)
  registry := registry.create
  viewed

/-- A call of `reflect_block_in_subprocess` may return `result`. Reflecting
may also throw where the instance is asked. -/
def ReflectsTo (json : JsonText) (factory : BlockFactory) (id : Str)
    (result : Except CatalogLoadError BlockDescriptor) : Prop :=
  ∃ t : ReflectionTask, t.id = id ∧ t.json = json ∧
    (∀ d, t.reflected = some d → factory.reflectBlock id = some d) ∧
    ∃ s, (reflectionWorker t).Reachable s ∧ s.parent = .returned result

/-! ## What is answered -/

section Reflections

variable {json : JsonText} {factory : BlockFactory} {id : Str}

/-- What comes back is read off an instance, and has a text. -/
theorem reflectsTo_ok (hjson : json.Conforms) {b : BlockDescriptor}
    (h : ReflectsTo json factory id (.ok b)) :
    ∃ d, factory.reflectBlock id = some d ∧ b = asRead d ∧
      (blockToTree b).any Json.badText = false := by
  obtain ⟨t, rfl, rfl, hreflected, s, hs, hreturned⟩ := h
  obtain ⟨-, payload, rest, htext, -, hparse⟩ := ((workerInv_inductive t).reachable hs).answer b
    hreturned
  obtain ⟨d, hd, hdump⟩ := Option.bind_eq_some_iff.1 htext
  obtain ⟨block, -, hmade⟩ := reflectBlock_made (hreflected d hd)
  have hdescribes : Describes block _ d := hmade ▸ describeBlock_describes _ _ block
  obtain rfl := parse_part hjson hdump hparse
  rw [List.append_nil] at hdump
  rw [parse_dump hjson hdescribes.canonical hdump] at hparse
  cases hparse
  refine ⟨d, hreflected d hd, rfl, ?_⟩
  have hprintable : (toJson d).json.any Json.badText = false := (hjson.dumps _).1 ⟨_, hdump⟩
  rwa [← Json.nulled_badText, show (toJson d).json.nulled = (toJson d).nulled.json from rfl,
    toJson_asRead] at hprintable

end Reflections

theorem str_compares : Ranking.Compares Str.lt Str.code := Str.lt_iff

/-- The registry or a loader knows the id. -/
def Known (registry : BlockRegistry) (pool : List PluginLoader) (id : Str) : Prop :=
  id ∈ registry.keys ∨ ∃ loader ∈ pool, id ∈ loader.availableBlocks

theorem mem_candidateBlocks {registry : BlockRegistry} {pool : List PluginLoader} {id : Str} :
    id ∈ candidateBlocks registry pool ↔ Known registry pool id := by
  unfold candidateBlocks availableBlocksFromRetainedLoaders
  rw [Ranking.mem_sortUnique str_compares Str.code_injective, List.mem_append,
    Ranking.mem_sortUnique str_compares Str.code_injective, List.mem_flatMap]
  rfl

theorem candidateBlocks_congr {registry registry' : BlockRegistry} {pool pool' : List PluginLoader}
    (h : ∀ id, Known registry pool id ↔ Known registry' pool' id) :
    candidateBlocks registry pool = candidateBlocks registry' pool' := by
  refine Ranking.sortUnique_congr str_compares Str.code_injective fun id => ?_
  have hmem := h id
  rw [← mem_candidateBlocks, ← mem_candidateBlocks] at hmem
  unfold candidateBlocks at hmem
  rwa [Ranking.mem_sortUnique str_compares Str.code_injective,
    Ranking.mem_sortUnique str_compares Str.code_injective] at hmem

/-- `b` is an instance of its id, as JSON carries its description. -/
def Instance (factory : BlockFactory) (b : BlockDescriptor) : Prop :=
  ∃ d block, factory.Makes b.id block ∧ Describes block b.id d ∧ b = asRead d

/-- What is answered when every known id is reflected. -/
structure Catalogued (factory : BlockFactory) (isKnown : Str → Prop) (reflect : Reflection)
    (blocks : List BlockDescriptor) : Prop where
  nonempty : blocks ≠ []
  sorted : blocks.Pairwise fun a b => Str.lt a.id b.id = true
  known : ∀ b ∈ blocks, isKnown b.id
  complete : ∀ id, isKnown id → ((∃ b ∈ blocks, b.id = id) ↔ ∃ b, reflect id = .ok b)
  instances : ∀ b ∈ blocks, Instance factory b
  printable : ∀ b ∈ blocks, (blockToTree b).any Json.badText = false

theorem Catalogued.nodup {factory : BlockFactory} {known : Str → Prop} {reflect : Reflection}
    {blocks : List BlockDescriptor} (h : Catalogued factory known reflect blocks) :
    (blocks.map (·.id)).Nodup := by
  refine List.pairwise_map.2 (h.sorted.imp ?_)
  intro a b hlt he
  rw [he, Str.lt_iff] at hlt
  exact lt_irrefl _ hlt

section Listing

variable {json : JsonText} {factory : BlockFactory} {reflect : Reflection} {ids : List Str}

theorem mem_reflectAll {b : BlockDescriptor} :
    b ∈ reflectAll reflect ids ↔ ∃ id ∈ ids, reflect id = .ok b := by
  unfold reflectAll
  rw [List.mem_filterMap]
  refine exists_congr fun id => and_congr_right fun _ => ?_
  cases reflect id with
  | error e => exact ⟨nofun, nofun⟩
  | ok b' => simp [Except.toOption]

theorem reflected_id {b : BlockDescriptor} {id : Str} (hjson : json.Conforms)
    (h : ReflectsTo json factory id (.ok b)) :
    b.id = id ∧ Instance factory b ∧ (blockToTree b).any Json.badText = false := by
  obtain ⟨d, hd, rfl, hprintable⟩ := reflectsTo_ok hjson h
  obtain ⟨block, hmade, hdescribed⟩ := reflectBlock_made hd
  have hdescribes : Describes block id d := hdescribed ▸ describeBlock_describes _ id block
  have hid : (asRead d).id = id := hdescribes.id
  refine ⟨hid, ⟨d, block, ?_, ?_, rfl⟩, hprintable⟩
  · rwa [hid]
  · rwa [hid]

theorem reflectAll_catalogued (hjson : json.Conforms)
    (hreflect : ∀ id ∈ ids, ReflectsTo json factory id (reflect id))
    (hsorted : ids.Pairwise fun a b => a.code < b.code) (hsome : reflectAll reflect ids ≠ []) :
    Catalogued factory (· ∈ ids) reflect (reflectAll reflect ids) := by
  have hread : ∀ {id b}, id ∈ ids → reflect id = .ok b → b.id = id ∧ Instance factory b ∧
      (blockToTree b).any Json.badText = false := fun {id b} hid h =>
    reflected_id hjson (h ▸ hreflect id hid)
  refine
    { nonempty := hsome
      sorted := ?_
      known := ?_
      complete := ?_
      instances := ?_
      printable := ?_ }
  · unfold reflectAll
    rw [List.pairwise_filterMap]
    refine hsorted.imp_of_mem ?_
    intro id id' hid hid' hlt b hb b' hb'
    have hok : ∀ {i c}, i ∈ ids → (reflect i).toOption = some c → c.id = i := fun {i c} hi h => by
      cases hr : reflect i with
      | error e =>
        rw [hr] at h
        cases h
      | ok c' =>
        rw [hr] at h
        cases h
        exact (hread hi hr).1
    rwa [Str.lt_iff, hok hid hb, hok hid' hb']
  · intro b hb
    obtain ⟨id, hid, hr⟩ := mem_reflectAll.1 hb
    show b.id ∈ ids
    rwa [(hread hid hr).1]
  · intro id hid
    refine ⟨fun h => ?_, fun h => ?_⟩
    · obtain ⟨b, hb, rfl⟩ := h
      obtain ⟨id, hid', hr⟩ := mem_reflectAll.1 hb
      exact ⟨b, (hread hid' hr).1 ▸ hr⟩
    · obtain ⟨b, hr⟩ := h
      exact ⟨b, mem_reflectAll.2 ⟨id, hid, hr⟩, (hread hid hr).1⟩
  · intro b hb
    obtain ⟨id, hid, hr⟩ := mem_reflectAll.1 hb
    exact (hread hid hr).2.1
  · intro b hb
    obtain ⟨id, hid, hr⟩ := mem_reflectAll.1 hb
    exact (hread hid hr).2.2

end Listing

/-- What a call answers, and what it leaves behind. -/
inductive ListCall (pluginDirectories : List Str) (pool : List PluginLoader)
    (found : Surroundings) (reflect : Reflection) :
    Except ProviderExn (List BlockDescriptor) → List PluginLoader → Prop
  | unconfigured : pluginDirectories = [] →
      ListCall pluginDirectories pool found reflect (.error notConfigured.exn) pool
  | unstaged {e : ProviderExn} : pluginDirectories ≠ [] → found.loader = .error e →
      ListCall pluginDirectories pool found reflect (.error e) pool
  | failed {loader : PluginLoader} {path error : Str} {rest : List (Str × Str)} :
      pluginDirectories ≠ [] → found.loader = .ok loader →
      loader.failedPlugins = (path, error) :: rest →
      ListCall pluginDirectories pool found reflect (.error (pluginFailed path error).exn) pool
  | empty {loader : PluginLoader} : pluginDirectories ≠ [] → found.loader = .ok loader →
      loader.failedPlugins = [] → candidateBlocks found.registry (pool ++ [loader]) = [] →
      ListCall pluginDirectories pool found reflect (.error noBlocks.exn) (pool ++ [loader])
  | unusable {loader : PluginLoader} : pluginDirectories ≠ [] → found.loader = .ok loader →
      loader.failedPlugins = [] →
      reflectAll reflect (candidateBlocks found.registry (pool ++ [loader])) = [] →
      ListCall pluginDirectories pool found reflect (.error noUsableBlocks.exn) (pool ++ [loader])
  | listed {loader : PluginLoader} : pluginDirectories ≠ [] → found.loader = .ok loader →
      loader.failedPlugins = [] →
      reflectAll reflect (candidateBlocks found.registry (pool ++ [loader])) ≠ [] →
      ListCall pluginDirectories pool found reflect
        (.ok (reflectAll reflect (candidateBlocks found.registry (pool ++ [loader]))))
        (pool ++ [loader])

theorem listBlocks_cases (pluginDirectories : List Str) (pool : List PluginLoader)
    (found : Surroundings) (reflect : Reflection) :
    ListCall pluginDirectories pool found reflect
      (listBlocks pluginDirectories pool found reflect).1
      (listBlocks pluginDirectories pool found reflect).2 := by
  unfold listBlocks
  by_cases hdirs : pluginDirectories = []
  · rw [if_pos hdirs]
    exact .unconfigured hdirs
  · rw [if_neg hdirs]
    split
    · rename_i e hloader
      exact .unstaged hdirs hloader
    · rename_i loader hloader
      split
      · rename_i path error rest hfailed
        exact .failed hdirs hloader hfailed
      · rename_i hfailed
        dsimp only
        split
        · rename_i hempty
          exact .empty hdirs hloader hfailed hempty
        · split
          · rename_i hnone
            exact .unusable hdirs hloader hfailed hnone
          · rename_i hsome
            exact .listed hdirs hloader hfailed hsome

section Provider

variable {json : JsonText} {viewed : Bool} {pluginDirectories : List Str}
  {pool : List PluginLoader} {found : Surroundings} {reflect : Reflection}

/-- Every id that is known is reflected in a process of its own. -/
def Reflected (json : JsonText) (viewed : Bool) (pool : List PluginLoader) (found : Surroundings)
    (reflect : Reflection) : Prop :=
  ∀ loader, found.loader = .ok loader → ∀ id, Known found.registry (pool ++ [loader]) id →
    ReflectsTo json (factoryOf viewed found.registry (pool ++ [loader])) id (reflect id)

theorem listBlocks_ok (hjson : json.Conforms) (hreflect : Reflected json viewed pool found reflect)
    {blocks : List BlockDescriptor} {pool' : List PluginLoader}
    (h : listBlocks pluginDirectories pool found reflect = (.ok blocks, pool')) :
    ∃ loader, pluginDirectories ≠ [] ∧ found.loader = .ok loader ∧ loader.failedPlugins = [] ∧
      pool' = pool ++ [loader] ∧
      Catalogued (factoryOf viewed found.registry pool') (Known found.registry pool') reflect
        blocks := by
  have hcases := listBlocks_cases pluginDirectories pool found reflect
  rw [h] at hcases
  cases hcases with
  | listed hdirs hloader hfailed hsome =>
    rename_i loader
    refine ⟨loader, hdirs, hloader, hfailed, rfl, ?_⟩
    show Catalogued (factoryOf viewed found.registry (pool ++ [loader]))
      (Known found.registry (pool ++ [loader])) _ _
    have hcat := reflectAll_catalogued hjson
      (fun id hid => hreflect _ hloader id (mem_candidateBlocks.1 hid))
      (Ranking.sortUnique_strict str_compares Str.code_injective _) hsome
    simpa only [mem_candidateBlocks] using hcat

/-- A call answers exactly when plugins are configured and load and some
known id is reflected. -/
theorem listBlocks_answers_iff :
    (∃ blocks, (listBlocks pluginDirectories pool found reflect).1 = .ok blocks) ↔
      pluginDirectories ≠ [] ∧ ∃ loader, found.loader = .ok loader ∧ loader.failedPlugins = [] ∧
        ∃ id, Known found.registry (pool ++ [loader]) id ∧ ∃ b, reflect id = .ok b := by
  constructor
  · intro h
    obtain ⟨blocks, hblocks⟩ := h
    have hcases := listBlocks_cases pluginDirectories pool found reflect
    rw [hblocks] at hcases
    generalize (listBlocks pluginDirectories pool found reflect).2 = pool' at hcases
    cases hcases with
    | listed hdirs hloader hfailed hsome =>
      obtain ⟨b, hb⟩ := List.exists_mem_of_ne_nil _ hsome
      obtain ⟨id, hid, hr⟩ := mem_reflectAll.1 hb
      exact ⟨hdirs, _, hloader, hfailed, id, mem_candidateBlocks.1 hid, b, hr⟩
  · intro h
    obtain ⟨hdirs, loader, hloader, hfailed, id, hid, b, hb⟩ := h
    have hmem : b ∈ reflectAll reflect (candidateBlocks found.registry (pool ++ [loader])) :=
      mem_reflectAll.2 ⟨id, mem_candidateBlocks.2 hid, hb⟩
    have hids : candidateBlocks found.registry (pool ++ [loader]) ≠ [] :=
      List.ne_nil_of_mem (mem_candidateBlocks.2 hid)
    unfold listBlocks
    rw [if_neg hdirs]
    simp only [hloader, hfailed, if_neg hids, if_neg (List.ne_nil_of_mem hmem)]
    exact ⟨_, rfl⟩

/-- **What the provider answers.** For every conforming JSON library and
whatever the reflecting processes do: a call answers exactly when plugins
are configured and load and some known id is reflected. What it answers is
sorted by id, each id once, and has exactly the known ids whose reflection
succeeds, each as JSON carries the description of an instance; and it depends on
nothing but which ids are known: another registry and other loaders that
know the same ids answer the same. -/
theorem provider_lists (pluginDirectories : List Str) (hjson : json.Conforms)
    (hreflect : Reflected json viewed pool found reflect) :
    ((∃ blocks, (listBlocks pluginDirectories pool found reflect).1 = .ok blocks) ↔
      pluginDirectories ≠ [] ∧ ∃ loader, found.loader = .ok loader ∧ loader.failedPlugins = [] ∧
        ∃ id, Known found.registry (pool ++ [loader]) id ∧ ∃ b, reflect id = .ok b) ∧
    (∀ blocks pool', listBlocks pluginDirectories pool found reflect = (.ok blocks, pool') →
      Catalogued (factoryOf viewed found.registry pool') (Known found.registry pool') reflect
        blocks) ∧
    ∀ pool' registry, (∀ loader, found.loader = .ok loader → ∀ id,
        Known registry (pool' ++ [loader]) id ↔ Known found.registry (pool ++ [loader]) id) →
      (listBlocks pluginDirectories pool' { found with registry } reflect).1 =
        (listBlocks pluginDirectories pool found reflect).1 ∧
      (pool' = pool → (listBlocks pluginDirectories pool' { found with registry } reflect).2 =
        (listBlocks pluginDirectories pool found reflect).2) := by
  refine ⟨listBlocks_answers_iff, fun blocks pool' h => ?_, fun pool' registry hknown => ?_⟩
  · obtain ⟨_, -, -, -, -, hcat⟩ := listBlocks_ok hjson hreflect h
    exact hcat
  · have hsame : ∀ loader, found.loader = .ok loader →
        candidateBlocks registry (pool' ++ [loader]) =
          candidateBlocks found.registry (pool ++ [loader]) :=
      fun loader hloader => candidateBlocks_congr (hknown loader hloader)
    unfold listBlocks
    by_cases hdirs : pluginDirectories = []
    · simp only [if_pos hdirs]
      exact ⟨trivial, id⟩
    · simp only [if_neg hdirs]
      cases hloader : found.loader with
      | error e => exact ⟨rfl, id⟩
      | ok loader =>
        simp only [hsame loader hloader]
        cases loader.failedPlugins with
        | cons failed rest => exact ⟨rfl, id⟩
        | nil =>
          dsimp only
          split
          · exact ⟨rfl, fun h => by rw [h]⟩
          · split
            · exact ⟨rfl, fun h => by rw [h]⟩
            · exact ⟨rfl, fun h => by rw [h]⟩

end Provider

/-- A block with nothing but its name. -/
def probe : BlockModel where
  name := str "gr::testing::Probe"
  typeName := str "gr::testing::Probe"
  settings := []
  settings_keys := .nil
  metaInformation := []
  dynamicInputPorts := []
  dynamicOutputPorts := []

def probeBlock : BlockDescriptor where
  id := str "gr::testing::Probe"
  canonicalType := some (str "gr::testing::Probe")
  name := str "Probe"
  category := str "testing"
  summary := []
  inputs := []
  outputs := []
  parameters := []

theorem probe_described : describeBlock true (str "gr::testing::Probe") probe = probeBlock := by
  have hparameters : toParameters true probe = [] := by
    simp [toParameters, probe, Ranking.sort]
  have hname : blockName probe (str "gr::testing::Probe") = str "Probe" := by decide +kernel
  have hcategory : blockCategory probe (str "gr::testing::Probe") = str "testing" := by
    decide +kernel
  unfold describeBlock
  rw [hparameters, hname, hcategory]
  rfl

/-- The library's text of its descriptor. -/
def probeText : Str :=
  str "\x7b\"canonical_type\":\"gr::testing::Probe\",\"category\":\"testing\"," ++
  str "\"id\":\"gr::testing::Probe\",\"inputs\":[],\"name\":\"Probe\",\"outputs\":[]," ++
  str "\"parameters\":[],\"summary\":\"\"\x7d"

/-- Two loaders know the block, and so does the registry. -/
def probeLoader : PluginLoader where
  failedPlugins := []
  availableBlocks := [str "gr::testing::Probe"]
  instantiate _ := some probe

def probeFound : Surroundings where
  loader := .ok probeLoader
  registry := ⟨[str "gr::testing::Probe"], fun _ => none⟩

noncomputable def probeTask : ReflectionTask where
  id := str "gr::testing::Probe"
  json := conformingJson probeText (toJson probeBlock) (toJson probeBlock)
  reflected := some probeBlock
  capacity := 65536
  hasRoom := pipeCapacity_pos
  what _ := []

theorem probe_conforms : probeTask.json.Conforms :=
  conformingJson_conforms (c := chr '\x7b') (by decide +kernel) (by decide) (by decide)
    (Json.same_refl _ (toJson probeBlock).keys)

/-- Loaded any number of times. -/
theorem probe_reflects (n : Nat) :
    Reflected probeTask.json true (List.replicate n probeLoader) probeFound
      fun _ => .ok probeBlock := by
  intro loader hloader id hid
  obtain rfl : probeLoader = loader := Except.ok.inj hloader
  obtain rfl : id = str "gr::testing::Probe" := by
    rcases hid with hkey | hloaded
    · exact List.mem_singleton.1 hkey
    · obtain ⟨l, hl, hmem⟩ := hloaded
      have hprobe : l = probeLoader := by
        rcases List.mem_append.1 hl with h | h
        · exact (List.mem_replicate.1 h).2
        · exact List.mem_singleton.1 h
      rw [hprobe] at hmem
      exact List.mem_singleton.1 hmem
  refine ⟨probeTask, rfl, rfl, ?_, ?_⟩
  · intro d hd
    obtain rfl := Option.some.inj hd
    have hfound : (factoryOf true probeFound.registry
        (List.replicate n probeLoader ++ [probeLoader])).instantiate (str "gr::testing::Probe") =
        some probe := by
      simp [BlockFactory.instantiate, factoryOf, probeLoader]
    unfold BlockFactory.reflectBlock
    rw [hfound]
    exact congrArg some probe_described
  · obtain ⟨s, hs, hreturned⟩ := smooth_reaches probeTask
    refine ⟨s, hs, ?_⟩
    have hbad : (blockToTree probeBlock).any Json.badText = false := by decide +kernel
    rw [smoothOutcome_eq probe_conforms fun block hblock => by
      obtain rfl := Option.some.inj hblock
      decide] at hreturned
    simp only [probeTask, hbad, if_true] at hreturned
    exact hreturned

/-- Loaded a second time, the plugins list the block once. -/
theorem probe_listed : ∃ blocks pool',
    listBlocks [str "/plugins"] [probeLoader] probeFound (fun _ => .ok probeBlock) =
      (.ok blocks, pool') ∧
    Catalogued (factoryOf true probeFound.registry pool') (Known probeFound.registry pool')
      (fun _ => .ok probeBlock) blocks := by
  obtain ⟨hanswers, hlisted, -⟩ := provider_lists [str "/plugins"] probe_conforms
    (probe_reflects 1)
  obtain ⟨blocks, hblocks⟩ := hanswers.2 ⟨by decide, probeLoader, rfl, rfl, _,
    .inl List.mem_cons_self, probeBlock, rfl⟩
  exact ⟨blocks, _, Prod.ext hblocks rfl, hlisted blocks _ (Prod.ext hblocks rfl)⟩

end Gr4cp.Catalog

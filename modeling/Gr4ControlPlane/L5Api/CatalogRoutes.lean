import Gr4ControlPlane.L4App.SchedulerCatalog
import Gr4ControlPlane.L5Api.ErrorReplies

/-!
# Serving the catalogs (`main.cpp`, `api/http_server.cpp`)

The program loads both catalogs before it listens, and ends if one of them
cannot be loaded. The services keep what they loaded, so what a request is
answered is settled by then.

* `catalogs_served`: in every run, however the reflecting processes went and
  whatever plugins are there later, a program that serves has loaded the
  plugins once; it answers every request for a block, or for the list of
  blocks, from the instances there were then, and never fails to print them.
* `startUp_serves_iff`: the program comes to serve exactly when some block can
  be reflected and some scheduler has an alias.
-/
namespace Gr4cp.Api

open Gr4cp.Core Gr4cp.Domain Gr4cp.Runtime Gr4cp.Catalog Gr4cp.App

/-! ## The routes -/

/-- mirrors src/api/http_server.cpp:152-158 -/
def blocksToJson (blocks : List BlockDescriptor) : Json := .arr (blocks.map blockToJson)

/-- mirrors src/api/http_server.cpp:160-162 -/
def schedulerToJson (scheduler : SchedulerDescriptor) : Json :=
  .obj [(str "id", .str scheduler.id)]

/-- mirrors src/api/http_server.cpp:164-170 -/
def schedulersToJson (schedulers : List SchedulerDescriptor) : Json :=
  .arr (schedulers.map schedulerToJson)

/-- What a provider of blocks throws. -/
def blockRaise : ProviderExn → Raised
  | .loadError what => .catalogLoad what
  | .std => .std
  | .other => .other

/-- What a provider of schedulers throws. -/
def schedulerRaise : ProviderExn → Raised
  | .loadError what => .schedulerCatalogLoad what
  | .std => .std
  | .other => .other

/-- Answers with the JSON of what a service gives. -/
def replyWith {α : Type} (raise : ProviderExn → Raised) (write : α → Json) (given : Except CatalogThrow α) :
    Reply.Action := fun reply =>
  match given with
  | .error (.provider e) => (.error (raise e), reply)
  | .error (.service e) => (.error (.service e), reply)
  | .ok a =>
    match reply.setJsonResponse (write a) 200 with
    | (.error _, reply) => (.error .std, reply)
    | (.ok _, reply) => (.ok (), reply)

/-- mirrors src/api/http_server.cpp:394-398 -/
def getBlocks (s : BlockCatalogService) (provided : Except ProviderExn (List BlockDescriptor)) :
    Reply.Action :=
  replyWith blockRaise blocksToJson (s.list provided).1

/-- mirrors src/api/http_server.cpp:409-413 -/
def getSchedulers (s : SchedulerCatalogService)
    (provided : Except ProviderExn (List SchedulerDescriptor)) : Reply.Action :=
  replyWith schedulerRaise schedulersToJson (s.list provided).1

/-- mirrors src/api/http_server.cpp:415-422 -/
def getScheduler (s : SchedulerCatalogService)
    (provided : Except ProviderExn (List SchedulerDescriptor)) (raw : Str) : Reply.Action :=
  match decodePercentEncoded raw with
  | .error _ => fun reply => (.error .std, reply)
  | .ok id => replyWith schedulerRaise schedulerToJson (s.get provided id).1

/-! ## The program -/

inductive Phase where
  | starting
  | exited (code : Nat)
  /-- by an exception that nothing catches -/
  | terminated
  | serving
  deriving DecidableEq, Repr

structure Program where
  phase : Phase
  /-- the loaders kept -/
  pool : List PluginLoader
  blocks : BlockCatalogService
  schedulers : SchedulerCatalogService

/-- Nothing is loaded yet. -/
def Program.initial : Program := ⟨.starting, [], .empty, .empty⟩

/-- What the program is started with. -/
structure Setup where
  json : JsonText
  viewed : Bool
  pluginDirectories : List Str

/-- What the providers come upon, if they are asked. -/
structure Occasion where
  found : Catalog.Surroundings
  reflect : Reflection
  schedulers : Except ProviderExn SchedulerLoader

/-- What the provider of blocks gives to the service, which asks it only
while nothing is kept. -/
def blocksProvided (setup : Setup) (now : Occasion) (p : Program) :
    Except ProviderExn (List BlockDescriptor) × List PluginLoader :=
  match p.blocks.cachedCatalog with
  | some _ => (.error .other, p.pool)
  | none => listBlocks setup.pluginDirectories p.pool now.found now.reflect

def schedulersProvided (setup : Setup) (now : Occasion) : Except ProviderExn (List SchedulerDescriptor) :=
  listSchedulers setup.pluginDirectories now.schedulers

/-- How the program ends when a catalog is not there: only the load errors
are caught.
mirrors src/main.cpp:39-45 -/
def endedBy : CatalogThrow → Phase
  | .provider (.loadError _) => .exited 1
  | .provider .std | .provider .other | .service _ => .terminated

/-- mirrors src/main.cpp:34-46 -/
def startUp (setup : Setup) (now : Occasion) (p : Program) : Program :=
  let provided := blocksProvided setup now p
  match p.blocks.list provided.1 with
  | (.error e, blocks) => { p with phase := endedBy e, pool := provided.2, blocks }
  | (.ok _, blocks) =>
    match p.schedulers.list (schedulersProvided setup now) with
    | (.error e, schedulers) => ⟨endedBy e, provided.2, blocks, schedulers⟩
    | (.ok _, schedulers) => ⟨.serving, provided.2, blocks, schedulers⟩

/-- A request, with the part of its path that is not fixed. -/
inductive CatalogRequest where
  | blocks
  | block (raw : Str)
  | schedulers
  | scheduler (raw : Str)
  deriving DecidableEq, Repr

/-- A request is answered, and what its service keeps after it.
mirrors src/api/http_server.cpp:394-422 -/
def serve (setup : Setup) (now : Occasion) (p : Program) :
    CatalogRequest → (Except Thrown Unit × Reply) × Program
  | .blocks =>
    let provided := blocksProvided setup now p
    (Reply.execute {} (getBlocks p.blocks provided.1),
      { p with pool := provided.2, blocks := (p.blocks.list provided.1).2 })
  | .block raw =>
    match decodePercentEncoded raw with
    | .error _ => (Reply.execute {} (getBlock blockRaise p.blocks (.error .other) raw), p)
    | .ok id =>
      let provided := blocksProvided setup now p
      (Reply.execute {} (getBlock blockRaise p.blocks provided.1 raw),
        { p with pool := provided.2, blocks := (p.blocks.get provided.1 id).2 })
  | .schedulers =>
    let provided := schedulersProvided setup now
    (Reply.execute {} (getSchedulers p.schedulers provided),
      { p with schedulers := (p.schedulers.list provided).2 })
  | .scheduler raw =>
    let provided := schedulersProvided setup now
    (Reply.execute {} (getScheduler p.schedulers provided raw),
      match decodePercentEncoded raw with
      | .error _ => p
      | .ok id => { p with schedulers := (p.schedulers.get provided id).2 })

inductive ProgramLbl where
  | start (now : Occasion)
  | request (now : Occasion) (r : CatalogRequest) (outcome : Except Thrown Unit × Reply)

/-- The program, while it may be asked for its catalogs. Requests hold the
services' mutexes, so they come one after the other. -/
def program (setup : Setup) : LTS Program ProgramLbl where
  init p := p = .initial
  step p l p' :=
    match l with
    | .start now =>
      p.phase = .starting ∧ Reflected setup.json setup.viewed p.pool now.found now.reflect ∧
        p' = startUp setup now p
    | .request now r outcome =>
      p.phase = .serving ∧ Reflected setup.json setup.viewed p.pool now.found now.reflect ∧
        (outcome, p') = serve setup now p r

/-! ## Texts -/

theorem isUnprintable_eq : isUnprintable = Json.badText := by
  funext j
  cases j <;> rfl

theorem ofFields_printable {fields : List (Str × Option Json)} :
    (Json.ofFields fields).any isUnprintable = false ↔
      ∀ f ∈ fields, ∀ j, f.2 = some j → Utf8.valid f.1 = true ∧ j.any isUnprintable = false := by
  unfold Json.ofFields
  rw [any_obj, List.any_eq_false]
  constructor
  · intro h f hf j hj
    have hmember := h (f.1, j) (List.mem_filterMap.2 ⟨f, hf, by simp [hj]⟩)
    simpa using hmember
  · intro h member hmember
    obtain ⟨f, hf, hfield⟩ := List.mem_filterMap.1 hmember
    cases hj : f.2 with
    | none => simp [hj] at hfield
    | some j =>
      simp only [hj, Option.map_some, Option.some.injEq] at hfield
      subst hfield
      simpa using h f hf j hj

/-- The key of the default value does not matter. -/
theorem parameter_printable {parameter : BlockParameterDescriptor}
    (h : (parameterToJson parameter).any isUnprintable = false) :
    (blockParameterToJson parameter).any isUnprintable = false := by
  have hkey : Utf8.valid (str "default") = true := by decide
  unfold parameterToJson at h
  unfold blockParameterToJson
  rw [ofFields_printable] at h ⊢
  simp only [parameterFields, List.forall_mem_cons] at h ⊢
  obtain ⟨hname, htype, hrequired, hdefault, hrest⟩ := h
  exact ⟨hname, htype, hrequired, fun j hj => ⟨hkey, (hdefault j hj).2⟩, hrest⟩

/-- What the child has printed the server can print. -/
theorem block_printable {block : BlockDescriptor}
    (h : (blockToTree block).any Json.badText = false) :
    (blockToJson block).any isUnprintable = false := by
  rw [← isUnprintable_eq] at h
  unfold blockToTree at h
  unfold blockToJson
  rw [ofFields_printable] at h ⊢
  simp only [blockFields, List.cons_append, List.nil_append, List.forall_mem_cons] at h ⊢
  obtain ⟨hid, hname, hcategory, hsummary, hinputs, houtputs, hparameters, -⟩ := h
  refine ⟨hid, hname, hcategory, hsummary, hinputs, houtputs, ?_, by simp⟩
  intro j hj
  obtain rfl := Option.some.inj hj
  obtain ⟨hkey, hitems⟩ := hparameters _ rfl
  refine ⟨hkey, ?_⟩
  rw [any_arr, List.any_eq_false] at hitems ⊢
  intro item hitem
  obtain ⟨parameter, hmem, rfl⟩ := List.mem_map.1 hitem
  have hprinted := hitems _ (List.mem_map.2 ⟨parameter, hmem, rfl⟩)
  rw [Bool.not_eq_true] at hprinted ⊢
  exact parameter_printable hprinted

theorem blocks_printable {blocks : List BlockDescriptor}
    (h : ∀ b ∈ blocks, (blockToTree b).any Json.badText = false) :
    (blocksToJson blocks).any isUnprintable = false := by
  unfold blocksToJson
  rw [any_arr, List.any_eq_false]
  intro item hitem
  obtain ⟨b, hb, rfl⟩ := List.mem_map.1 hitem
  rw [Bool.not_eq_true]
  exact block_printable (h b hb)

theorem scheduler_printable (scheduler : SchedulerDescriptor) :
    (schedulerToJson scheduler).any isUnprintable = !Utf8.valid scheduler.id := by
  have hkey : Utf8.valid (str "id") = true := by decide
  simp [schedulerToJson, any_obj, hkey, Json.any, isUnprintable]

theorem schedulers_printable (schedulers : List SchedulerDescriptor) :
    (schedulersToJson schedulers).any isUnprintable =
      !schedulers.all fun scheduler => Utf8.valid scheduler.id := by
  unfold schedulersToJson
  rw [any_arr, List.any_map, List.not_all_eq_any_not]
  exact congrArg _ (funext scheduler_printable)

/-! ## Answers -/

/-- 200, with the JSON. -/
def okOutcome (content : Json) : Except Thrown Unit × Reply :=
  (.ok (), { status := some 200, content := some content })

section Replies

variable {α : Type} {raise : ProviderExn → Raised} {write : α → Json}

theorem replyWith_ok {a : α} (h : (write a).any isUnprintable = false) :
    Reply.execute {} (replyWith raise write (.ok a)) = okOutcome (write a) := by
  simp [Reply.execute, replyWith, Reply.setJsonResponse, h, okOutcome]

/-- What cannot be printed is an internal error. -/
theorem replyWith_unprintable {a : α} (h : (write a).any isUnprintable = true) :
    AnsweredFor .std (Reply.execute {} (replyWith raise write (.ok a))) := by
  have hraised : (replyWith raise write (.ok a) {}).1 = .error .std := by
    simp [replyWith, Reply.setJsonResponse, h]
  exact (execute_iff hraised).2 nofun

theorem replyWith_unknown (e : ServiceError) :
    AnsweredFor (.service e)
        (Reply.execute {} (replyWith raise write (.error (.service e)))) ↔
      ∀ what, quoted (.service e) = some what → Utf8.valid what = true :=
  execute_iff rfl

end Replies

theorem getBlock_eq (s : BlockCatalogService) (provided : Except ProviderExn (List BlockDescriptor))
    {raw id : Str} (hraw : decodePercentEncoded raw = .ok id) :
    getBlock blockRaise s provided raw =
      replyWith blockRaise blockToJson (s.get provided id).1 := by
  funext reply
  unfold getBlock replyWith
  simp only [hraw]
  cases (s.get provided id).1 with
  | error e => cases e <;> rfl
  | ok block =>
    cases hwritten : reply.setJsonResponse (blockToJson block) 200 with
    | mk result reply' => cases result <;> simp only [hwritten]

/-- How a request is answered by a program that has these blocks and
schedulers. -/
def Answers (blocks : List BlockDescriptor) (schedulers : List SchedulerDescriptor)
    (outcome : Except Thrown Unit × Reply) : CatalogRequest → Prop
  | .blocks => ∃ listed, Browsable blocks listed ∧ outcome = okOutcome (blocksToJson listed)
  | .block raw =>
    match decodePercentEncoded raw with
    | .error _ => AnsweredFor .std outcome
    | .ok id =>
      (∀ b ∈ blocks, b.id = id → outcome = okOutcome (blockToJson b)) ∧
        ((∀ b ∈ blocks, b.id ≠ id) →
          (AnsweredFor (.service ⟨.notFound, str "block not found: " ++ id⟩) outcome ↔
            Utf8.valid (cString id) = true))
  | .schedulers =>
    if schedulers.all fun scheduler => Utf8.valid scheduler.id then
      outcome = okOutcome (schedulersToJson schedulers)
    else AnsweredFor .std outcome
  | .scheduler raw =>
    match decodePercentEncoded raw with
    | .error _ => AnsweredFor .std outcome
    | .ok id =>
      if (⟨id⟩ : SchedulerDescriptor) ∈ schedulers then
        if Utf8.valid id then outcome = okOutcome (schedulerToJson ⟨id⟩)
        else AnsweredFor .std outcome
      else
        (AnsweredFor (.service ⟨.notFound, str "scheduler not found: " ++ id⟩) outcome ↔
          Utf8.valid (cString id) = true)

/-- The program keeps the catalogs of these blocks and schedulers: they are
the instances that were reflected, and the aliases there were, when it was
started. -/
structure Holds (setup : Setup) (start : Occasion) (p : Program) (blocks : List BlockDescriptor)
    (schedulers : List SchedulerDescriptor) : Prop where
  keptBlocks : p.blocks.cachedCatalog = some (buildCatalog blocks)
  keptSchedulers : p.schedulers.cachedCatalog = some (buildSchedulerCatalog schedulers)
  loaded : ∃ loader, start.found.loader = .ok loader ∧ p.pool = [loader] ∧
    Catalogued (factoryOf setup.viewed start.found.registry [loader])
      (Known start.found.registry [loader]) start.reflect blocks
  aliases : ∃ loader, start.schedulers = .ok loader ∧
    (schedulers.Pairwise fun a b => Str.lt a.id b.id = true) ∧
    ∀ scheduler, scheduler ∈ schedulers ↔ loader.Offers scheduler.id
  listed : (buildSchedulerCatalog schedulers).schedulers = schedulers

section Serving

variable {setup : Setup} {p : Program} {blocks : List BlockDescriptor}
  {schedulers : List SchedulerDescriptor} {start now : Occasion}

theorem Holds.blocks_provided (h : Holds setup start p blocks schedulers) :
    blocksProvided setup now p = (.error .other, p.pool) := by
  unfold blocksProvided
  rw [h.keptBlocks]

theorem Holds.blocks_catalog (h : Holds setup start p blocks schedulers)
    (provided : Except ProviderExn (List BlockDescriptor)) :
    p.blocks.catalog provided = (.ok (buildCatalog blocks), p.blocks) := by
  unfold BlockCatalogService.catalog
  rw [h.keptBlocks]

theorem Holds.schedulers_catalog (h : Holds setup start p blocks schedulers)
    (provided : Except ProviderExn (List SchedulerDescriptor)) :
    p.schedulers.catalog provided = (.ok (buildSchedulerCatalog schedulers), p.schedulers) := by
  unfold SchedulerCatalogService.catalog
  rw [h.keptSchedulers]

/-- The request leaves the program as it is. -/
theorem Holds.unchanged (h : Holds setup start p blocks schedulers) (r : CatalogRequest) :
    (serve setup now p r).2 = p := by
  have hget : ∀ provided id, (p.blocks.get provided id).2 = p.blocks := by
    intro provided id
    unfold BlockCatalogService.get
    rw [h.blocks_catalog]
    dsimp only
    split <;> rfl
  have hgetScheduler : ∀ provided id, (p.schedulers.get provided id).2 = p.schedulers := by
    intro provided id
    unfold SchedulerCatalogService.get
    rw [h.schedulers_catalog]
    dsimp only
    split <;> rfl
  cases r with
  | blocks =>
    simp only [serve, h.blocks_provided, BlockCatalogService.list, h.blocks_catalog]
  | block raw =>
    simp only [serve]
    split
    · rfl
    · simp only [h.blocks_provided, hget]
  | schedulers =>
    simp only [serve, SchedulerCatalogService.list, h.schedulers_catalog]
  | scheduler raw =>
    simp only [serve]
    split
    · rfl
    · simp only [hgetScheduler]

theorem Holds.nodup (h : Holds setup start p blocks schedulers) : (blocks.map (·.id)).Nodup := by
  obtain ⟨_, -, -, hcat⟩ := h.loaded
  exact hcat.nodup

theorem Holds.printable (h : Holds setup start p blocks schedulers) :
    ∀ b ∈ blocks, (blockToTree b).any Json.badText = false := by
  obtain ⟨_, -, -, hcat⟩ := h.loaded
  exact hcat.printable

theorem Holds.answers_blocks (h : Holds setup start p blocks schedulers) :
    Answers blocks schedulers (serve setup now p .blocks).1 .blocks := by
  have hbrowse := buildCatalog_browsable h.nodup
  refine ⟨_, hbrowse, ?_⟩
  show Reply.execute {} (replyWith _ _ (p.blocks.list _).1) = _
  unfold BlockCatalogService.list
  rw [h.blocks_catalog]
  exact replyWith_ok (blocks_printable fun b hb => h.printable b ((hbrowse.best b).1 hb).1)

theorem Holds.answers_block (h : Holds setup start p blocks schedulers) (raw : Str) :
    Answers blocks schedulers (serve setup now p (.block raw)).1 (.block raw) := by
  cases hraw : decodePercentEncoded raw with
  | error e =>
    simp only [serve, Answers, hraw]
    refine (execute_iff ?_).2 nofun
    simp only [getBlock, hraw]
  | ok id =>
    simp only [serve, Answers, hraw, getBlock_eq _ _ hraw, BlockCatalogService.get,
      h.blocks_catalog]
    refine ⟨fun b hb hid => ?_, fun hnone => ?_⟩
    · simp only [(buildCatalog_lookup h.nodup id b).2 ⟨hb, hid⟩]
      exact replyWith_ok (block_printable (h.printable b hb))
    · have hlookup : (buildCatalog blocks).exactBlocks.lookup id = none := by
        cases hl : (buildCatalog blocks).exactBlocks.lookup id with
        | none => rfl
        | some b =>
          obtain ⟨hb, hid⟩ := (buildCatalog_lookup h.nodup id b).1 hl
          exact absurd hid (hnone b hb)
      simp only [hlookup]
      rw [replyWith_unknown]
      simp only [quoted, Option.some.injEq, forall_eq']
      rw [Utf8.valid_cString_plain_append (by decide)]

theorem Holds.answers_schedulers (h : Holds setup start p blocks schedulers) :
    Answers blocks schedulers (serve setup now p .schedulers).1 .schedulers := by
  simp only [serve, Answers, getSchedulers, SchedulerCatalogService.list, h.schedulers_catalog,
    h.listed]
  cases hvalid : schedulers.all fun scheduler => Utf8.valid scheduler.id with
  | true => exact replyWith_ok (by rw [schedulers_printable, hvalid, Bool.not_true])
  | false => exact replyWith_unprintable (by rw [schedulers_printable, hvalid, Bool.not_false])

theorem Holds.answers_scheduler (h : Holds setup start p blocks schedulers) (raw : Str) :
    Answers blocks schedulers (serve setup now p (.scheduler raw)).1 (.scheduler raw) := by
  simp only [serve, Answers, getScheduler]
  split
  · exact (execute_iff rfl).2 nofun
  · rename_i id hraw
    simp only [SchedulerCatalogService.get, h.schedulers_catalog, buildSchedulerCatalog_lookup]
    by_cases hmem : (⟨id⟩ : SchedulerDescriptor) ∈ schedulers
    · simp only [if_pos hmem]
      cases hvalid : Utf8.valid id with
      | true => exact replyWith_ok (by rw [scheduler_printable, hvalid, Bool.not_true])
      | false => exact replyWith_unprintable (by rw [scheduler_printable, hvalid, Bool.not_false])
    · simp only [if_neg hmem]
      rw [replyWith_unknown]
      simp only [quoted, Option.some.injEq, forall_eq']
      rw [Utf8.valid_cString_plain_append (by decide)]

theorem Holds.answers (h : Holds setup start p blocks schedulers) (r : CatalogRequest) :
    Answers blocks schedulers (serve setup now p r).1 r := by
  cases r with
  | blocks => exact h.answers_blocks
  | block raw => exact h.answers_block raw
  | schedulers => exact h.answers_schedulers
  | scheduler raw => exact h.answers_scheduler raw

/-- Nothing that is asked of a program that serves changes what it answers. -/
theorem Holds.run {p' : Program} {ls : List ProgramLbl} (h : Holds setup start p blocks schedulers)
    (hserving : p.phase = .serving) (hrun : (program setup).Run p ls p') :
    p' = p ∧ ∀ now r outcome, .request now r outcome ∈ ls →
      Answers blocks schedulers outcome r := by
  induction hrun with
  | nil => exact ⟨rfl, nofun⟩
  | @cons q q' q'' l ls hstep _ ih =>
    cases l with
    | start now =>
      have hstarting : q.phase = .starting := hstep.1
      rw [hserving] at hstarting
      cases hstarting
    | request now r outcome =>
      obtain ⟨-, -, houtcome⟩ := hstep
      have hsame : q' = q := by
        have hunchanged : (serve setup now q r).2 = q := h.unchanged r
        rw [← hunchanged, ← houtcome]
      have hanswers : Answers blocks schedulers (serve setup now q r).1 r := h.answers r
      rw [← houtcome] at hanswers
      subst hsame
      obtain ⟨rfl, hrest⟩ := ih h hserving
      refine ⟨rfl, fun now' r' outcome' hmem => ?_⟩
      rcases List.mem_cons.1 hmem with he | hmem
      · cases he
        exact hanswers
      · exact hrest now' r' outcome' hmem

end Serving

/-! ## Starting -/

section Starting

variable {setup : Setup} {now : Occasion}

theorem endedBy_ne_serving (e : CatalogThrow) : endedBy e ≠ .serving := by
  cases e with
  | provider e => cases e <;> nofun
  | service e => nofun

/-- What has happened when the program comes to serve. -/
theorem startUp_serving (h : (startUp setup now .initial).phase = .serving) :
    ∃ blocks schedulers pool,
      listBlocks setup.pluginDirectories [] now.found now.reflect = (.ok blocks, pool) ∧
      listSchedulers setup.pluginDirectories now.schedulers = .ok schedulers ∧
      startUp setup now .initial = ⟨.serving, pool, ⟨some (buildCatalog blocks)⟩,
        ⟨some (buildSchedulerCatalog schedulers)⟩⟩ := by
  have hprovided : blocksProvided setup now .initial =
    listBlocks setup.pluginDirectories [] now.found now.reflect := rfl
  have hscheduled : schedulersProvided setup now =
    listSchedulers setup.pluginDirectories now.schedulers := rfl
  unfold startUp at h ⊢
  rw [hprovided] at h ⊢
  rw [hscheduled] at h ⊢
  generalize listBlocks setup.pluginDirectories [] now.found now.reflect = provided at h ⊢
  generalize listSchedulers setup.pluginDirectories now.schedulers = scheduled at h ⊢
  obtain ⟨result, pool⟩ := provided
  cases result with
  | error e => exact absurd h (endedBy_ne_serving _)
  | ok blocks =>
    cases scheduled with
    | error e => exact absurd h (endedBy_ne_serving _)
    | ok schedulers => exact ⟨blocks, schedulers, pool, rfl, rfl, rfl⟩

theorem startUp_holds (hjson : setup.json.Conforms)
    (hreflect : Reflected setup.json setup.viewed [] now.found now.reflect)
    (h : (startUp setup now .initial).phase = .serving) :
    ∃ blocks schedulers, Holds setup now (startUp setup now .initial) blocks schedulers := by
  obtain ⟨blocks, schedulers, pool, hblocks, hschedulers, hp⟩ := startUp_serving h
  obtain ⟨loader, -, hloader, -, rfl, hcat⟩ := listBlocks_ok hjson hreflect hblocks
  obtain ⟨schedulerLoader, hscheduled, hlisted, hsorted, hoffers⟩ := schedulers_spec hschedulers
  rw [hp]
  exact ⟨blocks, schedulers, rfl, rfl, ⟨loader, hloader, rfl, hcat⟩,
    ⟨schedulerLoader, hscheduled, hsorted, hoffers⟩, hlisted⟩

/-- A program is started once. -/
theorem startUp_not_starting : (startUp setup now .initial).phase ≠ .starting := by
  have hended : ∀ e, endedBy e ≠ .starting := by
    intro e
    cases e with
    | provider e => cases e <;> nofun
    | service e => nofun
  unfold startUp
  dsimp only
  split
  · exact hended _
  · split
    · exact hended _
    · nofun

/-- Some block can be reflected. -/
def BlocksThere (now : Occasion) : Prop :=
  ∃ loader, now.found.loader = .ok loader ∧ loader.failedPlugins = [] ∧
    ∃ id, Known now.found.registry [loader] id ∧ ∃ b, now.reflect id = .ok b

/-- Some scheduler has an alias. -/
def SchedulersThere (now : Occasion) : Prop :=
  ∃ loader, now.schedulers = .ok loader ∧ loader.failedPlugins = [] ∧ ∃ id, loader.Offers id

theorem listSchedulers_answers_iff {pluginDirectories : List Str} :
    (∃ schedulers, listSchedulers pluginDirectories now.schedulers = .ok schedulers) ↔
      pluginDirectories ≠ [] ∧ SchedulersThere now := by
  constructor
  · intro h
    obtain ⟨schedulers, h⟩ := h
    obtain ⟨hdirs, loader, hloader, hfailed, hids, -⟩ := listSchedulers_ok.1 h
    obtain ⟨id, hid⟩ := List.exists_mem_of_ne_nil _ hids
    exact ⟨hdirs, loader, hloader, hfailed, id, mem_schedulerIds.1 hid⟩
  · intro h
    obtain ⟨hdirs, loader, hloader, hfailed, id, hid⟩ := h
    exact ⟨_, listSchedulers_ok.2 ⟨hdirs, loader, hloader, hfailed,
      List.ne_nil_of_mem (mem_schedulerIds.2 hid), rfl⟩⟩

/-- The program comes to serve exactly when plugins are configured, some
block can be reflected and some scheduler has an alias. -/
theorem startUp_serves_iff :
    (startUp setup now .initial).phase = .serving ↔
      setup.pluginDirectories ≠ [] ∧ BlocksThere now ∧ SchedulersThere now := by
  constructor
  · intro h
    obtain ⟨blocks, schedulers, pool, hblocks, hschedulers, -⟩ := startUp_serving h
    obtain ⟨hdirs, hthere⟩ := listBlocks_answers_iff.1 ⟨blocks, congrArg Prod.fst hblocks⟩
    exact ⟨hdirs, hthere, (listSchedulers_answers_iff.1 ⟨schedulers, hschedulers⟩).2⟩
  · intro h
    obtain ⟨hdirs, hblocks, hschedulers⟩ := h
    obtain ⟨blocks, hblocks⟩ : ∃ blocks,
        (listBlocks setup.pluginDirectories [] now.found now.reflect).1 = .ok blocks :=
      listBlocks_answers_iff.2 ⟨hdirs, hblocks⟩
    obtain ⟨schedulers, hschedulers⟩ := listSchedulers_answers_iff.2 ⟨hdirs, hschedulers⟩
    have hprovided : blocksProvided setup now .initial =
        (.ok blocks, (blocksProvided setup now .initial).2) := Prod.ext hblocks rfl
    have hscheduled : schedulersProvided setup now = .ok schedulers := hschedulers
    unfold startUp
    rw [hprovided, hscheduled]
    rfl

/-- **What is served is what there was.** In every run, whatever the
reflecting processes do and whatever plugins there are later: a program that
serves has been started once, by the first step, and has loaded the plugins
with it; it has a catalog of the instances it reflected then, sorted and each
once, and of the scheduler aliases there were then. Every request is answered
from it: the list of blocks and every block in it with 200 and JSON that can
be printed, an unknown block with 404 exactly when its id can be printed. -/
theorem catalogs_served (hjson : setup.json.Conforms) {ls : List ProgramLbl} {p : Program}
    (hrun : (program setup).Run .initial ls p) (hserving : p.phase = .serving) :
    ∃ start rest blocks schedulers, ls = .start start :: rest ∧
      Holds setup start p blocks schedulers ∧
      ∀ now r outcome, .request now r outcome ∈ ls → Answers blocks schedulers outcome r := by
  cases hrun with
  | nil => cases hserving
  | @cons _ p' _ l ls hstep hrest =>
    cases l with
    | request now r outcome => cases hstep.1
    | start now =>
      obtain ⟨-, hreflect, rfl⟩ := hstep
      by_cases hstarted : (startUp setup now .initial).phase = .serving
      · obtain ⟨blocks, schedulers, hholds⟩ := startUp_holds hjson hreflect hstarted
        obtain ⟨rfl, hanswers⟩ := hholds.run hstarted hrest
        refine ⟨now, ls, blocks, schedulers, rfl, hholds, fun now' r outcome hmem => ?_⟩
        rcases List.mem_cons.1 hmem with he | hmem
        · cases he
        · exact hanswers now' r outcome hmem
      · -- nothing happens to a program that has ended
        cases hrest with
        | nil => exact absurd hserving hstarted
        | @cons _ p'' _ l ls hstep _ =>
          cases l with
          | start now' => exact absurd hstep.1 startUp_not_starting
          | request now' r outcome => exact absurd hstep.1 hstarted

end Starting

noncomputable def probeSetup : Setup := ⟨probeTask.json, true, [str "/plugins"]⟩

def simpleScheduler : SchedulerLoader where
  failedPlugins := []
  availableSchedulers := [str "gr::scheduler::Simple<multiThreaded>", str "gr::scheduler::SimpleMulti"]

def probeOccasion : Occasion := ⟨probeFound, fun _ => .ok probeBlock, .ok simpleScheduler⟩

/-- Started with one block and one alias, the program is asked for a block
it does not have. -/
theorem probe_served :
    ∃ p outcome, (program probeSetup).Run .initial [.start probeOccasion,
        .request probeOccasion (.block (str "gr%3A%3Anone")) outcome] p ∧
      ∃ start rest blocks schedulers, [ProgramLbl.start probeOccasion,
          .request probeOccasion (.block (str "gr%3A%3Anone")) outcome] = .start start :: rest ∧
        Holds probeSetup start p blocks schedulers ∧
        ∀ now r outcome', .request now r outcome' ∈ [ProgramLbl.start probeOccasion,
            .request probeOccasion (.block (str "gr%3A%3Anone")) outcome] →
          Answers blocks schedulers outcome' r := by
  have hserves : (startUp probeSetup probeOccasion .initial).phase = .serving := by
    refine startUp_serves_iff.2 ⟨by decide, ⟨probeLoader, rfl, rfl, _, .inl List.mem_cons_self,
      probeBlock, rfl⟩, simpleScheduler, rfl, rfl, str "gr::scheduler::SimpleMulti", ?_, ?_⟩
    · decide
    · decide
  obtain ⟨blocks, schedulers, hholds⟩ := startUp_holds probe_conforms (probe_reflects 0) hserves
  obtain ⟨blocks', schedulers', pool, hblocks, -, hstarted⟩ := startUp_serving hserves
  have hpool : (startUp probeSetup probeOccasion .initial).pool = List.replicate 1 probeLoader := by
    obtain ⟨loader, -, hloader, -, rfl, -⟩ := listBlocks_ok probe_conforms (probe_reflects 0) hblocks
    obtain rfl : probeLoader = loader := Except.ok.inj hloader
    rw [hstarted]
    rfl
  have hrun : (program probeSetup).Run .initial [.start probeOccasion,
      .request probeOccasion (.block (str "gr%3A%3Anone"))
        (serve probeSetup probeOccasion (startUp probeSetup probeOccasion .initial)
          (.block (str "gr%3A%3Anone"))).1] (startUp probeSetup probeOccasion .initial) := by
    refine .cons ⟨rfl, probe_reflects 0, rfl⟩ (.cons ⟨hserves, ?_, ?_⟩ (.nil _))
    · rw [hpool]
      exact probe_reflects 1
    · exact Prod.ext rfl (hholds.unchanged _).symm
  exact ⟨_, _, hrun, catalogs_served probe_conforms hrun hserves⟩

end Gr4cp.Api

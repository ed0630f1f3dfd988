import Mathlib.Data.List.Basic
import Gr4ControlPlane.L3Runtime.Gr4RuntimeManager
import Gr4ControlPlane.L4App.BlockSettings

/-!
# The block a settings request reaches (`resolve_runtime_block`)

A settings call names a block. The runtime looks among the blocks of the
running graph for one with that name, then for one with that unique name,
then for one whose setting `name` is that, and sends its request to the
unique name of the first block found. Names are chosen by the author of the
graph, unique names by GNU Radio.

The documentation has blocks addressed by unique name, and the pass for
names comes before the one for unique names. `resolve_unique_name_iff`: a
unique name leads to its block exactly when no block in front of it has that
name, and the block has it as its own name too or no block behind it has it.
-/
namespace Gr4cp.App

open Gr4cp.Core Gr4cp.Domain Gr4cp.Runtime

/-! ## The blocks of the running graph -/

/-- What the runtime reads of a block. -/
structure RuntimeBlock where
  uniqueName : Str
  name : Str
  typeName : Str
  settings : PropertyMap
  deriving DecidableEq, Repr

/-- The string under `name` in the settings. -/
def RuntimeBlock.settingsName (block : RuntimeBlock) : Option Str :=
  parameterString block.settings (str "name")

/-- mirrors src/runtime/gr4_runtime_manager.cpp:367-392 -/
def resolveRuntimeBlock (blocks : List RuntimeBlock) (requested : Str) : Option RuntimeBlock :=
  match blocks.find? fun block => block.name == requested with
  | some block => some block
  | none =>
    match blocks.find? fun block => block.uniqueName == requested with
    | some block => some block
    | none => blocks.find? fun block => block.settingsName == some requested

/-- mirrors src/runtime/gr4_runtime_manager.cpp:322-342 -/
def describeRuntimeBlock (block : RuntimeBlock) : Str :=
  block.uniqueName ++
  (if block.name.isEmpty || block.name == block.uniqueName then []
    else str " (name=" ++ block.name ++ str ")") ++
  (if block.typeName.isEmpty then [] else str " [type=" ++ block.typeName ++ str "]") ++
  match block.settingsName with
  | some settingsName =>
    if settingsName.isEmpty || settingsName == block.uniqueName || settingsName == block.name then []
    else str " [settings.name=" ++ settingsName ++ str "]"
  | none => []

/-- mirrors src/runtime/gr4_runtime_manager.cpp:344-359 -/
def summarizeRuntimeBlocks (blocks : List RuntimeBlock) : Str :=
  if blocks.isEmpty then str "<none>"
  else (str ", ").intercalate (blocks.map describeRuntimeBlock)

/-- mirrors src/runtime/gr4_runtime_manager.cpp:361-365 -/
def makeBlockNotFoundError (blocks : List RuntimeBlock) (requested : Str) : SettingsThrow :=
  .blockNotFound (str "block not found in running session: " ++ requested ++
    str "; available runtime blocks: " ++ summarizeRuntimeBlocks blocks)

/-! ## Requests -/

inductive Command where
  | set | get
  deriving DecidableEq, Repr

/-- A request to the message port of the scheduler. -/
structure SettingsMessage where
  command : Command
  serviceName : Str
  endpoint : Str
  payload : PropertyMap
  deriving DecidableEq, Repr

/-- What comes of a request. -/
inductive Delivery where
  /-- one of the two ports could not be connected -/
  | requestPort (what : Str)
  | responsePort (what : Str)
  /-- no reply to this request in time -/
  | silence
  | data (settings : PropertyMap)
  | error (message : Str)

/-- A throw of `std::runtime_error`, in the terms of the settings calls. -/
def settingsFailed (session : Session) (phase detail : Str) : SettingsThrow :=
  match runtimeError session phase detail with
  | .std what => .std what
  | .other => .other

/-- The request, its reply, and the handlers around them.
mirrors src/runtime/gr4_runtime_manager.cpp:617-661,907-921,945-960 -/
def exchange (deliver : SettingsMessage → Delivery) (session : Session) (phase : Str)
    (message : SettingsMessage) : Except SettingsThrow PropertyMap :=
  match deliver message with
  | .requestPort what =>
    .error (settingsFailed session phase (str "failed to connect runtime request port: " ++ what))
  | .responsePort what =>
    .error (settingsFailed session phase (str "failed to connect runtime response port: " ++ what))
  | .silence =>
    .error (.replyTimeout
      (str "timed out waiting for runtime reply from block " ++ message.serviceName))
  | .data settings => .ok settings
  | .error what =>
    .error (settingsFailed session phase (str "runtime returned error for block " ++
      message.serviceName ++ str " " ++ message.endpoint ++ str ": " ++ what))

/-- The unique name a call leads to. `scheduler` holds the blocks of the
scheduler's block model, if it has one.
mirrors src/runtime/gr4_runtime_manager.cpp:883-902,925-943 -/
def settingsTarget (m : Manager) (scheduler : Option (List RuntimeBlock)) (session : Session)
    (phase blockTarget : Str) : Except SettingsThrow Str :=
  match m.runningBindings session with
  | none => .error (settingsFailed session phase notRunning)
  | some _ =>
    match scheduler with
    | none =>
      .error (settingsFailed session phase (str "scheduler does not expose a runtime block model"))
    | some blocks =>
      match resolveRuntimeBlock blocks blockTarget with
      | none => .error (makeBlockNotFoundError blocks blockTarget)
      | some block => .ok block.uniqueName

section Calls

-- `gr::block::property::kStagedSetting` and `kSetting`
variable (property : BlockSettingsMode → Str) (deliver : SettingsMessage → Delivery)

/-- The outcome, and the requests sent.
mirrors src/runtime/gr4_runtime_manager.cpp:879-921 -/
def setBlockSettings (m : Manager) (scheduler : Option (List RuntimeBlock)) (call : SettingsCall) :
    Except SettingsThrow Unit × List SettingsMessage :=
  match settingsTarget m scheduler call.session (str "settings update") call.block with
  | .error thrown => (.error thrown, [])
  | .ok serviceName =>
    let message : SettingsMessage := ⟨.set, serviceName, property call.mode, call.patch⟩
    ((exchange deliver call.session (str "settings update") message).map fun _ => (), [message])

/-- The outcome, and the requests sent.
mirrors src/runtime/gr4_runtime_manager.cpp:923-960 -/
def getBlockSettings (m : Manager) (scheduler : Option (List RuntimeBlock)) (session : Session)
    (blockTarget : Str) : Except SettingsThrow PropertyMap × List SettingsMessage :=
  match settingsTarget m scheduler session (str "settings read") blockTarget with
  | .error thrown => (.error thrown, [])
  | .ok serviceName =>
    let message : SettingsMessage := ⟨.get, serviceName, property .immediate, []⟩
    (exchange deliver session (str "settings read") message, [message])

end Calls

/-! ## What a unique name leads to -/

/-- The requests of settings calls for `requested` all go to `serviceName`. -/
def RequestsGoTo (blocks : List RuntimeBlock) (requested serviceName : Str) : Prop :=
  ∀ (property : BlockSettingsMode → Str) (deliver : SettingsMessage → Delivery) (m : Manager)
    (session : Session) (patch : PropertyMap) (mode : BlockSettingsMode),
    (∀ message ∈ (setBlockSettings property deliver m (some blocks)
      ⟨session, requested, patch, mode⟩).2, message.serviceName = serviceName) ∧
    ∀ message ∈ (getBlockSettings property deliver m (some blocks) session requested).2,
      message.serviceName = serviceName

/-- `block`'s unique name leads to `block`: it is what is found, and what
every settings request for that name is sent to. -/
structure LeadsTo (blocks : List RuntimeBlock) (block : RuntimeBlock) : Prop where
  resolves : resolveRuntimeBlock blocks block.uniqueName = some block
  requests : RequestsGoTo blocks block.uniqueName block.uniqueName

theorem settingsTarget_ok {m : Manager} {blocks : List RuntimeBlock} {session : Session}
    {phase requested serviceName : Str}
    (h : settingsTarget m (some blocks) session phase requested = .ok serviceName) :
    ∃ block, resolveRuntimeBlock blocks requested = some block ∧ serviceName = block.uniqueName := by
  unfold settingsTarget at h
  split at h
  · cases h
  · dsimp only at h
    split at h
    · cases h
    · rename_i block hblock
      cases h
      exact ⟨block, hblock, rfl⟩

/-- Requests go to the block that was found. -/
theorem requestsGoTo_of_resolves {blocks : List RuntimeBlock} {requested : Str}
    {block : RuntimeBlock} (h : resolveRuntimeBlock blocks requested = some block) :
    RequestsGoTo blocks requested block.uniqueName := by
  have htarget : ∀ {m session phase serviceName},
      settingsTarget m (some blocks) session phase requested = .ok serviceName →
        serviceName = block.uniqueName := by
    intro m session phase serviceName hok
    obtain ⟨found, hfound, hname⟩ := settingsTarget_ok hok
    rw [h] at hfound
    cases hfound
    exact hname
  intro property deliver m session patch mode
  constructor
  · intro message hmessage
    unfold setBlockSettings at hmessage
    split at hmessage
    · cases hmessage
    · rename_i serviceName hok
      obtain rfl := List.mem_singleton.1 hmessage
      exact htarget hok
  · intro message hmessage
    unfold getBlockSettings at hmessage
    split at hmessage
    · cases hmessage
    · rename_i serviceName hok
      obtain rfl := List.mem_singleton.1 hmessage
      exact htarget hok

/-- The pass for names decides when it finds a block. -/
theorem resolve_of_name {blocks : List RuntimeBlock} {requested : Str} {block : RuntimeBlock}
    (h : blocks.find? (fun c => c.name == requested) = some block) :
    resolveRuntimeBlock blocks requested = some block := by
  unfold resolveRuntimeBlock
  rw [h]

/-- Then the name leads nowhere else. -/
theorem eq_of_leadsTo {blocks : List RuntimeBlock} {block found : RuntimeBlock}
    (h : LeadsTo blocks block)
    (hfound : blocks.find? (fun c => c.name == block.uniqueName) = some found) :
    found = block := by
  have hresolve := h.resolves
  rw [resolve_of_name hfound] at hresolve
  exact Option.some.inj hresolve

section UniqueNames

variable {before after : List RuntimeBlock} {block : RuntimeBlock}

/-- A block that has `block`'s unique name as its name is found in its
place, if the search gets that far. -/
theorem find_name_some {cs : List RuntimeBlock} (h : ∃ c ∈ cs, c.name = block.uniqueName) :
    ∃ c ∈ cs, cs.find? (fun c => c.name == block.uniqueName) = some c := by
  obtain ⟨c, hc, hname⟩ := h
  cases hfind : cs.find? (fun c => c.name == block.uniqueName) with
  | some found => exact ⟨found, List.mem_of_find?_eq_some hfind, rfl⟩
  | none =>
    have := List.find?_eq_none.1 hfind c hc
    simp [hname] at this

theorem find_name_none {cs : List RuntimeBlock} (h : ∀ c ∈ cs, c.name ≠ block.uniqueName) :
    cs.find? (fun c => c.name == block.uniqueName) = none := by
  rw [List.find?_eq_none]
  intro c hc
  simpa using h c hc

variable (hunique : ((before ++ block :: after).map (·.uniqueName)).Nodup)

include hunique

/-- The other blocks have other unique names. -/
theorem uniqueName_ne : ∀ c ∈ before ++ after, c.uniqueName ≠ block.uniqueName := by
  have hperm : ((block :: (before ++ after)).map (·.uniqueName)).Nodup :=
    ((List.perm_middle.map _).nodup_iff).1 hunique
  intro c hc hname
  exact (List.nodup_cons.1 hperm).1 (List.mem_map.2 ⟨c, hc, hname⟩)

/-- Without a block of that name, the second pass finds the block. -/
theorem resolve_second_pass (h : ∀ c ∈ before ++ block :: after, c.name ≠ block.uniqueName) :
    resolveRuntimeBlock (before ++ block :: after) block.uniqueName = some block := by
  have hbefore : before.find? (fun c => c.uniqueName == block.uniqueName) = none := by
    rw [List.find?_eq_none]
    intro c hc
    simpa using uniqueName_ne hunique c (List.mem_append_left _ hc)
  unfold resolveRuntimeBlock
  rw [find_name_none h]
  simp [List.find?_append, hbefore]

/-- **Unique names, exactly.** For every list of blocks with distinct unique
names, whatever their other names: a block's unique name leads to it if and
only if no block in front of it has that name, and it has it as its own name
too or no block behind it has it. -/
theorem resolve_unique_name_iff :
    LeadsTo (before ++ block :: after) block ↔
      (∀ c ∈ before, c.name ≠ block.uniqueName) ∧
      (block.name = block.uniqueName ∨ ∀ c ∈ after, c.name ≠ block.uniqueName) := by
  constructor
  · intro h
    have hother := uniqueName_ne hunique
    have hbefore : ∀ c ∈ before, c.name ≠ block.uniqueName := by
      intro c hc hname
      obtain ⟨found, hmem, hfound⟩ := find_name_some ⟨c, hc, hname⟩
      have heq : found = block := by
        apply eq_of_leadsTo h
        rw [List.find?_append, hfound]
        rfl
      exact hother found (List.mem_append_left _ hmem) (congrArg _ heq)
    refine ⟨hbefore, or_iff_not_imp_left.2 fun hself c hc hname => ?_⟩
    -- neither the blocks in front nor `block` itself have the name
    obtain ⟨found, hmem, hfound⟩ := find_name_some ⟨c, hc, hname⟩
    have heq : found = block := by
      apply eq_of_leadsTo h
      rw [List.find?_append, find_name_none hbefore, List.find?_cons, beq_false_of_ne hself, hfound]
      rfl
    exact hother found (List.mem_append_right _ hmem) (congrArg _ heq)
  · intro h
    obtain ⟨hbefore, hrest⟩ := h
    have hresolves : resolveRuntimeBlock (before ++ block :: after) block.uniqueName = some block := by
      by_cases hname : block.name = block.uniqueName
      · apply resolve_of_name
        rw [List.find?_append, find_name_none hbefore, List.find?_cons, hname]
        simp
      · obtain hself | hafter := hrest
        · exact absurd hself hname
        · apply resolve_second_pass hunique
          intro c hc
          rw [List.mem_append, List.mem_cons] at hc
          obtain hc | rfl | hc := hc
          · exact hbefore c hc
          · exact hname
          · exact hafter c hc
    exact ⟨hresolves, requestsGoTo_of_resolves hresolves⟩

end UniqueNames

def generatorBlock : RuntimeBlock where
  uniqueName := str "gr::basic::SignalGenerator<float32>#0"
  name := str "src0"
  typeName := str "gr::basic::SignalGenerator<float32>"
  settings := [(str "name", .str (str "src0"))]

/-- A block whose author gave it the generator's unique name. -/
def sinkBlock : RuntimeBlock where
  uniqueName := str "gr::testing::NullSink<float32>#0"
  name := str "gr::basic::SignalGenerator<float32>#0"
  typeName := str "gr::testing::NullSink<float32>"
  settings := [(str "name", .str (str "gr::basic::SignalGenerator<float32>#0"))]

/-- The unique name of the sink is nobody's name. -/
theorem sink_leads_to_itself : LeadsTo [generatorBlock, sinkBlock] sinkBlock := by
  show LeadsTo ([generatorBlock] ++ sinkBlock :: []) sinkBlock
  exact (resolve_unique_name_iff (by decide)).2 (by decide)

/-- Settings for the generator, by its unique name, reach the sink. -/
theorem name_shadows_uniqueName :
    ([generatorBlock, sinkBlock].map (·.uniqueName)).Nodup ∧
    RequestsGoTo [generatorBlock, sinkBlock] generatorBlock.uniqueName sinkBlock.uniqueName ∧
    ¬ LeadsTo [generatorBlock, sinkBlock] generatorBlock := by
  have hfound : resolveRuntimeBlock [generatorBlock, sinkBlock] generatorBlock.uniqueName =
      some sinkBlock := by decide +kernel
  refine ⟨by decide, requestsGoTo_of_resolves hfound, fun h => ?_⟩
  have hresolves := h.resolves
  rw [hfound] at hresolves
  exact absurd hresolves (by decide)

end Gr4cp.App

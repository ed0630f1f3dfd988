import Mathlib.Data.List.Forall2
import Gr4ControlPlane.L1Domain.PmtText
import Gr4ControlPlane.L3Runtime.StreamInjection

/-!
# What normalisation keeps of the authored graph

Apart from the endpoints of streams, `normalizeGraphContent` changes a graph
in few places: the id and the parameters of its blocks, and the ports of its
connections. `GraphPreserved` says what stays.

* `normalizeBlock_preserved`, `normalizeConnection_preserved`: one block, one
  connection.
* `normalizeGraphContent_preserves`: the text returned denotes the
  transformed graph, which preserves the authored one; and the text is the
  authored one only if nothing was transformed.
-/
namespace Gr4cp.Runtime

open Gr4cp.Core Gr4cp.Domain

/-! ## Preservation -/

/-- Authored parameters keep their values, raw ones fill in, and only a name
is added. -/
structure ParametersPreserved (authored raw parameters : PropertyMap) : Prop where
  kept : ∀ key value, authored.lookup key = some value → parameters.lookup key = some value
  filled : ∀ key, authored.lookup key = none → key ≠ str "name" →
    parameters.lookup key = raw.lookup key
  name : authored.lookup (str "name") = none → ∀ value, raw.lookup (str "name") = some value →
    parameters.lookup (str "name") = some value

structure BlockPreserved (block block' : PropertyMap) : Prop where
  others : ∀ key, key ≠ str "id" → key ≠ str "parameters" → block'.lookup key = block.lookup key
  parameters : ParametersPreserved (mapAt block (str "parameters"))
    (mapAt block (str "raw_parameters")) (mapAt block' (str "parameters"))
  written : block'.lookup (str "parameters") = block.lookup (str "parameters") ∨
    ∃ parameters, block'.lookup (str "parameters") = some (.map parameters)

/-- An element of the `blocks` tensor. -/
def BlockValuePreserved (v v' : Value) : Prop :=
  match getMap v with
  | some block => ∃ block', v' = .map block' ∧ BlockPreserved block block'
  | none => v' = v

/-- Only the two port positions may change. -/
structure SequencePreserved (sequence sequence' : List Value) : Prop where
  length : sequence'.length = sequence.length
  others : ∀ index, index ≠ 1 → index ≠ 3 → sequence'[index]? = sequence[index]?

/-- The four strings of a connection written as a map. -/
def connectionStrings (map : PropertyMap) : Option (Str × Str × Str × Str) :=
  match parameterString map (str "source_block"), parameterString map (str "source_port_token"),
    parameterString map (str "dest_block"), parameterString map (str "dest_port_token") with
  | some sourceBlock, some sourcePort, some destBlock, some destPort =>
    some (sourceBlock, sourcePort, destBlock, destPort)
  | _, _, _, _ => none

/-- An element of the `connections` tensor. -/
def ConnectionPreserved (v v' : Value) : Prop :=
  match getTensor v with
  | some sequence => ∃ sequence', v' = .tensor sequence' ∧ SequencePreserved sequence sequence'
  | none =>
    match (getMap v).bind connectionStrings with
    | some (sourceBlock, sourcePort, destBlock, destPort) => ∃ source dest,
      normalizePort sourcePort = .ok source ∧ normalizePort destPort = .ok dest ∧
        v' = .tensor [.str sourceBlock, source, .str destBlock, dest]
    | none => v' = v

/-- The tensor under a key, if there is one: as many items, in their order. -/
def ItemsPreserved (R : Value → Value → Prop) (v v' : Option Value) : Prop :=
  match v.bind getTensor with
  | some items => ∃ items', v' = some (.tensor items') ∧ List.Forall₂ R items items'
  | none => v' = v

structure GraphPreserved (root root' : PropertyMap) : Prop where
  others : ∀ key, key ≠ str "blocks" → key ≠ str "connections" →
    root'.lookup key = root.lookup key
  blocks : ItemsPreserved BlockValuePreserved (root.lookup (str "blocks"))
    (root'.lookup (str "blocks"))
  connections : ItemsPreserved ConnectionPreserved (root.lookup (str "connections"))
    (root'.lookup (str "connections"))

/-! ## Blocks -/

theorem lookup_fillMissing (raw parameters : PropertyMap) (key : Str) :
    (fillMissing raw parameters).lookup key = (parameters.lookup key).or (raw.lookup key) := by
  induction raw generalizing parameters with
  | nil => simp [fillMissing]
  | cons entry raw ih =>
    obtain ⟨key', value⟩ := entry
    simp only [fillMissing]
    by_cases hkey : key = key'
    · subst hkey
      cases hlookup : parameters.lookup key with
      | some v => simp [Assoc.contains, ih, hlookup]
      | none => simp [Assoc.contains, ih, hlookup]
    · have hne : (key == key') = false := by simpa using hkey
      rw [List.lookup_cons, hne]
      split
      · exact ih parameters
      · rw [ih, Assoc.lookup_insertOrAssign_of_ne hkey]

theorem lookup_assignName {key : Str} (h : key ≠ str "name") (id : Option Str)
    (block parameters : PropertyMap) :
    (assignName id block parameters).lookup key = parameters.lookup key := by
  rw [assignName_eq]
  split
  · rfl
  · split
    · exact Assoc.lookup_insertOrAssign_of_ne h _ _
    · rfl

/-- A parameter that is there is not assigned. -/
theorem lookup_assignName_of_some {key : Str} {value : Value} (id : Option Str)
    (block : PropertyMap) {parameters : PropertyMap} (h : parameters.lookup key = some value) :
    (assignName id block parameters).lookup key = some value := by
  by_cases hkey : key = str "name"
  · subst hkey
    rw [assignName_eq, if_pos (by simp [Assoc.contains, h])]
    exact h
  · rw [lookup_assignName hkey]
    exact h

theorem assignName_preserved (id : Option Str) (block authored raw : PropertyMap) :
    ParametersPreserved authored raw (assignName id block (fillMissing raw authored)) where
  kept key value h := by
    refine lookup_assignName_of_some id block ?_
    rw [lookup_fillMissing, h, Option.some_or]
  filled key h hkey := by
    rw [lookup_assignName hkey, lookup_fillMissing, h, Option.none_or]
  name h value hraw := by
    refine lookup_assignName_of_some id block ?_
    rw [lookup_fillMissing, h, Option.none_or, hraw]

theorem normalizeBlock_preserved (block : PropertyMap) :
    BlockPreserved block (normalizeBlock block) where
  others key hid hparameters := lookup_normalizeBlock hid hparameters block
  parameters := by
    rw [parameters_normalizeBlock]
    exact assignName_preserved _ _ _ _
  written := by
    simp only [normalizeBlock]
    split
    · exact .inl (lookup_assignBlockId (by decide) block)
    · exact .inr ⟨_, Assoc.lookup_insertOrAssign_self _ _ _⟩

theorem normalizeValue_preserved (v : Value) : BlockValuePreserved v (normalizeValue v) := by
  unfold BlockValuePreserved normalizeValue
  cases getMap v with
  | none => rfl
  | some block => exact ⟨_, rfl, normalizeBlock_preserved block⟩

theorem normalizeBlocks_preserved (blocks : List Value) :
    List.Forall₂ BlockValuePreserved blocks (normalizeBlocks blocks).1 := by
  rw [normalizeBlocks_fst]
  exact List.forall₂_map_right_iff.2 (List.forall₂_same.2 fun v _ => normalizeValue_preserved v)

/-! ## Connections -/

section Connections

variable {index : Nat} {sequence sequence' : List Value} {changed : Bool}

theorem tensor_of_getTensor {v : Value} (h : getTensor v = some sequence) : v = .tensor sequence := by
  cases v <;> cases h
  rfl

theorem normalizeAt_length (h : normalizeAt index sequence = .ok (sequence', changed)) :
    sequence'.length = sequence.length := by
  obtain rfl | ⟨port, rfl⟩ := normalizeAt_cases h
  · rfl
  · exact List.length_set

theorem normalizeAt_unchanged (h : normalizeAt index sequence = .ok (sequence', false)) :
    sequence' = sequence := by
  unfold normalizeAt at h
  split at h
  · cases h
    rfl
  · rename_i token htoken
    split at h
    · cases h
    · rename_i normalized _
      simp only [Except.ok.injEq, Prod.mk.injEq, decide_eq_false_iff_not, not_not] at h
      obtain ⟨rfl, rfl⟩ := h
      obtain ⟨v, hv, hstr⟩ := Option.bind_eq_some_iff.1 htoken
      have hval : v = .str token := by
        cases v <;> cases hstr
        rfl
      subst hval
      obtain ⟨hlt, hv⟩ := List.getElem?_eq_some_iff.1 hv
      rw [← hv, List.set_getElem_self]

theorem normalizeConnectionMap_preserved {connection connection' : Value} {map : PropertyMap}
    (hmap : getMap connection = some map)
    (h : normalizeConnectionMap connection map = .ok (connection', changed)) :
    ConnectionPreserved connection connection' ∧ (changed = false → connection' = connection) := by
  have hnot : getTensor connection = none := by
    cases connection <;> cases hmap
    rfl
  simp only [ConnectionPreserved, hnot, hmap, Option.bind_some, connectionStrings]
  unfold normalizeConnectionMap at h
  generalize parameterString map (str "source_block") = sourceBlock at h ⊢
  generalize parameterString map (str "source_port_token") = sourcePort at h ⊢
  generalize parameterString map (str "dest_block") = destBlock at h ⊢
  generalize parameterString map (str "dest_port_token") = destPort at h ⊢
  rcases sourceBlock with _ | sourceBlock
  · cases h
    exact ⟨rfl, fun _ => rfl⟩
  rcases sourcePort with _ | sourcePort
  · cases h
    exact ⟨rfl, fun _ => rfl⟩
  rcases destBlock with _ | destBlock
  · cases h
    exact ⟨rfl, fun _ => rfl⟩
  rcases destPort with _ | destPort
  · cases h
    exact ⟨rfl, fun _ => rfl⟩
  simp only at h
  split at h
  · cases h
  · rename_i source hsource
    split at h
    · cases h
    · rename_i dest hdest
      cases h
      exact ⟨⟨source, dest, hsource, hdest, rfl⟩, by rintro ⟨⟩⟩

/-- A sequence that is long enough is rewritten at its two ports. -/
theorem normalizeConnection_sequence {connection connection' : Value}
    (hsequence : getTensor connection = some sequence) (hlong : ¬ sequence.length < 4)
    (h : normalizeConnection connection = .ok (connection', changed)) :
    ∃ first third firstChanged thirdChanged,
      normalizeAt 1 sequence = .ok (first, firstChanged) ∧
      normalizeAt 3 first = .ok (third, thirdChanged) ∧
      connection' = .tensor third ∧ changed = (firstChanged || thirdChanged) := by
  unfold normalizeConnection at h
  rw [hsequence] at h
  dsimp only at h
  rw [if_neg hlong] at h
  split at h
  · cases h
  · rename_i first firstChanged hfirst
    split at h
    · cases h
    · rename_i third thirdChanged hthird
      cases h
      exact ⟨first, third, firstChanged, thirdChanged, hfirst, hthird, rfl, rfl⟩

theorem normalizeConnection_preserved {connection connection' : Value}
    (h : normalizeConnection connection = .ok (connection', changed)) :
    ConnectionPreserved connection connection' ∧ (changed = false → connection' = connection) := by
  cases hsequence : getTensor connection with
  | some sequence =>
    have hconnection := tensor_of_getTensor hsequence
    simp only [ConnectionPreserved, hsequence]
    by_cases hshort : sequence.length < 4
    · rw [normalizeConnection, hsequence] at h
      dsimp only at h
      rw [if_pos hshort] at h
      cases h
      exact ⟨⟨sequence, hconnection, rfl, fun _ _ _ => rfl⟩, fun _ => rfl⟩
    · obtain ⟨first, third, _, _, hfirst, hthird, rfl, rfl⟩ :=
        normalizeConnection_sequence hsequence hshort h
      refine ⟨⟨third, rfl, ?_, fun index h₁ h₃ => ?_⟩, fun hflags => ?_⟩
      · exact (normalizeAt_length hthird).trans (normalizeAt_length hfirst)
      · rw [normalizeAt_other (Ne.symm h₃) hthird, normalizeAt_other (Ne.symm h₁) hfirst]
      · obtain ⟨rfl, rfl⟩ := Bool.or_eq_false_iff.1 hflags
        rw [hconnection, normalizeAt_unchanged hthird, normalizeAt_unchanged hfirst]
  | none =>
    rw [normalizeConnection, hsequence] at h
    dsimp only at h
    split at h
    · rename_i map hmap
      exact normalizeConnectionMap_preserved hmap h
    · rename_i hnomap
      cases h
      simp [ConnectionPreserved, hsequence, hnomap]

theorem normalizeConnections_preserved {connections connections' : List Value}
    (h : normalizeConnections connections = .ok (connections', changed)) :
    List.Forall₂ ConnectionPreserved connections connections' ∧
      (changed = false → connections' = connections) := by
  induction connections generalizing connections' changed with
  | nil =>
    cases h
    exact ⟨.nil, fun _ => rfl⟩
  | cons connection rest ih =>
    unfold normalizeConnections at h
    split at h
    · cases h
    · rename_i connection' headChanged hconnection
      split at h
      · cases h
      · rename_i rest' restChanged hrest
        cases h
        obtain ⟨hhead, hhead'⟩ := normalizeConnection_preserved hconnection
        obtain ⟨htail, htail'⟩ := ih hrest
        refine ⟨.cons hhead htail, fun hflags => ?_⟩
        obtain ⟨rfl, rfl⟩ := Bool.or_eq_false_iff.1 hflags
        rw [hhead' rfl, htail' rfl]

end Connections

/-! ## The whole graph -/

/-- The graph that is loaded, when there are no bindings. -/
def transformedGraph (root : PropertyMap) : Except Exn PropertyMap :=
  (rewriteConnections (rewriteBlocks root).1).map Prod.fst

section Graph

variable {root root' : PropertyMap} {changed : Bool}

/-- A tensor under a key is replaced, and nothing else. -/
theorem lookup_tensor {key : Str} {items : List Value}
    (h : (root.lookup key).bind getTensor = some items) :
    root.lookup key = some (.tensor items) := by
  obtain ⟨v, hv, hitems⟩ := Option.bind_eq_some_iff.1 h
  rw [hv, tensor_of_getTensor hitems]

theorem rewriteBlocks_others {key : Str} (h : key ≠ str "blocks") (root : PropertyMap) :
    (rewriteBlocks root).1.lookup key = root.lookup key := by
  unfold rewriteBlocks
  split
  · exact Assoc.lookup_insertOrAssign_of_ne h _ _
  · rfl

theorem rewriteBlocks_preserved (root : PropertyMap) :
    ItemsPreserved BlockValuePreserved (root.lookup (str "blocks"))
      ((rewriteBlocks root).1.lookup (str "blocks")) := by
  unfold ItemsPreserved rewriteBlocks
  cases (root.lookup (str "blocks")).bind getTensor with
  | none => rfl
  | some blocks =>
    exact ⟨_, Assoc.lookup_insertOrAssign_self _ _ _, normalizeBlocks_preserved blocks⟩

theorem rewriteBlocks_same (h : (rewriteBlocks root).2 = false) : (rewriteBlocks root).1 = root := by
  unfold rewriteBlocks at h ⊢
  cases hblocks : (root.lookup (str "blocks")).bind getTensor with
  | none => rfl
  | some blocks =>
    rw [hblocks] at h
    simp only [normalizeBlocks_fst, normalizeBlocks_unchanged h]
    exact Assoc.insertOrAssign_of_lookup (lookup_tensor hblocks)

theorem rewriteConnections_others {key : Str} (hkey : key ≠ str "connections")
    (h : rewriteConnections root = .ok (root', changed)) : root'.lookup key = root.lookup key := by
  unfold rewriteConnections at h
  split at h
  · split at h
    · cases h
    · cases h
      exact Assoc.lookup_insertOrAssign_of_ne hkey _ _
  · cases h
    rfl

theorem rewriteConnections_preserved (h : rewriteConnections root = .ok (root', changed)) :
    ItemsPreserved ConnectionPreserved (root.lookup (str "connections"))
        (root'.lookup (str "connections")) ∧
      (changed = false → root' = root) := by
  unfold rewriteConnections at h
  unfold ItemsPreserved
  cases hitems : (root.lookup (str "connections")).bind getTensor with
  | none =>
    rw [hitems] at h
    cases h
    exact ⟨rfl, fun _ => rfl⟩
  | some connections =>
    rw [hitems] at h
    simp only at h
    split at h
    · cases h
    · rename_i connections' changed hconnections
      cases h
      obtain ⟨hpreserved, hsame⟩ := normalizeConnections_preserved hconnections
      refine ⟨⟨connections', Assoc.lookup_insertOrAssign_self _ _ _, hpreserved⟩, fun hflag => ?_⟩
      rw [hsame hflag]
      exact Assoc.insertOrAssign_of_lookup (lookup_tensor hitems)

theorem rewritten_preserved (h : rewriteConnections (rewriteBlocks root).1 = .ok (root', changed)) :
    GraphPreserved root root' where
  others key hblocks hconnections :=
    (rewriteConnections_others hconnections h).trans (rewriteBlocks_others hblocks root)
  blocks := by
    rw [rewriteConnections_others (by decide) h]
    exact rewriteBlocks_preserved root
  connections := by
    have hpreserved := (rewriteConnections_preserved h).1
    rwa [rewriteBlocks_others (by decide)] at hpreserved

/-- **Normalisation preserves the authored graph.** For every text that
parses to a graph, whenever normalisation without bindings returns: what it
returns denotes the transformed graph, which preserves the authored one; and
it is the text it was given only if the transformed graph is the authored
one. The writer is taken to be a right inverse of the reader. -/
theorem normalizeGraphContent_preserves (y : Yaml)
    (hyaml : ∀ m, y.deserialize (y.serialize m) = some m) (content text : Str)
    (root : PropertyMap) (hroot : y.deserialize content = some root)
    (h : normalizeGraphContent y content [] = .ok text) :
    ∃ root', transformedGraph root = .ok root' ∧ y.deserialize text = some root' ∧
      (text = content → root' = root) ∧ GraphPreserved root root' := by
  simp only [normalizeGraphContent, hroot] at h
  split at h
  · cases h
  rename_i rewired connectionsChanged hrewired
  simp only [injectStreamBindings, List.isEmpty_nil, if_true, Bool.or_false, Except.ok.injEq] at h
  have hdenotes : y.deserialize text = some rewired := by
    subst h
    split
    · exact hyaml rewired
    · rename_i hflags
      simp only [Bool.or_eq_true, not_or, Bool.not_eq_true] at hflags
      have hsame := (rewriteConnections_preserved hrewired).2 hflags.2
      rw [hroot, hsame, rewriteBlocks_same hflags.1]
  refine ⟨rewired, by simp [transformedGraph, hrewired, Except.map], hdenotes, ?_,
    rewritten_preserved hrewired⟩
  rintro rfl
  exact Option.some.inj (hdenotes.symm.trans hroot)

end Graph

/-! ## A graph in the legacy shape -/

def legacyBlock (name blockType : Str) : Value :=
  .map [(str "instance_name", .str name), (str "block_type", .str blockType),
    (str "enabled", .bool true), (str "raw_parameters", .map [])]

/-- mirrors test/gr4_runtime_manager_test.cpp:47-74 -/
def legacyGraph : PropertyMap :=
  [(str "graph_name", .str (str "legacy_null_source_to_sink")),
    (str "source_format", .str (str "grc")),
    (str "blocks", .tensor [legacyBlock (str "src0") (str "gr::testing::NullSource<float32>"),
      legacyBlock (str "sink0") (str "gr::testing::NullSink<float32>")]),
    (str "connections", .tensor [.map [(str "source_block", .str (str "src0")),
      (str "source_port_token", .str (str "out")), (str "dest_block", .str (str "sink0")),
      (str "dest_port_token", .str (str "in"))]])]

/-- mirrors test/gr4_runtime_manager_test.cpp:47-74 -/
def legacyText : Str :=
  str "\x7b\n" ++
    str "  \"graph_name\": \"legacy_null_source_to_sink\",\n" ++
    str "  \"source_format\": \"grc\",\n" ++
    str "  \"blocks\": [\n" ++
    str "    \x7b\n" ++
    str "      \"instance_name\": \"src0\",\n" ++
    str "      \"block_type\": \"gr::testing::NullSource<float32>\",\n" ++
    str "      \"enabled\": true,\n" ++
    str "      \"raw_parameters\": \x7b\x7d\n" ++
    str "    \x7d,\n" ++
    str "    \x7b\n" ++
    str "      \"instance_name\": \"sink0\",\n" ++
    str "      \"block_type\": \"gr::testing::NullSink<float32>\",\n" ++
    str "      \"enabled\": true,\n" ++
    str "      \"raw_parameters\": \x7b\x7d\n" ++
    str "    \x7d\n" ++
    str "  ],\n" ++
    str "  \"connections\": [\n" ++
    str "    \x7b\n" ++
    str "      \"source_block\": \"src0\",\n" ++
    str "      \"source_port_token\": \"out\",\n" ++
    str "      \"dest_block\": \"sink0\",\n" ++
    str "      \"dest_port_token\": \"in\"\n" ++
    str "    \x7d\n" ++
    str "  ]\n" ++
    str "\x7d"

theorem legacyGraph_preserved :
    ∃ text root', transformedGraph legacyGraph = .ok root' ∧
      (readingBack legacyText legacyGraph).deserialize text = some root' ∧
      (text = legacyText → root' = legacyGraph) ∧ GraphPreserved legacyGraph root' := by
  have hroot := readingBack_reads legacyText legacyGraph
  have hyaml := readingBack_lawful (show chr 'l' ∈ legacyText by decide +kernel) (by decide) legacyGraph
  obtain ⟨rewired, hrewired⟩ : ∃ result, rewriteConnections (rewriteBlocks legacyGraph).1 = .ok result :=
    ⟨_, rfl⟩
  obtain ⟨text, htext⟩ :
      ∃ text, normalizeGraphContent (readingBack legacyText legacyGraph) legacyText [] = .ok text := by
    simp only [normalizeGraphContent, hroot, hrewired, injectStreamBindings, List.isEmpty_nil,
      if_true]
    exact ⟨_, rfl⟩
  exact ⟨text, normalizeGraphContent_preserves _ hyaml legacyText text legacyGraph hroot htext⟩

end Gr4cp.Runtime

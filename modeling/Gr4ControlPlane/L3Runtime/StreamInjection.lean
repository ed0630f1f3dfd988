import Mathlib.Data.List.Basic
import Gr4ControlPlane.L3Runtime.BlockNames

/-!
# Stream endpoints in the loaded graph

What `normalizeGraphContent` makes of the blocks of a session's graph: each
block rewritten, and given the endpoint of the first binding with its
runtime name. The loops of the source carry flags and a set of ids along;
here they are maps over the blocks.

* `normalizeGraphContent_ok_iff`: it throws when a port number does not fit
  in `int64` or when some binding found no block.
* `graphBlocks_of_ok`: the blocks of the graph it returns.
-/
namespace Gr4cp.Runtime

open Gr4cp.Core Gr4cp.Domain

/-! ## Ports -/

/-- The port tokens that are rewritten in a connection. -/
def portTokens (connection : Value) : List Str :=
  match getTensor connection with
  | some sequence =>
    if sequence.length < 4 then []
    else [sequence[1]?, sequence[3]?].filterMap fun item => item.bind valueToString
  | none =>
    match getMap connection with
    | some map =>
      match parameterString map (str "source_block"), parameterString map (str "source_port_token"),
        parameterString map (str "dest_block"), parameterString map (str "dest_port_token") with
      | some _, some sourcePort, some _, some destPort => [sourcePort, destPort]
      | _, _, _, _ => []
    | none => []

/-- The number in a token, if there is one, fits in `int64`. -/
def PortFits (token : Str) : Prop := ∀ digits, portDigits token = some digits → decimal digits < 2 ^ 63

theorem normalizePort_ok_iff (token : Str) :
    (∃ port, normalizePort token = .ok port) ↔ PortFits token := by
  unfold normalizePort PortFits
  split
  · rename_i h
    obtain rfl | rfl := h
    · exact ⟨fun _ digits h => absurd h (by simp [show portDigits (str "in") = none by decide]),
        fun _ => ⟨_, rfl⟩⟩
    · exact ⟨fun _ digits h => absurd h (by simp [show portDigits (str "out") = none by decide]),
        fun _ => ⟨_, rfl⟩⟩
  · cases portDigits token with
    | none => simp
    | some digits =>
      simp only [stoll, Option.some.injEq, forall_eq']
      split <;> simp_all [Except.map]

theorem normalizeAt_ok_iff (index : Nat) (sequence : List Value) :
    (∃ result, normalizeAt index sequence = .ok result) ↔
      ∀ token, (sequence[index]?).bind valueToString = some token → PortFits token := by
  unfold normalizeAt
  cases (sequence[index]?).bind valueToString with
  | none => simp
  | some token =>
    simp only [Option.some.injEq, forall_eq', ← normalizePort_ok_iff]
    cases normalizePort token <;> simp

/-- One place is written, at most. -/
theorem normalizeAt_cases {index : Nat} {sequence sequence' : List Value} {changed : Bool}
    (h : normalizeAt index sequence = .ok (sequence', changed)) :
    sequence' = sequence ∨ ∃ port, sequence' = sequence.set index port := by
  unfold normalizeAt at h
  split at h
  · cases h
    exact .inl rfl
  · split at h
    · cases h
    · cases h
      exact .inr ⟨_, rfl⟩

theorem normalizeAt_other {index j : Nat} {sequence sequence' : List Value} {changed : Bool}
    (hne : index ≠ j) (h : normalizeAt index sequence = .ok (sequence', changed)) :
    sequence'[j]? = sequence[j]? := by
  obtain rfl | ⟨port, rfl⟩ := normalizeAt_cases h
  · rfl
  · exact List.getElem?_set_ne hne

theorem normalizeMap_ok_iff (connection : Value) (map : PropertyMap) :
    (∃ result, normalizeConnectionMap connection map = .ok result) ↔
      ∀ token ∈ portTokens (.map map), PortFits token := by
  simp only [normalizeConnectionMap, portTokens, getTensor, getMap]
  generalize parameterString map (str "source_block") = source
  generalize parameterString map (str "source_port_token") = sourcePort
  generalize parameterString map (str "dest_block") = dest
  generalize parameterString map (str "dest_port_token") = destPort
  cases source with
  | none => simp
  | some source =>
    cases sourcePort with
    | none => simp
    | some sourcePort =>
      cases dest with
      | none => simp
      | some dest =>
        cases destPort with
        | none => simp
        | some destPort =>
          simp only [List.mem_cons, List.not_mem_nil, or_false, forall_eq_or_imp, forall_eq,
            ← normalizePort_ok_iff]
          cases normalizePort sourcePort with
          | error e => simp
          | ok source => cases normalizePort destPort <;> simp

theorem normalizeConnection_ok_iff (connection : Value) :
    (∃ result, normalizeConnection connection = .ok result) ↔
      ∀ token ∈ portTokens connection, PortFits token := by
  cases connection with
  | tensor sequence =>
    simp only [normalizeConnection, portTokens, getTensor]
    split
    · simp
    have hmem : ∀ token, token ∈ [sequence[1]?, sequence[3]?].filterMap
        (fun item => item.bind valueToString) ↔
        (sequence[1]?).bind valueToString = some token ∨
          (sequence[3]?).bind valueToString = some token := by
      intro token
      simp [List.mem_filterMap]
    simp only [hmem, or_imp, forall_and, ← normalizeAt_ok_iff]
    cases hfirst : normalizeAt 1 sequence with
    | error e => simp
    | ok result =>
      obtain ⟨sequence', changed⟩ := result
      have hthird := normalizeAt_ok_iff 3 sequence'
      rw [normalizeAt_other (by decide) hfirst, ← normalizeAt_ok_iff] at hthird
      rw [← hthird]
      dsimp only
      cases normalizeAt 3 sequence' <;> simp
  | map map => exact normalizeMap_ok_iff _ map
  | _ => simp [normalizeConnection, portTokens, getTensor, getMap]

theorem normalizeConnections_ok_iff (connections : List Value) :
    (∃ result, normalizeConnections connections = .ok result) ↔
      ∀ connection ∈ connections, ∀ token ∈ portTokens connection, PortFits token := by
  induction connections with
  | nil => simp [normalizeConnections]
  | cons connection rest ih =>
    rw [List.forall_mem_cons, ← ih, ← normalizeConnection_ok_iff, normalizeConnections]
    cases normalizeConnection connection with
    | error e => simp
    | ok result =>
      dsimp only
      cases normalizeConnections rest <;> simp

/-! ## The two loops over the blocks -/

/-- A block rewritten; other values are left as they are. -/
def normalizeValue (v : Value) : Value :=
  match getMap v with
  | some block => .map (normalizeBlock block)
  | none => v

theorem normalizeBlocks_fst (blocks : List Value) :
    (normalizeBlocks blocks).1 = blocks.map normalizeValue := by
  induction blocks with
  | nil => rfl
  | cons v rest ih =>
    simp only [normalizeBlocks, List.map_cons, ← ih, normalizeValue]
    cases getMap v <;> rfl

/-- Unless it says that something changed, nothing did. -/
theorem normalizeBlocks_unchanged {blocks : List Value} (h : (normalizeBlocks blocks).2 = false) :
    blocks.map normalizeValue = blocks := by
  induction blocks with
  | nil => rfl
  | cons v rest ih =>
    simp only [normalizeBlocks] at h
    cases hv : getMap v with
    | none =>
      simp only [hv] at h
      simp [normalizeValue, hv, ih h]
    | some block =>
      simp only [hv, Bool.or_eq_false_iff, decide_eq_false_iff_not, not_not] at h
      have hmap : v = .map block := by
        cases v <;> simp_all [getMap]
      subst hmap
      simp [normalizeValue, getMap, h.1, ih h.2]

section Inject

variable (bindings : List RuntimeStreamBinding)

/-- The binding a value of the `blocks` tensor is given. -/
def bindingOf (v : Value) : Option RuntimeStreamBinding := (getMap v).bind (bindingFor bindings)

/-- The value after the injection. -/
def injectValue (v : Value) : Value :=
  match getMap v, bindingOf bindings v with
  | some block, some binding => .map (withEndpoint block binding.internal.endpoint)
  | _, _ => v

/-- The ids of the streams whose bindings were given out. -/
def injectedIds (blocks : List Value) : List Str :=
  blocks.filterMap fun v => (bindingOf bindings v).map (·.plan.streamId)

theorem injectLoop_eq (blocks : List Value) (injected : List Str) :
    injectLoop bindings blocks injected =
      (blocks.map (injectValue bindings),
        (injectedIds bindings blocks).foldl (fun ids id => setInsert id ids) injected) := by
  induction blocks generalizing injected with
  | nil => rfl
  | cons v rest ih =>
    simp only [injectLoop, List.map_cons, injectedIds, List.filterMap_cons, injectValue, bindingOf]
    cases hmap : getMap v with
    | none => simp [ih, injectedIds, bindingOf]
    | some block =>
      simp only [Option.bind_some]
      cases bindingFor bindings block with
      | none => simp [ih, injectedIds, bindingOf]
      | some binding => simp [ih, injectedIds, bindingOf]

end Inject

/-- The set of ids the loop ends with. -/
theorem foldl_setInsert (ids start : List Str) :
    (start.Nodup → (ids.foldl (fun ids id => setInsert id ids) start).Nodup) ∧
      ∀ id, id ∈ ids.foldl (fun ids id => setInsert id ids) start ↔ id ∈ start ∨ id ∈ ids := by
  induction ids generalizing start with
  | nil => simp
  | cons x ids ih =>
    obtain ⟨hnodup, hmem⟩ := ih (setInsert x start)
    have hinsert : ∀ id, id ∈ setInsert x start ↔ id ∈ start ∨ id = x := by
      intro id
      unfold setInsert
      split
      · rename_i h
        have hx : x ∈ start := by simpa using h
        exact ⟨.inl, fun h => h.elim (fun h => h) fun h => h ▸ hx⟩
      · simp
    refine ⟨fun h => hnodup ?_, fun id => ?_⟩
    · unfold setInsert
      split
      · exact h
      · rename_i hcontains
        have hx : x ∉ start := by simpa using hcontains
        refine List.nodup_append.2 ⟨h, by simp, fun a ha b hb => ?_⟩
        obtain rfl := List.mem_singleton.1 hb
        exact fun he => hx (he ▸ ha)
    · simp only [List.foldl_cons, hmem, hinsert, List.mem_cons, or_assoc]

/-! ## The whole graph -/

/-- The values of the `blocks` tensor a text parses to. -/
def graphBlocks (y : Yaml) (content : Str) : List Value :=
  ((y.deserialize content).bind blocksOf).getD []

/-- The `connections` tensor of a parsed graph, if it has one. -/
def connectionsOf (root : PropertyMap) : Option (List Value) :=
  (root.lookup (str "connections")).bind getTensor

def graphConnections (y : Yaml) (content : Str) : List Value :=
  ((y.deserialize content).bind connectionsOf).getD []

/-- How many streams get an endpoint. -/
def injectedCount (bindings : List RuntimeStreamBinding) (blocks : List Value) : Nat :=
  ((injectedIds bindings blocks).foldl (fun ids id => setInsert id ids) []).length

section Graph

variable {bindings : List RuntimeStreamBinding} {root root' : PropertyMap} {changed : Bool}

theorem blocksOf_rewriteBlocks (root : PropertyMap) :
    blocksOf (rewriteBlocks root).1 = (blocksOf root).map (List.map normalizeValue) := by
  simp only [rewriteBlocks, blocksOf]
  cases h : (root.lookup (str "blocks")).bind getTensor with
  | none => simp [h]
  | some blocks => simp [getTensor, normalizeBlocks_fst]

theorem rewriteBlocks_unchanged (h : (rewriteBlocks root).2 = false) :
    (blocksOf root).map (List.map normalizeValue) = blocksOf root := by
  simp only [rewriteBlocks] at h
  simp only [blocksOf]
  cases hblocks : (root.lookup (str "blocks")).bind getTensor with
  | none => rfl
  | some blocks =>
    simp only [hblocks] at h
    simp [normalizeBlocks_unchanged h]

theorem connectionsOf_rewriteBlocks (root : PropertyMap) :
    connectionsOf (rewriteBlocks root).1 = connectionsOf root := by
  simp only [rewriteBlocks]
  split
  · rw [connectionsOf, Assoc.lookup_insertOrAssign_of_ne (by decide), connectionsOf]
  · rfl

theorem blocksOf_rewriteConnections (h : rewriteConnections root = .ok (root', changed)) :
    blocksOf root' = blocksOf root := by
  simp only [rewriteConnections] at h
  split at h
  · split at h
    · cases h
    · cases h
      rw [blocksOf, Assoc.lookup_insertOrAssign_of_ne (by decide), blocksOf]
  · cases h
    rfl

theorem rewriteConnections_ok_iff (root : PropertyMap) :
    (∃ result, rewriteConnections root = .ok result) ↔
      ∀ connection ∈ (connectionsOf root).getD [], ∀ token ∈ portTokens connection,
        PortFits token := by
  simp only [rewriteConnections, connectionsOf]
  cases (root.lookup (str "connections")).bind getTensor with
  | none => simp
  | some connections =>
    rw [Option.getD_some, ← normalizeConnections_ok_iff]
    dsimp only
    cases normalizeConnections connections <;> simp

theorem bindingOf_nil (v : Value) : bindingOf [] v = none := by
  unfold bindingOf bindingFor
  cases getMap v with
  | none => rfl
  | some block => simp

theorem injectValue_nil (v : Value) : injectValue [] v = v := by
  simp only [injectValue, bindingOf_nil]
  cases getMap v <;> rfl

theorem injectedCount_nil (blocks : List Value) : injectedCount [] blocks = 0 := by
  simp [injectedCount, injectedIds, bindingOf_nil]

theorem injectStreamBindings_ok_iff (root : PropertyMap) (bindings : List RuntimeStreamBinding) :
    (∃ result, injectStreamBindings root bindings = .ok result) ↔
      ∀ blocks, blocksOf root = some blocks → injectedCount bindings blocks = bindings.length := by
  simp only [injectStreamBindings]
  cases bindings with
  | nil => simp [injectedCount_nil]
  | cons binding bindings =>
    simp only [List.isEmpty_cons, Bool.false_eq_true, if_false, blocksOf]
    cases (root.lookup (str "blocks")).bind getTensor with
    | none => simp
    | some blocks =>
      simp only [injectLoop_eq, injectedCount, Option.some.injEq, forall_eq']
      split <;> simp_all

/-- The blocks after the injection; unless it says that it changed something,
they are the same. -/
theorem injectStreamBindings_blocks (h : injectStreamBindings root bindings = .ok (root', changed)) :
    blocksOf root' = (blocksOf root).map (List.map (injectValue bindings)) ∧
      (changed = false → blocksOf root' = blocksOf root) := by
  simp only [injectStreamBindings] at h
  split at h
  · rename_i hempty
    obtain rfl := List.isEmpty_iff.1 hempty
    cases h
    have hid : injectValue [] = id := funext injectValue_nil
    simp [hid]
  rename_i hne
  split at h
  · rename_i hblocks
    cases h
    simp [blocksOf, hblocks]
  rename_i blocks hblocks
  split at h
  · cases h
  rename_i hcount
  obtain ⟨rfl, rfl⟩ := Prod.mk.inj (Except.ok.inj h)
  refine ⟨by simp [blocksOf, hblocks, injectLoop_eq, getTensor], fun hunchanged => ?_⟩
  -- every binding found a block, so with no block changed there is no binding
  simp only [Bool.not_eq_false', List.isEmpty_iff] at hunchanged
  rw [hunchanged] at hcount
  simp only [List.length_nil, ne_eq, not_not] at hcount
  exact absurd (List.isEmpty_iff.2 (List.length_eq_zero_iff.1 hcount.symm)) hne

theorem normalizeGraphContent_ok_iff (y : Yaml) (content : Str)
    (bindings : List RuntimeStreamBinding) :
    (∃ text, normalizeGraphContent y content bindings = .ok text) ↔
      (∀ connection ∈ graphConnections y content, ∀ token ∈ portTokens connection,
        PortFits token) ∧
      ∀ root, y.deserialize content = some root → ∀ blocks, blocksOf root = some blocks →
        injectedCount bindings (blocks.map normalizeValue) = bindings.length := by
  simp only [normalizeGraphContent, graphConnections]
  cases y.deserialize content with
  | none => simp
  | some root =>
    have hports := rewriteConnections_ok_iff (rewriteBlocks root).1
    rw [connectionsOf_rewriteBlocks] at hports
    simp only [Option.bind_some, ← hports, Option.some.injEq, forall_eq']
    cases hrewired : rewriteConnections (rewriteBlocks root).1 with
    | error e => simp
    | ok result =>
      obtain ⟨rewired, connectionsChanged⟩ := result
      have hinject := injectStreamBindings_ok_iff rewired bindings
      rw [blocksOf_rewriteConnections hrewired, blocksOf_rewriteBlocks] at hinject
      simp only [Option.map_eq_some_iff, forall_exists_index, and_imp] at hinject
      have hcount : (∀ blocks, blocksOf root = some blocks →
          injectedCount bindings (blocks.map normalizeValue) = bindings.length) ↔
          ∃ result, injectStreamBindings rewired bindings = .ok result := by
        rw [hinject]
        exact ⟨fun h _ blocks hblocks heq => heq ▸ h blocks hblocks,
          fun h blocks hblocks => h _ blocks hblocks rfl⟩
      rw [hcount]
      dsimp only
      cases injectStreamBindings rewired bindings <;> simp

/-- **The blocks the importer is given.** -/
theorem graphBlocks_of_ok {y : Yaml} (hyaml : ∀ m, y.deserialize (y.serialize m) = some m)
    {content text : Str} (h : normalizeGraphContent y content bindings = .ok text) :
    graphBlocks y text =
      (graphBlocks y content).map fun v => injectValue bindings (normalizeValue v) := by
  simp only [normalizeGraphContent] at h
  split at h
  · rename_i hroot
    cases h
    simp [graphBlocks, hroot]
  rename_i root hroot
  split at h
  · cases h
  rename_i rewired connectionsChanged hrewired
  split at h
  · cases h
  rename_i injected endpointsChanged hinjected
  have hblocks := injectStreamBindings_blocks hinjected
  rw [blocksOf_rewriteConnections hrewired, blocksOf_rewriteBlocks] at hblocks
  obtain rfl := Except.ok.inj h
  split
  · simp only [graphBlocks, hyaml, hroot, Option.bind_some, hblocks.1]
    cases blocksOf root <;> simp
  · rename_i hunchanged
    simp only [Bool.or_eq_true, not_or, Bool.not_eq_true] at hunchanged
    have hsame := hblocks.1.symm.trans (hblocks.2 hunchanged.2)
    simp only [graphBlocks, hroot, Option.bind_some]
    rw [rewriteBlocks_unchanged hunchanged.1.1] at hsame
    have hnormal := rewriteBlocks_unchanged hunchanged.1.1
    cases hroot' : blocksOf root with
    | none => rfl
    | some blocks =>
      simp only [hroot', Option.map_some, Option.some.injEq] at hsame hnormal
      simp only [Option.getD_some]
      rw [← Function.comp_def, ← List.map_map, hnormal, hsame]

end Graph

end Gr4cp.Runtime

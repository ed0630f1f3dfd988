import Mathlib.Algebra.Group.Nat.Defs
import Gr4ControlPlane.L1Domain.SessionStream

/-!
# The authored graph as the runtime loads it (`runtime/gr4_runtime_manager.cpp`)

Before a graph is handed to the GNU Radio importer its blocks are rewritten
into the importer's shape (`normalizeBlock`), its connections into tensors
with numeric ports (`normalizeConnection`), and the endpoints of the
session's stream bindings are written into the blocks they belong to
(`injectStreamBindings`).

A throw carries an `Exn`: what the handlers of the source tell apart is
whether a `std::exception` was thrown, and its text. The importer's `name`
parameter is written by `normalizeBlock` and read back by
`injectStreamBindings`; `L3Runtime.BlockNames` compares it with the
name the domain layer derives.
-/
namespace Gr4cp.Runtime

open Gr4cp.Core Gr4cp.Domain

/-- A thrown exception: `std::exception` with its `what()`, or anything else. -/
inductive Exn where
  | std (what : Str)
  | other
  deriving DecidableEq, Repr

/-! ## Blocks -/

/-- The string under `key`, if it is there and not empty. -/
def nonEmptyString (block : PropertyMap) (key : Str) : Option Str :=
  (parameterString block key).filter (!·.isEmpty)

/-- `block["id"]`, taken from `block`, else from `block_type` when there is
no `id`.
mirrors src/runtime/gr4_runtime_manager.cpp:400-412 -/
def assignBlockId (block : PropertyMap) : PropertyMap :=
  let block :=
    match nonEmptyString block (str "block") with
    | some blockType => Assoc.insertOrAssign (str "id") (.str blockType) block
    | none => block
  if Assoc.contains block (str "id") then block
  else
    match nonEmptyString block (str "block_type") with
    | some blockType => Assoc.insertOrAssign (str "id") (.str blockType) block
    | none => block

/-- The first candidate key of the block that holds a string that is not
empty. -/
def firstName (block : PropertyMap) : List Str → Option Str
  | [] => none
  | candidate :: rest =>
    match nonEmptyString block candidate with
    | some name => some name
    | none => firstName block rest

/-- `parameters["name"]`, when the parameters have none: the studio node id,
else a name from the block.
mirrors src/runtime/gr4_runtime_manager.cpp:434-453 -/
def assignName (studioNodeId : Option Str) (block parameters : PropertyMap) : PropertyMap :=
  let parameters :=
    if Assoc.contains parameters (str "name") then parameters
    else
      match studioNodeId.filter (!·.isEmpty) with
      | some id => Assoc.insertOrAssign (str "name") (.str id) parameters
      | none => parameters
  if Assoc.contains parameters (str "name") then parameters
  else
    match firstName block [str "instance_name", str "name"] with
    | some name => Assoc.insertOrAssign (str "name") (.str name) parameters
    | none => parameters

/-- `needs_parameters_write` is left out: it is set only where a key is
added, and the parameters are not empty then.
mirrors src/runtime/gr4_runtime_manager.cpp:394-458 -/
def normalizeBlock (block : PropertyMap) : PropertyMap :=
  let studioNodeId := parameterString block (str "id")
  let block := assignBlockId block
  let parameters := assignName studioNodeId block (mergedParameters block)
  if parameters.isEmpty then block
  else Assoc.insertOrAssign (str "parameters") (.map parameters) block

/-- The loop over the blocks: the blocks rewritten, and whether any changed.
mirrors src/runtime/gr4_runtime_manager.cpp:594-600 -/
def normalizeBlocks : List Value → List Value × Bool
  | [] => ([], false)
  | blockValue :: rest =>
    let (rest', changed) := normalizeBlocks rest
    match getMap blockValue with
    | some block =>
      (.map (normalizeBlock block) :: rest', decide (normalizeBlock block ≠ block) || changed)
    | none => (blockValue :: rest', changed)

/-! ## Connections -/

/-- `std::isdigit`. -/
def isDigit (c : UInt8) : Bool := decide (chr '0' ≤ c) && decide (c ≤ chr '9')

/-- Not empty, and digits only. -/
def allDigits (s : Str) : Bool := !s.isEmpty && s.all isDigit

/-- The number a string of digits denotes. -/
def decimal (s : Str) : Nat := s.foldl (fun n c => 10 * n + (c.toNat - (chr '0').toNat)) 0

/-- `std::stoll` of a string of digits: `std::out_of_range` beyond `int64`. -/
def stoll (s : Str) : Except Exn Int64 :=
  if decimal s < 2 ^ 63 then .ok (Int64.ofNat (decimal s)) else .error (.std (str "stoll"))

/-- `token.substr(token.rfind('t') + 1)`; without a `t` this is the whole
token, since `npos + 1` is 0. -/
def afterLastT (token : Str) : Str := (token.reverse.takeWhile (· ≠ chr 't')).reverse

/-- The digits of a port token, when it is a number or ends in one.
mirrors the tests of src/runtime/gr4_runtime_manager.cpp:465-473 -/
def portDigits (token : Str) : Option Str :=
  if allDigits token then some token
  else if 2 < token.length && ((str "in").isPrefixOf token || (str "out").isPrefixOf token) &&
      allDigits (afterLastT token) then some (afterLastT token)
  else none

/-- mirrors src/runtime/gr4_runtime_manager.cpp:461-475 -/
def normalizePort (token : Str) : Except Exn Value :=
  if token = str "in" ∨ token = str "out" then .ok (.int 0)
  else
    match portDigits token with
    | some digits => (stoll digits).map .int
    | none => .ok (.str token)

/-- One port of a connection written as a tensor.
mirrors src/runtime/gr4_runtime_manager.cpp:477-489 -/
def normalizeAt (index : Nat) (sequence : List Value) : Except Exn (List Value × Bool) :=
  match (sequence[index]?).bind valueToString with
  | none => .ok (sequence, false)
  | some token =>
    match normalizePort token with
    | .error e => .error e
    | .ok normalized => .ok (sequence.set index normalized, decide (normalized ≠ .str token))

/-- A connection written as a map with its four strings.
mirrors src/runtime/gr4_runtime_manager.cpp:491-519 -/
def normalizeConnectionMap (connection : Value) (map : PropertyMap) : Except Exn (Value × Bool) :=
  match parameterString map (str "source_block"), parameterString map (str "source_port_token"),
    parameterString map (str "dest_block"), parameterString map (str "dest_port_token") with
  | some sourceBlock, some sourcePort, some destBlock, some destPort =>
    match normalizePort sourcePort with
    | .error e => .error e
    | .ok source =>
      match normalizePort destPort with
      | .error e => .error e
      | .ok dest => .ok (.tensor [.str sourceBlock, source, .str destBlock, dest], true)
  | _, _, _, _ => .ok (connection, false)

/-- mirrors src/runtime/gr4_runtime_manager.cpp:460-520 -/
def normalizeConnection (connection : Value) : Except Exn (Value × Bool) :=
  match getTensor connection with
  | some sequence =>
    if sequence.length < 4 then .ok (connection, false)
    else
      match normalizeAt 1 sequence with
      | .error e => .error e
      | .ok (sequence, changed) =>
        match normalizeAt 3 sequence with
        | .error e => .error e
        | .ok (sequence, changed') => .ok (.tensor sequence, changed || changed')
  | none =>
    match getMap connection with
    | some map => normalizeConnectionMap connection map
    | none => .ok (connection, false)

/-- mirrors src/runtime/gr4_runtime_manager.cpp:606-608 -/
def normalizeConnections : List Value → Except Exn (List Value × Bool)
  | [] => .ok ([], false)
  | connection :: rest =>
    match normalizeConnection connection with
    | .error e => .error e
    | .ok (connection', changed) =>
      match normalizeConnections rest with
      | .error e => .error e
      | .ok (rest', changed') => .ok (connection' :: rest', changed || changed')

/-! ## Stream endpoints -/

/-- The name under which the runtime looks for a block's binding.
mirrors src/runtime/gr4_runtime_manager.cpp:544-562 -/
def injectionName (block : PropertyMap) : Option Str :=
  let name := parameterString (mapAt block (str "parameters")) (str "name")
  if absentOrEmpty name then
    match block.lookup (str "instance_name") with
    | some value => valueToString value
    | none => name
  else name

/-- `parameters["endpoint"] = endpoint; block["parameters"] = parameters` -/
def withEndpoint (block : PropertyMap) (endpoint : Str) : PropertyMap :=
  Assoc.insertOrAssign (str "parameters")
    (.map (Assoc.insertOrAssign (str "endpoint") (.str endpoint)
      (mapAt block (str "parameters")))) block

/-- The first binding with the block's name, if the block has one. -/
def bindingFor (bindings : List RuntimeStreamBinding) (block : PropertyMap) :
    Option RuntimeStreamBinding :=
  let name := injectionName block
  if absentOrEmpty name then none
  else bindings.find? fun binding => some binding.plan.blockInstanceName == name

/-- `std::set::insert` -/
def setInsert (x : Str) (xs : List Str) : List Str := if xs.contains x then xs else xs ++ [x]

/-- The loop over the blocks: the blocks with their endpoints, and the ids of
the streams injected so far.
mirrors src/runtime/gr4_runtime_manager.cpp:537-574 -/
def injectLoop (bindings : List RuntimeStreamBinding) :
    List Value → List Str → List Value × List Str
  | [], injected => ([], injected)
  | blockValue :: rest, injected =>
    match getMap blockValue with
    | none =>
      let (rest', injected') := injectLoop bindings rest injected
      (blockValue :: rest', injected')
    | some block =>
      match bindingFor bindings block with
      | none =>
        let (rest', injected') := injectLoop bindings rest injected
        (blockValue :: rest', injected')
      | some binding =>
        let (rest', injected') :=
          injectLoop bindings rest (setInsert binding.plan.streamId injected)
        (.map (withEndpoint block binding.internal.endpoint) :: rest', injected')

/-- `changed` is that some block was injected, i.e. that some id was.
mirrors src/runtime/gr4_runtime_manager.cpp:522-581 -/
def injectStreamBindings (root : PropertyMap) (bindings : List RuntimeStreamBinding) :
    Except Exn (PropertyMap × Bool) :=
  if bindings.isEmpty then .ok (root, false)
  else
    match (root.lookup (str "blocks")).bind getTensor with
    | none => .ok (root, false)
    | some blocks =>
      let (blocks', injected) := injectLoop bindings blocks []
      if injected.length ≠ bindings.length then
        .error (.std (str "failed to inject all managed stream bindings into runtime graph"))
      else .ok (Assoc.insertOrAssign (str "blocks") (.tensor blocks') root, !injected.isEmpty)

/-! ## The whole graph -/

/-- The blocks of the graph rewritten in place, if it has any.
mirrors src/runtime/gr4_runtime_manager.cpp:592-602 -/
def rewriteBlocks (root : PropertyMap) : PropertyMap × Bool :=
  match (root.lookup (str "blocks")).bind getTensor with
  | some blocks =>
    (Assoc.insertOrAssign (str "blocks") (.tensor (normalizeBlocks blocks).1) root,
      (normalizeBlocks blocks).2)
  | none => (root, false)

/-- The connections of the graph rewritten in place, if it has any.
mirrors src/runtime/gr4_runtime_manager.cpp:604-610 -/
def rewriteConnections (root : PropertyMap) : Except Exn (PropertyMap × Bool) :=
  match (root.lookup (str "connections")).bind getTensor with
  | some connections =>
    match normalizeConnections connections with
    | .error e => .error e
    | .ok (connections', changed) =>
      .ok (Assoc.insertOrAssign (str "connections") (.tensor connections') root, changed)
  | none => .ok (root, false)

/-- mirrors src/runtime/gr4_runtime_manager.cpp:583-615 -/
def normalizeGraphContent (y : Yaml) (content : Str) (bindings : List RuntimeStreamBinding) :
    Except Exn Str :=
  match y.deserialize content with
  | none => .ok content
  | some root =>
    match rewriteConnections (rewriteBlocks root).1 with
    | .error e => .error e
    | .ok (rewired, connectionsChanged) =>
      match injectStreamBindings rewired bindings with
      | .error e => .error e
      | .ok (injected, endpointsChanged) =>
        .ok (if (rewriteBlocks root).2 || connectionsChanged || endpointsChanged then
          y.serialize injected else content)

/-! ## What normalisation throws -/

section Throws

theorem normalizePort_throws (token : Str) : normalizePort token ≠ .error .other := by
  unfold normalizePort
  split
  · simp
  · split
    · unfold stoll
      split <;> simp [Except.map]
    · simp

theorem normalizeAt_throws (index : Nat) (sequence : List Value) :
    normalizeAt index sequence ≠ .error .other := by
  unfold normalizeAt
  split
  · simp
  · rename_i token _
    have := normalizePort_throws token
    split <;> simp_all

theorem normalizeConnection_throws (connection : Value) :
    normalizeConnection connection ≠ .error .other := by
  unfold normalizeConnection
  split
  · rename_i sequence _
    split
    · simp
    · have h₁ := normalizeAt_throws 1 sequence
      split
      · simp_all
      · rename_i sequence' _ _
        have h₃ := normalizeAt_throws 3 sequence'
        split <;> simp_all
  · split
    · unfold normalizeConnectionMap
      split
      · rename_i source _ dest _ _ _ _
        have hs := normalizePort_throws source
        split
        · simp_all
        · rename_i dest _ _ _ _ _ _ _
          have hd := normalizePort_throws dest
          split <;> simp_all
      · simp
    · simp

theorem normalizeConnections_throws (connections : List Value) :
    normalizeConnections connections ≠ .error .other := by
  induction connections with
  | nil => simp [normalizeConnections]
  | cons connection rest ih =>
    unfold normalizeConnections
    have h := normalizeConnection_throws connection
    split
    · simp_all
    · split <;> simp_all

theorem injectStreamBindings_throws (root : PropertyMap) (bindings : List RuntimeStreamBinding) :
    injectStreamBindings root bindings ≠ .error .other := by
  unfold injectStreamBindings
  split
  · simp
  · split
    · simp
    · simp only
      split <;> simp

theorem rewriteConnections_throws (root : PropertyMap) :
    rewriteConnections root ≠ .error .other := by
  unfold rewriteConnections
  split
  · rename_i connections _
    have h := normalizeConnections_throws connections
    split <;> simp_all
  · simp

/-- Rewriting a graph throws `std::exception`s only. -/
theorem normalizeGraphContent_throws (y : Yaml) (content : Str)
    (bindings : List RuntimeStreamBinding) :
    normalizeGraphContent y content bindings ≠ .error .other := by
  unfold normalizeGraphContent
  split
  · simp
  · rename_i root _
    have hc := rewriteConnections_throws (rewriteBlocks root).1
    split
    · simp_all
    · rename_i rewired _ _
      have hi := injectStreamBindings_throws rewired bindings
      split <;> simp_all

end Throws

end Gr4cp.Runtime

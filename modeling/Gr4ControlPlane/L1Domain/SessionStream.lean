import Gr4ControlPlane.L1Domain.Session
import Gr4ControlPlane.L1Domain.Pmt

/-!
# Managed streams of a session (`domain/session_stream.cpp`)

A block of the authored graph declares a managed stream by metadata in its
parameters, nested under `stream` or flattened. `validateStreamRuntimeContract`
walks the blocks and returns the first contract error;
`deriveStreamRuntimePlan` walks them again, with a loop and a seen-id set of
its own, and builds the plan. Both loops are here as the source has them;
`L1Domain.StreamContract` relates them.

The seen-id set is a list used as a set. `validateStreamBlock` returns the
error, or the set with the id inserted.
-/
namespace Gr4cp.Domain

open Gr4cp.Core

/-- mirrors src/domain/session_stream.cpp:31-38 -/
def supportedTransports : List Str := [str "http_snapshot", str "http_poll", str "websocket"]

/-- mirrors src/domain/session_stream.cpp:40-42 -/
def transportSupported (transport : Str) : Bool := supportedTransports.contains transport

/-- mirrors src/domain/session_stream.cpp:44-46 (the overload with two arguments) -/
def makeStreamHttpPath (sessionId streamId : Str) : Str :=
  str "/sessions/" ++ sessionId ++ str "/streams/" ++ streamId ++ str "/http"

/-- mirrors src/domain/session_stream.cpp:48-53 -/
def makeStreamPath (sessionId streamId transport : Str) : Str :=
  if transport = str "websocket" then
    str "/sessions/" ++ sessionId ++ str "/streams/" ++ streamId ++ str "/ws"
  else makeStreamHttpPath sessionId streamId

/-- mirrors src/domain/session_stream.cpp:55-60 -/
structure AuthoredStreamIntent where
  declared : Bool
  streamId : Option Str
  transport : Option Str
  payloadFormat : Option Str
  deriving DecidableEq, Repr

/-- mirrors src/domain/session_stream.cpp:62-66 -/
structure NormalizedBlock where
  blockTypeId : Str
  instanceName : Str
  stream : AuthoredStreamIntent
  deriving DecidableEq, Repr

/-- `find(key)` and `value_to_string`.
mirrors src/domain/session_stream.cpp:75-81 -/
def parameterString (parameters : PropertyMap) (key : Str) : Option Str :=
  (parameters.lookup key).bind valueToString

/-- mirrors src/domain/session_stream.cpp:83-101 -/
def normalizeStreamIntent (parameters : PropertyMap) : AuthoredStreamIntent :=
  match parameters.lookup (str "stream") with
  | some value =>
    match getMap value with
    | some stream =>
      { declared := true
        streamId := parameterString stream (str "id")
        transport := parameterString stream (str "transport")
        payloadFormat := parameterString stream (str "payload_format") }
    | none => { declared := true, streamId := none, transport := none, payloadFormat := none }
  | none =>
    let streamId := parameterString parameters (str "stream_id")
    let transport := parameterString parameters (str "transport")
    let payloadFormat := parameterString parameters (str "payload_format")
    { declared := streamId.isSome || transport.isSome || payloadFormat.isSome
      streamId, transport, payloadFormat }

/-- `!x.has_value() || x->empty()` -/
def absentOrEmpty : Option Str → Bool
  | none => true
  | some s => s.isEmpty

/-- The map under `key`, empty when the key is absent or holds anything else. -/
def mapAt (block : PropertyMap) (key : Str) : PropertyMap :=
  ((block.lookup key).bind getMap).getD []

/-- The loop that lets `raw_parameters` fill in the keys `parameters` lacks.
mirrors src/domain/session_stream.cpp:135-139 -/
def fillMissing : PropertyMap → PropertyMap → PropertyMap
  | [], parameters => parameters
  | (key, value) :: raw, parameters =>
    if Assoc.contains parameters key then fillMissing raw parameters
    else fillMissing raw (Assoc.insertOrAssign key value parameters)

/-- mirrors src/domain/session_stream.cpp:127-141 -/
def mergedParameters (block : PropertyMap) : PropertyMap :=
  fillMissing (mapAt block (str "raw_parameters")) (mapAt block (str "parameters"))

/-- The loop over `instance_name` and `name`; a candidate that is present
overwrites the name even when it does not end the search.
mirrors src/domain/session_stream.cpp:152-161 -/
def candidateName (block : PropertyMap) : List Str → Option Str → Option Str
  | [], instanceName => instanceName
  | candidate :: rest, instanceName =>
    match block.lookup candidate with
    | none => candidateName block rest instanceName
    | some value =>
      if absentOrEmpty (valueToString value) then candidateName block rest (valueToString value)
      else valueToString value

/-- mirrors src/domain/session_stream.cpp:103-169 -/
def normalizeStreamBlock (block : PropertyMap) : Option NormalizedBlock :=
  let studioNodeId := parameterString block (str "id")
  let blockTypeId := parameterString block (str "block")
  let blockTypeId := if blockTypeId.isSome then blockTypeId else parameterString block (str "id")
  let blockTypeId :=
    if blockTypeId.isSome then blockTypeId else parameterString block (str "block_type")
  if absentOrEmpty blockTypeId then none
  else
    let parameters := mergedParameters block
    let instanceName := parameterString parameters (str "name")
    let instanceName :=
      if absentOrEmpty instanceName && !absentOrEmpty studioNodeId &&
          Assoc.contains block (str "block") then studioNodeId
      else instanceName
    let instanceName :=
      if absentOrEmpty instanceName then
        candidateName block [str "instance_name", str "name"] instanceName
      else instanceName
    some
      { blockTypeId := blockTypeId.getD []
        instanceName := instanceName.getD []
        stream := normalizeStreamIntent parameters }

/-- `stream_id` of a declaring block: the explicit id when it is there and
not empty, else the instance name.
mirrors src/domain/session_stream.cpp:180-182,249-251 -/
def streamIdOf (block : NormalizedBlock) : Str :=
  match block.stream.streamId with
  | some id => if id.isEmpty then block.instanceName else id
  | none => block.instanceName

/-- mirrors src/domain/session_stream.cpp:171-200 -/
def validateStreamBlock (block : NormalizedBlock) (seenStreamIds : List Str) :
    Except Str (List Str) :=
  if !block.stream.declared then .ok seenStreamIds
  else if block.instanceName.isEmpty then
    .error (str "managed stream block is missing instance name: " ++ block.blockTypeId)
  else if (streamIdOf block).isEmpty then
    .error (str "managed stream id is missing: " ++ block.blockTypeId)
  else
    match block.stream.transport with
    | none => .error (str "managed stream block is missing transport: " ++ block.blockTypeId)
    | some transport =>
      if transport.isEmpty then
        .error (str "managed stream block is missing transport: " ++ block.blockTypeId)
      else if !transportSupported transport then
        .error (str "managed stream transport is not supported: " ++ transport)
      else if absentOrEmpty block.stream.payloadFormat then
        .error (str "managed stream block is missing payload_format: " ++ block.blockTypeId)
      else if seenStreamIds.contains (streamIdOf block) then
        .error (str "managed stream id is duplicated: " ++ streamIdOf block)
      else .ok (streamIdOf block :: seenStreamIds)

/-- The `blocks` tensor of a parsed graph, if it has one.
mirrors src/domain/session_stream.cpp:221-229,276-284 -/
def blocksOf (root : PropertyMap) : Option (List Value) :=
  (root.lookup (str "blocks")).bind getTensor

/-- The loop of `derive_stream_runtime_plan`; `none` when a block is invalid.
mirrors src/domain/session_stream.cpp:231-261 -/
def deriveLoop (sessionId : Str) :
    List Value → List Str → List RuntimeStreamBindingPlan → Option (List RuntimeStreamBindingPlan)
  | [], _, streams => some streams
  | blockValue :: rest, seen, streams =>
    match (getMap blockValue).bind normalizeStreamBlock with
    | none => deriveLoop sessionId rest seen streams
    | some normalized =>
      if !normalized.stream.declared then deriveLoop sessionId rest seen streams
      else
        match validateStreamBlock normalized seen with
        | .error _ => none
        | .ok seen' =>
          let streamId := streamIdOf normalized
          let transport := normalized.stream.transport.getD []
          deriveLoop sessionId rest seen' (streams ++
            [{ streamId
               blockInstanceName := normalized.instanceName
               transport
               payloadFormat := normalized.stream.payloadFormat.getD []
               path := makeStreamPath sessionId streamId transport
               ready := true }])

/-- mirrors src/domain/session_stream.cpp:215-268 -/
def deriveStreamRuntimePlan (y : Yaml) (session : Session) : Option StreamRuntimePlan :=
  match (y.deserialize session.grcContent).bind blocksOf with
  | none => none
  | some blocks =>
    match deriveLoop session.id blocks [] [] with
    | none => none
    | some streams => if streams.isEmpty then none else some ⟨streams⟩

/-- The loop of `validate_stream_runtime_contract`.
mirrors src/domain/session_stream.cpp:286-303 -/
def validateLoop : List Value → List Str → Option Str
  | [], _ => none
  | blockValue :: rest, seen =>
    match (getMap blockValue).bind normalizeStreamBlock with
    | none => validateLoop rest seen
    | some normalized =>
      if !normalized.stream.declared then validateLoop rest seen
      else
        match validateStreamBlock normalized seen with
        | .error error => some error
        | .ok seen' => validateLoop rest seen'

/-- mirrors src/domain/session_stream.cpp:270-306 -/
def validateStreamRuntimeContract (y : Yaml) (session : Session) : Option Str :=
  match (y.deserialize session.grcContent).bind blocksOf with
  | none => none
  | some blocks => validateLoop blocks []

/-- mirrors src/domain/session_stream.cpp:308-315 -/
def deriveStreamRuntimePlans (y : Yaml) (sessions : List Session) :
    List (Option StreamRuntimePlan) :=
  sessions.map (deriveStreamRuntimePlan y)

end Gr4cp.Domain

import Mathlib.Data.List.Forall2
import Gr4ControlPlane.L1Domain.SessionStream

/-!
# The stream contract and the stream plan agree

The runtime validates a session with one loop over the blocks and derives
its bindings with a second one. Both are the same fold of
`validateStreamBlock` over the blocks that declare a managed stream
(`checkAll`), one keeping the error and the other the entries:

* `normalizeStreamBlock_says`, `declaring_isSome_iff`: from which keys of a
  block its type and its stream are read, and when it declares one (its name
  is in `L3Runtime.BlockNames`);
* `validateLoop_eq`, `deriveLoop_eq`: the two loops in terms of `checkAll`;
* `checkAll_ok`: the fold succeeds only if every block is `WellFormed` and
  no id repeats, and then the seen set is the ids walked over;
* `validateLoop_first`: the error is that of the first offending block;
* `plan_agrees_with_contract`: a plan is derived exactly when the contract
  holds and some block declares a stream, it is never partial, and its
  entries are those of the declaring blocks, in order.

The YAML reader is any function from text to an optional map.
-/
namespace Gr4cp.Domain

open Gr4cp.Core

/-! ## Declaring blocks -/

/-- The block as the domain layer reads it, if it declares a managed stream. -/
def declaring (blockValue : Value) : Option NormalizedBlock :=
  ((getMap blockValue).bind normalizeStreamBlock).filter (·.stream.declared)

def declaringBlocks (blocks : List Value) : List NormalizedBlock := blocks.filterMap declaring

/-- The blocks of the graph a session's content parses to, if it does. -/
def sessionBlocks (y : Yaml) (session : Session) : List Value :=
  ((y.deserialize session.grcContent).bind blocksOf).getD []

/-- The plan entry of a declaring block. -/
def planEntry (sessionId : Str) (block : NormalizedBlock) : RuntimeStreamBindingPlan where
  streamId := streamIdOf block
  blockInstanceName := block.instanceName
  transport := block.stream.transport.getD []
  payloadFormat := block.stream.payloadFormat.getD []
  path := makeStreamPath sessionId (streamIdOf block) (block.stream.transport.getD [])
  ready := true

theorem declaring_declared {v : Value} {nb : NormalizedBlock} (h : declaring v = some nb) :
    nb.stream.declared = true := by
  simp only [declaring, Option.filter_eq_some_iff] at h
  exact h.2

/-! ## What a block says -/

theorem fillMissing_lookup (raw parameters : PropertyMap) (key : Str) :
    (fillMissing raw parameters).lookup key = (parameters.lookup key).or (raw.lookup key) := by
  induction raw generalizing parameters with
  | nil => simp [fillMissing]
  | cons entry raw ih =>
    obtain ⟨k, v⟩ := entry
    unfold fillMissing
    by_cases hk : key = k
    · subst hk
      cases hthere : parameters.lookup key <;> simp [Assoc.contains, hthere, ih]
    · have hb : (key == k) = false := by simpa using hk
      split
      · simp [ih, List.lookup_cons, hb]
      · simp [ih, List.lookup_cons, hb, Assoc.lookup_insertOrAssign_of_ne hk]

/-- A parameter of a block: that of `parameters`, or else of
`raw_parameters`. -/
def parameterOf (block : PropertyMap) (key : Str) : Option Value :=
  ((mapAt block (str "parameters")).lookup key).or
    ((mapAt block (str "raw_parameters")).lookup key)

theorem mergedParameters_lookup (block : PropertyMap) (key : Str) :
    (mergedParameters block).lookup key = parameterOf block key := fillMissing_lookup _ _ _

/-- The text under a key of a value that is a map. -/
def textIn (value : Value) (key : Str) : Option Str :=
  (getMap value).bind fun map => parameterString map key

/-- The type id: the first of three keys that holds a text. -/
def typeOf (block : PropertyMap) : Option Str :=
  [str "block", str "id", str "block_type"].findSome? (parameterString block)

/-- What the domain layer takes from a block: nested under `stream`, or
flattened when there is no such parameter. -/
structure Says (block : PropertyMap) (nb : NormalizedBlock) : Prop where
  type : typeOf block = some nb.blockTypeId ∧ nb.blockTypeId ≠ []
  nested : ∀ stream, parameterOf block (str "stream") = some stream →
    nb.stream = ⟨true, textIn stream (str "id"), textIn stream (str "transport"),
      textIn stream (str "payload_format")⟩
  flat : parameterOf block (str "stream") = none →
    nb.stream.streamId = (parameterOf block (str "stream_id")).bind valueToString ∧
    nb.stream.transport = (parameterOf block (str "transport")).bind valueToString ∧
    nb.stream.payloadFormat = (parameterOf block (str "payload_format")).bind valueToString ∧
    (nb.stream.declared = true ↔
      ∃ key ∈ [str "stream_id", str "transport", str "payload_format"],
        ((parameterOf block key).bind valueToString).isSome)

/-- A block is read exactly when it names its type. -/
theorem normalizeStreamBlock_isSome_iff (block : PropertyMap) :
    (normalizeStreamBlock block).isSome ↔ ∃ blockTypeId, typeOf block = some blockTypeId ∧
      blockTypeId ≠ [] := by
  simp only [normalizeStreamBlock, typeOf, List.findSome?_cons, List.findSome?_nil]
  cases parameterString block (str "block") with
  | some blockTypeId => cases blockTypeId <;> simp [absentOrEmpty]
  | none =>
    cases parameterString block (str "id") with
    | some blockTypeId => cases blockTypeId <;> simp [absentOrEmpty]
    | none =>
      cases parameterString block (str "block_type") with
      | some blockTypeId => cases blockTypeId <;> simp [absentOrEmpty]
      | none => simp [absentOrEmpty]

theorem normalizeStreamBlock_says {block : PropertyMap} {nb : NormalizedBlock}
    (h : normalizeStreamBlock block = some nb) : Says block nb := by
  have hstream : nb.stream = normalizeStreamIntent (mergedParameters block) := by
    simp only [normalizeStreamBlock, Option.ite_none_left_eq_some, Option.some.injEq] at h
    obtain ⟨-, rfl⟩ := h
    rfl
  refine ⟨?_, fun stream hparameter => ?_, fun hnone => ?_⟩
  · obtain ⟨blockTypeId, htype, hne⟩ := (normalizeStreamBlock_isSome_iff block).1 (by simp [h])
    have hsame : nb.blockTypeId = blockTypeId := by
      simp only [normalizeStreamBlock, Option.ite_none_left_eq_some, Option.some.injEq] at h
      obtain ⟨-, rfl⟩ := h
      simp only [typeOf, List.findSome?_cons, List.findSome?_nil] at htype
      cases hblock : parameterString block (str "block") <;>
        cases hid : parameterString block (str "id") <;>
        cases htypeKey : parameterString block (str "block_type") <;> simp_all
    exact ⟨hsame ▸ htype, hsame ▸ hne⟩
  · rw [hstream]
    unfold normalizeStreamIntent textIn
    rw [mergedParameters_lookup, hparameter]
    cases hmap : getMap stream <;> simp [hmap]
  · rw [hstream]
    unfold normalizeStreamIntent parameterString
    simp only [mergedParameters_lookup, hnone, List.mem_cons, List.not_mem_nil, or_false,
      exists_eq_or_imp, exists_eq_left, true_and, Bool.or_eq_true, or_assoc]

/-- A block declares a stream when it names its type and has the parameter
`stream`, or one of three texts. -/
theorem declaring_isSome_iff (v : Value) :
    (declaring v).isSome ↔ ∃ block, getMap v = some block ∧
      (∃ blockTypeId, typeOf block = some blockTypeId ∧ blockTypeId ≠ []) ∧
      (parameterOf block (str "stream") ≠ none ∨
        ∃ key ∈ [str "stream_id", str "transport", str "payload_format"],
          ((parameterOf block key).bind valueToString).isSome) := by
  unfold declaring
  cases getMap v with
  | none => simp
  | some block =>
    simp only [Option.bind_some, Option.some.injEq, exists_eq_left',
      ← normalizeStreamBlock_isSome_iff]
    cases hblock : normalizeStreamBlock block with
    | none => simp
    | some nb =>
      obtain ⟨-, hnested, hflat⟩ := normalizeStreamBlock_says hblock
      have hdeclared : (Option.filter (fun nb : NormalizedBlock => nb.stream.declared)
          (some nb)).isSome ↔ nb.stream.declared = true := by
        cases hd : nb.stream.declared <;> simp [Option.filter, hd]
      rw [hdeclared]
      cases hparameter : parameterOf block (str "stream") with
      | some stream => simp [hnested stream hparameter]
      | none => simpa using (hflat hparameter).2.2.2

/-! ## One fold behind both loops -/

/-- Every block in turn, with the ids seen so far. -/
def checkAll (blocks : List NormalizedBlock) (seen : List Str) : Except Str (List Str) :=
  blocks.foldlM (fun seen block => validateStreamBlock block seen) seen

@[simp] theorem checkAll_nil (seen : List Str) : checkAll [] seen = .ok seen := rfl

theorem checkAll_cons (nb : NormalizedBlock) (nbs : List NormalizedBlock) (seen : List Str) :
    checkAll (nb :: nbs) seen =
      match validateStreamBlock nb seen with
      | .error e => .error e
      | .ok seen' => checkAll nbs seen' := by
  simp only [checkAll, List.foldlM_cons]
  cases validateStreamBlock nb seen <;> rfl

theorem validateLoop_cons (v : Value) (rest : List Value) (seen : List Str) :
    validateLoop (v :: rest) seen =
      match declaring v with
      | none => validateLoop rest seen
      | some nb =>
        match validateStreamBlock nb seen with
        | .error e => some e
        | .ok seen' => validateLoop rest seen' := by
  simp only [validateLoop, declaring]
  cases hv : (getMap v).bind normalizeStreamBlock with
  | none => simp
  | some nb =>
    cases hd : nb.stream.declared with
    | false => simp [hd, Option.filter]
    | true => cases hval : validateStreamBlock nb seen <;> simp [hd, Option.filter, hval]

theorem deriveLoop_cons (sid : Str) (v : Value) (rest : List Value) (seen : List Str)
    (streams : List RuntimeStreamBindingPlan) :
    deriveLoop sid (v :: rest) seen streams =
      match declaring v with
      | none => deriveLoop sid rest seen streams
      | some nb =>
        match validateStreamBlock nb seen with
        | .error _ => none
        | .ok seen' => deriveLoop sid rest seen' (streams ++ [planEntry sid nb]) := by
  simp only [deriveLoop, declaring, planEntry]
  cases hv : (getMap v).bind normalizeStreamBlock with
  | none => simp
  | some nb =>
    cases hd : nb.stream.declared with
    | false => simp [hd, Option.filter]
    | true => cases hval : validateStreamBlock nb seen <;> simp [hd, Option.filter, hval]

theorem declaringBlocks_cons (v : Value) (rest : List Value) :
    declaringBlocks (v :: rest) = (declaring v).toList ++ declaringBlocks rest := by
  cases h : declaring v <;> simp [declaringBlocks, h]

theorem validateLoop_eq (blocks : List Value) (seen : List Str) :
    validateLoop blocks seen =
      match checkAll (declaringBlocks blocks) seen with
      | .error e => some e
      | .ok _ => none := by
  induction blocks generalizing seen with
  | nil => rfl
  | cons v rest ih =>
    rw [validateLoop_cons, declaringBlocks_cons]
    cases hv : declaring v with
    | none => simp [ih]
    | some nb =>
      simp only [Option.toList_some, List.cons_append, List.nil_append, checkAll_cons]
      cases validateStreamBlock nb seen with
      | error e => rfl
      | ok seen' => simp [ih]

theorem deriveLoop_eq (sid : Str) (blocks : List Value) (seen : List Str)
    (streams : List RuntimeStreamBindingPlan) :
    deriveLoop sid blocks seen streams =
      match checkAll (declaringBlocks blocks) seen with
      | .error _ => none
      | .ok _ => some (streams ++ (declaringBlocks blocks).map (planEntry sid)) := by
  induction blocks generalizing seen streams with
  | nil => simp [deriveLoop, declaringBlocks]
  | cons v rest ih =>
    rw [deriveLoop_cons, declaringBlocks_cons]
    cases hv : declaring v with
    | none => simp [ih]
    | some nb =>
      simp only [Option.toList_some, List.cons_append, List.nil_append, checkAll_cons,
        List.map_cons]
      cases validateStreamBlock nb seen with
      | error e => rfl
      | ok seen' => simp [ih, List.append_assoc]

/-! ## What a valid block satisfies -/

/-- The contract of one declaring block, ids of other blocks aside. -/
structure WellFormed (nb : NormalizedBlock) : Prop where
  instanceName : nb.instanceName ≠ []
  streamId : streamIdOf nb ≠ []
  transport : ∃ t, nb.stream.transport = some t ∧ transportSupported t = true
  payloadFormat : ∃ p, nb.stream.payloadFormat = some p ∧ p ≠ []

theorem validateStreamBlock_ok {nb : NormalizedBlock} {seen seen' : List Str}
    (hd : nb.stream.declared = true) (h : validateStreamBlock nb seen = .ok seen') :
    WellFormed nb ∧ streamIdOf nb ∉ seen ∧ seen' = streamIdOf nb :: seen := by
  simp only [validateStreamBlock, hd, Bool.not_true, Bool.false_eq_true, if_false] at h
  split at h
  · cases h
  rename_i hname
  split at h
  · cases h
  rename_i hid
  cases ht : nb.stream.transport with
  | none => simp [ht] at h
  | some t =>
    simp only [ht] at h
    split at h
    · cases h
    split at h
    · cases h
    rename_i hsup
    split at h
    · cases h
    rename_i hpay
    split at h
    · cases h
    rename_i hseen
    cases h
    refine ⟨⟨by simpa using hname, by simpa using hid, ⟨t, ht, by simpa using hsup⟩, ?_⟩,
      by simpa using hseen, rfl⟩
    cases hp : nb.stream.payloadFormat with
    | none => simp [hp, absentOrEmpty] at hpay
    | some p => exact ⟨p, rfl, by simpa [hp, absentOrEmpty] using hpay⟩

/-- The error of a block depends on the seen ids only as a set. -/
theorem validateStreamBlock_congr (nb : NormalizedBlock) {seen seen' : List Str}
    (h : ∀ x, x ∈ seen ↔ x ∈ seen') (e : Str) :
    validateStreamBlock nb seen = .error e ↔ validateStreamBlock nb seen' = .error e := by
  have hc : seen.contains (streamIdOf nb) = seen'.contains (streamIdOf nb) := by
    rw [Bool.eq_iff_iff]
    simpa using h (streamIdOf nb)
  simp only [validateStreamBlock, hc]
  split
  · simp
  split
  · simp
  split
  · simp
  split
  · simp
  split
  · simp
  split
  · simp
  split
  · simp
  split <;> simp

theorem checkAll_ok {nbs : List NormalizedBlock} {seen seen' : List Str}
    (hd : ∀ nb ∈ nbs, nb.stream.declared = true) (h : checkAll nbs seen = .ok seen') :
    (∀ nb ∈ nbs, WellFormed nb) ∧ (nbs.map streamIdOf).Nodup ∧
      ∀ nb ∈ nbs, streamIdOf nb ∉ seen := by
  induction nbs generalizing seen with
  | nil => simp
  | cons nb nbs ih =>
    rw [checkAll_cons] at h
    cases hv : validateStreamBlock nb seen with
    | error e => simp [hv] at h
    | ok seen₁ =>
      simp only [hv] at h
      obtain ⟨hwf, hfresh, rfl⟩ := validateStreamBlock_ok (hd nb List.mem_cons_self) hv
      obtain ⟨hall, hnodup, hnotin⟩ := ih (fun b hb => hd b (List.mem_cons_of_mem _ hb)) h
      refine ⟨?_, ?_, ?_⟩
      · exact List.forall_mem_cons.mpr ⟨hwf, hall⟩
      · rw [List.map_cons, List.nodup_cons]
        refine ⟨?_, hnodup⟩
        intro hmem
        obtain ⟨b, hb, heq⟩ := List.mem_map.mp hmem
        exact hnotin b hb (by simp [heq])
      · refine List.forall_mem_cons.mpr ⟨hfresh, fun b hb hmem => ?_⟩
        exact hnotin b hb (List.mem_cons_of_mem _ hmem)

/-! ## The first offending block -/

/-- The error of a declaring block that comes after `earlier`. -/
def offence (nb : NormalizedBlock) (earlier : List NormalizedBlock) : Option Str :=
  match validateStreamBlock nb (earlier.map streamIdOf) with
  | .error e => some e
  | .ok _ => none

/-- `e` is the error of the first offending block of `blocks`. -/
def FirstOffence (blocks : List Value) (e : Str) : Prop :=
  ∃ pre v post nb, blocks = pre ++ v :: post ∧ declaring v = some nb ∧
    (∀ p₁ w p₂ nb', pre = p₁ ++ w :: p₂ → declaring w = some nb' →
      offence nb' (declaringBlocks p₁) = none) ∧
    offence nb (declaringBlocks pre) = some e

theorem validateLoop_first (before rest : List Value) (seen : List Str) (e : Str)
    (hseen : ∀ x, x ∈ seen ↔ x ∈ (declaringBlocks before).map streamIdOf)
    (h : validateLoop rest seen = some e) :
    ∃ pre v post nb, rest = pre ++ v :: post ∧ declaring v = some nb ∧
      (∀ p₁ w p₂ nb', pre = p₁ ++ w :: p₂ → declaring w = some nb' →
        offence nb' (declaringBlocks (before ++ p₁)) = none) ∧
      offence nb (declaringBlocks (before ++ pre)) = some e := by
  induction rest generalizing before seen with
  | nil => simp [validateLoop] at h
  | cons v rest ih =>
    rw [validateLoop_cons] at h
    -- the walk goes on past `v`, which is no offence given the blocks before it
    have skip : ∀ seen', (∀ x, x ∈ seen' ↔ x ∈ (declaringBlocks (before ++ [v])).map streamIdOf) →
        validateLoop rest seen' = some e →
        (∀ nb', declaring v = some nb' → offence nb' (declaringBlocks before) = none) →
        ∃ pre w post nb, v :: rest = pre ++ w :: post ∧ declaring w = some nb ∧
          (∀ p₁ w' p₂ nb', pre = p₁ ++ w' :: p₂ → declaring w' = some nb' →
            offence nb' (declaringBlocks (before ++ p₁)) = none) ∧
          offence nb (declaringBlocks (before ++ pre)) = some e := by
      intro seen' hseen' hrest hv
      obtain ⟨pre, w, post, nb, hsplit, hw, hpre, hoff⟩ := ih (before ++ [v]) seen' hseen' hrest
      refine ⟨v :: pre, w, post, nb, by simp [hsplit], hw, ?_, by simpa using hoff⟩
      intro p₁ w' p₂ nb' hp hw'
      cases p₁ with
      | nil =>
        simp only [List.nil_append, List.cons.injEq] at hp
        rw [List.append_nil]
        exact hv nb' (by rw [hp.1]; exact hw')
      | cons x p₁ =>
        simp only [List.cons_append, List.cons.injEq] at hp
        obtain ⟨rfl, hp⟩ := hp
        simpa using hpre p₁ w' p₂ nb' hp hw'
    cases hv : declaring v with
    | none =>
      simp only [hv] at h
      refine skip seen (fun x => ?_) h (fun nb' hnb' => by rw [hv] at hnb'; cases hnb')
      rw [hseen x]
      simp [declaringBlocks, hv]
    | some nb =>
      simp only [hv] at h
      cases hval : validateStreamBlock nb seen with
      | error err =>
        simp only [hval, Option.some.injEq] at h
        subst h
        refine ⟨[], v, rest, nb, rfl, hv, by simp, ?_⟩
        have := (validateStreamBlock_congr nb hseen err).mp hval
        simp [offence, this]
      | ok seen' =>
        simp only [hval] at h
        obtain ⟨-, -, rfl⟩ := validateStreamBlock_ok (declaring_declared hv) hval
        refine skip _ (fun x => ?_) h (fun nb' hnb' => ?_)
        · have hx : x ∈ seen ↔ ∃ a, a ∈ declaringBlocks before ∧ streamIdOf a = x := by
            simpa using hseen x
          simp only [declaringBlocks] at hx
          simp only [declaringBlocks, List.filterMap_append, List.map_append, List.mem_append,
            List.mem_cons, List.filterMap_cons, List.filterMap_nil, hv, List.map_cons,
            List.map_nil, List.not_mem_nil, or_false, List.mem_map, hx]
          exact or_comm
        · rw [hv, Option.some.injEq] at hnb'
          subst hnb'
          cases hoff : validateStreamBlock nb ((declaringBlocks before).map streamIdOf) with
          | ok _ => simp [offence, hoff]
          | error err =>
            have := (validateStreamBlock_congr nb hseen err).mpr hoff
            rw [hval] at this
            cases this

/-! ## The two together -/

theorem validate_eq (y : Yaml) (session : Session) :
    validateStreamRuntimeContract y session = validateLoop (sessionBlocks y session) [] := by
  unfold validateStreamRuntimeContract sessionBlocks
  cases (y.deserialize session.grcContent).bind blocksOf <;> rfl

theorem derive_eq (y : Yaml) (session : Session) :
    deriveStreamRuntimePlan y session =
      match checkAll (declaringBlocks (sessionBlocks y session)) [] with
      | .error _ => none
      | .ok _ =>
        if (declaringBlocks (sessionBlocks y session)).isEmpty then none
        else some ⟨(declaringBlocks (sessionBlocks y session)).map (planEntry session.id)⟩ := by
  unfold deriveStreamRuntimePlan sessionBlocks
  cases (y.deserialize session.grcContent).bind blocksOf with
  | none => rfl
  | some blocks =>
    simp only [Option.getD_some, deriveLoop_eq]
    cases checkAll (declaringBlocks blocks) [] <;> simp

/-- A plan is derived exactly when the contract holds and a block declares a
stream, and then from every declaring block. -/
theorem derive_eq_some_iff (y : Yaml) (session : Session) (plan : StreamRuntimePlan) :
    deriveStreamRuntimePlan y session = some plan ↔
      validateStreamRuntimeContract y session = none ∧
      declaringBlocks (sessionBlocks y session) ≠ [] ∧
      plan.streams = (declaringBlocks (sessionBlocks y session)).map (planEntry session.id) := by
  rw [derive_eq, validate_eq, validateLoop_eq]
  cases checkAll (declaringBlocks (sessionBlocks y session)) [] with
  | error e => simp
  | ok seen =>
    simp only [List.isEmpty_iff, true_and]
    split
    · rename_i h; simp [h]
    · rename_i h
      simp only [Option.some.injEq, ne_eq, h, not_false_eq_true, true_and]
      exact ⟨fun h => h ▸ rfl, fun h => by cases plan; simp_all⟩

/-- What a graph without a contract error declares. -/
theorem declaringBlocks_wellFormed {y : Yaml} {session : Session}
    (h : validateStreamRuntimeContract y session = none) :
    (∀ nb ∈ declaringBlocks (sessionBlocks y session), WellFormed nb) ∧
      ((declaringBlocks (sessionBlocks y session)).map streamIdOf).Nodup := by
  rw [validate_eq, validateLoop_eq] at h
  cases hc : checkAll (declaringBlocks (sessionBlocks y session)) [] with
  | error e => simp [hc] at h
  | ok seen =>
    have hdecl : ∀ nb ∈ declaringBlocks (sessionBlocks y session), nb.stream.declared = true := by
      intro nb hnb
      obtain ⟨v, -, hv⟩ := List.mem_filterMap.mp hnb
      exact declaring_declared hv
    obtain ⟨hwf, hnodup, -⟩ := checkAll_ok hdecl hc
    exact ⟨hwf, hnodup⟩

theorem streamPath_eq (sessionId streamId transport : Str) :
    makeStreamPath sessionId streamId transport =
      str "/sessions/" ++ sessionId ++ str "/streams/" ++ streamId ++
        (if transport = str "websocket" then str "/ws" else str "/http") := by
  unfold makeStreamPath makeStreamHttpPath
  split <;> rfl

/-- A stream path ends in `/ws` exactly for the websocket transport. -/
theorem streamPath_ws_iff (sessionId streamId transport : Str) :
    str "/ws" <:+ makeStreamPath sessionId streamId transport ↔ transport = str "websocket" := by
  rw [streamPath_eq]
  split
  · rename_i h
    simp only [h, iff_true]
    exact List.suffix_append _ _
  · rename_i h
    simp only [h, iff_false]
    rintro ⟨pre, hpre⟩
    -- the last bytes are `s` and `p`
    have hlast := congrArg List.getLast? hpre
    have hws : (str "/ws").getLast? = some 115 := by decide
    have hhttp : (str "/http").getLast? = some 112 := by decide
    rw [List.getLast?_append, List.getLast?_append, hws, hhttp] at hlast
    cases hlast

/-- The two loops agree on every session: a plan exists exactly when the
contract reports no error and some block declares a stream; it then has one
entry per declaring block, in order; an error is that of the first
offending block. -/
theorem plan_agrees_with_contract (y : Yaml) (session : Session) :
    ((deriveStreamRuntimePlan y session).isSome ↔
      validateStreamRuntimeContract y session = none ∧
      ∃ v ∈ sessionBlocks y session, (declaring v).isSome) ∧
    (∀ plan, deriveStreamRuntimePlan y session = some plan →
      (plan.streams.map (·.streamId)).Nodup ∧
      List.Forall₂ (fun nb entry =>
        entry.blockInstanceName = nb.instanceName ∧ entry.blockInstanceName ≠ [] ∧
        entry.streamId ≠ [] ∧
        (∀ id, nb.stream.streamId = some id → id ≠ [] → entry.streamId = id) ∧
        ((∀ id, nb.stream.streamId = some id → id = []) → entry.streamId = nb.instanceName) ∧
        nb.stream.transport = some entry.transport ∧ transportSupported entry.transport = true ∧
        nb.stream.payloadFormat = some entry.payloadFormat ∧ entry.payloadFormat ≠ [] ∧
        entry.path = makeStreamPath session.id entry.streamId entry.transport ∧
        (str "/ws" <:+ entry.path ↔ entry.transport = str "websocket"))
        ((sessionBlocks y session).filterMap declaring) plan.streams) ∧
    (∀ e, validateStreamRuntimeContract y session = some e →
      FirstOffence (sessionBlocks y session) e) := by
  refine ⟨?_, ?_, ?_⟩
  · simp only [Option.isSome_iff_exists, derive_eq_some_iff]
    constructor
    · rintro ⟨plan, hok, hne, -⟩
      obtain ⟨nb, hnb⟩ := List.exists_mem_of_ne_nil _ hne
      obtain ⟨v, hv, hdecl⟩ := List.mem_filterMap.mp hnb
      exact ⟨hok, v, hv, nb, hdecl⟩
    · rintro ⟨hok, v, hv, nb, hdecl⟩
      exact ⟨⟨_⟩, hok, List.ne_nil_of_mem (List.mem_filterMap.mpr ⟨v, hv, hdecl⟩), rfl⟩
  · intro plan hplan
    obtain ⟨hok, -, hstreams⟩ := (derive_eq_some_iff y session plan).mp hplan
    obtain ⟨hwf, hnodup⟩ := declaringBlocks_wellFormed hok
    refine ⟨?_, ?_⟩
    · rw [hstreams, List.map_map]
      exact hnodup
    · rw [hstreams]
      refine List.forall₂_map_right_iff.mpr (List.forall₂_same.mpr fun nb hnb => ?_)
      have h := hwf nb hnb
      obtain ⟨t, ht, hsup⟩ := h.transport
      obtain ⟨p, hp, hpne⟩ := h.payloadFormat
      refine ⟨rfl, h.instanceName, h.streamId, ?_, ?_, by simp [planEntry, ht],
        by simpa [planEntry, ht] using hsup, by simp [planEntry, hp],
        by simpa [planEntry, hp] using hpne, rfl, streamPath_ws_iff _ _ _⟩
      · intro id hid hne
        simp [planEntry, streamIdOf, hid, hne]
      · intro hnone
        cases hid : nb.stream.streamId with
        | none => simp [planEntry, streamIdOf, hid]
        | some id => simp [planEntry, streamIdOf, hid, hnone id hid]
  · intro e he
    rw [validate_eq] at he
    obtain ⟨pre, v, post, nb, hsplit, hv, hpre, hoff⟩ :=
      validateLoop_first [] _ [] e (by simp [declaringBlocks]) he
    exact ⟨pre, v, post, nb, hsplit, hv, hpre, hoff⟩

end Gr4cp.Domain

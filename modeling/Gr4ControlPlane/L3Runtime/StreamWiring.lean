import Gr4ControlPlane.L1Domain.PmtText
import Gr4ControlPlane.L3Runtime.RuntimeSpec
import Gr4ControlPlane.L3Runtime.StreamInjection

/-!
# Managed streams meet their blocks

A plan names the blocks of its streams as the domain layer does, the runtime
finds them by names of its own. The graph handed to the importer is wired
when every block that declares a stream has the endpoint of that stream's
binding and no other block has been touched.

* `Wirable.wires`, `wirable_of_wires`: the two directions. The second takes
  endpoints that no block has yet (`exists_builtFor`), so that an endpoint
  found in a block was injected.
* `injection_wires_iff`: the graph is wired, whatever the endpoints, exactly
  when the two layers agree on the names of the managed blocks, these names
  are distinct and nobody else's, and every port number fits.
-/
namespace Gr4cp.Runtime

open Gr4cp.Core Gr4cp.Domain

/-! ## What wiring a graph means -/

/-- A list of bindings for the session's plan, in order, as `prepareLocked`
builds it, with distinct endpoints. -/
structure BuiltFor (y : Yaml) (session : Session) (bindings : List RuntimeStreamBinding) : Prop where
  built : ∃ internals, internals.length = (planStreams y session).length ∧
    bindings = List.zipWith makeBinding (planStreams y session) internals
  endpoints : (bindings.map (·.internal.endpoint)).Nodup

/-- `parameters.endpoint` of a block. -/
def endpointOf (v : Value) : Option Value :=
  (getMap v).bind fun block => (mapAt block (str "parameters")).lookup (str "endpoint")

/-- What becomes of `v`: a block that declares a stream has the endpoint of
that stream's binding; anything else is as it is without bindings. -/
def Wired (bindings : List RuntimeStreamBinding) (v v' : Value) : Prop :=
  match declaring v with
  | some nb => ∃ binding ∈ bindings, binding.plan.streamId = streamIdOf nb ∧
      endpointOf v' = some (.str binding.internal.endpoint)
  | none => v' = normalizeValue v

/-- Normalisation does not throw and wires every block. -/
def Wires (y : Yaml) (session : Session) (bindings : List RuntimeStreamBinding) : Prop :=
  ∃ text, normalizeGraphContent y session.grcContent bindings = .ok text ∧
    List.Forall₂ (Wired bindings) (graphBlocks y session.grcContent) (graphBlocks y text)

/-- The layers agree on the names of the managed blocks, no two of these
share a name, no other block goes by one at run time, and every port number
fits. -/
structure Wirable (y : Yaml) (session : Session) : Prop where
  names : ∀ block, .map block ∈ graphBlocks y session.grcContent →
    (declaring (.map block)).isSome → NamesMeet block
  distinct : ((planStreams y session).map (·.blockInstanceName)).Nodup
  unclaimed : ∀ block, .map block ∈ graphBlocks y session.grcContent →
    declaring (.map block) = none → ∀ entry ∈ planStreams y session,
    runtimeName block ≠ some entry.blockInstanceName
  ports : ∀ connection ∈ graphConnections y session.grcContent, ∀ token ∈ portTokens connection,
    PortFits token

/-! ## One block -/

/-- The first element with a given key is the only one. -/
theorem find?_of_nodup {α β : Type} [BEq β] [LawfulBEq β] (key : α → β) {l : List α}
    (h : (l.map key).Nodup) {a : α} (ha : a ∈ l) : l.find? (fun x => key x == key a) = some a := by
  cases hfind : l.find? (fun x => key x == key a) with
  | none => exact absurd (List.find?_eq_none.1 hfind a ha) (by simp)
  | some b =>
    have hkey : key b = key a := by simpa using List.find?_some hfind
    rw [List.inj_on_of_nodup_map h (List.mem_of_find?_eq_some hfind) ha hkey]

section Block

variable {bindings : List RuntimeStreamBinding}

/-- The binding of a rewritten block: the first of its runtime name. -/
theorem bindingOf_normalizeValue (block : PropertyMap) :
    bindingOf bindings (normalizeValue (.map block)) =
      (runtimeName block).bind fun name =>
        bindings.find? fun binding => binding.plan.blockInstanceName == name := by
  simp only [bindingOf, normalizeValue, getMap, Option.bind_some, bindingFor,
    ← injectionName_normalizeBlock]
  cases hname : absentOrEmpty (injectionName (normalizeBlock block)) with
  | true => simp [present_of_absent hname]
  | false =>
    rw [present_of_not_absent hname]
    cases hsome : injectionName (normalizeBlock block) with
    | none => simp [hsome, absentOrEmpty] at hname
    | some name => simp [Option.some_beq_some]

theorem mem_of_bindingOf {block : PropertyMap} {binding : RuntimeStreamBinding}
    (h : bindingOf bindings (normalizeValue (.map block)) = some binding) : binding ∈ bindings := by
  rw [bindingOf_normalizeValue, Option.bind_eq_some_iff] at h
  obtain ⟨name, -, hfind⟩ := h
  exact List.mem_of_find?_eq_some hfind

theorem endpointOf_withEndpoint (block : PropertyMap) (endpoint : Str) :
    endpointOf (.map (withEndpoint block endpoint)) = some (.str endpoint) := by
  simp [endpointOf, getMap, withEndpoint, mapAt]

theorem injectValue_of_some {block : PropertyMap} {binding : RuntimeStreamBinding}
    (h : bindingOf bindings (normalizeValue (.map block)) = some binding) :
    endpointOf (injectValue bindings (normalizeValue (.map block))) =
      some (.str binding.internal.endpoint) := by
  rw [injectValue, h]
  exact endpointOf_withEndpoint _ _

theorem injectValue_of_none {v : Value} (h : bindingOf bindings v = none) :
    injectValue bindings v = v := by
  rw [injectValue, h]
  cases getMap v <;> rfl

theorem map_of_declaring {v : Value} {nb : NormalizedBlock} (h : declaring v = some nb) :
    ∃ block, v = .map block ∧ normalizeStreamBlock block = some nb := by
  simp only [declaring, Option.filter_eq_some_iff, Option.bind_eq_some_iff] at h
  obtain ⟨⟨block, hmap, hnb⟩, -⟩ := h
  refine ⟨block, ?_, hnb⟩
  cases v <;> simp_all [getMap]

theorem authoredName_of_declaring {block : PropertyMap} {nb : NormalizedBlock}
    (h : normalizeStreamBlock block = some nb) (hne : nb.instanceName ≠ []) :
    authoredName block = some nb.instanceName := by
  rw [instanceName_eq h] at hne ⊢
  cases hname : authoredName block with
  | none => simp [hname] at hne
  | some name => rfl

end Block

/-! ## The plan and its bindings -/

section Session

variable {y : Yaml} {session : Session} {bindings : List RuntimeStreamBinding}

theorem planStreams_eq (hvalid : validateStreamRuntimeContract y session = none) :
    planStreams y session =
      (declaringBlocks (graphBlocks y session.grcContent)).map (planEntry session.id) := by
  unfold planStreams
  cases hplan : deriveStreamRuntimePlan y session with
  | some plan => exact ((derive_eq_some_iff y session plan).1 hplan).2.2
  | none =>
    cases hblocks : declaringBlocks (graphBlocks y session.grcContent) with
    | nil => rfl
    | cons nb nbs =>
      have hsome := (derive_eq_some_iff y session
        ⟨(declaringBlocks (graphBlocks y session.grcContent)).map (planEntry session.id)⟩).2
        ⟨hvalid, List.ne_nil_of_mem (a := nb) (hblocks ▸ List.mem_cons_self), rfl⟩
      rw [hplan] at hsome
      cases hsome

theorem map_plan_zipWith {plans : List RuntimeStreamBindingPlan}
    {internals : List InternalStreamBinding} (h : internals.length = plans.length) :
    (List.zipWith makeBinding plans internals).map (·.plan) =
      plans.map fun plan => { plan with ready := true } := by
  induction plans generalizing internals with
  | nil => rfl
  | cons plan plans ih =>
    cases internals with
    | nil => cases h
    | cons internal internals =>
      simp only [List.length_cons, Nat.add_right_cancel_iff] at h
      simp [makeBinding, ih h]

theorem map_endpoint_zipWith {plans : List RuntimeStreamBindingPlan}
    {internals : List InternalStreamBinding} (h : internals.length = plans.length) :
    (List.zipWith makeBinding plans internals).map (·.internal.endpoint) =
      internals.map (·.endpoint) := by
  induction plans generalizing internals with
  | nil =>
    cases internals with
    | nil => rfl
    | cons internal internals => cases h
  | cons plan plans ih =>
    cases internals with
    | nil => cases h
    | cons internal internals =>
      simp only [List.length_cons, Nat.add_right_cancel_iff] at h
      simp [makeBinding, ih h]

theorem BuiltFor.map_plan (h : BuiltFor y session bindings) :
    bindings.map (·.plan) = planStreams y session := by
  obtain ⟨internals, hlen, rfl⟩ := h.built
  rw [map_plan_zipWith hlen, planStreams_ready]

/-- The binding of a declaring block, which is the only one of its stream. -/
theorem BuiltFor.binding_of (hvalid : validateStreamRuntimeContract y session = none)
    (h : BuiltFor y session bindings) {nb : NormalizedBlock}
    (hnb : nb ∈ declaringBlocks (graphBlocks y session.grcContent)) :
    ∃ binding ∈ bindings, binding.plan = planEntry session.id nb ∧
      ∀ other ∈ bindings, other.plan.streamId = streamIdOf nb → other = binding := by
  have hplan := h.map_plan
  rw [planStreams_eq hvalid] at hplan
  obtain ⟨binding, hmem, hbinding⟩ : ∃ binding ∈ bindings, binding.plan = planEntry session.id nb := by
    have := List.mem_map_of_mem (f := planEntry session.id) hnb
    rwa [← hplan, List.mem_map] at this
  have hnodup : (bindings.map (·.plan.streamId)).Nodup := by
    rw [show (bindings.map (·.plan.streamId)) = (bindings.map (·.plan)).map (·.streamId) by simp,
      hplan, List.map_map]
    exact (declaringBlocks_wellFormed hvalid).2
  refine ⟨binding, hmem, hbinding, fun other hother hid => ?_⟩
  exact List.inj_on_of_nodup_map hnodup hother hmem (by rw [hid, hbinding]; rfl)

/-- Every binding is that of a declaring block. -/
theorem BuiltFor.declared_by (hvalid : validateStreamRuntimeContract y session = none)
    (h : BuiltFor y session bindings) {binding : RuntimeStreamBinding} (hmem : binding ∈ bindings) :
    ∃ nb ∈ declaringBlocks (graphBlocks y session.grcContent),
      binding.plan = planEntry session.id nb := by
  have hplan := h.map_plan
  rw [planStreams_eq hvalid] at hplan
  have := List.mem_map_of_mem (f := (·.plan)) hmem
  rw [hplan, List.mem_map] at this
  obtain ⟨nb, hnb, heq⟩ := this
  exact ⟨nb, hnb, heq.symm⟩

/-! ## When the names agree -/

theorem Wirable.bindingOf_declaring (hvalid : validateStreamRuntimeContract y session = none)
    (hw : Wirable y session) (hb : BuiltFor y session bindings) {v : Value} {nb : NormalizedBlock}
    (hv : v ∈ graphBlocks y session.grcContent) (hnb : declaring v = some nb) :
    ∃ binding ∈ bindings, binding.plan = planEntry session.id nb ∧
      bindingOf bindings (normalizeValue v) = some binding := by
  have hmem : nb ∈ declaringBlocks (graphBlocks y session.grcContent) :=
    List.mem_filterMap.2 ⟨v, hv, hnb⟩
  obtain ⟨binding, hbinding, hplan, -⟩ := hb.binding_of hvalid hmem
  obtain ⟨block, rfl, hnormal⟩ := map_of_declaring hnb
  have hname := authoredName_of_declaring hnormal
    ((declaringBlocks_wellFormed hvalid).1 nb hmem).instanceName
  have hmeets := hw.names block hv (by rw [hnb]; rfl)
  have hnodup : (bindings.map (·.plan.blockInstanceName)).Nodup := by
    have := hw.distinct
    rwa [← hb.map_plan, List.map_map] at this
  have hfind := find?_of_nodup (·.plan.blockInstanceName) hnodup hbinding
  refine ⟨binding, hbinding, hplan, ?_⟩
  rw [bindingOf_normalizeValue, (namesMeet_iff hname).2 hmeets]
  rwa [show binding.plan.blockInstanceName = nb.instanceName by rw [hplan]; rfl] at hfind

theorem Wirable.bindingOf_other (hw : Wirable y session) (hb : BuiltFor y session bindings)
    {v : Value} (hv : v ∈ graphBlocks y session.grcContent) (hnone : declaring v = none) :
    bindingOf bindings (normalizeValue v) = none := by
  by_cases hmap : ∃ block, v = .map block
  · obtain ⟨block, rfl⟩ := hmap
    rw [bindingOf_normalizeValue]
    cases hname : runtimeName block with
    | none => rfl
    | some name =>
      refine List.find?_eq_none.2 fun binding hbinding heq => ?_
      have hplan : binding.plan ∈ planStreams y session := by
        rw [← hb.map_plan]
        exact List.mem_map_of_mem hbinding
      refine hw.unclaimed block hv hnone binding.plan hplan ?_
      rw [hname, beq_iff_eq.1 heq]
  · cases v <;> first | rfl | exact absurd ⟨_, rfl⟩ hmap

/-- Every binding finds its block, and nothing else is found. -/
theorem Wirable.injectedCount_eq (hvalid : validateStreamRuntimeContract y session = none)
    (hw : Wirable y session) (hb : BuiltFor y session bindings) :
    injectedCount bindings ((graphBlocks y session.grcContent).map normalizeValue) =
      bindings.length := by
  obtain ⟨hnodup, hmem⟩ := foldl_setInsert
    (injectedIds bindings ((graphBlocks y session.grcContent).map normalizeValue)) []
  have hids : (bindings.map (·.plan.streamId)).Nodup := by
    have := (declaringBlocks_wellFormed hvalid).2
    rw [show (bindings.map (·.plan.streamId)) = (bindings.map (·.plan)).map (·.streamId) by simp,
      hb.map_plan, planStreams_eq hvalid, List.map_map]
    exact this
  have hlength : (bindings.map (·.plan.streamId)).length = bindings.length := List.length_map _
  rw [injectedCount, ← hlength]
  refine ((List.perm_ext_iff_of_nodup (hnodup List.nodup_nil) hids).2 fun id => ?_).length_eq
  rw [hmem]
  simp only [List.not_mem_nil, false_or, injectedIds, List.mem_filterMap, List.mem_map,
    Option.map_eq_some_iff]
  constructor
  · rintro ⟨_, ⟨v, hv, rfl⟩, binding, hbinding, rfl⟩
    cases hdecl : declaring v with
    | none => rw [hw.bindingOf_other hb hv hdecl] at hbinding; cases hbinding
    | some nb =>
      obtain ⟨binding', hmem', -, hfound⟩ := hw.bindingOf_declaring hvalid hb hv hdecl
      rw [hfound] at hbinding
      exact ⟨binding', hmem', by rw [Option.some.inj hbinding]⟩
  · rintro ⟨binding, hbinding, rfl⟩
    obtain ⟨nb, hnb, hplan⟩ := hb.declared_by hvalid hbinding
    obtain ⟨v, hv, hdecl⟩ := List.mem_filterMap.1 hnb
    obtain ⟨binding', -, hplan', hfound⟩ := hw.bindingOf_declaring hvalid hb hv hdecl
    exact ⟨_, ⟨v, hv, rfl⟩, binding', hfound, by rw [hplan, hplan']⟩

theorem Wirable.wires (hyaml : ∀ m, y.deserialize (y.serialize m) = some m)
    (hvalid : validateStreamRuntimeContract y session = none) (hw : Wirable y session)
    (hb : BuiltFor y session bindings) : Wires y session bindings := by
  obtain ⟨text, htext⟩ := (normalizeGraphContent_ok_iff y session.grcContent bindings).2
    ⟨hw.ports, fun root hroot blocks hblocks => by
      have := hw.injectedCount_eq hvalid hb
      simpa [graphBlocks, hroot, hblocks] using this⟩
  refine ⟨text, htext, ?_⟩
  rw [graphBlocks_of_ok hyaml htext, List.forall₂_map_right_iff, List.forall₂_same]
  intro v hv
  unfold Wired
  cases hdecl : declaring v with
  | none => exact injectValue_of_none (hw.bindingOf_other hb hv hdecl)
  | some nb =>
    obtain ⟨binding, hbinding, hplan, hfound⟩ := hw.bindingOf_declaring hvalid hb hv hdecl
    obtain ⟨block, rfl, -⟩ := map_of_declaring hdecl
    exact ⟨binding, hbinding, by rw [hplan]; rfl, injectValue_of_some hfound⟩

/-! ## Endpoints no block has yet -/

/-- An internal binding whose endpoint is `n` characters long. -/
def internalOfLength (n : Nat) : InternalStreamBinding where
  protocol := []
  host := []
  port := 0
  path := []
  endpoint := List.replicate n (chr 'x')

theorem exists_longer (used : List Value) : ∃ n, ∀ s, .str s ∈ used → s.length < n := by
  induction used with
  | nil => exact ⟨0, by simp⟩
  | cons v used ih =>
    obtain ⟨n, hn⟩ := ih
    cases v with
    | str s =>
      refine ⟨n + s.length + 1, fun t ht => ?_⟩
      obtain heq | hmem := List.mem_cons.1 ht
      · cases heq
        omega
      · have := hn t hmem
        omega
    | _ => exact ⟨n, fun t ht => hn t (by simpa using ht)⟩

theorem exists_builtFor (y : Yaml) (session : Session) (used : List Value) :
    ∃ bindings, BuiltFor y session bindings ∧
      ∀ binding ∈ bindings, .str binding.internal.endpoint ∉ used := by
  obtain ⟨n, hn⟩ := exists_longer used
  have hlen : ((List.range (planStreams y session).length).map
      fun k => internalOfLength (n + k)).length = (planStreams y session).length := by simp
  refine ⟨_, ⟨⟨_, hlen, rfl⟩, ?_⟩, fun binding hbinding hused => ?_⟩
  · rw [map_endpoint_zipWith hlen, List.map_map]
    refine List.Nodup.map (fun a b hab => ?_) List.nodup_range
    have := congrArg List.length hab
    simp only [Function.comp_apply, internalOfLength, List.length_replicate] at this
    omega
  · have hmem := List.mem_map_of_mem (f := fun b : RuntimeStreamBinding => b.internal.endpoint)
      hbinding
    rw [map_endpoint_zipWith hlen, List.map_map, List.mem_map] at hmem
    obtain ⟨k, -, hk⟩ := hmem
    have := hn _ hused
    rw [← hk] at this
    simp only [Function.comp_apply, internalOfLength, List.length_replicate] at this
    omega

/-! ## When every list of bindings wires the graph -/

/-- The endpoints the blocks have without any binding. -/
def authoredEndpoints (y : Yaml) (content : Str) : List Value :=
  (graphBlocks y content).filterMap fun v => endpointOf (normalizeValue v)

/-- With endpoints of their own, a wired graph has given each declaring block
the binding of its stream. -/
theorem bindingOf_of_wires (hyaml : ∀ m, y.deserialize (y.serialize m) = some m)
    (hvalid : validateStreamRuntimeContract y session = none) (hb : BuiltFor y session bindings)
    (hfresh : ∀ binding ∈ bindings,
      .str binding.internal.endpoint ∉ authoredEndpoints y session.grcContent)
    (h : Wires y session bindings) :
    ∀ v ∈ graphBlocks y session.grcContent,
      (∀ nb, declaring v = some nb → ∃ binding ∈ bindings, binding.plan = planEntry session.id nb ∧
        bindingOf bindings (normalizeValue v) = some binding) ∧
      (declaring v = none → bindingOf bindings (normalizeValue v) = none) := by
  obtain ⟨text, htext, hall⟩ := h
  rw [graphBlocks_of_ok hyaml htext, List.forall₂_map_right_iff, List.forall₂_same] at hall
  intro v hv
  have hwired := hall v hv
  have hauthored : ∀ binding ∈ bindings,
      endpointOf (normalizeValue v) ≠ some (.str binding.internal.endpoint) := fun binding hmem he =>
    hfresh binding hmem (List.mem_filterMap.2 ⟨v, hv, he⟩)
  unfold Wired at hwired
  refine ⟨fun nb hnb => ?_, fun hnone => ?_⟩
  · obtain ⟨block, rfl, -⟩ := map_of_declaring hnb
    simp only [hnb] at hwired
    obtain ⟨binding, hbinding, hid, hendpoint⟩ := hwired
    cases hfound : bindingOf bindings (normalizeValue (.map block)) with
    | none =>
      rw [injectValue_of_none hfound] at hendpoint
      exact absurd hendpoint (hauthored binding hbinding)
    | some given =>
      have hgiven := mem_of_bindingOf hfound
      rw [injectValue_of_some hfound] at hendpoint
      have heq : given = binding := List.inj_on_of_nodup_map hb.endpoints hgiven hbinding
        (Value.str.inj (Option.some.inj hendpoint))
      obtain ⟨own, -, hplan, hunique⟩ := hb.binding_of hvalid (List.mem_filterMap.2 ⟨_, hv, hnb⟩)
      exact ⟨given, hgiven, by rw [heq, hunique binding hbinding hid, hplan], rfl⟩
  · simp only [hnone] at hwired
    by_cases hmap : ∃ block, v = .map block
    · obtain ⟨block, rfl⟩ := hmap
      cases hfound : bindingOf bindings (normalizeValue (.map block)) with
      | none => rfl
      | some given =>
        have hgiven := mem_of_bindingOf hfound
        have hendpoint := injectValue_of_some hfound
        rw [hwired] at hendpoint
        exact absurd hendpoint (hauthored given hgiven)
    · cases v <;> first | rfl | exact absurd ⟨_, rfl⟩ hmap

/-- The name under which a declaring block was found is its domain name. -/
theorem runtimeName_of_bindingOf {block : PropertyMap} {binding : RuntimeStreamBinding}
    (h : bindingOf bindings (normalizeValue (.map block)) = some binding) :
    runtimeName block = some binding.plan.blockInstanceName := by
  rw [bindingOf_normalizeValue, Option.bind_eq_some_iff] at h
  obtain ⟨name, hname, hfind⟩ := h
  have heq : binding.plan.blockInstanceName = name := by simpa using List.find?_some hfind
  rw [hname, heq]

theorem wirable_of_wires (hyaml : ∀ m, y.deserialize (y.serialize m) = some m)
    (hvalid : validateStreamRuntimeContract y session = none)
    (h : ∀ bindings, BuiltFor y session bindings → Wires y session bindings) :
    Wirable y session := by
  obtain ⟨bindings, hb, hfresh⟩ :=
    exists_builtFor y session (authoredEndpoints y session.grcContent)
  have hwires := h bindings hb
  have hfound := bindingOf_of_wires hyaml hvalid hb hfresh hwires
  obtain ⟨hwf, hids⟩ := declaringBlocks_wellFormed hvalid
  -- every declaring block is found under its domain name
  have hnamed : ∀ nb ∈ declaringBlocks (graphBlocks y session.grcContent),
      ∃ binding ∈ bindings, binding.plan = planEntry session.id nb ∧
        bindings.find? (fun b => b.plan.blockInstanceName == nb.instanceName) = some binding := by
    intro nb hnb
    obtain ⟨v, hv, hdecl⟩ := List.mem_filterMap.1 hnb
    obtain ⟨binding, hbinding, hplan, hof⟩ := (hfound v hv).1 nb hdecl
    obtain ⟨block, rfl, -⟩ := map_of_declaring hdecl
    have hname := runtimeName_of_bindingOf hof
    rw [bindingOf_normalizeValue, hname, hplan] at hof
    exact ⟨binding, hbinding, hplan, hof⟩
  refine ⟨?_, ?_, ?_, ?_⟩
  · intro block hv hsome
    obtain ⟨nb, hdecl⟩ := Option.isSome_iff_exists.1 hsome
    obtain ⟨block', hblock, hnormal⟩ := map_of_declaring hdecl
    obtain rfl := Value.map.inj hblock
    have hmem : nb ∈ declaringBlocks (graphBlocks y session.grcContent) :=
      List.mem_filterMap.2 ⟨_, hv, hdecl⟩
    have hauthored := authoredName_of_declaring hnormal (hwf nb hmem).instanceName
    obtain ⟨binding, -, hplan, hof⟩ := (hfound _ hv).1 nb hdecl
    refine (namesMeet_iff hauthored).1 ?_
    rw [runtimeName_of_bindingOf hof, hplan]
    rfl
  · rw [planStreams_eq hvalid, List.map_map]
    refine List.Nodup.map_on (fun a ha b hb' hab => ?_) (List.Nodup.of_map _ hids)
    obtain ⟨binding, -, hplan, hfind⟩ := hnamed a ha
    obtain ⟨binding', -, hplan', hfind'⟩ := hnamed b hb'
    -- one name finds one binding, and that is of one stream
    have hab' : a.instanceName = b.instanceName := hab
    rw [hab', hfind'] at hfind
    have hentry : planEntry session.id a = planEntry session.id b := by
      rw [← hplan, ← hplan', Option.some.inj hfind]
    exact List.inj_on_of_nodup_map hids ha hb' (congrArg (·.streamId) hentry)
  · intro block hv hnone entry hentry hname
    have hnot := (hfound _ hv).2 hnone
    rw [planStreams_eq hvalid] at hentry
    obtain ⟨nb, hnb, rfl⟩ := List.mem_map.1 hentry
    obtain ⟨binding, -, -, hfind⟩ := hnamed nb hnb
    rw [bindingOf_normalizeValue, hname, Option.bind_some] at hnot
    rw [show (planEntry session.id nb).blockInstanceName = nb.instanceName from rfl, hfind] at hnot
    cases hnot
  · obtain ⟨text, htext, -⟩ := hwires
    exact ((normalizeGraphContent_ok_iff y session.grcContent bindings).1 ⟨text, htext⟩).1

/-- **Wiring a graph, exactly.** For content without a contract error: the
graph is wired whatever list of bindings is built for its plan, if and only
if it is `Wirable`. -/
theorem injection_wires_iff (hyaml : ∀ m, y.deserialize (y.serialize m) = some m)
    (hvalid : validateStreamRuntimeContract y session = none) :
    (∀ bindings, BuiltFor y session bindings → Wires y session bindings) ↔ Wirable y session :=
  ⟨wirable_of_wires hyaml hvalid, fun hw _ hb => hw.wires hyaml hvalid hb⟩

end Session

/-! ## Two graphs -/

/-- A graph with one block, which has the given strings and declares a
websocket stream. -/
def sinkGraph (keys : List (Str × Str)) : PropertyMap :=
  [(str "blocks", .tensor [.map (keys.map (fun (key, s) => (key, .str s)) ++
    [(str "parameters", .map [(str "stream", .map [(str "transport", .str (str "websocket")),
      (str "payload_format", .str (str "f32"))])])])])]

def sinkGraphText (keys : List (Str × Str)) : Str :=
  str "blocks:\n  -" ++
    keys.flatMap (fun (key, s) => str " " ++ key ++ str ": " ++ s ++ str "\n   ") ++
    str " parameters:\n      stream:\n        transport: websocket\n        payload_format: f32\n"

noncomputable def sinkGraphYaml (keys : List (Str × Str)) : Yaml :=
  readingBack (sinkGraphText keys) (sinkGraph keys)

theorem sinkGraphYaml_reads (keys : List (Str × Str)) :
    (sinkGraphYaml keys).deserialize (sinkGraphText keys) = some (sinkGraph keys) :=
  readingBack_reads _ _

theorem sinkGraphYaml_lawful (keys : List (Str × Str)) (m : PropertyMap) :
    (sinkGraphYaml keys).deserialize ((sinkGraphYaml keys).serialize m) = some m := by
  have hmem : chr 'b' ∈ sinkGraphText keys := by
    rw [sinkGraphText, List.append_assoc]
    exact List.mem_append_left _ (by decide)
  exact readingBack_lawful hmem (by decide) _ _

def sinkGraphSession (keys : List (Str × Str)) : Session where
  id := str "sess_0000000000000007"
  name := []
  grcContent := sinkGraphText keys
  schedulerAlias := none
  state := .stopped
  lastError := none
  createdAt := 0
  updatedAt := 0

theorem graphBlocks_sinkGraph (keys : List (Str × Str)) :
    graphBlocks (sinkGraphYaml keys) (sinkGraphSession keys).grcContent =
      ((blocksOf (sinkGraph keys)).getD []) := by
  simp [graphBlocks, sinkGraphYaml_reads, sinkGraphSession]

theorem graphConnections_sinkGraph (keys : List (Str × Str)) :
    graphConnections (sinkGraphYaml keys) (sinkGraphSession keys).grcContent = [] := by
  have hkey : (str "connections" == str "blocks") = false := by decide
  simp [graphConnections, sinkGraphYaml_reads, sinkGraphSession, connectionsOf, sinkGraph,
    List.lookup_cons, hkey]

/-- A binding for the stream of a block, on port 40000. -/
def bindingOnPort (nb : NormalizedBlock) : RuntimeStreamBinding :=
  makeBinding (planEntry (str "sess_0000000000000007") nb) (websocketBinding.on 40000)

section Samples

variable {keys : List (Str × Str)} {nb : NormalizedBlock}

theorem sinkGraph_valid
    (h : validateLoop ((blocksOf (sinkGraph keys)).getD []) [] = none) :
    validateStreamRuntimeContract (sinkGraphYaml keys) (sinkGraphSession keys) = none := by
  rw [validate_eq, ← h, ← graphBlocks_sinkGraph]
  rfl

theorem sinkGraph_planStreams (h : validateLoop ((blocksOf (sinkGraph keys)).getD []) [] = none)
    (hnb : declaringBlocks ((blocksOf (sinkGraph keys)).getD []) = [nb]) :
    planStreams (sinkGraphYaml keys) (sinkGraphSession keys) =
      [planEntry (str "sess_0000000000000007") nb] := by
  rw [planStreams_eq (sinkGraph_valid h), graphBlocks_sinkGraph, hnb]
  rfl

theorem sinkGraph_builtFor (h : validateLoop ((blocksOf (sinkGraph keys)).getD []) [] = none)
    (hnb : declaringBlocks ((blocksOf (sinkGraph keys)).getD []) = [nb]) :
    BuiltFor (sinkGraphYaml keys) (sinkGraphSession keys) [bindingOnPort nb] := by
  refine ⟨⟨[websocketBinding.on 40000], ?_⟩, by simp⟩
  rw [sinkGraph_planStreams h hnb]
  exact ⟨rfl, rfl⟩

end Samples

/-- A studio block: its type under `block`, its node id under `id`. -/
def studioKeys : List (Str × Str) := [(str "id", str "series0"), (str "block", str "StudioSink")]

/-- A block whose type is its `id`, with a name of its own. -/
def typedKeys : List (Str × Str) := [(str "id", str "StudioSink"), (str "name", str "series0")]

def sinkStream (blockType : Str) : NormalizedBlock where
  blockTypeId := blockType
  instanceName := str "series0"
  stream :=
    { declared := true
      streamId := none
      transport := some (str "websocket")
      payloadFormat := some (str "f32") }

theorem studio_sink_wired :
    Wires (sinkGraphYaml studioKeys) (sinkGraphSession studioKeys)
      [bindingOnPort (sinkStream (str "StudioSink"))] := by
  have hloop : validateLoop ((blocksOf (sinkGraph studioKeys)).getD []) [] = none := by
    decide +kernel
  have hnb : declaringBlocks ((blocksOf (sinkGraph studioKeys)).getD []) =
      [sinkStream (str "StudioSink")] := by
    decide +kernel
  refine (injection_wires_iff (sinkGraphYaml_lawful studioKeys) (sinkGraph_valid hloop)).2
    ⟨?_, ?_, ?_, ?_⟩ _ (sinkGraph_builtFor hloop hnb)
  · intro block hv _
    rw [graphBlocks_sinkGraph] at hv
    obtain rfl := Value.map.inj (List.mem_singleton.1 hv)
    unfold NamesMeet
    decide +kernel
  · rw [sinkGraph_planStreams hloop hnb]
    simp
  · intro block hv hnone
    rw [graphBlocks_sinkGraph] at hv
    obtain rfl := Value.map.inj (List.mem_singleton.1 hv)
    exact absurd hnone (by decide +kernel)
  · rw [graphConnections_sinkGraph]
    simp

/-- The domain layer derives the name `series0` from `name`; the runtime
takes the `id`, which is the block's type, and finds no block. -/
theorem typed_sink_not_wired :
    validateStreamRuntimeContract (sinkGraphYaml typedKeys) (sinkGraphSession typedKeys) = none ∧
      BuiltFor (sinkGraphYaml typedKeys) (sinkGraphSession typedKeys)
        [bindingOnPort (sinkStream (str "StudioSink"))] ∧
      normalizeGraphContent (sinkGraphYaml typedKeys) (sinkGraphText typedKeys)
          [bindingOnPort (sinkStream (str "StudioSink"))] =
        .error (.std (str "failed to inject all managed stream bindings into runtime graph")) ∧
      ¬ Wires (sinkGraphYaml typedKeys) (sinkGraphSession typedKeys)
        [bindingOnPort (sinkStream (str "StudioSink"))] := by
  have hloop : validateLoop ((blocksOf (sinkGraph typedKeys)).getD []) [] = none := by
    decide +kernel
  have hnb : declaringBlocks ((blocksOf (sinkGraph typedKeys)).getD []) =
      [sinkStream (str "StudioSink")] := by
    decide +kernel
  have hrewired : rewriteConnections (rewriteBlocks (sinkGraph typedKeys)).1 =
      .ok ((rewriteBlocks (sinkGraph typedKeys)).1, false) := by
    decide +kernel
  have hinject : injectStreamBindings (rewriteBlocks (sinkGraph typedKeys)).1
      [bindingOnPort (sinkStream (str "StudioSink"))] =
      .error (.std (str "failed to inject all managed stream bindings into runtime graph")) := by
    decide +kernel
  have hthrows : normalizeGraphContent (sinkGraphYaml typedKeys) (sinkGraphText typedKeys)
      [bindingOnPort (sinkStream (str "StudioSink"))] =
      .error (.std (str "failed to inject all managed stream bindings into runtime graph")) := by
    simp only [normalizeGraphContent, sinkGraphYaml_reads, hrewired, hinject]
  refine ⟨sinkGraph_valid hloop, sinkGraph_builtFor hloop hnb, hthrows, ?_⟩
  rintro ⟨text, htext, -⟩
  cases hthrows.symm.trans htext

end Gr4cp.Runtime

import Gr4ControlPlane.L1Domain.JsonReading
import Gr4ControlPlane.L3Catalog.ReflectionWorker

/-!
# What a reflection gives (`reflect_block_in_subprocess`)

The parent takes what it has read for the descriptor, if the child has exited
with 0. A child whose write fails exits so too, and has written a part only;
but no JSON reader takes a part of an object's text for an object.

* `reflection_answers`: in every run, whatever fails or crashes, a
  descriptor that is returned is the one the child has made.
* `reflection_completes`: where nothing fails, the call returns the
  descriptor, or says that reflecting has failed.
-/
namespace Gr4cp.Catalog

open Gr4cp.Core Gr4cp.Domain

/-! ## What the parent reads -/

/-- JSON has no text for a number that is not finite. -/
def defaultAsRead : BlockParameterDefault → BlockParameterDefault
  | .double d => if d.isFinite then .double d else .null
  | value => value

def parameterAsRead (parameter : BlockParameterDescriptor) : BlockParameterDescriptor :=
  { parameter with defaultValue := defaultAsRead parameter.defaultValue }

/-- The descriptor the parent reads for a descriptor. -/
def asRead (block : BlockDescriptor) : BlockDescriptor :=
  { block with parameters := block.parameters.map parameterAsRead }

theorem nulled_optional {α : Type} {write : α → Json}
    (h : ∀ a, (write a).any Json.textless = false) (field : Option α) :
    (field.map write).map Json.nulled = field.map write := by
  cases field with
  | none => rfl
  | some a => simp [Json.nulled_eq _ (h a)]

theorem nulled_items {α : Type} {write write' : α → Json} {as : List α}
    (h : ∀ a ∈ as, (write a).nulled = write' a) :
    (Json.arr (as.map write)).nulled = .arr (as.map write') := by
  have hitems : Json.nulledItems (as.map write) = as.map write' := by
    induction as with
    | nil => rfl
    | cons a as ih =>
      rw [List.map_cons, Json.nulledItems, h a (by simp), ih fun b hb => h b (by simp [hb])]
      rfl
  rw [Json.nulled, hitems]

theorem defaultToJson_nulled (value : BlockParameterDefault) :
    (defaultToJson value).nulled = defaultToJson (defaultAsRead value) := by
  cases value with
  | double d => cases h : d.isFinite <;> simp [defaultToJson, defaultAsRead, Json.nulled, h]
  | _ => rfl

theorem parameterToJson_nulled (parameter : BlockParameterDescriptor) :
    (parameterToJson parameter).nulled = parameterToJson (parameterAsRead parameter) := by
  have hstr : ∀ field : Option Str, (field.map Json.str).map Json.nulled = field.map .str :=
    nulled_optional fun _ => rfl
  have hbool : ∀ field : Option Bool, (field.map Json.bool).map Json.nulled = field.map .bool :=
    nulled_optional fun _ => rfl
  have hchoices : ∀ field : Option (List Str),
      (field.map fun choices => Json.arr (choices.map .str)).map Json.nulled =
        field.map fun choices => Json.arr (choices.map .str) :=
    nulled_optional fun choices => textless_passes.items fun _ _ => rfl
  have hlabels : (labelsToJson parameter.enumLabels).map Json.nulled =
      labelsToJson parameter.enumLabels := by
    cases h : labelsToJson parameter.enumLabels with
    | none => rfl
    | some j =>
      simp [Json.nulled_eq _ (labelsToJson_passes textless_passes parameter.enumLabels j h)]
  rw [parameterToJson, Json.nulled_ofFields, parameterToJson]
  simp only [parameterFields, parameterAsRead, List.map_cons, List.map_nil, Option.map_some,
    hstr, hbool, hchoices, hlabels, defaultToJson_nulled, Json.nulled]

theorem toJson_asRead (block : BlockDescriptor) :
    (toJson block).nulled = toJson (asRead block) := by
  have hports : ∀ ports : List BlockPortDescriptor,
      (Json.arr (ports.map portToJson)).nulled = .arr (ports.map portToJson) := fun ports =>
    nulled_items fun port _ => Json.nulled_eq _ (portToJson_passes textless_passes port)
  have hparameters : (Json.arr (block.parameters.map parameterToJson)).nulled =
      .arr (block.parameters.map fun parameter => parameterToJson (parameterAsRead parameter)) :=
    nulled_items fun parameter _ => parameterToJson_nulled parameter
  have hstr : (block.canonicalType.map Json.str).map Json.nulled = block.canonicalType.map .str :=
    nulled_optional (fun _ => rfl) _
  have htext : ∀ s, (Json.str s).nulled = .str s := fun _ => rfl
  have htree : (blockToTree block).nulled = blockToTree (asRead block) := by
    rw [blockToTree, Json.nulled_ofFields, blockToTree]
    simp only [blockFields, asRead, List.map_cons, List.map_nil, List.cons_append, List.nil_append,
      Option.map_some, hports, hparameters, hstr, htext, List.map_map]
    rfl
  simp only [JsonValue.nulled, toJson, htree]

theorem asRead_textless (block : BlockDescriptor) :
    (blockToTree (asRead block)).any Json.textless = false := by
  refine blockToTree_passes textless_passes fun parameter hmem d hvalue => ?_
  obtain ⟨parameter', -, rfl⟩ := List.mem_map.1 hmem
  simp only [parameterAsRead] at hvalue
  cases hdefault : parameter'.defaultValue with
  | double d' =>
    cases hfinite : d'.isFinite with
    | true =>
      simp only [defaultAsRead, hdefault, hfinite, if_true, BlockParameterDefault.double.injEq]
        at hvalue
      rw [← hvalue, Json.textless, hfinite]
      rfl
    | false => simp [defaultAsRead, hdefault, hfinite] at hvalue
  | _ => simp [defaultAsRead, hdefault] at hvalue

/-- The text of a descriptor is read as the descriptor. -/
theorem parse_dump {json : JsonText} (hjson : json.Conforms) {block : BlockDescriptor}
    (hcanonical : block.canonicalType ≠ some []) {text : Str}
    (h : json.dump (toJson block) = some text) :
    parseBlockDescriptor json text = .ok (asRead block) := by
  rw [hjson.nulls, toJson_asRead] at h
  obtain ⟨value, hvalue, hsame⟩ := hjson.reads _ text (asRead_textless block) h
  rw [parseBlockDescriptor, hvalue]
  exact parseTree_same hcanonical value.keys hsame

/-- A part of a descriptor's text that is read is all of it. -/
theorem parse_part {json : JsonText} (hjson : json.Conforms) {block : BlockDescriptor}
    {payload rest : Str} (h : json.dump (toJson block) = some (payload ++ rest))
    {d : BlockDescriptor} (hparse : parseBlockDescriptor json payload = .ok d) : rest = [] := by
  by_contra hrest
  have hcut : json.parse payload = none := by
    refine hjson.whole (toJson block) _ payload rfl h (List.prefix_append payload rest)
      fun heq => ?_
    exact hrest (List.self_eq_append_right.1 heq)
  rw [parseBlockDescriptor, hcut] at hparse
  cases hparse

/-! ## When nothing fails -/

/-- The code the child has set out to exit with. -/
def ChildPc.code : ChildPc → Option Nat
  | .closing code | .exiting code | .ended (.exited code) => some code
  | _ => none

def ReflectionTask.smoothOutcome (t : ReflectionTask) : Except CatalogLoadError BlockDescriptor :=
  match t.dumped with
  | some text => t.outcome (.exited 0) text
  | none => .error t.failedError

structure SmoothInv (t : ReflectionTask) (s : Worker) : Prop where
  read : s.parent ≠ .readFailed
  reap : s.parent ≠ .reaping
  back : s.child ≠ .stalled
  child : ∀ signal, s.child ≠ .ended (.signaled signal)
  whole : s.child.code = some 0 → ∀ payload, s.parent.payload = some payload →
    t.dumped = some (payload ++ s.held)
  outcome : ∀ result, s.parent = .returned result → result = t.smoothOutcome

def smoothWorker (t : ReflectionTask) : LTS Worker WorkerEvent :=
  (reflectionWorker t).restrict fun _ l => l.smooth = true

section Smooth

variable {t : ReflectionTask} {s s' : Worker}

theorem parent_smooth {e : ParentEvent} (hi : WorkerInv t s) (hm : SmoothInv t s)
    (hsmooth : (WorkerEvent.parent e).smooth = true) (h : parentStep t s e = some s') :
    SmoothInv t s' := by
  obtain ⟨hread, hreap, hback, hchild, hwhole, houtcome⟩ := hm
  cases parentStep_cases h with
  | pipe hpc => exact ⟨by simp, by simp, hback, hchild, by simp [ParentPc.payload], by simp⟩
  | fork hpc => exact ⟨by simp, by simp, by simp, by simp, by simp [ChildPc.code], by simp⟩
  | closeWrite hpc =>
    rw [hpc] at hwhole
    exact ⟨by simp, by simp, hback, hchild, hwhole, by simp⟩
  | @read payload n hpc =>
    rw [hpc] at hwhole
    refine ⟨by simp, by simp, hback, hchild, fun hcode => ?_, by simp⟩
    rintro payload' ⟨⟩
    simpa using hwhole hcode payload rfl
  | readEnd hpc | closeDrained hpc =>
    rw [hpc] at hwhole
    exact ⟨by simp, by simp, hback, hchild, hwhole, by simp⟩
  | closeFailed hpc => exact absurd hpc hread
  | reap hpc => exact absurd hpc hreap
  | @wait payload status hpc hended =>
    refine ⟨by simp, by simp, hback, hchild, by simp [ParentPc.payload], fun result hresult => ?_⟩
    simp only [ParentPc.returned.injEq] at hresult
    have hheld := (hi.drained (by rw [hpc]; rfl)).1
    have hsent := hi.sent payload (by rw [hpc]; rfl)
    rw [hended] at hsent
    cases status with
    | signaled signal => exact absurd hended (hchild signal)
    | exited code =>
      obtain ⟨rfl, -⟩ | ⟨hcode, hnone, -⟩ := hsent
      · have htext := hwhole (by rw [hended]; rfl) payload (by rw [hpc]; rfl)
        rw [hheld, List.append_nil] at htext
        rw [← hresult, ReflectionTask.smoothOutcome, htext]
      · rw [← hresult, ReflectionTask.smoothOutcome, hnone, ReflectionTask.outcome, if_pos hcode]
  | pipeFails | forkFails | readFails | reapFails | waitFails => cases hsmooth

theorem child_smooth {e : ChildEvent} (hi : WorkerInv t s) (hm : SmoothInv t s)
    (hsmooth : (WorkerEvent.child e).smooth = true) (h : childStep t s e = some s') :
    SmoothInv t s' := by
  obtain ⟨hread, hreap, hback, hchild, hwhole, houtcome⟩ := hm
  cases childStep_cases h with
  | closeRead hpc | reflect hpc _ | throws hpc _ | write hpc _ _ _ _ =>
    exact ⟨hread, hreap, by simp, by simp, by simp [ChildPc.code], houtcome⟩
  | closeWritten hpc =>
    refine ⟨hread, hreap, by simp, by simp, fun _ payload hpayload => ?_, houtcome⟩
    have hsent := hi.sent payload hpayload
    rw [hpc] at hsent
    simpa [Sent] using hsent
  | closeWrite hpc | exit hpc =>
    rw [hpc] at hwhole
    exact ⟨hread, hreap, by simp, by simp, hwhole, houtcome⟩
  | stall | writeFails | crash => cases hsmooth

theorem smooth_inductive (t : ReflectionTask) :
    (smoothWorker t).Inductive fun s => WorkerInv t s ∧ SmoothInv t s where
  init s h := by
    obtain rfl : s = .start := h
    exact ⟨WorkerInv.start, by simp [Worker.start], by simp [Worker.start], by simp [Worker.start],
      by simp [Worker.start], by simp [Worker.start, ChildPc.code], by simp [Worker.start]⟩
  step s l s' hi h := by
    refine ⟨(workerInv_inductive t).step s l s' hi.1 h.1, ?_⟩
    cases l with
    | parent e => exact parent_smooth hi.1 hi.2 h.2 h.1
    | child e => exact child_smooth hi.1 hi.2 h.2 h.1

theorem smooth_ends (t : ReflectionTask) :
    (smoothWorker t).Ends (fun s => WorkerInv t s ∧ SmoothInv t s) Worker.over (workerRank t) where
  inv := smooth_inductive t
  ranked s l s' hi h := worker_ranked t s l s' hi.1 h.1
  free s hi hover := by
    obtain ⟨l, hstep, -, hsmooth⟩ := worker_goes_on hi.1 hi.2.back hover
    obtain ⟨s', hstep⟩ := Option.isSome_iff_exists.1 hstep
    exact ⟨l, s', hstep, hsmooth hi.2.reap⟩

/-- The outcome of a call in which nothing fails. -/
theorem smoothOutcome_eq (hjson : t.json.Conforms)
    (hcanonical : ∀ block, t.reflected = some block → block.canonicalType ≠ some []) :
    t.smoothOutcome = match t.reflected with
      | some block =>
        if (blockToTree block).any Json.badText = false then .ok (asRead block)
        else .error t.failedError
      | none => .error t.failedError := by
  cases hreflected : t.reflected with
  | none =>
    have hnone : t.dumped = none := by simp [ReflectionTask.dumped, hreflected]
    simp only [ReflectionTask.smoothOutcome, hnone]
  | some block =>
    have hdumped : t.dumped = t.json.dump (toJson block) := by
      simp [ReflectionTask.dumped, hreflected]
    have hdumps : (∃ text, t.json.dump (toJson block) = some text) ↔
        (blockToTree block).any Json.badText = false := hjson.dumps (toJson block)
    simp only [ReflectionTask.smoothOutcome, hdumped]
    cases htext : t.json.dump (toJson block) with
    | none =>
      have hbad : ¬ (blockToTree block).any Json.badText = false := by
        intro h
        obtain ⟨text, h⟩ := hdumps.2 h
        rw [htext] at h
        cases h
      rw [if_neg hbad]
    | some text =>
      have hparse := parse_dump hjson (hcanonical block hreflected) htext
      have hne : text.isEmpty = false := by
        cases text with
        | nil =>
          rw [parseBlockDescriptor, hjson.empty] at hparse
          cases hparse
        | cons => rfl
      rw [if_pos (hdumps.1 ⟨text, htext⟩)]
      simp [ReflectionTask.outcome, hne, hparse]

end Smooth

/-- The call can end as it does when nothing fails. -/
theorem smooth_reaches (t : ReflectionTask) :
    ∃ s, (reflectionWorker t).Reachable s ∧ s.parent = .returned t.smoothOutcome := by
  have hends := smooth_ends t
  have hstart := hends.inv.init .start rfl
  obtain ⟨ls, s, h⟩ := hends.ranked.maximal_exists hends.inv hstart
  obtain ⟨result, hresult⟩ := hends.maximal h hstart
  refine ⟨s, ⟨.start, ls, rfl, h.run.unrestrict⟩, ?_⟩
  rw [hresult, (hends.inv.run h.run hstart).2.outcome result hresult]

/-- The library's own text of the block's descriptor. -/
noncomputable def gainTask : ReflectionTask where
  id := gainBlock.id
  json := conformingJson gainText (toJson gainBlock) gainValue
  reflected := some gainBlock
  capacity := 65536
  hasRoom := pipeCapacity_pos
  what _ := []

theorem gainTask_conforms : gainTask.json.Conforms :=
  conformingJson_conforms (c := chr '\x7b') (by decide +kernel) (by decide) (by decide)
    gainValue_same

theorem gainTask_canonical (block : BlockDescriptor) (h : gainTask.reflected = some block) :
    block.canonicalType ≠ some [] := by
  cases h
  decide

theorem gainTask_outcome : gainTask.smoothOutcome = .ok gainBlock := by
  have hbad : (blockToTree gainBlock).any Json.badText = false := by decide +kernel
  rw [smoothOutcome_eq gainTask_conforms gainTask_canonical]
  simp only [gainTask, hbad, if_true]
  rfl

section Results

variable {t : ReflectionTask}

/-- **A descriptor that comes back is the child's.** In every run, however
the processes take turns, in whatever portions the pipe is written and read,
and whatever fails or crashes on the way: when the call returns a
descriptor, reflecting has made one, this is it as JSON carries it, and the
child has exited with 0. -/
theorem reflection_answers (hjson : t.json.Conforms)
    (hcanonical : ∀ block, t.reflected = some block → block.canonicalType ≠ some [])
    {s : Worker} (hs : (reflectionWorker t).Reachable s) {d : BlockDescriptor}
    (hd : s.parent = .returned (.ok d)) :
    ∃ block, t.reflected = some block ∧ d = asRead block ∧ s.child = .ended (.exited 0) := by
  have hi := (workerInv_inductive t).reachable hs
  obtain ⟨hchild, payload, rest, htext, -, hparse⟩ := hi.answer d hd
  obtain ⟨block, hblock, hdump⟩ := Option.bind_eq_some_iff.1 htext
  obtain rfl := parse_part hjson hdump hparse
  rw [List.append_nil] at hdump
  rw [parse_dump hjson (hcanonical block hblock) hdump] at hparse
  cases hparse
  exact ⟨block, hblock, rfl, hchild⟩

theorem gain_answers : ∃ s, (reflectionWorker gainTask).Reachable s ∧
    s.parent = .returned (.ok gainBlock) ∧
    ∃ block, gainTask.reflected = some block ∧ gainBlock = asRead block ∧
      s.child = .ended (.exited 0) := by
  obtain ⟨s, hs, hreturned⟩ := smooth_reaches gainTask
  rw [gainTask_outcome] at hreturned
  exact ⟨s, hs, hreturned, reflection_answers gainTask_conforms gainTask_canonical hs hreturned⟩

/-- **Without faults the call does what it is for.** There are runs in which
nothing fails, and each of them that cannot go on has returned: the
descriptor as JSON carries it, if reflecting makes one whose texts are all
UTF-8, and otherwise the error that reflecting has failed. -/
theorem reflection_completes (hjson : t.json.Conforms)
    (hcanonical : ∀ block, t.reflected = some block → block.canonicalType ≠ some []) :
    (∃ ls s, (smoothWorker t).Maximal .start ls s) ∧
    ∀ ls s, (smoothWorker t).Maximal .start ls s →
      s.parent = .returned (match t.reflected with
        | some block =>
          if (blockToTree block).any Json.badText = false then .ok (asRead block)
          else .error t.failedError
        | none => .error t.failedError) := by
  have hends := smooth_ends t
  have hstart := hends.inv.init .start rfl
  refine ⟨hends.ranked.maximal_exists hends.inv hstart, fun ls s h => ?_⟩
  obtain ⟨result, hresult⟩ := hends.maximal h hstart
  rw [hresult, (hends.inv.run h.run hstart).2.outcome result hresult,
    smoothOutcome_eq hjson hcanonical]

theorem gain_completes :
    (∃ ls s, (smoothWorker gainTask).Maximal .start ls s) ∧
    ∀ ls s, (smoothWorker gainTask).Maximal .start ls s →
      s.parent = .returned (match gainTask.reflected with
        | some block =>
          if (blockToTree block).any Json.badText = false then .ok (asRead block)
          else .error gainTask.failedError
        | none => .error gainTask.failedError) :=
  reflection_completes gainTask_conforms gainTask_canonical

end Results

end Gr4cp.Catalog

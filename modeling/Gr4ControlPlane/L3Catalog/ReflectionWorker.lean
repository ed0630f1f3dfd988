import Gr4ControlPlane.Core.Progress
import Gr4ControlPlane.L3Catalog.BlockReflection

/-!
# The reflection worker (`reflect_block_in_subprocess`)

The code of a block may crash, so each block is reflected in a child process
that writes the descriptor into a pipe and exits. Parent and child run at
the same time; a pipe holds so many bytes, and either side takes what fits
or what is there. A write that fails ends the child's loop without a word,
and the child exits with 0 all the same. Nothing bounds the time a block's
code takes: the parent reads, or waits for the child, for as long.

* `WorkerInv`: which ends of the pipe are open, and where each byte of the
  descriptor's text is, in every run.
* `reflection_ends`: no run is endless, and none is stuck unless the block's
  code does not come back; when the call is over the child is reaped and
  both ends of the pipe are closed.
-/
namespace Gr4cp.Catalog

open Gr4cp.Core Gr4cp.Domain

/-! ## The two processes -/

structure CatalogLoadError where
  what : Str
  deriving DecidableEq, Repr

/-- The ends of the pipe a process has open. -/
structure PipeEnds where
  read : Bool
  write : Bool
  deriving DecidableEq, Repr

def PipeEnds.none : PipeEnds := ⟨false, false⟩

/-- What `waitpid` tells. -/
inductive WaitStatus where
  | exited (code : Nat)
  | signaled (signal : Nat)
  deriving DecidableEq, Repr

/-- Where the child is.
mirrors src/catalog/gr4_block_catalog_provider.cpp:1117-1128 -/
inductive ChildPc where
  | unborn
  | forked
  | reflecting
  /-- the block's code does not come back -/
  | stalled
  /-- in `write_all`, with what is still to be written -/
  | writing (rest : Str)
  | closing (code : Nat)
  | exiting (code : Nat)
  | ended (status : WaitStatus)
  deriving DecidableEq, Repr

/-- Where the parent is.
mirrors src/catalog/gr4_block_catalog_provider.cpp:1104-1169 -/
inductive ParentPc where
  | piping
  | forking
  /-- the child is there; the write end is still open -/
  | forked
  | reading (payload : Str)
  | readFailed
  | drained (payload : Str)
  | waiting (payload : Str)
  /-- waiting after a failed read -/
  | reaping
  | returned (result : Except CatalogLoadError BlockDescriptor)
  deriving DecidableEq

structure Worker where
  /-- the bytes in the pipe -/
  held : Str
  parentEnds : PipeEnds
  childEnds : PipeEnds
  parent : ParentPc
  child : ChildPc
  /-- `waitpid` has told how the child ended -/
  reaped : Bool
  deriving DecidableEq

def Worker.start : Worker := ⟨[], .none, .none, .piping, .unborn, false⟩

/-- A call of `reflect_block_in_subprocess`. -/
structure ReflectionTask where
  id : Str
  json : JsonText
  /-- what `reflect_block(id)` ends in, when the code it runs does not crash;
  `none` is a throw -/
  reflected : Option BlockDescriptor
  /-- how many bytes the pipe holds -/
  capacity : Nat
  hasRoom : 0 < capacity
  /-- the text of what the parser throws -/
  what : PayloadError → Str

namespace ReflectionTask

/-- mirrors src/catalog/gr4_block_catalog_provider.cpp:1120 -/
def dumped (t : ReflectionTask) : Option Str :=
  t.reflected.bind fun block => t.json.dump (toJson block)

def pipeError (t : ReflectionTask) : CatalogLoadError :=
  ⟨str "failed to create GNU Radio 4 reflection pipe for block: " ++ t.id⟩

def forkError (t : ReflectionTask) : CatalogLoadError :=
  ⟨str "failed to fork GNU Radio 4 reflection worker for block: " ++ t.id⟩

def readError (t : ReflectionTask) : CatalogLoadError :=
  ⟨str "failed to read GNU Radio 4 reflection payload for block: " ++ t.id⟩

def waitError (t : ReflectionTask) : CatalogLoadError :=
  ⟨str "failed to wait for GNU Radio 4 reflection worker for block: " ++ t.id⟩

def failedError (t : ReflectionTask) : CatalogLoadError :=
  ⟨str "GNU Radio 4 block reflection failed for block: " ++ t.id⟩

/-- mirrors src/catalog/gr4_block_catalog_provider.cpp:1152-1169 -/
def outcome (t : ReflectionTask) (status : WaitStatus) (payload : Str) :
    Except CatalogLoadError BlockDescriptor :=
  match status with
  | .signaled signal =>
    .error ⟨str "GNU Radio 4 block reflection crashed for block " ++ t.id ++ str " (signal " ++
      natStr signal ++ str ")"⟩
  | .exited code =>
    if code ≠ 0 then .error t.failedError
    else if payload.isEmpty then
      .error ⟨str "GNU Radio 4 block reflection returned empty payload for block: " ++ t.id⟩
    else
      match parseBlockDescriptor t.json payload with
      | .ok block => .ok block
      | .error e =>
        .error ⟨str "GNU Radio 4 block reflection returned invalid payload for block " ++ t.id ++
          str ": " ++ t.what e⟩

end ReflectionTask

inductive ParentEvent where
  | pipe | pipeFails | fork | forkFails
  | closeWrite
  /-- `read` gives so many bytes -/
  | read (count : Nat)
  /-- `read` gives 0 -/
  | readEnd
  /-- `read` gives -1 -/
  | readFails
  | closeRead
  | wait | waitFails
  deriving DecidableEq, Repr

inductive ChildEvent where
  | closeRead
  | reflect
  | stall
  /-- `write` takes so many bytes -/
  | write (count : Nat)
  /-- `write` gives -1 -/
  | writeFails
  | closeWrite
  | exit
  /-- a signal ends the process, wherever it is -/
  | crash (signal : Nat)
  deriving DecidableEq, Repr

/-- The bytes one `read` asks for. -/
def readSize : Nat := 4096

/-- mirrors src/catalog/gr4_block_catalog_provider.cpp:1104-1115,1130-1170 -/
def parentStep (t : ReflectionTask) (s : Worker) (e : ParentEvent) : Option Worker :=
  match s.parent, e with
  | .piping, .pipe => some { s with parent := .forking, parentEnds := ⟨true, true⟩ }
  | .piping, .pipeFails => some { s with parent := .returned (.error t.pipeError) }
  | .forking, .fork =>
    some { s with parent := .forked, child := .forked, childEnds := s.parentEnds }
  | .forking, .forkFails =>
    some { s with parent := .returned (.error t.forkError), parentEnds := .none }
  | .forked, .closeWrite =>
    some { s with parent := .reading [], parentEnds := { s.parentEnds with write := false } }
  | .reading payload, .read n =>
    if 0 < n ∧ n ≤ readSize ∧ n ≤ s.held.length then
      some { s with parent := .reading (payload ++ s.held.take n), held := s.held.drop n }
    else none
  | .reading payload, .readEnd =>
    -- the end of the data: the pipe is empty and nobody can write to it
    if s.held = [] ∧ s.parentEnds.write = false ∧ s.childEnds.write = false then
      some { s with parent := .drained payload }
    else none
  | .reading _, .readFails => some { s with parent := .readFailed }
  | .readFailed, .closeRead =>
    some { s with parent := .reaping, parentEnds := { s.parentEnds with read := false } }
  | .drained payload, .closeRead =>
    some { s with parent := .waiting payload, parentEnds := { s.parentEnds with read := false } }
  | .reaping, .wait =>
    match s.child with
    | .ended _ => some { s with parent := .returned (.error t.readError), reaped := true }
    | _ => none
  | .reaping, .waitFails => some { s with parent := .returned (.error t.readError) }
  | .waiting payload, .wait =>
    match s.child with
    | .ended status =>
      some { s with parent := .returned (t.outcome status payload), reaped := true }
    | _ => none
  | .waiting _, .waitFails => some { s with parent := .returned (.error t.waitError) }
  | _, _ => none

/-- The process is there. -/
def ChildPc.alive : ChildPc → Bool
  | .unborn | .ended _ => false
  | _ => true

/-- A process that ends closes what it has open.
mirrors src/catalog/gr4_block_catalog_provider.cpp:1093-1102,1117-1128 -/
def childStep (t : ReflectionTask) (s : Worker) (e : ChildEvent) : Option Worker :=
  match s.child, e with
  | .forked, .closeRead =>
    some { s with child := .reflecting, childEnds := { s.childEnds with read := false } }
  | .reflecting, .reflect =>
    match t.dumped with
    | some text => some { s with child := .writing text }
    | none => some { s with child := .closing 2 }
  | .reflecting, .stall => some { s with child := .stalled }
  | .writing rest, .write n =>
    -- what fits, as long as somebody can read it
    if 0 < n ∧ n ≤ rest.length ∧ s.held.length + n ≤ t.capacity ∧
        (s.parentEnds.read = true ∨ s.childEnds.read = true) then
      some { s with child := .writing (rest.drop n), held := s.held ++ rest.take n }
    else none
  | .writing (_ :: _), .writeFails => some { s with child := .closing 0 }
  | .writing [], .closeWrite =>
    some { s with child := .exiting 0, childEnds := { s.childEnds with write := false } }
  | .closing code, .closeWrite =>
    some { s with child := .exiting code, childEnds := { s.childEnds with write := false } }
  | .exiting code, .exit => some { s with child := .ended (.exited code), childEnds := .none }
  | child, .crash signal =>
    if child.alive then
      some { s with child := .ended (.signaled signal), childEnds := .none }
    else none
  | _, _ => none

inductive WorkerEvent where
  | parent (e : ParentEvent)
  | child (e : ChildEvent)
  deriving DecidableEq, Repr

def workerStep (t : ReflectionTask) (s : Worker) : WorkerEvent → Option Worker
  | .parent e => parentStep t s e
  | .child e => childStep t s e

def reflectionWorker (t : ReflectionTask) : LTS Worker WorkerEvent :=
  .ofFn (· = .start) (workerStep t)

/-- Nothing fails, nothing crashes and the block's code comes back. -/
def WorkerEvent.smooth : WorkerEvent → Bool
  | .parent .pipeFails | .parent .forkFails | .parent .readFails | .parent .waitFails => false
  | .child .stall | .child .writeFails | .child (.crash _) => false
  | _ => true

/-- What the processes do unless something else befalls them; a write that
nobody can read fails. -/
def WorkerEvent.due : WorkerEvent → Bool
  | .child .writeFails => true
  | l => l.smooth

/-! ## What a step can do -/

inductive ParentStep (t : ReflectionTask) (s : Worker) : ParentEvent → Worker → Prop
  | pipe (h : s.parent = .piping) :
      ParentStep t s .pipe { s with parent := .forking, parentEnds := ⟨true, true⟩ }
  | pipeFails (h : s.parent = .piping) :
      ParentStep t s .pipeFails { s with parent := .returned (.error t.pipeError) }
  | fork (h : s.parent = .forking) :
      ParentStep t s .fork
        { s with parent := .forked, child := .forked, childEnds := s.parentEnds }
  | forkFails (h : s.parent = .forking) :
      ParentStep t s .forkFails
        { s with parent := .returned (.error t.forkError), parentEnds := .none }
  | closeWrite (h : s.parent = .forked) :
      ParentStep t s .closeWrite
        { s with parent := .reading [], parentEnds := { s.parentEnds with write := false } }
  | read {payload : Str} {n : Nat} (h : s.parent = .reading payload) (hn : 0 < n)
      (hsize : n ≤ readSize) (hheld : n ≤ s.held.length) :
      ParentStep t s (.read n)
        { s with parent := .reading (payload ++ s.held.take n), held := s.held.drop n }
  | readEnd {payload : Str} (h : s.parent = .reading payload) (hheld : s.held = [])
      (hparent : s.parentEnds.write = false) (hchild : s.childEnds.write = false) :
      ParentStep t s .readEnd { s with parent := .drained payload }
  | readFails {payload : Str} (h : s.parent = .reading payload) :
      ParentStep t s .readFails { s with parent := .readFailed }
  | closeFailed (h : s.parent = .readFailed) :
      ParentStep t s .closeRead
        { s with parent := .reaping, parentEnds := { s.parentEnds with read := false } }
  | closeDrained {payload : Str} (h : s.parent = .drained payload) :
      ParentStep t s .closeRead
        { s with parent := .waiting payload, parentEnds := { s.parentEnds with read := false } }
  | reap {status : WaitStatus} (h : s.parent = .reaping) (hchild : s.child = .ended status) :
      ParentStep t s .wait { s with parent := .returned (.error t.readError), reaped := true }
  | reapFails (h : s.parent = .reaping) :
      ParentStep t s .waitFails { s with parent := .returned (.error t.readError) }
  | wait {payload : Str} {status : WaitStatus} (h : s.parent = .waiting payload)
      (hchild : s.child = .ended status) :
      ParentStep t s .wait
        { s with parent := .returned (t.outcome status payload), reaped := true }
  | waitFails {payload : Str} (h : s.parent = .waiting payload) :
      ParentStep t s .waitFails { s with parent := .returned (.error t.waitError) }

theorem parentStep_cases {t : ReflectionTask} {s s' : Worker} {e : ParentEvent}
    (h : parentStep t s e = some s') : ParentStep t s e s' := by
  unfold parentStep at h
  split at h
  case h_1 hpc => cases h; exact .pipe hpc
  case h_2 hpc => cases h; exact .pipeFails hpc
  case h_3 hpc => cases h; exact .fork hpc
  case h_4 hpc => cases h; exact .forkFails hpc
  case h_5 hpc => cases h; exact .closeWrite hpc
  case h_6 payload n hpc =>
    split at h
    · rename_i hn
      cases h
      exact .read hpc hn.1 hn.2.1 hn.2.2
    · cases h
  case h_7 payload hpc =>
    split at h
    · rename_i hend
      cases h
      exact .readEnd hpc hend.1 hend.2.1 hend.2.2
    · cases h
  case h_8 payload hpc => cases h; exact .readFails hpc
  case h_9 hpc => cases h; exact .closeFailed hpc
  case h_10 payload hpc => cases h; exact .closeDrained hpc
  case h_11 hpc =>
    split at h
    · cases h; exact .reap hpc ‹_›
    · cases h
  case h_12 hpc => cases h; exact .reapFails hpc
  case h_13 payload hpc =>
    split at h
    · cases h; exact .wait hpc ‹_›
    · cases h
  case h_14 payload hpc => cases h; exact .waitFails hpc
  case h_15 => cases h

inductive ChildStep (t : ReflectionTask) (s : Worker) : ChildEvent → Worker → Prop
  | closeRead (h : s.child = .forked) :
      ChildStep t s .closeRead
        { s with child := .reflecting, childEnds := { s.childEnds with read := false } }
  | reflect {text : Str} (h : s.child = .reflecting) (htext : t.dumped = some text) :
      ChildStep t s .reflect { s with child := .writing text }
  | throws (h : s.child = .reflecting) (htext : t.dumped = none) :
      ChildStep t s .reflect { s with child := .closing 2 }
  | stall (h : s.child = .reflecting) : ChildStep t s .stall { s with child := .stalled }
  | write {rest : Str} {n : Nat} (h : s.child = .writing rest) (hn : 0 < n)
      (hrest : n ≤ rest.length) (hroom : s.held.length + n ≤ t.capacity)
      (hreader : s.parentEnds.read = true ∨ s.childEnds.read = true) :
      ChildStep t s (.write n)
        { s with child := .writing (rest.drop n), held := s.held ++ rest.take n }
  | writeFails {b : UInt8} {rest : Str} (h : s.child = .writing (b :: rest)) :
      ChildStep t s .writeFails { s with child := .closing 0 }
  | closeWritten (h : s.child = .writing []) :
      ChildStep t s .closeWrite
        { s with child := .exiting 0, childEnds := { s.childEnds with write := false } }
  | closeWrite {code : Nat} (h : s.child = .closing code) :
      ChildStep t s .closeWrite
        { s with child := .exiting code, childEnds := { s.childEnds with write := false } }
  | exit {code : Nat} (h : s.child = .exiting code) :
      ChildStep t s .exit { s with child := .ended (.exited code), childEnds := .none }
  | crash {signal : Nat} (h : s.child.alive = true) :
      ChildStep t s (.crash signal)
        { s with child := .ended (.signaled signal), childEnds := .none }

theorem childStep_cases {t : ReflectionTask} {s s' : Worker} {e : ChildEvent}
    (h : childStep t s e = some s') : ChildStep t s e s' := by
  unfold childStep at h
  split at h
  case h_1 hpc => cases h; exact .closeRead hpc
  case h_2 hpc =>
    split at h
    · cases h; exact .reflect hpc ‹_›
    · cases h; exact .throws hpc ‹_›
  case h_3 hpc => cases h; exact .stall hpc
  case h_4 rest n hpc =>
    split at h
    · rename_i hn
      cases h
      exact .write hpc hn.1 hn.2.1 hn.2.2.1 hn.2.2.2
    · cases h
  case h_5 b rest hpc => cases h; exact .writeFails hpc
  case h_6 hpc => cases h; exact .closeWritten hpc
  case h_7 code hpc => cases h; exact .closeWrite hpc
  case h_8 code hpc => cases h; exact .exit hpc
  case h_9 =>
    split at h
    · cases h; exact .crash ‹_›
    · cases h
  case h_10 => cases h

/-! ## What holds in every run -/

/-- The ends the parent has open. -/
def ParentPc.ends : ParentPc → PipeEnds
  | .piping | .waiting _ | .reaping | .returned _ => .none
  | .forking | .forked => ⟨true, true⟩
  | .reading _ | .readFailed | .drained _ => ⟨true, false⟩

/-- The ends the child has open. -/
def ChildPc.ends : ChildPc → PipeEnds
  | .forked => ⟨true, true⟩
  | .reflecting | .stalled | .writing _ | .closing _ => ⟨false, true⟩
  | .unborn | .exiting _ | .ended _ => .none

/-- What the parent has read, while it counts. -/
def ParentPc.payload : ParentPc → Option Str
  | .forked => some []
  | .reading payload | .drained payload | .waiting payload => some payload
  | _ => none

/-- The parent has a child to wait for. -/
def ParentPc.hasChild : ParentPc → Bool
  | .piping | .forking | .returned _ => false
  | _ => true

/-- The parent has seen the end of the data. -/
def ParentPc.sawEnd : ParentPc → Bool
  | .drained _ | .waiting _ => true
  | _ => false

/-- The text that went into the pipe, `sent`, against where the child is. -/
def Sent (t : ReflectionTask) (sent : Str) : ChildPc → Prop
  | .unborn | .forked | .reflecting | .stalled => sent = []
  | .writing rest => t.dumped = some (sent ++ rest)
  | .closing code | .exiting code | .ended (.exited code) =>
    code = 0 ∧ (∃ rest, t.dumped = some (sent ++ rest)) ∨ code ≠ 0 ∧ t.dumped = none ∧ sent = []
  | .ended (.signaled _) => True

structure WorkerInv (t : ReflectionTask) (s : Worker) : Prop where
  parentEnds : s.parentEnds = s.parent.ends
  childEnds : s.childEnds = s.child.ends
  alone : s.parent = .piping ∨ s.parent = .forking → s.child = .unborn ∧ s.held = []
  child : s.parent.hasChild = true → s.child ≠ .unborn
  sent : ∀ payload, s.parent.payload = some payload → Sent t (payload ++ s.held) s.child
  drained : s.parent.sawEnd = true → s.held = [] ∧ s.child.ends.write = false
  answer : ∀ block, s.parent = .returned (.ok block) → s.child = .ended (.exited 0) ∧
    ∃ payload rest, t.dumped = some (payload ++ rest) ∧ payload ≠ [] ∧
      parseBlockDescriptor t.json payload = .ok block

section Invariant

variable {t : ReflectionTask} {s s' : Worker}

theorem outcome_ok {status : WaitStatus} {payload : Str} {block : BlockDescriptor}
    (h : t.outcome status payload = .ok block) :
    status = .exited 0 ∧ payload ≠ [] ∧ parseBlockDescriptor t.json payload = .ok block := by
  unfold ReflectionTask.outcome at h
  cases status with
  | signaled signal => cases h
  | exited code =>
    simp only at h
    split at h
    · cases h
    · rename_i hcode
      split at h
      · cases h
      · rename_i hpayload
        split at h
        · rename_i block' hparse
          cases h
          refine ⟨?_, by simpa using hpayload, hparse⟩
          rw [not_not.1 hcode]
        · cases h

theorem WorkerInv.start : WorkerInv t .start where
  parentEnds := rfl
  childEnds := rfl
  alone _ := ⟨rfl, rfl⟩
  child h := by cases h
  sent _ h := by cases h
  drained h := by cases h
  answer _ h := by cases h

theorem parent_inv {e : ParentEvent} (hi : WorkerInv t s) (h : parentStep t s e = some s') :
    WorkerInv t s' := by
  obtain ⟨hparent, hchild, halone, hborn, hsent, hdrained, hanswer⟩ := hi
  cases parentStep_cases h with
  | pipe hpc =>
    exact ⟨rfl, hchild, fun _ => halone (.inl hpc), by simp [ParentPc.hasChild],
      by simp [ParentPc.payload], by simp [ParentPc.sawEnd], by simp⟩
  | pipeFails hpc =>
    rw [hpc] at hparent
    exact ⟨hparent, hchild, by simp, by simp [ParentPc.hasChild], by simp [ParentPc.payload],
      by simp [ParentPc.sawEnd], by simp⟩
  | fork hpc =>
    rw [hpc] at hparent
    refine ⟨hparent, hparent, by simp, by simp, ?_, by simp [ParentPc.sawEnd], by simp⟩
    rintro payload ⟨⟩
    exact (halone (.inr hpc)).2
  | forkFails hpc =>
    exact ⟨rfl, hchild, by simp, by simp [ParentPc.hasChild], by simp [ParentPc.payload],
      by simp [ParentPc.sawEnd], by simp⟩
  | closeWrite hpc =>
    rw [hpc] at hparent hborn hsent
    refine ⟨by rw [hparent]; rfl, hchild, by simp, fun _ => hborn rfl, ?_,
      by simp [ParentPc.sawEnd], by simp⟩
    rintro payload ⟨⟩
    exact hsent [] rfl
  | @read payload n hpc hn hsize hheld =>
    rw [hpc] at hparent hborn hsent
    refine ⟨hparent, hchild, by simp, fun _ => hborn rfl, ?_, by simp [ParentPc.sawEnd], by simp⟩
    rintro payload' ⟨⟩
    simpa using hsent payload rfl
  | readEnd hpc hheld hwrite hend =>
    rw [hpc] at hparent hborn hsent
    rw [hchild] at hend
    refine ⟨hparent, hchild, by simp, fun _ => hborn rfl, hsent, fun _ => ⟨hheld, hend⟩, by simp⟩
  | readFails hpc =>
    rw [hpc] at hparent hborn
    exact ⟨hparent, hchild, by simp, fun _ => hborn rfl, by simp [ParentPc.payload],
      by simp [ParentPc.sawEnd], by simp⟩
  | closeFailed hpc =>
    rw [hpc] at hparent hborn
    exact ⟨by rw [hparent]; rfl, hchild, by simp, fun _ => hborn rfl, by simp [ParentPc.payload],
      by simp [ParentPc.sawEnd], by simp⟩
  | closeDrained hpc =>
    rw [hpc] at hparent hborn hsent hdrained
    exact ⟨by rw [hparent]; rfl, hchild, by simp, fun _ => hborn rfl, hsent,
      fun _ => hdrained rfl, by simp⟩
  | reap hpc _ | reapFails hpc | waitFails hpc =>
    rw [hpc] at hparent
    exact ⟨hparent, hchild, by simp, by simp [ParentPc.hasChild], by simp [ParentPc.payload],
      by simp [ParentPc.sawEnd], by simp⟩
  | @wait payload status hpc hended =>
    rw [hpc] at hparent hsent hdrained
    refine ⟨hparent, hchild, by simp, by simp [ParentPc.hasChild], by simp [ParentPc.payload],
      by simp [ParentPc.sawEnd], ?_⟩
    intro block hblock
    simp only [ParentPc.returned.injEq] at hblock
    obtain ⟨rfl, hne, hparse⟩ := outcome_ok hblock
    have hall := hsent payload rfl
    rw [hended, (hdrained rfl).1, List.append_nil] at hall
    obtain ⟨-, rest, hrest⟩ | ⟨hcode, -⟩ := hall
    · exact ⟨hended, payload, rest, hrest, hne, hparse⟩
    · exact absurd rfl hcode

/-- A step of a child that is there. -/
theorem WorkerInv.move (hi : WorkerInv t s) (halive : s.child.alive = true) (child : ChildPc)
    (held : Str) {ends : PipeEnds} (hends : ends = child.ends) (hne : child ≠ .unborn)
    (hsent : ∀ payload, Sent t (payload ++ s.held) s.child → Sent t (payload ++ held) child)
    (hdrained : s.child.ends.write = false → child.ends.write = false ∧ held = s.held) :
    WorkerInv t { s with child := child, held := held, childEnds := ends } where
  parentEnds := hi.parentEnds
  childEnds := hends
  alone h := by
    rw [(hi.alone h).1] at halive
    cases halive
  child _ := hne
  sent payload h := hsent payload (hi.sent payload h)
  drained h := by
    obtain ⟨hheld, hwrite⟩ := hi.drained h
    obtain ⟨hwrite', rfl⟩ := hdrained hwrite
    exact ⟨hheld, hwrite'⟩
  answer block h := by
    rw [(hi.answer block h).1] at halive
    cases halive

theorem child_inv {e : ChildEvent} (hi : WorkerInv t s) (h : childStep t s e = some s') :
    WorkerInv t s' := by
  have hends := hi.childEnds
  cases childStep_cases h with
  | closeRead hpc =>
    rw [hpc] at hends
    refine hi.move (by rw [hpc]; rfl) .reflecting s.held (by rw [hends]; rfl) (by simp) ?_
      (by rw [hpc]; simp [ChildPc.ends])
    rw [hpc]
    exact fun _ hsent => hsent
  | @reflect text hpc htext =>
    rw [hpc] at hends
    refine hi.move (by rw [hpc]; rfl) (.writing text) s.held hends (by simp) ?_
      (by rw [hpc]; simp [ChildPc.ends])
    rw [hpc]
    intro payload hsent
    show t.dumped = some (payload ++ s.held ++ text)
    rw [show payload ++ s.held = [] from hsent, htext, List.nil_append]
  | throws hpc htext =>
    rw [hpc] at hends
    refine hi.move (by rw [hpc]; rfl) (.closing 2) s.held hends (by simp) ?_
      (by rw [hpc]; simp [ChildPc.ends])
    rw [hpc]
    exact fun _ hsent => .inr ⟨by simp, htext, hsent⟩
  | stall hpc =>
    rw [hpc] at hends
    refine hi.move (by rw [hpc]; rfl) .stalled s.held hends (by simp) ?_
      (by rw [hpc]; simp [ChildPc.ends])
    rw [hpc]
    exact fun _ hsent => hsent
  | @write rest n hpc _ _ _ _ =>
    rw [hpc] at hends
    refine hi.move (by rw [hpc]; rfl) (.writing (rest.drop n)) (s.held ++ rest.take n) hends
      (by simp) ?_ (by rw [hpc]; simp [ChildPc.ends])
    rw [hpc]
    intro payload hsent
    show t.dumped = some (payload ++ (s.held ++ rest.take n) ++ rest.drop n)
    rw [List.append_assoc, List.append_assoc, List.take_append_drop, ← List.append_assoc]
    exact hsent
  | @writeFails b rest hpc =>
    rw [hpc] at hends
    refine hi.move (by rw [hpc]; rfl) (.closing 0) s.held hends (by simp) ?_
      (by rw [hpc]; simp [ChildPc.ends])
    rw [hpc]
    exact fun _ hsent => .inl ⟨rfl, _, hsent⟩
  | closeWritten hpc =>
    rw [hpc] at hends
    refine hi.move (by rw [hpc]; rfl) (.exiting 0) s.held (by rw [hends]; rfl) (by simp) ?_
      (by rw [hpc]; simp [ChildPc.ends])
    rw [hpc]
    exact fun _ hsent => .inl ⟨rfl, _, hsent⟩
  | @closeWrite code hpc =>
    rw [hpc] at hends
    refine hi.move (by rw [hpc]; rfl) (.exiting code) s.held (by rw [hends]; rfl) (by simp) ?_
      (by rw [hpc]; simp [ChildPc.ends])
    rw [hpc]
    exact fun _ hsent => hsent
  | @exit code hpc =>
    refine hi.move (by rw [hpc]; rfl) (.ended (.exited code)) s.held rfl (by simp) ?_
      fun _ => ⟨rfl, rfl⟩
    rw [hpc]
    exact fun _ hsent => hsent
  | @crash signal halive =>
    exact hi.move halive (.ended (.signaled signal)) s.held rfl (by simp) (fun _ _ => trivial)
      fun _ => ⟨rfl, rfl⟩

theorem workerInv_inductive (t : ReflectionTask) :
    (reflectionWorker t).Inductive (WorkerInv t) where
  init s h := h ▸ WorkerInv.start
  step s l s' hi h := by
    cases l with
    | parent e => exact parent_inv hi h
    | child e => exact child_inv hi h

end Invariant

/-! ## Coming to an end -/

def ParentPc.rank : ParentPc → Nat
  | .piping => 6
  | .forking => 5
  | .forked => 4
  | .reading _ => 3
  | .readFailed | .drained _ => 2
  | .waiting _ | .reaping => 1
  | .returned _ => 0

/-- `text` is the length of what the child has to write. -/
def ChildPc.rank (text : Nat) : ChildPc → Nat
  | .unborn => 2 * text + 6
  | .forked => 2 * text + 5
  | .reflecting => 2 * text + 4
  | .writing rest => 2 * rest.length + 3
  | .closing _ => 2
  | .exiting _ | .stalled => 1
  | .ended _ => 0

def ReflectionTask.textLength (t : ReflectionTask) : Nat := (t.dumped.getD []).length

/-- Every byte is written once and read once. -/
def workerRank (t : ReflectionTask) (s : Worker) : Nat :=
  s.parent.rank + s.child.rank t.textLength + s.held.length

/-- The call is over. -/
def Worker.over (s : Worker) : Prop := ∃ result, s.parent = .returned result

section Ending

variable {t : ReflectionTask} {s s' : Worker}

theorem parent_ranked {e : ParentEvent} (hi : WorkerInv t s) (h : parentStep t s e = some s') :
    workerRank t s' < workerRank t s := by
  unfold workerRank
  cases parentStep_cases h with
  | fork hpc =>
    simp only [hpc, (hi.alone (.inr hpc)).1, ParentPc.rank, ChildPc.rank]
    omega
  | read hpc hn _ hheld =>
    simp only [hpc, ParentPc.rank, List.length_drop]
    omega
  | pipe hpc | pipeFails hpc | forkFails hpc | closeWrite hpc | readEnd hpc _ _ _ | readFails hpc
  | closeFailed hpc | closeDrained hpc | reap hpc _ | reapFails hpc | wait hpc _
  | waitFails hpc =>
    simp only [hpc, ParentPc.rank]
    omega

theorem child_ranked {e : ChildEvent} (h : childStep t s e = some s') :
    workerRank t s' < workerRank t s := by
  unfold workerRank
  cases childStep_cases h with
  | reflect hpc htext =>
    have hlen : t.textLength = _ := congrArg (fun d => (d.getD []).length) htext
    simp only [Option.getD_some] at hlen
    simp only [hpc, ChildPc.rank]
    omega
  | write hpc hn hrest =>
    simp only [hpc, ChildPc.rank, List.length_append, List.length_take, List.length_drop]
    omega
  | crash halive =>
    have hpos : 0 < s.child.rank t.textLength := by
      cases hpc : s.child with
      | unborn | ended => simp [hpc, ChildPc.alive] at halive
      | _ => simp [ChildPc.rank]
    show s.parent.rank + 0 + s.held.length <
      s.parent.rank + s.child.rank t.textLength + s.held.length
    omega
  | closeRead hpc | throws hpc _ | stall hpc | writeFails hpc | closeWritten hpc
  | closeWrite hpc | exit hpc =>
    simp only [hpc, ChildPc.rank, List.length_cons]
    omega

theorem worker_ranked (t : ReflectionTask) :
    (reflectionWorker t).Ranked (WorkerInv t) (workerRank t) := by
  intro s l s' hi h
  cases l with
  | parent e => exact parent_ranked hi h
  | child e => exact child_ranked h

/-- A child that is there and comes back goes on, and without a fault if the
pipe is empty and the parent reads it. -/
theorem child_goes_on (t : ReflectionTask) (halive : s.child.alive = true)
    (hback : s.child ≠ .stalled) :
    ∃ e, (childStep t s e).isSome = true ∧ (WorkerEvent.child e).due = true ∧
      (s.held = [] → s.parentEnds.read = true → (WorkerEvent.child e).smooth = true) := by
  cases hpc : s.child with
  | unborn | ended => simp [hpc, ChildPc.alive] at halive
  | stalled => exact absurd hpc hback
  | forked => exact ⟨.closeRead, by simp [childStep, hpc], rfl, fun _ _ => rfl⟩
  | reflecting =>
    refine ⟨.reflect, ?_, rfl, fun _ _ => rfl⟩
    cases htext : t.dumped <;> simp [childStep, hpc, htext]
  | writing rest =>
    cases rest with
    | nil => exact ⟨.closeWrite, by simp [childStep, hpc], rfl, fun _ _ => rfl⟩
    | cons b rest =>
      by_cases hread : s.held = [] ∧ s.parentEnds.read = true
      · have hone : 0 < 1 ∧ 1 ≤ (b :: rest).length ∧ s.held.length + 1 ≤ t.capacity ∧
            (s.parentEnds.read = true ∨ s.childEnds.read = true) := by
          have hroom := t.hasRoom
          rw [hread.1, List.length_nil]
          exact ⟨by omega, by simp, by omega, .inl hread.2⟩
        refine ⟨.write 1, ?_, rfl, fun _ _ => rfl⟩
        simp only [childStep, hpc]
        rw [if_pos hone]
        rfl
      · exact ⟨.writeFails, by simp [childStep, hpc], rfl, fun h h' => absurd ⟨h, h'⟩ hread⟩
  | closing code => exact ⟨.closeWrite, by simp [childStep, hpc], rfl, fun _ _ => rfl⟩
  | exiting code => exact ⟨.exit, by simp [childStep, hpc], rfl, fun _ _ => rfl⟩

/-- As long as the call is not over and the block's code comes back there is
a step that is due, and one without a fault unless a read has failed. -/
theorem worker_goes_on (hi : WorkerInv t s) (hback : s.child ≠ .stalled) (hover : ¬ s.over) :
    ∃ l, (workerStep t s l).isSome = true ∧ l.due = true ∧
      (s.parent ≠ .reaping → l.smooth = true) := by
  cases hpc : s.parent with
  | returned result => exact absurd ⟨result, hpc⟩ hover
  | piping => exact ⟨.parent .pipe, by simp [workerStep, parentStep, hpc], rfl, fun _ => rfl⟩
  | forking => exact ⟨.parent .fork, by simp [workerStep, parentStep, hpc], rfl, fun _ => rfl⟩
  | forked =>
    exact ⟨.parent .closeWrite, by simp [workerStep, parentStep, hpc], rfl, fun _ => rfl⟩
  | readFailed | drained =>
    exact ⟨.parent .closeRead, by simp [workerStep, parentStep, hpc], rfl, fun _ => rfl⟩
  | reading payload =>
    have hends := hi.parentEnds
    rw [hpc] at hends
    cases hheld : s.held with
    | cons b held =>
      have hone : 0 < 1 ∧ 1 ≤ readSize ∧ 1 ≤ s.held.length := by simp [readSize, hheld]
      refine ⟨.parent (.read 1), ?_, rfl, fun _ => rfl⟩
      simp only [workerStep, parentStep, hpc]
      rw [if_pos hone]
      rfl
    | nil =>
      by_cases hwrite : s.childEnds.write = true
      · -- the child still holds the write end, so it is there
        have halive : s.child.alive = true := by
          rw [hi.childEnds] at hwrite
          cases hchild : s.child <;> simp [hchild, ChildPc.ends, PipeEnds.none] at hwrite <;> rfl
        obtain ⟨e, hstep, hdue, hsmooth⟩ := child_goes_on t halive hback
        exact ⟨.child e, hstep, hdue, fun _ => hsmooth hheld (by rw [hends]; rfl)⟩
      · have hend : s.held = [] ∧ s.parentEnds.write = false ∧ s.childEnds.write = false :=
          ⟨hheld, by rw [hends]; rfl, by simpa using hwrite⟩
        refine ⟨.parent .readEnd, ?_, rfl, fun _ => rfl⟩
        simp only [workerStep, parentStep, hpc]
        rw [if_pos hend]
        rfl
  | waiting payload =>
    obtain ⟨-, hwrite⟩ := hi.drained (by rw [hpc]; rfl)
    have hborn := hi.child (by rw [hpc]; rfl)
    cases hchild : s.child with
    | unborn => exact absurd hchild hborn
    | forked | reflecting | stalled | writing | closing =>
      simp [hchild, ChildPc.ends] at hwrite
    | exiting code =>
      exact ⟨.child .exit, by simp [workerStep, childStep, hchild], rfl, fun _ => rfl⟩
    | ended status =>
      exact ⟨.parent .wait, by simp [workerStep, parentStep, hpc, hchild], rfl, fun _ => rfl⟩
  | reaping =>
    have hborn := hi.child (by rw [hpc]; rfl)
    by_cases halive : s.child.alive = true
    · obtain ⟨e, hstep, hdue, -⟩ := child_goes_on t halive hback
      exact ⟨.child e, hstep, hdue, fun h => absurd rfl h⟩
    · cases hchild : s.child with
      | unborn => exact absurd hchild hborn
      | ended status =>
        exact ⟨.parent .wait, by simp [workerStep, parentStep, hpc, hchild], rfl, fun _ => rfl⟩
      | _ => simp [hchild, ChildPc.alive] at halive

end Ending

/-- What a pipe holds unless it is told otherwise. -/
theorem pipeCapacity_pos : 0 < 65536 := by decide

end Gr4cp.Catalog

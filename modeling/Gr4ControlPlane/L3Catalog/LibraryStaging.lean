import Mathlib.Data.List.Lex
import Mathlib.Logic.Function.Basic
import Gr4ControlPlane.Core.Ranking
import Gr4ControlPlane.L3Catalog.ReflectionWorker

/-!
# Staging the plugin libraries (`collect_candidate_libraries`, `catalog/`)

The libraries that look like plugins are put into staging directories under
their file names: a link to the library, or else a copy of it. A name that is
taken is no reason to stop: the copy goes through the link that is there, into
the library it leads to.

* `staging_outcome`: which libraries a call stages and when it throws, and
  what is in every library afterwards. A library reached by two paths of one
  name makes the call throw, as a copy of a file onto itself is an error.
  Where no two paths lead to one file, the first library of a name is left
  with the content of the last; all libraries are kept exactly when the
  first and the last library of each staged name have the same content.

The two providers stage into one directory or two (`Stage`), which are new.
A copy either succeeds or changes nothing; what a directory holds is read
before anything is staged.
-/
namespace Gr4cp.Catalog

open Gr4cp.Core

/-! ## Paths -/

/-- The components of an absolute path. -/
abbrev Path := List Str

/-- `operator<` of `std::filesystem::path`. -/
def pathLess : Path → Path → Bool
  | _, [] => false
  | [], _ :: _ => true
  | a :: p, b :: q => Str.lt a b || (a == b && pathLess p q)

def Path.code (p : Path) : List (List ℕ) := p.map Str.code

theorem Path.code_injective : Function.Injective Path.code :=
  List.map_injective_iff.2 Str.code_injective

theorem pathLess_compares : Ranking.Compares pathLess Path.code := by
  intro p q
  unfold Path.code
  induction p generalizing q with
  | nil => cases q <;> simp [pathLess]
  | cons a p ih =>
    cases q with
    | nil => simp [pathLess]
    | cons b q =>
      simp only [pathLess, Bool.or_eq_true, Bool.and_eq_true, beq_iff_eq, List.map_cons,
        List.cons_lt_cons_iff, Str.lt_iff, ih q]
      exact or_congr_right (and_congr_left fun _ => Str.code_injective.eq_iff.symm)

def Path.filename (p : Path) : Str := (p.getLast?).getD []

def Path.string (p : Path) : Str := p.flatMap fun component => chr '/' :: component

/-- `extension` of a file name. -/
def extension (name : Str) : Str :=
  match Str.findLast (· == chr '.') name with
  | none | some 0 => []
  | some i => if name = str ".." then [] else name.drop i

/-- mirrors src/catalog/gr4_block_catalog_provider.cpp:61-70,
src/catalog/gr4_scheduler_catalog_provider.cpp:53-62 -/
def isSharedLibrary (name : Str) : Bool := extension name == str ".so"

/-- mirrors src/catalog/gr4_block_catalog_provider.cpp:180-192,
src/catalog/gr4_scheduler_catalog_provider.cpp:64-76 -/
def isLikelyGr4Library (name : Str) : Bool :=
  if !isSharedLibrary name then false
  else if (str "libGr").isPrefixOf name then
    (Str.find name (str "Shared") 0).isSome || (Str.find name (str "Plugin") 0).isSome
  else (str "libGood").isPrefixOf name && (Str.find name (str "Plugin") 0).isSome

/-- mirrors src/catalog/gr4_block_catalog_provider.cpp:194-196,
src/catalog/gr4_scheduler_catalog_provider.cpp:78-80 -/
def isPluginLibrary (name : Str) : Bool :=
  isSharedLibrary name && (Str.find name (str "Plugin") 0).isSome

/-- mirrors src/catalog/gr4_block_catalog_provider.cpp:198-200 -/
def isSharedBlockLibrary (name : Str) : Bool :=
  isSharedLibrary name && (Str.find name (str "Shared") 0).isSome

/-! ## The disk -/

structure Disk where
  /-- the file a path leads to, through links -/
  file : Path → Option Nat
  content : Nat → Str
  /-- the number of the next file -/
  next : Nat

namespace Disk

/-- `create_symlink` to what `source` leads to. -/
def link (d : Disk) (source destination : Path) : Disk :=
  { d with file := Function.update d.file destination (d.file source) }

def write (d : Disk) (f : Nat) (data : Str) : Disk :=
  { d with content := Function.update d.content f data }

def create (d : Disk) (destination : Path) (data : Str) : Disk where
  file := Function.update d.file destination (some d.next)
  content := Function.update d.content d.next data
  next := d.next + 1

@[simp] theorem link_file_self (d : Disk) (source destination : Path) :
    (d.link source destination).file destination = d.file source := Function.update_self _ _ _

theorem link_file_of_ne {p destination : Path} (h : p ≠ destination) (d : Disk) (source : Path) :
    (d.link source destination).file p = d.file p := Function.update_of_ne h _ _

@[simp] theorem write_file (d : Disk) (f : Nat) (data : Str) : (d.write f data).file = d.file := rfl

@[simp] theorem write_content_self (d : Disk) (f : Nat) (data : Str) :
    (d.write f data).content f = data := Function.update_self _ _ _

theorem write_content_of_ne {f g : Nat} (h : f ≠ g) (d : Disk) (data : Str) :
    (d.write g data).content f = d.content f := Function.update_of_ne h _ _

@[simp] theorem create_file_self (d : Disk) (destination : Path) (data : Str) :
    (d.create destination data).file destination = some d.next := Function.update_self _ _ _

theorem create_file_of_ne {p destination : Path} (h : p ≠ destination) (d : Disk) (data : Str) :
    (d.create destination data).file p = d.file p := Function.update_of_ne h _ _

theorem create_content_of_ne {f : Nat} (d : Disk) (h : f ≠ d.next) (destination : Path)
    (data : Str) : (d.create destination data).content f = d.content f :=
  Function.update_of_ne h _ _

/-- What is in the file a path leads to. -/
def holds (d : Disk) (p : Path) : Option Str := (d.file p).map d.content

end Disk

/-- What the process may do. -/
structure Allowed where
  /-- links in the staging directories -/
  links : Bool
  /-- a copy of the file there -/
  creates : Nat → Bool
  /-- a copy of the one file into the other -/
  copies : Nat → Nat → Bool

/-- `copy_file` with `overwrite_existing`; a copy of a file onto itself is an
error. -/
def copyFile (allowed : Allowed) (source destination : Path) (d : Disk) : Option Disk :=
  match d.file source with
  | none => none
  | some f =>
    match d.file destination with
    | none => if allowed.creates f then some (d.create destination (d.content f)) else none
    | some g => if allowed.copies f g ∧ f ≠ g then some (d.write g (d.content f)) else none

/-- mirrors src/catalog/gr4_block_catalog_provider.cpp:210-222,
src/catalog/gr4_scheduler_catalog_provider.cpp:166-178 -/
def stageLibrary (allowed : Allowed) (source destination : Path) (d : Disk) :
    Except CatalogLoadError Path × Disk :=
  if allowed.links && (d.file destination).isNone then (.ok destination, d.link source destination)
  else
    match copyFile allowed source destination d with
    | some d => (.ok destination, d)
    | none => (.error ⟨str "failed to stage GNU Radio 4 library: " ++ source.string⟩, d)

/-! ## The candidates -/

structure DirectoryEntry where
  name : Str
  isRegularFile : Bool

/-- A plugin directory; no entries when it is none. -/
structure PluginDirectory where
  path : Path
  entries : Option (List DirectoryEntry)

/-- mirrors src/catalog/gr4_block_catalog_provider.cpp:279-293,
src/catalog/gr4_scheduler_catalog_provider.cpp:182-196 -/
def likelyLibraries (directories : List PluginDirectory) : List Path :=
  Ranking.sortUnique pathLess (directories.flatMap fun directory =>
    ((directory.entries.getD []).filter fun entry =>
        entry.isRegularFile && isLikelyGr4Library entry.name).map
      fun entry => directory.path ++ [entry.name])

/-- The staging directories. -/
inductive Stage where
  | plugin | shared
  deriving DecidableEq, Repr

def Stage.takes : Stage → Str → Bool
  | .plugin, name => isPluginLibrary name
  | .shared, name => isSharedBlockLibrary name

/-- Those of the block catalog. -/
def blockStages : List Stage := [.plugin, .shared]

/-- That of the scheduler catalog. -/
def schedulerStages : List Stage := [.plugin]

structure CandidateLibraries where
  likelyLibraries : List Path
  /-- in the order they were staged in -/
  staged : List (Stage × Path)

section Staging

variable (allowed : Allowed) (directory : Stage → Path)

/-- Where a library goes. -/
def stagedPath (stage : Stage) (library : Path) : Path := directory stage ++ [library.filename]

/-- The body of the loop.
mirrors src/catalog/gr4_block_catalog_provider.cpp:301-310,
src/catalog/gr4_scheduler_catalog_provider.cpp:203-206 -/
def stageInto (library : Path) :
    List Stage → Disk → Except CatalogLoadError (List (Stage × Path)) × Disk
  | [], d => (.ok [], d)
  | stage :: stages, d =>
    if stage.takes library.filename then
      match stageLibrary allowed library (stagedPath directory stage library) d with
      | (.error e, d) => (.error e, d)
      | (.ok staged, d) =>
        match stageInto library stages d with
        | (.error e, d) => (.error e, d)
        | (.ok rest, d) => (.ok ((stage, staged) :: rest), d)
    else stageInto library stages d

def stageAll (stages : List Stage) :
    List Path → Disk → Except CatalogLoadError (List (Stage × Path)) × Disk
  | [], d => (.ok [], d)
  | library :: libraries, d =>
    match stageInto allowed directory library stages d with
    | (.error e, d) => (.error e, d)
    | (.ok staged, d) =>
      match stageAll stages libraries d with
      | (.error e, d) => (.error e, d)
      | (.ok rest, d) => (.ok (staged ++ rest), d)

def noLibraries : CatalogLoadError :=
  ⟨str "no likely GNU Radio 4 plugin libraries were found in configured plugin directories"⟩

/-- mirrors src/catalog/gr4_block_catalog_provider.cpp:277-313,
src/catalog/gr4_scheduler_catalog_provider.cpp:180-210 -/
def collectCandidateLibraries (stages : List Stage) (directories : List PluginDirectory)
    (d : Disk) : Except CatalogLoadError CandidateLibraries × Disk :=
  let libraries := likelyLibraries directories
  if libraries = [] then (.error noLibraries, d)
  else
    match stageAll allowed directory stages libraries d with
    | (.error e, d) => (.error e, d)
    | (.ok staged, d) => (.ok ⟨libraries, staged⟩, d)

/-! ## One library -/

variable {allowed directory}
variable {d : Disk} {library : Path}

/-- The stages do not share a directory. -/
def Apart (directory : Stage → Path) (stages : List Stage) : Prop :=
  (stages.map directory).Nodup

theorem stagedPath_ne {stages : List Stage} {stage other : Stage}
    (h : Apart directory (stage :: stages)) (hother : other ∈ stages) (p q : Path) :
    stagedPath directory other p ≠ stagedPath directory stage q := by
  unfold Apart at h
  rw [List.map_cons, List.nodup_cons] at h
  intro heq
  have hdirectory := (List.append_inj' heq rfl).1
  exact h.1 (List.mem_map.2 ⟨other, hother, hdirectory⟩)

/-- The stages a library is staged at. -/
def stagesOf (stages : List Stage) (name : Str) : List Stage :=
  stages.filter fun stage => stage.takes name

/-- What a library is staged as. -/
def stagings (directory : Stage → Path) (stages : List Stage) (library : Path) :
    List (Stage × Path) :=
  (stagesOf stages library.filename).map fun stage => (stage, stagedPath directory stage library)

/-- A new name: links to the library, and no file is written. -/
theorem stageInto_new (hlinks : allowed.links = true) {stages : List Stage}
    (hapart : Apart directory stages)
    (hfree : ∀ stage ∈ stages, stage.takes library.filename = true →
      d.file (stagedPath directory stage library) = none)
    (hlibrary : ∀ stage ∈ stages, stagedPath directory stage library ≠ library) :
    ∃ d', stageInto allowed directory library stages d =
        (.ok (stagings directory stages library), d') ∧
      d'.content = d.content ∧
      (∀ p, (∀ stage ∈ stages, p ≠ stagedPath directory stage library) → d'.file p = d.file p) ∧
      ∀ stage ∈ stages, stage.takes library.filename = true →
        d'.file (stagedPath directory stage library) = d.file library := by
  induction stages generalizing d with
  | nil => exact ⟨d, rfl, rfl, fun _ _ => rfl, by simp⟩
  | cons stage stages ih =>
    have hrest : Apart directory stages := (List.nodup_cons.1 hapart).2
    by_cases htakes : stage.takes library.filename = true
    · have hother : ∀ other ∈ stages, stagedPath directory other library ≠
          stagedPath directory stage library := fun other h => stagedPath_ne hapart h _ _
      obtain ⟨d', hrun, hcontent, hframe, hlinked⟩ :=
        ih (d := d.link library (stagedPath directory stage library)) hrest
          (by
            intro other h htakes'
            rw [Disk.link_file_of_ne (hother other h)]
            exact hfree other (List.mem_cons_of_mem _ h) htakes')
          fun other h => hlibrary other (List.mem_cons_of_mem _ h)
      have hstage : stageLibrary allowed library (stagedPath directory stage library) d =
          (.ok (stagedPath directory stage library),
            d.link library (stagedPath directory stage library)) := by
        unfold stageLibrary
        simp [hlinks, hfree stage (by simp) htakes]
      refine ⟨d', ?_, hcontent, ?_, ?_⟩
      · simp only [stageInto, if_pos htakes, hstage, hrun]
        simp [stagings, stagesOf, htakes]
      · intro p hp
        rw [hframe p fun other h => hp other (List.mem_cons_of_mem _ h),
          Disk.link_file_of_ne (hp stage (by simp))]
      · intro other hmem hothertakes
        obtain rfl | h := List.mem_cons.1 hmem
        · rw [hframe _ fun other' h' => (hother other' h').symm, Disk.link_file_self]
        · rw [hlinked other h hothertakes, Disk.link_file_of_ne (hlibrary stage (by simp)).symm]
    · obtain ⟨d', hrun, hcontent, hframe, hlinked⟩ := ih hrest
        (fun other h => hfree other (List.mem_cons_of_mem _ h))
        fun other h => hlibrary other (List.mem_cons_of_mem _ h)
      refine ⟨d', ?_, hcontent, ?_, ?_⟩
      · simp only [stageInto, if_neg htakes, hrun]
        simp [stagings, stagesOf, htakes]
      · intro p hp
        exact hframe p fun other h => hp other (List.mem_cons_of_mem _ h)
      · intro other hmem hothertakes
        obtain rfl | h := List.mem_cons.1 hmem
        · exact absurd hothertakes htakes
        · exact hlinked other h hothertakes

variable (allowed) in
/-- A name that is taken: what it leads to is overwritten, or nothing is
staged. -/
theorem stageInto_taken {f g : Nat} {stages : List Stage} (hfile : d.file library = some f)
    (htaken : ∀ stage ∈ stages, stage.takes library.filename = true →
      d.file (stagedPath directory stage library) = some g) :
    (stageInto allowed directory library stages d).2 =
        (if stagesOf stages library.filename ≠ [] ∧ allowed.copies f g = true ∧ f ≠ g then
          d.write g (d.content f) else d) ∧
      ((∃ staged, (stageInto allowed directory library stages d).1 = .ok staged) ↔
        (stagesOf stages library.filename ≠ [] → allowed.copies f g = true ∧ f ≠ g)) ∧
      ∀ staged, (stageInto allowed directory library stages d).1 = .ok staged →
        staged = stagings directory stages library := by
  induction stages generalizing d with
  | nil => simp [stageInto, stagings, stagesOf]
  | cons stage stages ih =>
    by_cases htakes : stage.takes library.filename = true
    · have hsome : stagesOf (stage :: stages) library.filename ≠ [] := by simp [stagesOf, htakes]
      by_cases hcan : allowed.copies f g = true ∧ f ≠ g
      · obtain ⟨hcopies, hne⟩ := hcan
        have hwritten : ∀ stage' ∈ stages, stage'.takes library.filename = true →
            (d.write g (d.content f)).file (stagedPath directory stage' library) = some g :=
          fun stage' h => htaken stage' (List.mem_cons_of_mem _ h)
        obtain ⟨hdisk, hreturns, hstaged⟩ :=
          ih (d := d.write g (d.content f)) hfile hwritten
        have hagain : (d.write g (d.content f)).write g ((d.write g (d.content f)).content f) =
            d.write g (d.content f) := by
          rw [Disk.write_content_of_ne hne]
          simp [Disk.write]
        rw [hagain, ite_self] at hdisk
        have hstage : stageLibrary allowed library (stagedPath directory stage library) d =
            (.ok (stagedPath directory stage library), d.write g (d.content f)) := by
          unfold stageLibrary copyFile
          simp [htaken stage (by simp) htakes, hfile, hcopies, hne]
        obtain ⟨staged, hrest⟩ := hreturns.2 fun _ => ⟨hcopies, hne⟩
        have hrun : stageInto allowed directory library stages (d.write g (d.content f)) =
            (.ok staged, d.write g (d.content f)) := Prod.ext hrest hdisk
        have hrest' := hstaged staged hrest
        simp only [stageInto, if_pos htakes, hstage, hrun]
        simp [hrest', stagings, stagesOf, htakes, hcopies, hne]
      · have hcopy : copyFile allowed library (stagedPath directory stage library) d = none := by
          unfold copyFile
          rw [hfile, htaken stage (by simp) htakes]
          exact if_neg hcan
        have hstage : stageLibrary allowed library (stagedPath directory stage library) d =
            (.error ⟨str "failed to stage GNU Radio 4 library: " ++ library.string⟩, d) := by
          unfold stageLibrary
          rw [hcopy, htaken stage (by simp) htakes]
          simp
        simp only [stageInto, if_pos htakes, hstage]
        simp only [hcan, and_false, if_false, true_and]
        exact ⟨iff_of_false nofun fun h => h hsome, nofun⟩
    · obtain ⟨hdisk, hreturns, hstaged⟩ :=
        ih hfile fun stage' h => htaken stage' (List.mem_cons_of_mem _ h)
      have hsame : stagesOf (stage :: stages) library.filename =
          stagesOf stages library.filename := by simp [stagesOf, htakes]
      simp only [stageInto, if_neg htakes, hsame]
      refine ⟨hdisk, hreturns, ?_⟩
      simpa only [stagings, hsame] using hstaged

/-! ## All libraries -/

/-- The libraries of a name. -/
def sameName (libraries : List Path) (name : Str) : List Path :=
  libraries.filter fun library => library.filename = name

/-- The library whose content a library is left with: the last of its name
for the first. -/
def contentFrom (stages : List Stage) (libraries : List Path) (library : Path) : Path :=
  if stagesOf stages library.filename = [] then library
  else
    match sameName libraries library.filename with
    | [] => library
    | first :: rest =>
      if first = library then ((first :: rest).getLast?).getD library else library

/-- A library can be staged behind `done`: its name is new or not staged, or
it may be copied into the first library of the name, and is another file. -/
def CanFollow (allowed : Allowed) (stages : List Stage) (d : Disk) (done : List Path)
    (library : Path) : Prop :=
  stagesOf stages library.filename ≠ [] →
    ∀ first, (sameName done library.filename).head? = some first →
      ∃ f g, d.file library = some f ∧ d.file first = some g ∧ allowed.copies f g = true ∧ f ≠ g

/-- Every library can be staged behind those before it. -/
def Stageable (allowed : Allowed) (stages : List Stage) (d : Disk) (libraries : List Path) : Prop :=
  ∀ front library back, libraries = front ++ library :: back →
    CanFollow allowed stages d front library

/-- No two libraries are one file. -/
def OneFileEach (d : Disk) (libraries : List Path) : Prop :=
  ∀ library ∈ libraries, ∀ library' ∈ libraries, d.file library = d.file library' →
    library = library'

/-- The staging directories are new, and the libraries are there. -/
structure Ready (directory : Stage → Path) (stages : List Stage) (libraries : List Path)
    (d : Disk) : Prop where
  numbered : ∀ p f, d.file p = some f → f < d.next
  apart : Apart directory stages
  empty : ∀ stage ∈ stages, ∀ name, d.file (directory stage ++ [name]) = none
  found : ∀ library ∈ libraries, ∃ f, d.file library = some f

/-- What has become of the disk when `done` are staged. -/
structure Reached (directory : Stage → Path) (stages : List Stage) (libraries : List Path)
    (d₀ : Disk) (done : List Path) (d : Disk) : Prop where
  files : ∀ library ∈ libraries, d.file library = d₀.file library
  staged : ∀ stage ∈ stages, ∀ library : Path, stage.takes library.filename = true →
    d.file (stagedPath directory stage library) =
      ((sameName done library.filename).head?).bind d₀.file
  content : OneFileEach d₀ libraries →
    ∀ library ∈ libraries, d.holds library = d₀.holds (contentFrom stages done library)
  others : ∀ f, (∀ library ∈ libraries, d₀.file library ≠ some f) → d.content f = d₀.content f

variable {stages : List Stage} {libraries done : List Path} {d₀ : Disk}

theorem Ready.ne_staged (h : Ready directory stages libraries d) {library : Path}
    (hmem : library ∈ libraries) {stage : Stage} (hstage : stage ∈ stages) (p : Path) :
    stagedPath directory stage p ≠ library := by
  intro heq
  obtain ⟨f, hf⟩ := h.found library hmem
  have hnone := h.empty stage hstage p.filename
  rw [← heq] at hf
  rw [stagedPath, hnone] at hf
  cases hf

theorem sameName_append (done : List Path) (library : Path) (name : Str) :
    sameName (done ++ [library]) name =
      sameName done name ++ if library.filename = name then [library] else [] := by
  unfold sameName
  rw [List.filter_append]
  congr 1
  by_cases h : library.filename = name <;> simp [h]

theorem contentFrom_of_ne {library p : Path} (h : p.filename ≠ library.filename) :
    contentFrom stages (done ++ [library]) p = contentFrom stages done p := by
  unfold contentFrom
  rw [sameName_append, if_neg h.symm, List.append_nil]

/-- Where a name does not go anywhere, every library is left as it is. -/
theorem contentFrom_unstaged {p : Path} (h : stagesOf stages p.filename = []) :
    contentFrom stages done p = p := if_pos h

/-- Only the first library of a name is written. -/
theorem contentFrom_not_first {first p : Path} {rest : List Path}
    (hgroup : sameName done p.filename = first :: rest) (hne : first ≠ p) :
    contentFrom stages done p = p := by
  unfold contentFrom
  split
  · rfl
  · rw [hgroup]
    simp [hne]

theorem contentFrom_first {library first : Path} {rest : List Path}
    (hstages : stagesOf stages library.filename ≠ [])
    (hgroup : sameName done library.filename = first :: rest)
    (hname : first.filename = library.filename) :
    contentFrom stages (done ++ [library]) first = library := by
  have hnew : sameName (done ++ [library]) first.filename = first :: (rest ++ [library]) := by
    rw [sameName_append, hname, hgroup, if_pos rfl, List.cons_append]
  have hlast : (first :: (rest ++ [library])).getLast? = some library := by
    rw [← List.cons_append]
    exact List.getLast?_concat
  unfold contentFrom
  rw [hname, if_neg hstages, ← hname, hnew]
  simp only [if_true, hlast, Option.getD_some]

theorem reached_start (hready : Ready directory stages libraries d) :
    Reached directory stages libraries d [] d where
  files _ _ := rfl
  staged stage hstage library _ := hready.empty stage hstage library.filename
  content _ library _ := by
    have hself : contentFrom stages [] library = library := by simp [contentFrom, sameName]
    rw [hself]
  others _ _ := rfl

/-- A library with a new name. -/
theorem Reached.stageNew (hready : Ready directory stages libraries d₀)
    (hlinks : allowed.links = true) (hr : Reached directory stages libraries d₀ done d)
    (hmem : library ∈ libraries) (hnew : sameName done library.filename = []) :
    ∃ d', stageInto allowed directory library stages d =
        (.ok (stagings directory stages library), d') ∧
      Reached directory stages libraries d₀ (done ++ [library]) d' := by
  have hfree : ∀ stage ∈ stages, stage.takes library.filename = true →
      d.file (stagedPath directory stage library) = none := by
    intro stage hstage htakes
    rw [hr.staged stage hstage library htakes, hnew]
    rfl
  obtain ⟨d', hrun, hcontent, hframe, hlinked⟩ := stageInto_new hlinks hready.apart hfree
    fun stage hstage => hready.ne_staged hmem hstage library
  have hfiles : ∀ p ∈ libraries, d'.file p = d.file p := fun p hp =>
    hframe p fun stage hstage => (hready.ne_staged hp hstage library).symm
  refine ⟨d', hrun, ⟨fun p hp => (hfiles p hp).trans (hr.files p hp), ?_, ?_, ?_⟩⟩
  · intro stage hstage p htakes
    rw [sameName_append]
    by_cases hname : library.filename = p.filename
    · have hpath : stagedPath directory stage p = stagedPath directory stage library := by
        rw [stagedPath, stagedPath, hname]
      rw [← hname] at htakes ⊢
      rw [if_pos rfl, hnew, hpath, hlinked stage hstage htakes, hr.files library hmem]
      rfl
    · rw [if_neg hname, List.append_nil, ← hr.staged stage hstage p htakes]
      refine hframe _ fun other hother heq => hname ?_
      exact (List.singleton_inj.1 (List.append_inj' heq rfl).2).symm
  · intro heach p hp
    have hsame : d'.holds p = d.holds p := by
      unfold Disk.holds
      rw [hfiles p hp, hcontent]
    rw [hsame, hr.content heach p hp]
    by_cases hname : p.filename = library.filename
    · congr 1
      unfold contentFrom
      rw [sameName_append, hname, hnew, if_pos rfl, List.nil_append]
      by_cases hp : library = p <;> simp [hp]
    · rw [contentFrom_of_ne hname]
  · intro f hf
    rw [hcontent]
    exact hr.others f hf

/-- The first library of the name is written with the content of the one
staged now. -/
theorem Reached.content_written (hready : Ready directory stages libraries d₀)
    (hr : Reached directory stages libraries d₀ done d) (heach : OneFileEach d₀ libraries)
    (hmem : library ∈ libraries) {first : Path} {rest : List Path}
    (hfirst : first ∈ libraries ∧ first.filename = library.filename)
    (hgroup : sameName done library.filename = first :: rest) (hne : first ≠ library)
    (hstages : stagesOf stages library.filename ≠ []) {f g : Nat}
    (hf : d₀.file library = some f) (hg : d₀.file first = some g) {p : Path}
    (hp : p ∈ libraries) :
    (d.write g (d.content f)).holds p = d₀.holds (contentFrom stages (done ++ [library]) p) := by
  obtain ⟨h, hh⟩ := hready.found p hp
  have hpfile := (hr.files p hp).trans hh
  by_cases hp' : first = p
  · subst hp'
    obtain rfl : h = g := Option.some.inj (hh.symm.trans hg)
    have hholds := hr.content heach library hmem
    rw [contentFrom_not_first hgroup hne] at hholds
    rw [contentFrom_first hstages hgroup hfirst.2, ← hholds]
    simp [Disk.holds, hpfile, (hr.files library hmem).trans hf]
  · have hhg : h ≠ g := by
      intro heq
      refine hp' (heach first hfirst.1 p hp ?_)
      rw [hg, hh, heq]
    have hsame : (d.write g (d.content f)).holds p = d.holds p := by
      simp [Disk.holds, hpfile, Disk.write_content_of_ne hhg]
    rw [hsame, hr.content heach p hp]
    by_cases hname : p.filename = library.filename
    · have hnew : sameName (done ++ [library]) p.filename = first :: (rest ++ [library]) := by
        rw [sameName_append, hname, hgroup, if_pos rfl, List.cons_append]
      rw [← hname] at hgroup
      rw [contentFrom_not_first hgroup hp', contentFrom_not_first hnew hp']
    · rw [contentFrom_of_ne hname]

/-- Where the name does not go anywhere, nothing is written. -/
theorem Reached.content_kept (hr : Reached directory stages libraries d₀ done d)
    (heach : OneFileEach d₀ libraries) (hnone : stagesOf stages library.filename = []) {p : Path}
    (hp : p ∈ libraries) :
    d.holds p = d₀.holds (contentFrom stages (done ++ [library]) p) := by
  rw [hr.content heach p hp]
  by_cases hname : p.filename = library.filename
  · rw [← hname] at hnone
    rw [contentFrom_unstaged hnone, contentFrom_unstaged hnone]
  · rw [contentFrom_of_ne hname]

variable (allowed) in
/-- A library with a name that is taken. -/
theorem Reached.stageTaken (hready : Ready directory stages libraries d₀)
    (hr : Reached directory stages libraries d₀ done d) (hdone : ∀ p ∈ done, p ∈ libraries)
    (hmem : library ∈ libraries) (hnot : library ∉ done)
    (htaken : sameName done library.filename ≠ []) :
    ((∃ staged, (stageInto allowed directory library stages d).1 = .ok staged) ↔
        CanFollow allowed stages d₀ done library) ∧
      ∀ staged, (stageInto allowed directory library stages d).1 = .ok staged →
        staged = stagings directory stages library ∧
          Reached directory stages libraries d₀ (done ++ [library])
            (stageInto allowed directory library stages d).2 := by
  obtain ⟨first, rest, hgroup⟩ := List.exists_cons_of_ne_nil htaken
  have hfirst : first ∈ done ∧ first.filename = library.filename := by
    have : first ∈ sameName done library.filename := by simp [hgroup]
    simpa [sameName] using this
  have hne : first ≠ library := fun h => hnot (h ▸ hfirst.1)
  obtain ⟨g, hg⟩ := hready.found first (hdone first hfirst.1)
  obtain ⟨f, hf⟩ := hready.found library hmem
  have hlead : ∀ stage ∈ stages, stage.takes library.filename = true →
      d.file (stagedPath directory stage library) = some g := by
    intro stage hstage htakes
    rw [hr.staged stage hstage library htakes, hgroup]
    exact hg
  obtain ⟨hdisk, hreturns, hstaged⟩ := stageInto_taken allowed
    ((hr.files library hmem).trans hf) hlead
  have hcan : CanFollow allowed stages d₀ done library ↔
      (stagesOf stages library.filename ≠ [] → allowed.copies f g = true ∧ f ≠ g) := by
    unfold CanFollow
    simp [hgroup, hf, hg]
  refine ⟨hreturns.trans hcan.symm, fun staged hok => ⟨hstaged staged hok, ?_⟩⟩
  have hcopies := hreturns.1 ⟨staged, hok⟩
  rw [hdisk]
  have hfiles : (if stagesOf stages library.filename ≠ [] ∧ allowed.copies f g = true ∧ f ≠ g then
      d.write g (d.content f) else d).file = d.file := by
    split <;> rfl
  refine ⟨fun p hp => by rw [hfiles, hr.files p hp], ?_, ?_, ?_⟩
  · intro stage hstage p htakes
    rw [hfiles, hr.staged stage hstage p htakes, sameName_append]
    by_cases hname : library.filename = p.filename
    · rw [← hname, hgroup]
      rfl
    · rw [if_neg hname, List.append_nil]
  · intro heach p hp
    by_cases hstages : stagesOf stages library.filename = []
    · rw [if_neg (by simp [hstages])]
      exact hr.content_kept heach hstages hp
    · rw [if_pos ⟨hstages, hcopies hstages⟩]
      exact hr.content_written hready heach hmem ⟨hdone first hfirst.1, hfirst.2⟩ hgroup hne
        hstages hf hg hp
  · intro f' hf'
    have hne' : f' ≠ g := fun heq => hf' first (hdone first hfirst.1) (by rw [hg, heq])
    rw [← hr.others f' hf']
    split
    · exact Disk.write_content_of_ne hne' _ _
    · rfl

theorem stageable_nil : Stageable allowed stages d [] := fun front _ _ h => by
  cases front <;> cases h

/-- One library more. -/
theorem Stageable.snoc (h : Stageable allowed stages d done)
    (hlibrary : CanFollow allowed stages d done library) :
    Stageable allowed stages d (done ++ [library]) := by
  intro front other back heq
  obtain rfl | ⟨back', last, rfl⟩ := List.eq_nil_or_concat back
  · obtain ⟨rfl, hlast⟩ := List.append_inj' heq rfl
    cases hlast
    exact hlibrary
  · rw [List.concat_eq_append, ← List.cons_append, ← List.append_assoc] at heq
    exact h front other back' (List.append_inj' heq rfl).1

/-- The libraries still to be staged, after those that are. -/
theorem stageAll_spec (hready : Ready directory stages libraries d₀)
    (hlinks : allowed.links = true) (rest : List Path) (hall : done ++ rest = libraries)
    (hnodup : libraries.Nodup) (hr : Reached directory stages libraries d₀ done d)
    (hsofar : Stageable allowed stages d₀ done) :
    ((∃ staged, (stageAll allowed directory stages rest d).1 = .ok staged) ↔
        Stageable allowed stages d₀ libraries) ∧
      ∀ staged, (stageAll allowed directory stages rest d).1 = .ok staged →
        staged = rest.flatMap (stagings directory stages) ∧
          Reached directory stages libraries d₀ libraries
            (stageAll allowed directory stages rest d).2 := by
  induction rest generalizing done d with
  | nil =>
    rw [List.append_nil] at hall
    subst hall
    refine ⟨iff_of_true ⟨[], rfl⟩ hsofar, ?_⟩
    intro staged hok
    cases hok
    exact ⟨rfl, hr⟩
  | cons library rest ih =>
    have hmem : library ∈ libraries := by simp [← hall]
    have hdone : ∀ p ∈ done, p ∈ libraries := fun p hp => by simp [← hall, hp]
    have hnot : library ∉ done := by
      intro h
      rw [← hall, List.nodup_append] at hnodup
      exact hnodup.2.2 library h library (by simp) rfl
    have hall' : (done ++ [library]) ++ rest = libraries := by simpa using hall
    -- what is left, once this library is staged
    have hgo : ∀ d', (stageInto allowed directory library stages d) =
          (.ok (stagings directory stages library), d') →
        Reached directory stages libraries d₀ (done ++ [library]) d' →
        CanFollow allowed stages d₀ done library →
        ((∃ staged, (stageAll allowed directory stages (library :: rest) d).1 = .ok staged) ↔
            Stageable allowed stages d₀ libraries) ∧
          ∀ staged, (stageAll allowed directory stages (library :: rest) d).1 = .ok staged →
            staged = (library :: rest).flatMap (stagings directory stages) ∧
              Reached directory stages libraries d₀ libraries
                (stageAll allowed directory stages (library :: rest) d).2 := by
      intro d' hrun hreached hcan
      obtain ⟨hreturns, hend⟩ := ih hall' hreached (hsofar.snoc hcan)
      have hsplit : stageAll allowed directory stages (library :: rest) d =
          (match stageAll allowed directory stages rest d' with
            | (.error e, d) => (.error e, d)
            | (.ok rest, d) => (.ok (stagings directory stages library ++ rest), d)) := by
        rw [stageAll, hrun]
      rw [hsplit, ← hreturns]
      cases hrest : stageAll allowed directory stages rest d' with
      | mk result d'' =>
        cases result with
        | error e => simp
        | ok staged =>
          rw [hrest] at hend
          obtain ⟨rfl, hreached'⟩ := hend staged rfl
          refine ⟨iff_of_true ⟨_, rfl⟩ ⟨_, rfl⟩, ?_⟩
          intro staged hok
          cases hok
          exact ⟨by simp, hreached'⟩
    by_cases hgroup : sameName done library.filename = []
    · obtain ⟨d', hrun, hreached⟩ := hr.stageNew hready hlinks hmem hgroup
      exact hgo d' hrun hreached fun _ first hfirst => by simp [hgroup] at hfirst
    · obtain ⟨hreturns, hstaged⟩ :=
        hr.stageTaken allowed hready hdone hmem hnot hgroup
      by_cases hcan : CanFollow allowed stages d₀ done library
      · obtain ⟨staged, hok⟩ := hreturns.2 hcan
        obtain ⟨rfl, hreached⟩ := hstaged staged hok
        exact hgo _ (Prod.ext hok rfl) hreached hcan
      · have hthrows : ∀ staged, (stageInto allowed directory library stages d).1 ≠ .ok staged :=
          fun staged hok => hcan (hreturns.1 ⟨staged, hok⟩)
        have hfails : ∃ e, (stageAll allowed directory stages (library :: rest) d).1 =
            .error e := by
          rw [stageAll]
          cases hrun : stageInto allowed directory library stages d with
          | mk result d' =>
            cases result with
            | error e => exact ⟨e, rfl⟩
            | ok staged => exact absurd (congrArg Prod.fst hrun) (hthrows staged)
        obtain ⟨e, he⟩ := hfails
        rw [he]
        exact ⟨iff_of_false nofun fun h => hcan (h done library rest hall.symm), nofun⟩

/-! ## Without links -/

/-- Only copies have been made, each in a file of its own. -/
structure CopiedOnly (directory : Stage → Path) (stages : List Stage) (d₀ d : Disk) : Prop where
  files : ∀ p, (∀ stage ∈ stages, ∀ name, p ≠ directory stage ++ [name]) → d.file p = d₀.file p
  copies : ∀ stage ∈ stages, ∀ name f, d.file (directory stage ++ [name]) = some f → d₀.next ≤ f
  next : d₀.next ≤ d.next
  content : ∀ f < d₀.next, d.content f = d₀.content f

theorem CopiedOnly.stageLibrary (hlinks : allowed.links = false)
    (h : CopiedOnly directory stages d₀ d) {stage : Stage} (hstage : stage ∈ stages)
    (library : Path) : CopiedOnly directory stages d₀
      (stageLibrary allowed library (stagedPath directory stage library) d).2 := by
  unfold Catalog.stageLibrary copyFile
  rw [hlinks]
  cases hsource : d.file library with
  | none => simpa using h
  | some f =>
    cases hdestination : d.file (stagedPath directory stage library) with
    | none =>
      cases hcreates : allowed.creates f with
      | false => simpa [hcreates] using h
      | true =>
        simp only [Bool.false_and, Bool.false_eq_true, if_false, hcreates, if_true]
        refine ⟨fun p hp => ?_, fun stage' hstage' name g hg => ?_, ?_, fun g hg => ?_⟩
        · have hne : p ≠ stagedPath directory stage library := hp stage hstage library.filename
          rw [Disk.create_file_of_ne hne]
          exact h.files p hp
        · by_cases heq : directory stage' ++ [name] = stagedPath directory stage library
          · rw [heq, Disk.create_file_self] at hg
            cases hg
            exact h.next
          · rw [Disk.create_file_of_ne heq] at hg
            exact h.copies stage' hstage' name g hg
        · exact Nat.le_succ_of_le h.next
        · have hne : g ≠ d.next := by
            have := h.next
            omega
          rw [Disk.create_content_of_ne _ hne]
          exact h.content g hg
    | some g =>
      by_cases hcopies : allowed.copies f g = true ∧ f ≠ g
      · have hnew := h.copies stage hstage library.filename g hdestination
        simp only [Bool.false_and, Bool.false_eq_true, if_false, if_pos hcopies]
        refine ⟨h.files, h.copies, h.next, fun f' hf' => ?_⟩
        rw [Disk.write_content_of_ne (by omega)]
        exact h.content f' hf'
      · simp only [Bool.false_and, Bool.false_eq_true, if_false, if_neg hcopies]
        exact h

theorem CopiedOnly.stageInto (hlinks : allowed.links = false)
    (h : CopiedOnly directory stages d₀ d) (library : Path) {todo : List Stage}
    (htodo : ∀ stage ∈ todo, stage ∈ stages) :
    CopiedOnly directory stages d₀ (stageInto allowed directory library todo d).2 := by
  induction todo generalizing d with
  | nil => exact h
  | cons stage todo ih =>
    have ih := fun {d} h => @ih d h fun other hother => htodo other (List.mem_cons_of_mem _ hother)
    have hone := h.stageLibrary hlinks (htodo stage (by simp)) library
    unfold Catalog.stageInto
    split
    · cases hrun : Catalog.stageLibrary allowed library (stagedPath directory stage library) d with
      | mk result d' =>
        rw [hrun] at hone
        cases result with
        | error e => exact hone
        | ok staged =>
          have hrest := ih hone
          simp only
          cases hrest' : Catalog.stageInto allowed directory library todo d' with
          | mk result d'' =>
            rw [hrest'] at hrest
            cases result <;> exact hrest
    · exact ih h

theorem CopiedOnly.stageAll (hlinks : allowed.links = false)
    (h : CopiedOnly directory stages d₀ d) (libraries : List Path) :
    CopiedOnly directory stages d₀ (stageAll allowed directory stages libraries d).2 := by
  induction libraries generalizing d with
  | nil => exact h
  | cons library libraries ih =>
    have hone : CopiedOnly directory stages d₀
        (Catalog.stageInto allowed directory library stages d).2 :=
      h.stageInto hlinks library fun _ h => h
    unfold Catalog.stageAll
    cases hrun : Catalog.stageInto allowed directory library stages d with
    | mk result d' =>
      rw [hrun] at hone
      cases result with
      | error e => exact hone
      | ok staged =>
        have hrest := ih hone
        simp only
        cases hrest' : Catalog.stageAll allowed directory stages libraries d' with
        | mk result d'' =>
          rw [hrest'] at hrest
          cases result <;> exact hrest

theorem likelyLibraries_nodup (directories : List PluginDirectory) :
    (likelyLibraries directories).Nodup :=
  (Ranking.sortUnique_strict pathLess_compares Path.code_injective _).imp
    fun hlt heq => absurd (heq ▸ hlt) (lt_irrefl _)

variable (allowed directory stages) in
theorem collect_eq (directories : List PluginDirectory) (d : Disk) :
    (collectCandidateLibraries allowed directory stages directories d).1 =
        (if likelyLibraries directories = [] then .error noLibraries
        else (stageAll allowed directory stages (likelyLibraries directories) d).1.map
          fun staged => ⟨likelyLibraries directories, staged⟩) ∧
      (collectCandidateLibraries allowed directory stages directories d).2 =
        (stageAll allowed directory stages (likelyLibraries directories) d).2 := by
  unfold collectCandidateLibraries
  by_cases hnone : likelyLibraries directories = []
  · simp [hnone, stageAll]
  · simp only [if_neg hnone]
    cases stageAll allowed directory stages (likelyLibraries directories) d with
    | mk result d' => cases result <;> exact ⟨rfl, rfl⟩

/-- A call returns when there is a library and all can be staged. -/
theorem collect_ok_iff {directories : List PluginDirectory} {d : Disk}
    {candidates : CandidateLibraries} :
    (collectCandidateLibraries allowed directory stages directories d).1 = .ok candidates ↔
      likelyLibraries directories ≠ [] ∧
        ∃ staged, (stageAll allowed directory stages (likelyLibraries directories) d).1 =
            .ok staged ∧
          candidates = ⟨likelyLibraries directories, staged⟩ := by
  rw [(collect_eq allowed directory stages directories d).1]
  by_cases hnone : likelyLibraries directories = []
  · simp [hnone]
  · rw [if_neg hnone]
    cases (stageAll allowed directory stages (likelyLibraries directories) d).1 with
    | error e => simp [Except.map]
    | ok staged =>
      simp only [Except.map, Except.ok.injEq, exists_eq_left']
      exact ⟨fun h => ⟨hnone, h.symm⟩, fun h => h.2.symm⟩

/-- Every library is as it was. -/
def SourcesKept (libraries : List Path) (d d' : Disk) : Prop :=
  ∀ library ∈ libraries, d'.holds library = d.holds library

theorem copiedOnly_start (hready : Ready directory stages libraries d) :
    CopiedOnly directory stages d d := by
  refine ⟨fun _ _ => rfl, fun stage hstage name f hf => ?_, Nat.le_refl _, fun _ _ => rfl⟩
  rw [hready.empty stage hstage name] at hf
  cases hf

/-- Copies go to files that were not there. -/
theorem CopiedOnly.kept {d' : Disk} (h : CopiedOnly directory stages d d')
    (hready : Ready directory stages libraries d) : SourcesKept libraries d d' := by
  intro library hmem
  obtain ⟨f, hf⟩ := hready.found library hmem
  have hfile : d'.file library = d.file library := by
    refine h.files library fun stage hstage name heq => ?_
    rw [heq, hready.empty stage hstage name] at hf
    cases hf
  unfold Disk.holds
  rw [hfile, hf]
  exact congrArg some (h.content f (hready.numbered library f hf))

theorem sourcesKept_iff {d' : Disk}
    (hcontent : ∀ library ∈ libraries,
      d'.holds library = d.holds (contentFrom stages libraries library)) :
    SourcesKept libraries d d' ↔ ∀ name first last, stagesOf stages name ≠ [] →
      (sameName libraries name).head? = some first →
      (sameName libraries name).getLast? = some last → d.holds first = d.holds last := by
  have hmem : ∀ {name library}, library ∈ sameName libraries name →
      library ∈ libraries ∧ library.filename = name := by
    intro name library h
    simpa [sameName] using h
  constructor
  · intro hkept name first last hstages hfirst hlast
    obtain ⟨hin, hname⟩ := hmem (List.mem_of_mem_head? hfirst)
    rw [← hkept first hin, hcontent first hin]
    obtain ⟨rest, hgroup⟩ := List.head?_eq_some_iff.1 hfirst
    unfold contentFrom
    rw [hname, if_neg hstages, hgroup]
    simp only [if_true]
    rw [hgroup] at hlast
    rw [hlast]
    rfl
  · intro hsame library hin
    rw [hcontent library hin]
    unfold contentFrom
    split
    · rfl
    · rename_i hstages
      split
      · rfl
      · rename_i first rest hgroup
        split
        · rename_i heq
          subst heq
          obtain ⟨last, hlast⟩ := Option.ne_none_iff_exists'.1
            (show (first :: rest).getLast? ≠ none by simp)
          rw [hlast]
          exact (hsame first.filename first last hstages (by rw [hgroup]; rfl)
            (by rw [hgroup, hlast])).symm
        · rfl

/-- **What staging leaves.** With links: a call returns exactly when there is
a library and every library whose name is staged and taken can be copied into
the first one of the name, that is when this copy may be made and the two are
not one file; it then stages every library wherever its name goes, under which the
first library of the name is found, and writes no file but the libraries. If
no two libraries are one file, each is left with its content, but the first of
a name with that of the last, so that all are kept exactly when these are the
same. Without links all are kept, however the call ends. -/
theorem staging_outcome (allowed : Allowed) {directory : Stage → Path} {stages : List Stage}
    {directories : List PluginDirectory} {d : Disk}
    (hready : Ready directory stages (likelyLibraries directories) d) :
    let libraries := likelyLibraries directories
    let outcome := collectCandidateLibraries allowed directory stages directories d
    (allowed.links = true →
      ((∃ candidates, outcome.1 = .ok candidates) ↔
        libraries ≠ [] ∧ Stageable allowed stages d libraries) ∧
      ∀ candidates, outcome.1 = .ok candidates →
        candidates = ⟨libraries, libraries.flatMap (stagings directory stages)⟩ ∧
        (∀ stage ∈ stages, ∀ library ∈ libraries, stage.takes library.filename = true →
          outcome.2.file (stagedPath directory stage library) =
            ((sameName libraries library.filename).head?).bind d.file) ∧
        (∀ f, (∀ library ∈ libraries, d.file library ≠ some f) →
          outcome.2.content f = d.content f) ∧
        (OneFileEach d libraries →
          (∀ library ∈ libraries,
            outcome.2.holds library = d.holds (contentFrom stages libraries library)) ∧
          (SourcesKept libraries d outcome.2 ↔ ∀ name first last, stagesOf stages name ≠ [] →
            (sameName libraries name).head? = some first →
            (sameName libraries name).getLast? = some last → d.holds first = d.holds last))) ∧
    (allowed.links = false → SourcesKept libraries d outcome.2) := by
  intro libraries outcome
  have hdisk := (collect_eq allowed directory stages directories d).2
  constructor
  · intro hlinks
    obtain ⟨hreturns, hstaged⟩ := stageAll_spec hready hlinks libraries rfl
      (likelyLibraries_nodup directories) (reached_start hready) stageable_nil
    constructor
    · rw [← hreturns]
      constructor
      · intro h
        obtain ⟨candidates, h⟩ := h
        obtain ⟨hsome, staged, hok, -⟩ := collect_ok_iff.1 h
        exact ⟨hsome, staged, hok⟩
      · intro h
        obtain ⟨hsome, staged, hok⟩ := h
        exact ⟨_, collect_ok_iff.2 ⟨hsome, staged, hok, rfl⟩⟩
    · intro candidates h
      obtain ⟨-, staged, hok, rfl⟩ := collect_ok_iff.1 h
      obtain ⟨rfl, hreached⟩ := hstaged staged hok
      rw [← hdisk] at hreached
      refine ⟨rfl, ?_, hreached.others, fun heach =>
        ⟨hreached.content heach, sourcesKept_iff (hreached.content heach)⟩⟩
      intro stage hstage library _ htakes
      exact hreached.staged stage hstage library htakes
  · intro hlinks
    have hcopied := (copiedOnly_start hready).stageAll hlinks libraries
    rw [← hdisk] at hcopied
    exact hcopied.kept hready

end Staging

/-- Two versions of a plugin, in two directories. -/
def twoVersions : List PluginDirectory :=
  [⟨[str "opt"], some [⟨str "libGrDemoPlugin.so", true⟩, ⟨str "README", true⟩]⟩,
    ⟨[str "usr"], some [⟨str "libGrDemoPlugin.so", true⟩]⟩, ⟨[str "gone"], none⟩]

/-- What the two paths lead to. -/
def versionsDisk (opt usr : Nat) : Disk where
  file p :=
    if p = [str "opt", str "libGrDemoPlugin.so"] then some opt
    else if p = [str "usr", str "libGrDemoPlugin.so"] then some usr
    else none
  content f := if f = 0 then str "new" else str "old"
  next := 2

def stageDirectory : Stage → Path
  | .plugin => [str "tmp", str "plugins"]
  | .shared => [str "tmp", str "shared"]

theorem twoVersions_likely : likelyLibraries twoVersions =
    [[str "opt", str "libGrDemoPlugin.so"], [str "usr", str "libGrDemoPlugin.so"]] := by
  have hsorted : ([[str "opt", str "libGrDemoPlugin.so"],
      [str "usr", str "libGrDemoPlugin.so"]] : List Path).Pairwise
        fun a b => (!pathLess b a) = true := by decide +kernel
  show Ranking.sortUnique pathLess [[str "opt", str "libGrDemoPlugin.so"],
    [str "usr", str "libGrDemoPlugin.so"]] = _
  unfold Ranking.sortUnique Ranking.sort
  rw [List.mergeSort_of_pairwise hsorted]
  decide +kernel

theorem versionsDisk_file {opt usr : Nat} {p : Path} {f : Nat}
    (h : (versionsDisk opt usr).file p = some f) :
    (p = [str "opt", str "libGrDemoPlugin.so"] ∧ f = opt) ∨
      (p = [str "usr", str "libGrDemoPlugin.so"] ∧ f = usr) := by
  unfold versionsDisk at h
  simp only at h
  split at h
  · rename_i hp
    exact .inl ⟨hp, (Option.some.inj h).symm⟩
  · split at h
    · rename_i hp
      exact .inr ⟨hp, (Option.some.inj h).symm⟩
    · cases h

theorem twoVersions_ready {stages : List Stage} (hapart : Apart stageDirectory stages)
    (opt usr : Nat) (hopt : opt < 2) (husr : usr < 2) :
    Ready stageDirectory stages (likelyLibraries twoVersions) (versionsDisk opt usr) where
  numbered p f h := by
    obtain ⟨-, rfl⟩ | ⟨-, rfl⟩ := versionsDisk_file h
    · exact hopt
    · exact husr
  apart := hapart
  empty stage _ name := by
    cases h : (versionsDisk opt usr).file (stageDirectory stage ++ [name]) with
    | none => rfl
    | some f =>
      obtain ⟨hp, -⟩ | ⟨hp, -⟩ := versionsDisk_file h <;>
        cases stage <;> exact absurd (congrArg List.length hp) (by simp [stageDirectory])
  found := by
    rw [twoVersions_likely]
    simp only [List.mem_cons, List.not_mem_nil, or_false, forall_eq_or_imp, forall_eq]
    exact ⟨⟨opt, rfl⟩, ⟨usr, rfl⟩⟩

/-- The plugin is staged by both catalogs. -/
theorem demo_staged {stages : List Stage} (h : stages ∈ [blockStages, schedulerStages]) :
    Apart stageDirectory stages ∧ stagesOf stages (str "libGrDemoPlugin.so") ≠ [] := by
  simp only [List.mem_cons, List.not_mem_nil, or_false] at h
  obtain rfl | rfl := h <;> exact ⟨by unfold Apart; decide +kernel, by decide +kernel⟩

/-- Links and copies of every file. -/
def everything : Allowed := ⟨true, fun _ => true, fun _ _ => true⟩

theorem twoVersions_stageable_iff {stages : List Stage}
    (hstages : stagesOf stages (str "libGrDemoPlugin.so") ≠ []) (opt usr : Nat) :
    Stageable everything stages (versionsDisk opt usr) (likelyLibraries twoVersions) ↔
      usr ≠ opt := by
  rw [twoVersions_likely]
  constructor
  · intro h
    obtain ⟨f, g, hf, hg, -, hne⟩ := h [[str "opt", str "libGrDemoPlugin.so"]]
      [str "usr", str "libGrDemoPlugin.so"] [] rfl hstages _ rfl
    obtain rfl : usr = f := Option.some.inj hf
    obtain rfl : opt = g := Option.some.inj hg
    exact hne
  · intro hne
    have hfirst : Stageable everything stages (versionsDisk opt usr)
        [[str "opt", str "libGrDemoPlugin.so"]] := stageable_nil.snoc nofun
    refine hfirst.snoc ?_
    intro _ first hfirst
    cases hfirst
    exact ⟨usr, opt, rfl, rfl, rfl, hne⟩

/-- What the catalog of those stages collects where the plugin of `/opt` is file
0 and the one of `/usr` is file `usr`. -/
def collectVersions (usr : Nat) (stages : List Stage) :=
  collectCandidateLibraries everything stageDirectory stages twoVersions (versionsDisk 0 usr)

/-- The plugin in `/opt` is overwritten with the one in `/usr`; if they are one
file, nothing is listed. -/
theorem newer_version_lost :
    (∀ stages ∈ [blockStages, schedulerStages],
      (∃ candidates, (collectVersions 1 stages).1 = .ok candidates) ∧
      (versionsDisk 0 1).holds [str "opt", str "libGrDemoPlugin.so"] = some (str "new") ∧
      (collectVersions 1 stages).2.holds [str "opt", str "libGrDemoPlugin.so"] =
        some (str "old")) ∧
    ∀ stages ∈ [blockStages, schedulerStages], ∀ candidates,
      (collectVersions 0 stages).1 ≠ .ok candidates := by
  constructor
  · intro stages hmem
    obtain ⟨hapart, hstages⟩ := demo_staged hmem
    obtain ⟨hreturns, hleft⟩ := (staging_outcome everything
      (twoVersions_ready hapart 0 1 (by decide) (by decide))).1 rfl
    obtain ⟨candidates, hok⟩ := hreturns.2
      ⟨by rw [twoVersions_likely]; simp, (twoVersions_stageable_iff hstages 0 1).2 (by decide)⟩
    refine ⟨⟨candidates, hok⟩, by decide +kernel, ?_⟩
    have heach : OneFileEach (versionsDisk 0 1) (likelyLibraries twoVersions) := by
      rw [twoVersions_likely]
      unfold OneFileEach
      simp only [List.mem_cons, List.not_mem_nil, or_false, forall_eq_or_imp, forall_eq]
      decide +kernel
    have hcontent := ((hleft candidates hok).2.2.2 heach).1 [str "opt", str "libGrDemoPlugin.so"]
      (by rw [twoVersions_likely]; simp)
    rw [twoVersions_likely] at hcontent
    refine hcontent.trans ?_
    unfold contentFrom
    rw [show Path.filename [str "opt", str "libGrDemoPlugin.so"] = str "libGrDemoPlugin.so" from
      rfl, if_neg hstages]
    decide +kernel
  · intro stages hmem candidates hok
    obtain ⟨hapart, hstages⟩ := demo_staged hmem
    obtain ⟨hreturns, -⟩ := (staging_outcome everything
      (twoVersions_ready hapart 0 0 (by decide) (by decide))).1 rfl
    exact (twoVersions_stageable_iff hstages 0 0).1 (hreturns.1 ⟨candidates, hok⟩).2 rfl

end Gr4cp.Catalog

import Gr4ControlPlane.Core.Retained
import Gr4ControlPlane.L3Catalog.BlockProvider
import Gr4ControlPlane.L3Catalog.LibraryStaging
import Gr4ControlPlane.L3Runtime.PrepareAtomic

/-!
# The runtime environment of the process (`ensure_runtime_environment`)

The first session to be prepared sets up the process: the search paths, the
support libraries, the shared block libraries with their initialisation
functions, and the plugin loader. A `std::once_flag` keeps the answer for all
later sessions; an exception that is no `std::exception` leaves the flag as it
is, and the next session tries again.

* `environment_settles`: the answer of a call over any sequence of calls, and
  what every later call answers. Once it failed, no session is prepared.
* `listing_starts_over`: the block catalog's bootstrap of the staged libraries,
  which has no flag, over any listings.
* `directories_come_back_iff`: which directories survive the environment
  variable they are put into, and what repeated listings do to the library
  search path.

What a directory holds, and what the dynamic linker and the plugin loader do,
is free in every call. Paths are texts; what reading a directory throws is left
outside.
-/
namespace Gr4cp.Runtime

open Gr4cp.Core Gr4cp.Domain
open Gr4cp.Catalog (DirectoryEntry isSharedBlockLibrary splitPluginDirectories
  defaultPluginDirectories)

/-! ## The search paths -/

/-- The two variables of the process environment. -/
structure SearchPaths where
  /-- `GNURADIO4_PLUGIN_DIRECTORIES` -/
  pluginDirectories : Option Str
  /-- `LD_LIBRARY_PATH` -/
  libraryPath : Option Str
  deriving DecidableEq, Repr

/-- A directory behind those that are there. -/
def addDirectory (value directory : Str) : Str :=
  (if value.isEmpty then value else value ++ str ":") ++ directory

def joinDirectories (directories : List Str) : Str := directories.foldl addDirectory []

/-- mirrors src/runtime/gr4_runtime_manager.cpp:92-113,
src/catalog/gr4_block_catalog_provider.cpp:120-141,
src/catalog/gr4_scheduler_catalog_provider.cpp:82-103 -/
def prependLibrarySearchPath (directories : List Str) (paths : SearchPaths) : SearchPaths :=
  let existing := paths.libraryPath.getD []
  let value := joinDirectories directories
  let value := if existing.isEmpty then value else addDirectory value existing
  if value.isEmpty then paths else { paths with libraryPath := some (cString value) }

/-- mirrors src/runtime/gr4_runtime_manager.cpp:115-127 -/
def configurePluginEnvironment (directories : List Str) (paths : SearchPaths) : SearchPaths :=
  let value := joinDirectories directories
  prependLibrarySearchPath directories
    (if value.isEmpty then paths else { paths with pluginDirectories := some (cString value) })

/-! ## The libraries -/

/-- `path.filename()` -/
def libraryFilename (path : Str) : Str :=
  match Str.findLast (· == chr '/') path with
  | none => path
  | some i => path.drop (i + 1)

structure LibraryDirectory where
  path : Str
  /-- no entries when it is no directory -/
  entries : Option (List DirectoryEntry)

/-- `entry.path()` -/
def LibraryDirectory.pathOf (directory : LibraryDirectory) (name : Str) : Str :=
  if directory.path = [] ∨ directory.path.getLast? = some (chr '/') then directory.path ++ name
  else directory.path ++ str "/" ++ name

/-- The regular files that are wanted, in the order they are come across. -/
def librariesIn (wanted : Str → Bool) (directories : List LibraryDirectory) : List Str :=
  directories.flatMap fun directory =>
    ((directory.entries.getD []).filter fun entry => entry.isRegularFile && wanted entry.name).map
      fun entry => directory.pathOf entry.name

/-- mirrors src/runtime/gr4_runtime_manager.cpp:149-152,
src/catalog/gr4_block_catalog_provider.cpp:148-151 -/
def shouldPreload (name : Str) : Bool :=
  name == str "libgnuradio-blocklib-core.so" || name == str "libgnuradio-plugin.so"

/-- mirrors src/runtime/gr4_runtime_manager.cpp:181-195,
src/catalog/gr4_block_catalog_provider.cpp:224-238 -/
def moduleNameFromLibrary (path : Str) : Str :=
  let name := libraryFilename path
  let name := if (str "lib").isPrefixOf name then name.drop 3 else name
  let name :=
    if (str ".so").isSuffixOf name then name.take (name.length - 3)
    else if (str ".dylib").isSuffixOf name then name.take (name.length - 6)
    else name
  if (str "Shared").isSuffixOf name then name.take (name.length - 6) else name

def initSymbol (path : Str) : Str := str "gr_blocklib_init_module_" ++ moduleNameFromLibrary path

/-- What the dynamic linker and the plugin loader do. -/
structure Linker where
  /-- a handle, or what `dlerror` says, if anything -/
  dlopen : Str → Except (Option Str) Unit
  /-- the function of that name, if there is one: what a call of it does -/
  dlsym : Str → Str → Option (Except Exn Unit)
  /-- `globalPluginLoader().availableBlocks()` -/
  loader : Except Exn Unit

def linkError (what path : Str) (error : Option Str) : Exn :=
  .std (what ++ path ++ (error.map fun text => str ": " ++ text).getD [])

/-- mirrors src/runtime/gr4_runtime_manager.cpp:166-173 -/
def preloadLibrary (linker : Linker) (path : Str) : Tried Exn :=
  match linker.dlopen path with
  | .error error =>
    .failed (linkError (str "failed to preload GNU Radio 4 support library ") path error)
  | .ok _ => .held

/-- mirrors src/runtime/gr4_runtime_manager.cpp:218-239 -/
def bootstrapLibrary (linker : Linker) (path : Str) : Tried Exn :=
  match linker.dlopen path with
  | .error error =>
    .failed (linkError (str "failed to load GNU Radio 4 shared block library ") path error)
  | .ok _ =>
    match linker.dlsym path (initSymbol path) with
    | none => .held
    | some (.ok _) => .held
    | some (.error (.std what)) =>
      .spoiled (.std (str "failed to initialize GNU Radio 4 shared block library " ++ path ++
        str ": " ++ cString what))
    | some (.error .other) => .spoiled .other

/-! ## One call -/

structure Process where
  paths : SearchPaths
  support : Retained Str
  shared : Retained Str
  /-- whether the flag is set, and then `bootstrap_error` -/
  once : Option (Option Str)
  deriving DecidableEq, Repr

def Process.start (paths : SearchPaths) : Process := ⟨paths, .empty, .empty, none⟩

/-- What a call finds. -/
structure Surroundings where
  directories : List LibraryDirectory
  linker : Linker

/-- mirrors src/runtime/gr4_runtime_manager.cpp:144-179 -/
def preloadSupportLibraries (found : Surroundings) (p : Process) : Except Exn Unit × Process :=
  let (result, support) :=
    Retained.visit (preloadLibrary found.linker) (librariesIn shouldPreload found.directories)
      p.support
  (result, { p with support })

/-- mirrors src/runtime/gr4_runtime_manager.cpp:197-245 -/
def bootstrapSharedBlockLibraries (found : Surroundings) (p : Process) :
    Except Exn Unit × Process :=
  let (result, shared) :=
    Retained.visit (bootstrapLibrary found.linker)
      (librariesIn isSharedBlockLibrary found.directories) p.shared
  (result, { p with shared })

/-- mirrors src/runtime/gr4_runtime_manager.cpp:253-260 -/
def bootstrap (found : Surroundings) (p : Process) : Except Exn Unit × Process :=
  if found.directories = [] then
    (.error (.std (str "no GNU Radio 4 plugin directories are configured")), p)
  else
    let p := { p with paths := configurePluginEnvironment (found.directories.map (·.path)) p.paths }
    match preloadSupportLibraries found p with
    | (.error e, p) => (.error e, p)
    | (.ok _, p) =>
      match bootstrapSharedBlockLibraries found p with
      | (.error e, p) => (.error e, p)
      | (.ok _, p) => (found.linker.loader, p)

def initializationFailed (error : Str) : Exn :=
  .std (str "GNU Radio 4 runtime initialization failed: " ++ error)

/-- What a call answers once the flag is set. -/
def settledAnswer : Option Str → Except Exn Unit
  | none => .ok ()
  | some error => .error (initializationFailed error)

/-- mirrors src/runtime/gr4_runtime_manager.cpp:247-269 -/
def ensureRuntimeEnvironment (found : Surroundings) (p : Process) : Except Exn Unit × Process :=
  match p.once with
  | some error => (settledAnswer error, p)
  | none =>
    match bootstrap found p with
    | (.ok _, p) => (settledAnswer none, { p with once := some none })
    | (.error (.std what), p) =>
      (settledAnswer (some (cString what)), { p with once := some (some (cString what)) })
    | (.error .other, p) => (.error .other, p)

/-- The process after some calls. -/
def afterCalls (calls : List Surroundings) (p : Process) : Process :=
  calls.foldl (fun p found => (ensureRuntimeEnvironment found p).2) p

theorem afterCalls_append (calls calls' : List Surroundings) (p : Process) :
    afterCalls (calls ++ calls') p = afterCalls calls' (afterCalls calls p) :=
  List.foldl_append

theorem afterCalls_snoc (calls : List Surroundings) (found : Surroundings) (p : Process) :
    afterCalls (calls ++ [found]) p = (ensureRuntimeEnvironment found (afterCalls calls p)).2 :=
  afterCalls_append calls [found] p

/-! ## What the flag guards -/

abbrev supportLibraries (found : Surroundings) : List Str :=
  librariesIn shouldPreload found.directories

abbrev sharedLibraries (found : Surroundings) : List Str :=
  librariesIn isSharedBlockLibrary found.directories

theorem preload_held_iff {linker : Linker} {x : Str} :
    preloadLibrary linker x = .held ↔ ∃ u, linker.dlopen x = .ok u := by
  unfold preloadLibrary
  cases linker.dlopen x <;> simp

theorem preload_not_passed (linker : Linker) (x : Str) : preloadLibrary linker x ≠ .passed := by
  unfold preloadLibrary
  cases linker.dlopen x <;> simp

theorem preload_not_spoiled (linker : Linker) (x : Str) (e : Exn) :
    preloadLibrary linker x ≠ .spoiled e := by
  unfold preloadLibrary
  cases linker.dlopen x <;> simp

theorem preload_failed {linker : Linker} {x : Str} {e : Exn}
    (h : preloadLibrary linker x = .failed e) : e ≠ .other := by
  unfold preloadLibrary at h
  cases hopen : linker.dlopen x with
  | ok u => simp [hopen] at h
  | error error =>
    simp only [hopen, Tried.failed.injEq] at h
    subst h
    exact nofun

theorem bootstrap_not_passed (linker : Linker) (x : Str) :
    bootstrapLibrary linker x ≠ .passed := by
  unfold bootstrapLibrary
  repeat' split
  all_goals simp

/-- Its initialisation throws something else. -/
def Linker.ThrowsOther (linker : Linker) (x : Str) : Prop :=
  (∃ u, linker.dlopen x = .ok u) ∧ linker.dlsym x (initSymbol x) = some (.error .other)

theorem bootstrap_spoiled_iff {linker : Linker} {x : Str} :
    bootstrapLibrary linker x = .spoiled .other ↔ linker.ThrowsOther x := by
  unfold bootstrapLibrary Linker.ThrowsOther
  cases linker.dlopen x with
  | error error => simp
  | ok u => rcases linker.dlsym x (initSymbol x) with _ | (_ | _) | _ <;> simp

/-- The body of the flag comes to the library. -/
abbrev ComesTo (found : Surroundings) (p : Process) (x : Str) : Prop :=
  Retained.Comes (bootstrapLibrary found.linker) (sharedLibraries found) p.shared x

/-- What the body of the flag does. -/
structure Bootstrapped (found : Surroundings) (p : Process) (result : Except Exn Unit)
    (p' : Process) : Prop where
  once : p'.once = p.once
  support : p'.support.Inv
  shared : p'.shared.Inv
  supportGrows : ∀ x ∈ p.support.held, x ∈ p'.support.held
  sharedGrows : ∀ x ∈ p.shared.held, x ∈ p'.shared.held
  supportRetained : ∀ x ∈ p'.support.retained, x ∈ p.support.retained ∨ x ∈ p'.support.held
  sharedRetained : ∀ x ∈ p'.shared.retained, x ∈ p.shared.retained ∨ x ∈ p'.shared.held ∨
    (ComesTo found p x ∧ ∃ e, result = .error e ∧ bootstrapLibrary found.linker x = .spoiled e)
  sharedKept : ∀ x ∈ p.shared.retained, x ∈ p'.shared.retained
  sharedNew : ∀ x ∈ p'.shared.held, x ∈ p.shared.held ∨
    (x ∉ p.shared.retained ∧ bootstrapLibrary found.linker x = .held)
  spoils : result = .error .other → ∀ x, ComesTo found p x → found.linker.ThrowsOther x →
    x ∈ p'.shared.retained
  complete : result = .ok () → found.directories ≠ [] ∧
    (∀ x ∈ supportLibraries found, x ∈ p'.support.retained) ∧
    ∀ x ∈ sharedLibraries found, x ∈ p'.shared.retained
  ok_iff : result = .ok () ↔ found.directories ≠ [] ∧
    (∀ x ∈ supportLibraries found, x ∈ p.support.retained ∨
      preloadLibrary found.linker x = .held) ∧
    (∀ x ∈ sharedLibraries found, x ∈ p.shared.retained ∨
      bootstrapLibrary found.linker x = .held) ∧
    found.linker.loader = .ok ()

/-- A call that ends before it comes to the shared libraries. -/
theorem Bootstrapped.early {found : Surroundings} {p p' : Process} {what : Str}
    (hp : p' = { p with paths := p'.paths, support := p'.support }) (hsupport : p'.support.Inv)
    (hshared : p.shared.Inv) (hgrows : ∀ x ∈ p.support.held, x ∈ p'.support.held)
    (hkept : ∀ x ∈ p'.support.retained, x ∈ p.support.retained ∨ x ∈ p'.support.held)
    (hends : found.directories ≠ [] → ¬ ∀ x ∈ supportLibraries found,
      x ∈ p.support.retained ∨ preloadLibrary found.linker x = .held) :
    Bootstrapped found p (.error (.std what)) p' := by
  have honce : p'.once = p.once := by rw [hp]
  have hsame : p'.shared = p.shared := by rw [hp]
  exact
    { once := honce
      support := hsupport
      shared := hsame ▸ hshared
      supportGrows := hgrows
      sharedGrows := fun _ h => hsame ▸ h
      supportRetained := hkept
      sharedRetained := fun _ h => .inl (hsame ▸ h)
      sharedKept := fun _ h => hsame ▸ h
      sharedNew := fun _ h => .inl (hsame ▸ h)
      spoils := nofun
      complete := nofun
      ok_iff := iff_of_false nofun fun h => hends h.1 h.2.1 }

/-- What `preload_support_libraries` does. -/
theorem preload_visited (found : Surroundings) {p : Process} (hsupport : p.support.Inv) :
    let visited := Retained.visit (preloadLibrary found.linker) (supportLibraries found) p.support
    visited.2.Inv ∧ (∀ x ∈ p.support.held, x ∈ visited.2.held) ∧
      (∀ x ∈ visited.2.retained, x ∈ p.support.retained ∨ x ∈ visited.2.held) ∧
      (visited.1 = .ok () → ∀ x ∈ supportLibraries found, x ∈ visited.2.retained) ∧
      (visited.1 = .ok () ↔ ∀ x ∈ supportLibraries found,
        x ∈ p.support.retained ∨ preloadLibrary found.linker x = .held) ∧
      ∀ e, visited.1 = .error e → ∃ what, e = .std what := by
  intro visited
  have hvisited : Retained.Visited (preloadLibrary found.linker) (supportLibraries found) p.support
      visited.1 visited.2 := Retained.visit_visited _ _ hsupport
  have hok := Retained.visit_ok_iff (preloadLibrary found.linker) (supportLibraries found) hsupport
  simp only [preload_not_passed, or_false] at hok
  refine ⟨hvisited.inv, hvisited.grows.1, fun x hx => ?_,
    fun h x hx => (hvisited.complete h x hx).resolve_right (preload_not_passed _ _), hok,
    fun e he => ?_⟩
  · obtain hold | hheld | ⟨-, e, -, hspoiled⟩ := hvisited.retained x hx
    · exact .inl hold
    · exact .inr hheld
    · exact absurd hspoiled (preload_not_spoiled _ _ _)
  · obtain ⟨y, -, hfailed | hspoiled⟩ := hvisited.raised e he
    · cases e with
      | std what => exact ⟨what, rfl⟩
      | other => exact absurd rfl (preload_failed hfailed)
    · exact absurd hspoiled (preload_not_spoiled _ _ _)

theorem bootstrap_bootstrapped (found : Surroundings) {p : Process} (hsupport : p.support.Inv)
    (hshared : p.shared.Inv) :
    Bootstrapped found p (bootstrap found p).1 (bootstrap found p).2 := by
  unfold bootstrap
  by_cases hdirectories : found.directories = []
  · rw [if_pos hdirectories]
    exact .early rfl hsupport hshared (fun _ h => h) (fun _ h => .inl h)
      fun h => absurd hdirectories h
  rw [if_neg hdirectories]
  obtain ⟨hinv, hgrows, hkept, hpreloaded, hpreloadOk, hraised⟩ := preload_visited found hsupport
  have hboot := Retained.visit_visited (bootstrapLibrary found.linker) (sharedLibraries found)
    hshared
  have hbootOk := Retained.visit_ok_iff (bootstrapLibrary found.linker) (sharedLibraries found)
    hshared
  simp only [bootstrap_not_passed, or_false] at hbootOk
  rcases hvisit : Retained.visit (preloadLibrary found.linker) (supportLibraries found) p.support
    with ⟨result, support⟩
  rcases hvisit' : Retained.visit (bootstrapLibrary found.linker) (sharedLibraries found) p.shared
    with ⟨result', shared⟩
  rw [hvisit] at hinv hgrows hkept hpreloaded hpreloadOk hraised
  rw [hvisit'] at hboot hbootOk
  simp only [preloadSupportLibraries, bootstrapSharedBlockLibraries, hvisit]
  cases result with
  | error e =>
    obtain ⟨what, rfl⟩ := hraised e rfl
    exact .early rfl hinv hshared hgrows hkept fun _ h => nomatch hpreloadOk.2 h
  | ok u =>
    simp only [hvisit']
    have hnew : ∀ x ∈ shared.held, x ∈ p.shared.held ∨
        (x ∉ p.shared.retained ∧ bootstrapLibrary found.linker x = .held) := fun x hx =>
      (hboot.held x hx).imp_right And.right
    have hspoils : ∀ x, ComesTo found p x → found.linker.ThrowsOther x → x ∈ shared.retained := by
      intro x hcomes hthrows
      have hspoiled := hcomes.spoils (bootstrap_spoiled_iff.2 hthrows)
      rw [hvisit'] at hspoiled
      exact hspoiled.2
    cases result' with
    | error e =>
      exact
        { once := rfl
          support := hinv
          shared := hboot.inv
          supportGrows := hgrows
          sharedGrows := hboot.grows.1
          supportRetained := hkept
          sharedRetained := hboot.retained
          sharedKept := hboot.grows.2
          sharedNew := hnew
          spoils := fun _ => hspoils
          complete := nofun
          ok_iff := iff_of_false nofun fun h => nomatch hbootOk.2 h.2.2.1 }
    | ok u' =>
      exact
        { once := rfl
          support := hinv
          shared := hboot.inv
          supportGrows := hgrows
          sharedGrows := hboot.grows.1
          supportRetained := hkept
          sharedRetained := fun x hx => by
            obtain hold | hheld | ⟨-, e, he, -⟩ := hboot.retained x hx
            · exact .inl hold
            · exact .inr (.inl hheld)
            · cases he
          sharedKept := hboot.grows.2
          sharedNew := hnew
          spoils := fun _ => hspoils
          complete := fun _ => ⟨hdirectories, hpreloaded rfl, fun x hx =>
            (hboot.complete rfl x hx).resolve_right (bootstrap_not_passed _ _)⟩
          ok_iff := ⟨fun h => ⟨hdirectories, hpreloadOk.1 rfl, hbootOk.1 rfl, h⟩,
            fun h => h.2.2.2⟩ }

/-! ## Any sequence of calls -/

theorem ensure_settled {p : Process} {error : Option Str} (h : p.once = some error)
    (found : Surroundings) : ensureRuntimeEnvironment found p = (settledAnswer error, p) := by
  unfold ensureRuntimeEnvironment
  rw [h]

/-- A call that is not left with anything else sets the flag. -/
theorem ensure_settles {found : Surroundings} {p : Process}
    (h : (ensureRuntimeEnvironment found p).1 ≠ .error .other) :
    ∃ error, (ensureRuntimeEnvironment found p).2.once = some error ∧
      (ensureRuntimeEnvironment found p).1 = settledAnswer error := by
  cases honce : p.once with
  | some error =>
    rw [ensure_settled honce]
    exact ⟨error, honce, rfl⟩
  | none =>
    revert h
    unfold ensureRuntimeEnvironment
    simp only [honce]
    rcases bootstrap found p with ⟨_ | _, p'⟩
    · rename_i e
      cases e with
      | std what => exact fun _ => ⟨_, rfl, rfl⟩
      | other => exact fun h => absurd rfl h
    · exact fun _ => ⟨_, rfl, rfl⟩

theorem settledAnswer_ne_other (error : Option Str) : settledAnswer error ≠ .error .other := by
  cases error <;> exact nofun

/-- A call that is left with something else has done what the body of the
flag does, and no more. -/
theorem ensure_other {found : Surroundings} {p : Process}
    (h : (ensureRuntimeEnvironment found p).1 = .error .other) :
    bootstrap found p = (.error .other, (ensureRuntimeEnvironment found p).2) := by
  revert h
  unfold ensureRuntimeEnvironment
  cases p.once with
  | some error => exact fun h => absurd h (settledAnswer_ne_other error)
  | none =>
    rcases bootstrap found p with ⟨e | u, p'⟩
    · cases e with
      | std what => exact fun h => absurd h (settledAnswer_ne_other (some (cString what)))
      | other => exact fun _ => rfl
    · exact fun h => absurd h (settledAnswer_ne_other none)

/-- A library that is retained without being held is left so. -/
theorem ensure_stuck (found : Surroundings) {p : Process} (hsupport : p.support.Inv)
    (hshared : p.shared.Inv) {x : Str} (hx : x ∈ p.shared.retained) (hnot : x ∉ p.shared.held) :
    x ∈ (ensureRuntimeEnvironment found p).2.shared.retained ∧
      x ∉ (ensureRuntimeEnvironment found p).2.shared.held := by
  have hboot := bootstrap_bootstrapped found hsupport hshared
  have hstuck : x ∈ (bootstrap found p).2.shared.retained ∧
      x ∉ (bootstrap found p).2.shared.held := by
    refine ⟨hboot.sharedKept x hx, fun hheld => ?_⟩
    obtain hold | hnew := hboot.sharedNew x hheld
    · exact hnot hold
    · exact hnew.1 hx
  revert hstuck
  unfold ensureRuntimeEnvironment
  cases p.once with
  | some error => exact fun _ => ⟨hx, hnot⟩
  | none => rcases bootstrap found p with ⟨(_ | _) | _, p'⟩ <;> exact id

/-- The linkers differ at a shared library at most. -/
structure Linker.SameBut (linker : Linker) (x : Str) (support : List Str) (linker' : Linker) :
    Prop where
  dlopen : ∀ y, y ≠ x ∨ y ∈ support → linker'.dlopen y = linker.dlopen y
  dlsym : ∀ y, y ≠ x → linker'.dlsym y = linker.dlsym y
  loader : linker'.loader = linker.loader

/-- A library that is retained is not tried again. -/
theorem ensure_not_tried {found : Surroundings} {p : Process} {x : Str}
    (hx : x ∈ p.shared.retained) {linker : Linker}
    (hsame : found.linker.SameBut x (supportLibraries found) linker) :
    ensureRuntimeEnvironment { found with linker } p = ensureRuntimeEnvironment found p := by
  have hpreload : ∀ p : Process, preloadSupportLibraries { found with linker } p =
      preloadSupportLibraries found p := by
    intro p
    have hsupport : ∀ y ∈ supportLibraries found, y ∉ p.support.retained →
        preloadLibrary linker y = preloadLibrary found.linker y := by
      intro y hy _
      unfold preloadLibrary
      rw [hsame.dlopen y (.inr hy)]
    unfold preloadSupportLibraries
    simp only
    rw [Retained.visit_congr hsupport]
  have hboot : ∀ p : Process, x ∈ p.shared.retained →
      bootstrapSharedBlockLibraries { found with linker } p =
        bootstrapSharedBlockLibraries found p := by
    intro p hx
    have hshared : ∀ y ∈ sharedLibraries found, y ∉ p.shared.retained →
        bootstrapLibrary linker y = bootstrapLibrary found.linker y := by
      intro y _ hy
      have hne : y ≠ x := fun h => hy (h ▸ hx)
      unfold bootstrapLibrary
      rw [hsame.dlopen y (.inl hne), hsame.dlsym y hne]
    unfold bootstrapSharedBlockLibraries
    simp only
    rw [Retained.visit_congr hshared]
  have hbody : bootstrap { found with linker } p = bootstrap found p := by
    unfold bootstrap
    simp only [hpreload, hsame.loader]
    split
    · rfl
    · rename_i hdirectories
      rcases hrun : preloadSupportLibraries found { p with
        paths := configurePluginEnvironment (found.directories.map (·.path)) p.paths } with
        ⟨_ | _, p'⟩
      · rfl
      · have hkept : p'.shared = p.shared :=
          (congrArg (fun outcome => outcome.2.shared) hrun).symm
        simp only [hboot p' (hkept ▸ hx)]
  unfold ensureRuntimeEnvironment
  rw [hbody]

theorem afterCalls_settled {p : Process} {error : Option Str} (h : p.once = some error)
    (calls : List Surroundings) : afterCalls calls p = p := by
  induction calls with
  | nil => rfl
  | cons found calls ih =>
    show afterCalls calls (ensureRuntimeEnvironment found p).2 = p
    rw [ensure_settled h, ih]

section Calls

variable (paths : SearchPaths)

/-- A call comes to the library, and is left with what its initialisation
throws. -/
structure Throws (found : Surroundings) (p : Process) (x : Str) : Prop where
  answer : (ensureRuntimeEnvironment found p).1 = .error .other
  comes : ComesTo found p x
  throws : found.linker.ThrowsOther x

/-- Such a library is retained without being held. -/
theorem Throws.stuck {found : Surroundings} {p : Process} {x : Str} (h : Throws found p x)
    (hsupport : p.support.Inv) (hshared : p.shared.Inv) :
    x ∈ (ensureRuntimeEnvironment found p).2.shared.retained ∧
      x ∉ (ensureRuntimeEnvironment found p).2.shared.held := by
  have hboot := bootstrap_bootstrapped found hsupport hshared
  rw [ensure_other h.answer] at hboot
  refine ⟨hboot.spoils rfl x h.comes h.throws, fun hheld => ?_⟩
  obtain hold | ⟨-, hnew⟩ := hboot.sharedNew x hheld
  · exact h.comes.new (hshared.within x hold)
  · rw [bootstrap_spoiled_iff.2 h.throws] at hnew
    cases hnew

/-- A call was left with what the library's initialisation threw. -/
def Foiled (calls : List Surroundings) (x : Str) : Prop :=
  ∃ earlier found rest, calls = earlier ++ found :: rest ∧
    Throws found (afterCalls earlier (.start paths)) x

/-- What the environment has when it is ready: the libraries that the call
found which set it up. -/
structure Ready (calls : List Surroundings) (found : Surroundings) (p : Process) : Prop where
  configured : found.directories ≠ []
  support : ∀ x ∈ supportLibraries found, x ∈ p.support.held
  shared : ∀ x ∈ sharedLibraries found, x ∈ p.shared.held ∨ Foiled paths calls x

structure Sound (calls : List Surroundings) (p : Process) : Prop where
  support : p.support.Inv
  shared : p.shared.Inv
  supportHeld : ∀ x ∈ p.support.retained, x ∈ p.support.held
  sharedHeld : (∀ error, p.once ≠ some (some error)) →
    ∀ x ∈ p.shared.retained, x ∈ p.shared.held ∨ Foiled paths calls x
  ready : p.once = some none → ∃ found ∈ calls, Ready paths calls found p

variable {paths} {calls : List Surroundings}

theorem Foiled.snoc {x : Str} (h : Foiled paths calls x) (found : Surroundings) :
    Foiled paths (calls ++ [found]) x := by
  obtain ⟨earlier, found', rest, rfl, hcall⟩ := h
  exact ⟨earlier, found', rest ++ [found], by simp, hcall⟩

theorem Ready.snoc {p : Process} {found : Surroundings} (h : Ready paths calls found p)
    (next : Surroundings) : Ready paths (calls ++ [next]) found p where
  configured := h.configured
  support := h.support
  shared x hx := (h.shared x hx).imp_right (Foiled.snoc · next)

theorem Sound.snoc {p : Process} (h : Sound paths calls p) (next : Surroundings) :
    Sound paths (calls ++ [next]) p where
  support := h.support
  shared := h.shared
  supportHeld := h.supportHeld
  sharedHeld hno x hx := (h.sharedHeld hno x hx).imp_right (Foiled.snoc · next)
  ready honce := by
    obtain ⟨found, hfound, hready⟩ := h.ready honce
    exact ⟨found, List.mem_append_left _ hfound, hready.snoc next⟩

/-- One more call. -/
theorem Sound.call {p : Process} (hp : afterCalls calls (.start paths) = p)
    (h : Sound paths calls p) (found : Surroundings) :
    Sound paths (calls ++ [found]) (ensureRuntimeEnvironment found p).2 := by
  cases honce : p.once with
  | some error =>
    rw [ensure_settled honce]
    exact h.snoc found
  | none =>
    have hboot := bootstrap_bootstrapped found h.support h.shared
    have hunset : ∀ error, p.once ≠ some (some error) := fun error he => by simp [honce] at he
    rcases hrun : bootstrap found p with ⟨result, p'⟩
    rw [hrun] at hboot
    have hcall : ensureRuntimeEnvironment found p =
        match (result, p') with
        | (.ok _, p) => (settledAnswer none, { p with once := some none })
        | (.error (.std what), p) =>
          (settledAnswer (some (cString what)), { p with once := some (some (cString what)) })
        | (.error .other, p) => (.error .other, p) := by
      unfold ensureRuntimeEnvironment
      rw [honce]
      simp only [hrun]
    have hsupport : ∀ x ∈ p'.support.retained, x ∈ p'.support.held := by
      intro x hx
      obtain hold | hheld := hboot.supportRetained x hx
      · exact hboot.supportGrows x (h.supportHeld x hold)
      · exact hheld
    have hshared : ∀ x ∈ p'.shared.retained, (x ∈ p'.shared.held ∨ Foiled paths calls x) ∨
        (ComesTo found p x ∧
          ∃ e, result = .error e ∧ bootstrapLibrary found.linker x = .spoiled e) := by
      intro x hx
      obtain hold | hheld | hspoiled := hboot.sharedRetained x hx
      · exact .inl ((h.sharedHeld hunset x hold).imp_left (hboot.sharedGrows x))
      · exact .inl (.inl hheld)
      · exact .inr hspoiled
    cases result with
    | ok u =>
      rw [hcall]
      have hheld : ∀ x ∈ p'.shared.retained,
          x ∈ p'.shared.held ∨ Foiled paths (calls ++ [found]) x := by
        intro x hx
        obtain hx | ⟨-, e, he, -⟩ := hshared x hx
        · exact hx.imp_right (Foiled.snoc · found)
        · cases he
      obtain ⟨hdirectories, hpreloaded, hbooted⟩ := hboot.complete rfl
      exact
        { support := hboot.support
          shared := hboot.shared
          supportHeld := hsupport
          sharedHeld := fun _ => hheld
          ready := fun _ => ⟨found, by simp, hdirectories,
            fun x hx => hsupport x (hpreloaded x hx), fun x hx => hheld x (hbooted x hx)⟩ }
    | error e =>
      cases e with
      | std what =>
        rw [hcall]
        exact
          { support := hboot.support
            shared := hboot.shared
            supportHeld := hsupport
            sharedHeld := fun hno => absurd rfl (hno _)
            ready := nofun }
      | other =>
        have hfoiled : ∀ x, ComesTo found p x → bootstrapLibrary found.linker x = .spoiled .other →
            Foiled paths (calls ++ [found]) x := fun x hcomes hspoiled =>
          ⟨calls, found, [], rfl, by
            rw [hp]
            exact ⟨by rw [hcall], hcomes, bootstrap_spoiled_iff.1 hspoiled⟩⟩
        rw [hcall]
        exact
          { support := hboot.support
            shared := hboot.shared
            supportHeld := hsupport
            sharedHeld := fun _ x hx => by
              obtain hx | ⟨hcomes, e, he, hspoiled⟩ := hshared x hx
              · exact hx.imp_right (Foiled.snoc · found)
              · cases he
                exact .inr (hfoiled x hcomes hspoiled)
            ready := fun hready => by
              rw [hboot.once, honce] at hready
              cases hready }

theorem sound_afterCalls (paths : SearchPaths) (calls : List Surroundings) :
    Sound paths calls (afterCalls calls (.start paths)) := by
  induction calls using List.reverseRecOn with
  | nil =>
    exact
      { support := Retained.inv_empty
        shared := Retained.inv_empty
        supportHeld := nofun
        sharedHeld := nofun
        ready := nofun }
  | append_singleton calls found ih =>
    rw [afterCalls_snoc]
    exact ih.call rfl found

/-- Such a library stays retained without being held, through all later
calls. -/
theorem Foiled.stuck {x : Str} (h : Foiled paths calls x) :
    x ∈ (afterCalls calls (.start paths)).shared.retained ∧
      x ∉ (afterCalls calls (.start paths)).shared.held := by
  obtain ⟨earlier, found, rest, rfl, hthrows⟩ := h
  have hsound := sound_afterCalls paths earlier
  induction rest using List.reverseRecOn with
  | nil =>
    rw [afterCalls_snoc]
    exact hthrows.stuck hsound.support hsound.shared
  | append_singleton rest next ih =>
    have hsound' := sound_afterCalls paths (earlier ++ found :: rest)
    rw [← List.cons_append, ← List.append_assoc, afterCalls_snoc]
    exact ensure_stuck next hsound'.support hsound'.shared ih.1 ih.2

end Calls

/-! ## What it means for a session -/

/-- Nothing but the environment is in the way of the session. -/
structure Preparable (y : Yaml) (session : Session) (m : Manager) : Prop where
  idle : ∀ r, m.resources.lookup session.id = some r →
    r.lifecyclePhase ≠ .stopping ∧ r.execution = none
  contract : validateStreamRuntimeContract y session = none

/-- A session is not prepared without the environment. -/
theorem prepare_without_environment {y : Yaml} {session : Session} {m : Manager}
    (h : Preparable y session m) {ans : ∀ call, Answer call} {e : Exn}
    (he : ans .ensureRuntimeEnvironment = .error e) :
    (prepare y session).exec ans m = (.error e, m.getOrCreateResources session.id) := by
  have hentry : ((m.resources.lookup session.id).getD { sessionId := session.id }).lifecyclePhase ≠
        .stopping ∧
      ((m.resources.lookup session.id).getD { sessionId := session.id }).execution = none := by
    cases hlookup : m.resources.lookup session.id with
    | none => exact ⟨nofun, rfl⟩
    | some r => exact h.idle r hlookup
  have hrequest : ∀ m, (request .ensureRuntimeEnvironment : Rt Unit).exec ans m =
      (ans .ensureRuntimeEnvironment, m) := fun _ => rfl
  rw [exec_prepare ans rfl, if_neg hentry.1, hentry.2, h.contract]
  simp only [Option.isSome_none, Bool.false_eq_true, if_false, bindAndLoad, Prog.bind_eq,
    Prog.exec_bind, hrequest, he]

/-- What has to succeed for the environment to be set up. -/
def CanBootstrap (found : Surroundings) (p : Process) : Prop :=
  found.directories ≠ [] ∧
    (∀ x ∈ supportLibraries found, x ∈ p.support.retained ∨ ∃ u, found.linker.dlopen x = .ok u) ∧
    (∀ x ∈ sharedLibraries found, x ∈ p.shared.retained ∨
      bootstrapLibrary found.linker x = .held) ∧
    found.linker.loader = .ok ()

theorem ensure_ok_iff {found : Surroundings} {p : Process} (honce : p.once = none)
    (hsupport : p.support.Inv) (hshared : p.shared.Inv) :
    (ensureRuntimeEnvironment found p).1 = .ok () ↔ CanBootstrap found p := by
  have hok := (bootstrap_bootstrapped found hsupport hshared).ok_iff
  simp only [preload_held_iff] at hok
  unfold CanBootstrap
  rw [← hok]
  unfold ensureRuntimeEnvironment
  simp only [honce]
  rcases bootstrap found p with ⟨_ | _, p'⟩
  · rename_i e
    cases e <;> simp [settledAnswer]
  · simp [settledAnswer]

/-- **The environment is set up once.** After any calls, whatever each of them
finds: no library is held twice. While the flag is unset a call returns exactly
when every library that is not retained opens and initialises and the loader
loads. A call that returns has the libraries that the call found which set the
environment up, but for those whose initialisation threw something else in an
earlier call: such a library is not held, and no later call tries it again,
whatever would come of it by then. A call that is not left with something else
settles the answer and the process for all later calls; once it failed, every
later session that nothing else keeps from it fails to be prepared with the
same text and gets nothing. -/
theorem environment_settles (paths : SearchPaths) (before : List Surroundings)
    (found : Surroundings) :
    let p := afterCalls before (.start paths)
    let answer := (ensureRuntimeEnvironment found p).1
    let q := (ensureRuntimeEnvironment found p).2
    (q.support.held.Nodup ∧ q.shared.held.Nodup) ∧
    (p.once = none → (answer = .ok () ↔ CanBootstrap found p)) ∧
    (answer = .ok () →
      ∃ settling ∈ before ++ [found], Ready paths (before ++ [found]) settling q) ∧
    (∀ x, Foiled paths before x → x ∉ p.shared.held ∧
      ∀ linker, found.linker.SameBut x (supportLibraries found) linker →
        ensureRuntimeEnvironment { found with linker } p = ensureRuntimeEnvironment found p) ∧
    (answer ≠ .error .other →
      ∀ later next, ensureRuntimeEnvironment next (afterCalls later q) = (answer, q)) ∧
    ∀ what, answer = .error (.std what) → ∀ y session m, Preparable y session m →
      ∀ later next, ∀ ans : ∀ call, Answer call,
        ans .ensureRuntimeEnvironment =
          (ensureRuntimeEnvironment next (afterCalls later q)).1 →
        (prepare y session).exec ans m =
          (.error (.std what), m.getOrCreateResources session.id) := by
  intro p answer q
  have hp := sound_afterCalls paths before
  have hq : Sound paths (before ++ [found]) q := hp.call rfl found
  have hsettled : answer ≠ .error .other →
      ∀ later next, ensureRuntimeEnvironment next (afterCalls later q) = (answer, q) := by
    intro h later next
    obtain ⟨error, honce, hanswer⟩ := ensure_settles h
    rw [afterCalls_settled honce, ensure_settled honce]
    exact congrArg (·, q) hanswer.symm
  refine ⟨⟨hq.support.nodup, hq.shared.nodup⟩,
    fun honce => ensure_ok_iff honce hp.support hp.shared, fun hok => ?_,
    fun x hfoiled => ⟨hfoiled.stuck.2, fun _ hsame => ensure_not_tried hfoiled.stuck.1 hsame⟩,
    hsettled, ?_⟩
  · have hsettles : (ensureRuntimeEnvironment found p).1 ≠ .error .other :=
      fun h => nomatch hok.symm.trans h
    obtain ⟨error, honce, hanswer⟩ := ensure_settles hsettles
    cases error with
    | none => exact hq.ready honce
    | some error => exact nomatch hok.symm.trans hanswer
  · intro what hwhat y session m hpreparable later next ans hans
    rw [hsettled (fun h => nomatch hwhat.symm.trans h)] at hans
    exact prepare_without_environment hpreparable (hans.trans hwhat)

/-- A directory with a shared block library. -/
def mathLibraries : LibraryDirectory where
  path := str "/plugins"
  entries := some [⟨str "libGrMathShared.so", true⟩]

/-- Initialising the library throws a number. -/
def throwingLinker : Linker where
  dlopen _ := .ok ()
  dlsym _ symbol :=
    if symbol = str "gr_blocklib_init_module_GrMath" then some (.error .other) else none
  loader := .ok ()

theorem math_foiled :
    Foiled ⟨none, none⟩ [⟨[mathLibraries], throwingLinker⟩] (str "/plugins/libGrMathShared.so") :=
  ⟨[], _, [], rfl, by decide +kernel, ⟨by decide +kernel, [], [], by decide +kernel, nofun⟩,
    ⟨(), rfl⟩, by decide +kernel⟩

/-- The second session finds everything ready without the library, also if it
would have been initialised by then. -/
theorem thrown_library_missing :
    let found : Surroundings := ⟨[mathLibraries], throwingLinker⟩
    let p := afterCalls [found] (.start ⟨none, none⟩)
    let q := afterCalls [found, found] (.start ⟨none, none⟩)
    (∀ linker, throwingLinker.SameBut (str "/plugins/libGrMathShared.so") [] linker →
      ensureRuntimeEnvironment { found with linker } p = (.ok (), q)) ∧
    q.once = some none ∧ q.shared.held = [] ∧
      ∀ later next, ensureRuntimeEnvironment next (afterCalls later q) = (.ok (), q) := by
  have hanswer : (ensureRuntimeEnvironment ⟨[mathLibraries], throwingLinker⟩
      (afterCalls [⟨[mathLibraries], throwingLinker⟩] (.start ⟨none, none⟩))).1 = .ok () := by
    decide +kernel
  have hsupport : supportLibraries ⟨[mathLibraries], throwingLinker⟩ = [] := by decide +kernel
  obtain ⟨-, -, -, hagain, hsettled, -⟩ := environment_settles ⟨none, none⟩
    [⟨[mathLibraries], throwingLinker⟩] ⟨[mathLibraries], throwingLinker⟩
  refine ⟨fun linker hsame => ?_, by decide +kernel, by decide +kernel, ?_⟩
  · rw [← hsupport] at hsame
    exact ((hagain _ math_foiled).2 linker hsame).trans (Prod.ext hanswer rfl)
  · rw [hanswer] at hsettled
    exact hsettled nofun

/-! ## The catalog's own bootstrap -/

/-- mirrors src/catalog/gr4_block_catalog_provider.cpp:252-269 -/
def blocklibLibrary (linker : Linker) (path : Str) : Tried Exn :=
  match linker.dlopen path with
  | .error _ => .passed
  | .ok _ =>
    match linker.dlsym path (initSymbol path) with
    | none => .held
    | some (.ok _) => .held
    | some (.error e) => .failed e

/-- mirrors src/catalog/gr4_block_catalog_provider.cpp:240-275 -/
def bootstrapBlocklibSymbols (linker : Linker) (staged : List Str) (s : Retained Str) :
    Except Exn Unit × Retained Str :=
  Retained.visit (blocklibLibrary linker) staged s

theorem blocklib_not_spoiled (linker : Linker) (x : Str) (e : Exn) :
    blocklibLibrary linker x ≠ .spoiled e := by
  unfold blocklibLibrary
  repeat' split
  all_goals simp

theorem blocklib_passed_iff {linker : Linker} {x : Str} :
    blocklibLibrary linker x = .passed ↔ ∃ error, linker.dlopen x = .error error := by
  unfold blocklibLibrary
  cases linker.dlopen x with
  | error error => simp
  | ok u => rcases linker.dlsym x (initSymbol x) with _ | (_ | _) <;> simp

theorem blocklib_failed {linker : Linker} {x : Str} {e : Exn}
    (h : blocklibLibrary linker x = .failed e) :
    linker.dlsym x (initSymbol x) = some (.error e) := by
  unfold blocklibLibrary at h
  cases hopen : linker.dlopen x with
  | error error => simp [hopen] at h
  | ok u =>
    rw [hopen] at h
    rcases hinit : linker.dlsym x (initSymbol x) with _ | (_ | _) <;> simp [hinit] at h
    rw [h]

/-- After some listings, each with its own linker and staged libraries. -/
def afterListings (listings : List (Linker × List Str)) : Retained Str :=
  listings.foldl (fun s listing => (bootstrapBlocklibSymbols listing.1 listing.2 s).2) .empty

/-- No library is held twice, and none is retained that is not held. -/
theorem listings_inv (listings : List (Linker × List Str)) :
    (afterListings listings).Inv ∧
      ∀ x ∈ (afterListings listings).retained, x ∈ (afterListings listings).held := by
  induction listings using List.reverseRecOn with
  | nil => exact ⟨Retained.inv_empty, nofun⟩
  | append_singleton listings listing ih =>
    obtain ⟨hinv, hheld⟩ := ih
    have hvisited := Retained.visit_visited (blocklibLibrary listing.1) listing.2 hinv
    have hsnoc : afterListings (listings ++ [listing]) =
        (bootstrapBlocklibSymbols listing.1 listing.2 (afterListings listings)).2 :=
      List.foldl_append
    rw [hsnoc]
    refine ⟨hvisited.inv, fun x hx => ?_⟩
    obtain hold | hnew | ⟨-, e, -, hspoiled⟩ := hvisited.retained x hx
    · exact hvisited.grows.1 x (hheld x hold)
    · exact hnew
    · exact absurd hspoiled (blocklib_not_spoiled _ _ _)

/-- **A listing starts over with what failed.** After any listings: no library
is held twice. A bootstrap returns exactly when no library that is not held
opens and throws; it then holds every staged library that opens. When it
throws, it throws what the initialisation of a staged library threw, and the
library is not held: the next listing tries it again. -/
theorem listing_starts_over (listings : List (Linker × List Str)) (linker : Linker)
    (staged : List Str) :
    let s := afterListings listings
    let result := (bootstrapBlocklibSymbols linker staged s).1
    let s' := (bootstrapBlocklibSymbols linker staged s).2
    s'.held.Nodup ∧ (∀ x, x ∈ s'.retained ↔ x ∈ s'.held) ∧
    (result = .ok () ↔
      ∀ x ∈ staged, x ∈ s.held ∨ ∀ e, blocklibLibrary linker x ≠ .failed e) ∧
    (result = .ok () → ∀ x ∈ staged, x ∈ s'.held ∨ ∃ error, linker.dlopen x = .error error) ∧
    ∀ e, result = .error e →
      ∃ x ∈ staged, x ∉ s'.retained ∧ linker.dlsym x (initSymbol x) = some (.error e) := by
  intro s result s'
  obtain ⟨hinv, hheld⟩ := listings_inv listings
  obtain ⟨hinv', hheld'⟩ : s'.Inv ∧ ∀ x ∈ s'.retained, x ∈ s'.held := by
    have h := listings_inv (listings ++ [(linker, staged)])
    rwa [show afterListings (listings ++ [(linker, staged)]) = s' from List.foldl_append] at h
  have hvisited : Retained.Visited (blocklibLibrary linker) staged s result s' :=
    Retained.visit_visited _ _ hinv
  refine ⟨hinv'.nodup, fun x => ⟨hheld' x, hinv'.within x⟩, ?_, ?_, ?_⟩
  · have hok : result = .ok () ↔ ∀ x ∈ staged, x ∈ s.retained ∨
        blocklibLibrary linker x = .held ∨ blocklibLibrary linker x = .passed :=
      Retained.visit_ok_iff _ _ hinv
    rw [hok]
    refine forall_congr' fun x => imp_congr_right fun _ => or_congr ⟨hheld x, hinv.within x⟩ ?_
    cases hattempt : blocklibLibrary linker x with
    | spoiled e => exact absurd hattempt (blocklib_not_spoiled _ _ _)
    | held => simp
    | passed => simp
    | failed e => simp
  · intro hresult x hx
    obtain hretained | hpassed := hvisited.complete hresult x hx
    · exact .inl (hheld' x hretained)
    · exact .inr (blocklib_passed_iff.1 hpassed)
  · intro e he
    obtain ⟨x, hcomes, hfailed | hspoiled⟩ := hvisited.raised e he
    · refine ⟨x, hcomes.mem, fun hretained => ?_, blocklib_failed hfailed⟩
      obtain hold | ⟨-, -, hattempt⟩ := hvisited.held x (hheld' x hretained)
      · exact hcomes.new (hinv.within x hold)
      · rw [hfailed] at hattempt
        cases hattempt
    · exact absurd hspoiled (blocklib_not_spoiled _ _ _)

/-! ## What comes back from the environment -/

/-- A directory an environment variable can carry. -/
def Carried (directory : Str) : Prop :=
  directory ≠ [] ∧ chr ':' ∉ directory ∧ (0 : UInt8) ∉ directory

theorem split_nil : splitPluginDirectories [] = [] := rfl

theorem split_append (a b : Str) :
    splitPluginDirectories (a ++ str ":" ++ b) =
      splitPluginDirectories a ++ splitPluginDirectories b := by
  unfold splitPluginDirectories
  have hsep : a ++ str ":" ++ b = a ++ chr ':' :: b := by simp [str, chr]
  rw [hsep, List.splitOn_append_cons_self, List.filter_append]

theorem split_addDirectory (value directory : Str) :
    splitPluginDirectories (addDirectory value directory) =
      splitPluginDirectories value ++ splitPluginDirectories directory := by
  unfold addDirectory
  cases value with
  | nil => rfl
  | cons c value => exact split_append (c :: value) directory

theorem split_foldl (directories : List Str) (value : Str) :
    splitPluginDirectories (directories.foldl addDirectory value) =
      splitPluginDirectories value ++ directories.flatMap splitPluginDirectories := by
  induction directories generalizing value with
  | nil => simp
  | cons directory directories ih =>
    rw [List.foldl_cons, ih, split_addDirectory, List.flatMap_cons, List.append_assoc]

theorem split_joinDirectories (directories : List Str) :
    splitPluginDirectories (joinDirectories directories) =
      directories.flatMap splitPluginDirectories :=
  split_foldl directories []

/-- What a text is split into lies within it, and has no separator. -/
theorem mem_splitOn {c : UInt8} {text piece : Str} (h : piece ∈ text.splitOn c) :
    c ∉ piece ∧ ∀ b ∈ piece, b ∈ text := by
  induction text generalizing piece with
  | nil =>
    rw [List.splitOn_nil, List.mem_singleton] at h
    subst h
    exact ⟨List.not_mem_nil, fun _ hb => by cases hb⟩
  | cons a text ih =>
    rw [List.splitOn_cons_eq_if_modifyHead] at h
    split at h
    · obtain rfl | h := List.mem_cons.1 h
      · exact ⟨List.not_mem_nil, fun _ hb => by cases hb⟩
      · obtain ⟨hsep, hwithin⟩ := ih h
        exact ⟨hsep, fun b hb => List.mem_cons_of_mem _ (hwithin b hb)⟩
    · rename_i hne
      cases hpieces : text.splitOn c with
      | nil => exact absurd hpieces (List.splitOn_ne_nil c text)
      | cons first rest =>
        rw [hpieces] at h ih
        obtain rfl | h := List.mem_cons.1 h
        · obtain ⟨hsep, hwithin⟩ := ih List.mem_cons_self
          refine ⟨fun hc => ?_, fun b hb => ?_⟩
          · obtain rfl | hc := List.mem_cons.1 hc
            · exact hne (beq_self_eq_true _)
            · exact hsep hc
          · obtain rfl | hb := List.mem_cons.1 hb
            · exact List.mem_cons_self
            · exact List.mem_cons_of_mem _ (hwithin b hb)
        · obtain ⟨hsep, hwithin⟩ := ih (List.mem_cons_of_mem _ h)
          exact ⟨hsep, fun b hb => List.mem_cons_of_mem _ (hwithin b hb)⟩

theorem mem_split {text directory : Str} (h : directory ∈ splitPluginDirectories text) :
    directory ≠ [] ∧ chr ':' ∉ directory ∧ ∀ b ∈ directory, b ∈ text := by
  unfold splitPluginDirectories at h
  rw [List.mem_filter] at h
  obtain ⟨hmem, hsome⟩ := h
  refine ⟨?_, mem_splitOn hmem⟩
  intro hnil
  simp [hnil] at hsome

theorem Carried.split {directory : Str} (h : Carried directory) :
    splitPluginDirectories directory = [directory] := by
  unfold splitPluginDirectories
  rw [List.splitOn_eq_singleton h.2.1]
  simp [h.1]

theorem flatMap_split {directories : List Str} (h : ∀ d ∈ directories, Carried d) :
    directories.flatMap splitPluginDirectories = directories := by
  induction directories with
  | nil => rfl
  | cons directory directories ih =>
    rw [List.flatMap_cons, (h directory (by simp)).split,
      ih fun d hd => h d (List.mem_cons_of_mem _ hd)]
    rfl

theorem addDirectory_eq_nil {value directory : Str} :
    addDirectory value directory = [] ↔ value = [] ∧ directory = [] := by
  unfold addDirectory
  cases value <;> simp

theorem foldl_eq_nil {directories : List Str} {value : Str} :
    directories.foldl addDirectory value = [] ↔ value = [] ∧ ∀ d ∈ directories, d = [] := by
  induction directories generalizing value with
  | nil => simp
  | cons directory directories ih =>
    rw [List.foldl_cons, ih, addDirectory_eq_nil]
    simp [and_assoc]

theorem no_nul_addDirectory {value directory : Str} (h : (0 : UInt8) ∉ value)
    (h' : (0 : UInt8) ∉ directory) : (0 : UInt8) ∉ addDirectory value directory := by
  unfold addDirectory
  intro hmem
  obtain hmem | hmem := List.mem_append.1 hmem
  · split at hmem
    · exact h hmem
    · obtain hmem | hmem := List.mem_append.1 hmem
      · exact h hmem
      · exact absurd hmem (by decide)
  · exact h' hmem

theorem no_nul_joinDirectories {directories : List Str}
    (h : ∀ d ∈ directories, (0 : UInt8) ∉ d) : (0 : UInt8) ∉ joinDirectories directories := by
  have hfold : ∀ value : Str, (0 : UInt8) ∉ value →
      (0 : UInt8) ∉ directories.foldl addDirectory value := by
    induction directories with
    | nil => exact fun _ hvalue => hvalue
    | cons directory directories ih =>
      intro value hvalue
      rw [List.foldl_cons]
      exact ih (fun d hd => h d (List.mem_cons_of_mem _ hd)) _
        (no_nul_addDirectory hvalue (h directory (by simp)))
  exact hfold [] List.not_mem_nil

/-- The directories of the library search path. -/
def SearchPaths.libraryDirectories (paths : SearchPaths) : List Str :=
  splitPluginDirectories (paths.libraryPath.getD [])

/-- The path that is set is what it says, or there is nothing to set. -/
theorem set_libraryDirectories {paths : SearchPaths} {value : Str} {directories : List Str}
    (hvalue : splitPluginDirectories value = directories ++ paths.libraryDirectories)
    (hclean : (0 : UInt8) ∉ value) (hpath : (0 : UInt8) ∉ paths.libraryPath.getD []) :
    let paths' := if value.isEmpty then paths
      else { paths with libraryPath := some (cString value) }
    paths'.libraryDirectories = directories ++ paths.libraryDirectories ∧
      (0 : UInt8) ∉ paths'.libraryPath.getD [] := by
  cases value with
  | nil =>
    obtain ⟨rfl, -⟩ := List.append_eq_nil_iff.1 hvalue.symm
    exact ⟨rfl, hpath⟩
  | cons c value =>
    have hkept : cString (c :: value) = c :: value := cString_eq_self hclean
    simp only [List.isEmpty_cons, Bool.false_eq_true, if_false, hkept]
    exact ⟨hvalue, hclean⟩

/-- One listing puts the directories in front. -/
theorem prepend_libraryDirectories {directories : List Str} (h : ∀ d ∈ directories, Carried d)
    {paths : SearchPaths} (hpath : (0 : UInt8) ∉ paths.libraryPath.getD []) :
    (prependLibrarySearchPath directories paths).libraryDirectories =
        directories ++ paths.libraryDirectories ∧
      (0 : UInt8) ∉ (prependLibrarySearchPath directories paths).libraryPath.getD [] := by
  have hjoin := no_nul_joinDirectories fun d hd => (h d hd).2.2
  have hsplit := (split_joinDirectories directories).trans (flatMap_split h)
  refine set_libraryDirectories ?_ ?_ hpath
  · unfold SearchPaths.libraryDirectories
    cases paths.libraryPath.getD [] with
    | nil => simp [hsplit, split_nil]
    | cons c existing => simp [split_addDirectory, hsplit]
  · cases hexisting : paths.libraryPath.getD [] with
    | nil => exact hjoin
    | cons c existing => exact no_nul_addDirectory hjoin (hexisting ▸ hpath)

/-- **What comes back from the environment.** The directories the runtime was
given, put into the process environment, are the default directories of the
catalogs exactly when each of them is not empty and has neither a colon nor a
NUL. The library search path then has them in front once for every listing,
and what it had before behind them. -/
theorem directories_come_back_iff (directories : List Str) (paths : SearchPaths)
    (builtIn : Option Str) (hsome : ∃ d ∈ directories, d ≠ [])
    (hbuiltIn : ∀ b, builtIn = some b → (0 : UInt8) ∉ b)
    (hpath : (0 : UInt8) ∉ paths.libraryPath.getD []) :
    (defaultPluginDirectories (configurePluginEnvironment directories paths).pluginDirectories
        builtIn = directories ↔ ∀ d ∈ directories, Carried d) ∧
    ((∀ d ∈ directories, Carried d) → ∀ n,
      ((prependLibrarySearchPath directories)^[n] paths).libraryDirectories =
        (List.replicate n directories).flatten ++ paths.libraryDirectories) := by
  have hjoin : joinDirectories directories ≠ [] := by
    obtain ⟨d, hd, hne⟩ := hsome
    exact fun hnil => hne ((foldl_eq_nil.1 hnil).2 d hd)
  have hset : (configurePluginEnvironment directories paths).pluginDirectories =
      some (cString (joinDirectories directories)) := by
    have hempty : (joinDirectories directories).isEmpty = false := by simpa using hjoin
    unfold configurePluginEnvironment prependLibrarySearchPath
    simp only [hempty, Bool.false_eq_true, if_false]
    split <;> split <;> rfl
  refine ⟨?_, fun hcarried n => ?_⟩
  · rw [hset]
    constructor
    · intro hback
      cases hvalue : cString (joinDirectories directories) with
      | nil =>
        -- what is left are the directories built in, none of them with a NUL
        rw [hvalue] at hback
        obtain ⟨d, hd, -⟩ := hsome
        cases builtIn with
        | none =>
          subst hback
          cases hd
        | some b =>
          obtain rfl : [b] = directories := hback
          have hjoined : joinDirectories [b] = b := rfl
          rw [hjoined, cString_eq_self (hbuiltIn b rfl)] at hvalue
          exact absurd (hjoined.trans hvalue) hjoin
      | cons c value =>
        rw [hvalue] at hback
        intro d hd
        rw [← hback] at hd
        obtain ⟨hne, hcolon, hwithin⟩ := mem_split hd
        refine ⟨hne, hcolon, fun hnul => ?_⟩
        exact nul_not_mem_cString _ (hvalue ▸ hwithin 0 hnul)
    · intro hcarried
      have hsplit := (split_joinDirectories directories).trans (flatMap_split hcarried)
      rw [cString_eq_self (no_nul_joinDirectories fun d hd => (hcarried d hd).2.2)]
      cases hvalue : joinDirectories directories with
      | nil => exact absurd hvalue hjoin
      | cons c value =>
        rw [hvalue] at hsplit
        exact hsplit
  · have hrun : ((prependLibrarySearchPath directories)^[n] paths).libraryDirectories =
          (List.replicate n directories).flatten ++ paths.libraryDirectories ∧
        (0 : UInt8) ∉ ((prependLibrarySearchPath directories)^[n] paths).libraryPath.getD [] := by
      induction n with
      | zero => exact ⟨rfl, hpath⟩
      | succ n ih =>
        rw [Function.iterate_succ_apply']
        obtain ⟨hdirectories, hclean⟩ := prepend_libraryDirectories hcarried ih.2
        refine ⟨?_, hclean⟩
        rw [hdirectories, ih.1, List.replicate_succ, List.flatten_cons, List.append_assoc]
    exact hrun.1

/-- Two directories, with a library search path of the user's. -/
theorem opt_comes_back :
    defaultPluginDirectories (configurePluginEnvironment [str "/opt/a", str "/opt/b"]
        ⟨none, some (str "/usr/lib")⟩).pluginDirectories none = [str "/opt/a", str "/opt/b"] :=
  ((directories_come_back_iff [str "/opt/a", str "/opt/b"] ⟨none, some (str "/usr/lib")⟩ none
    ⟨str "/opt/a", by decide, by decide⟩ nofun (by decide)).1).2 (by unfold Carried; decide)

end Gr4cp.Runtime

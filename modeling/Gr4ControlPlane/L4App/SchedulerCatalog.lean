import Gr4ControlPlane.L3Catalog.BlockProvider
import Gr4ControlPlane.L4App.BlockCatalogService

/-!
# The schedulers there are (`catalog/gr4_scheduler_catalog_provider.cpp`, `app/scheduler_catalog_service.cpp`)

The provider loads the plugins with a loader of its own, which it does not
keep, and lists the ids under which schedulers are registered without a
template argument. The service sorts what it answers and keeps it, as the
block catalog does.

* `schedulers_spec`: what is listed is strictly sorted and is exactly the
  available aliases.
-/
namespace Gr4cp.Catalog

open Gr4cp.Core Gr4cp.Domain

/-- mirrors include/gr4cp/domain/scheduler_catalog.hpp:8-13 -/
structure SchedulerDescriptor where
  id : Str
  deriving DecidableEq, Repr

/-- A loader, as far as its schedulers go. -/
structure SchedulerLoader where
  /-- in the order of iteration -/
  failedPlugins : List (Str × Str)
  availableSchedulers : List Str

/-- mirrors src/catalog/gr4_scheduler_catalog_provider.cpp:162-164 -/
def isAliasSchedulerId (id : Str) : Bool := !id.contains (chr '<')

/-- mirrors src/catalog/gr4_scheduler_catalog_provider.cpp:244-249 -/
def schedulerIds (loader : SchedulerLoader) : List Str :=
  (Ranking.sortUnique Str.lt loader.availableSchedulers).filter isAliasSchedulerId

def noSchedulers : CatalogLoadError :=
  ⟨str "GNU Radio 4 plugin loader found no registered schedulers"⟩

/-- `loader` is the loader of the staged plugins, or what is thrown before
there is one. A `SchedulerCatalogLoadError` has the form of a
`CatalogLoadError`.
mirrors src/catalog/gr4_scheduler_catalog_provider.cpp:223-260 -/
def listSchedulers (pluginDirectories : List Str) (loader : Except ProviderExn SchedulerLoader) :
    Except ProviderExn (List SchedulerDescriptor) :=
  if pluginDirectories = [] then .error notConfigured.exn
  else
    match loader with
    | .error e => .error e
    | .ok loader =>
      match loader.failedPlugins with
      | (path, error) :: _ => .error (pluginFailed path error).exn
      | [] =>
        if schedulerIds loader = [] then .error noSchedulers.exn
        else .ok ((schedulerIds loader).map SchedulerDescriptor.mk)

/-- The aliases the loader knows. -/
def SchedulerLoader.Offers (loader : SchedulerLoader) (id : Str) : Prop :=
  id ∈ loader.availableSchedulers ∧ chr '<' ∉ id

theorem mem_schedulerIds {loader : SchedulerLoader} {id : Str} :
    id ∈ schedulerIds loader ↔ loader.Offers id := by
  unfold schedulerIds SchedulerLoader.Offers
  rw [List.mem_filter, Ranking.mem_sortUnique str_compares Str.code_injective]
  simp [isAliasSchedulerId]

theorem schedulerIds_strict (loader : SchedulerLoader) :
    (schedulerIds loader).Pairwise fun a b => a.code < b.code :=
  (Ranking.sortUnique_strict str_compares Str.code_injective _).sublist List.filter_sublist

/-- A call answers exactly when plugins are configured and load, and there
is an alias. -/
theorem listSchedulers_ok {pluginDirectories : List Str} {found : Except ProviderExn SchedulerLoader}
    {schedulers : List SchedulerDescriptor} :
    listSchedulers pluginDirectories found = .ok schedulers ↔
      pluginDirectories ≠ [] ∧ ∃ loader, found = .ok loader ∧ loader.failedPlugins = [] ∧
        schedulerIds loader ≠ [] ∧ schedulers = (schedulerIds loader).map SchedulerDescriptor.mk := by
  unfold listSchedulers
  split
  · rename_i hdirs
    exact ⟨nofun, fun h => absurd hdirs h.1⟩
  · rename_i hdirs
    cases found with
    | error e => exact ⟨nofun, fun h => by simp at h⟩
    | ok loader =>
      dsimp only
      split
      · rename_i hfailed
        exact ⟨nofun, fun h => by
          obtain ⟨-, loader', hloader, hnone, -⟩ := h
          obtain rfl := Except.ok.inj hloader
          rw [hfailed] at hnone
          cases hnone⟩
      · rename_i hfailed
        split
        · rename_i hempty
          exact ⟨nofun, fun h => by
            obtain ⟨-, loader', hloader, -, hids, -⟩ := h
            obtain rfl := Except.ok.inj hloader
            exact absurd hempty hids⟩
        · rename_i hids
          refine ⟨fun h => ⟨hdirs, loader, rfl, hfailed, hids, (Except.ok.inj h).symm⟩, fun h => ?_⟩
          obtain ⟨-, loader', hloader, -, -, rfl⟩ := h
          obtain rfl := Except.ok.inj hloader
          rfl

end Gr4cp.Catalog

namespace Gr4cp.App

open Gr4cp.Core Gr4cp.Core.Ranking Gr4cp.Domain Gr4cp.Catalog

/-- mirrors include/gr4cp/app/scheduler_catalog_service.hpp:22-25 -/
structure SchedulerCatalog where
  schedulers : List SchedulerDescriptor
  exactSchedulers : List (Str × SchedulerDescriptor)
  deriving DecidableEq

def schedulerBefore (left right : SchedulerDescriptor) : Bool := Str.lt left.id right.id

/-- mirrors src/app/scheduler_catalog_service.cpp:31-39 -/
def buildSchedulerCatalog (schedulers : List SchedulerDescriptor) : SchedulerCatalog :=
  let schedulers := sort schedulerBefore schedulers
  { schedulers
    exactSchedulers := schedulers.foldl
      (fun exact scheduler => Assoc.insertOrAssign scheduler.id scheduler exact) [] }

/-- The service's `cached_catalog_`. -/
structure SchedulerCatalogService where
  cachedCatalog : Option SchedulerCatalog
  deriving DecidableEq

namespace SchedulerCatalogService

def empty : SchedulerCatalogService := ⟨none⟩

/-- `provided` is what the provider gives, if it is asked.
mirrors src/app/scheduler_catalog_service.cpp:28-44 -/
def catalog (s : SchedulerCatalogService) (provided : Except ProviderExn (List SchedulerDescriptor)) :
    Except CatalogThrow SchedulerCatalog × SchedulerCatalogService :=
  match s.cachedCatalog, provided with
  | some catalog, _ => (.ok catalog, s)
  | none, .error e => (.error (.provider e), s)
  | none, .ok schedulers =>
    (.ok (buildSchedulerCatalog schedulers), ⟨some (buildSchedulerCatalog schedulers)⟩)

/-- mirrors src/app/scheduler_catalog_service.cpp:13-16 -/
def list (s : SchedulerCatalogService) (provided : Except ProviderExn (List SchedulerDescriptor)) :
    Except CatalogThrow (List SchedulerDescriptor) × SchedulerCatalogService :=
  match s.catalog provided with
  | (.error e, s') => (.error e, s')
  | (.ok catalog, s') => (.ok catalog.schedulers, s')

/-- mirrors src/app/scheduler_catalog_service.cpp:18-26 -/
def get (s : SchedulerCatalogService) (provided : Except ProviderExn (List SchedulerDescriptor))
    (id : Str) : Except CatalogThrow SchedulerDescriptor × SchedulerCatalogService :=
  match s.catalog provided with
  | (.error e, s') => (.error e, s')
  | (.ok catalog, s') =>
    match catalog.exactSchedulers.lookup id with
    | none => (.error (.service ⟨.notFound, str "scheduler not found: " ++ id⟩), s')
    | some scheduler => (.ok scheduler, s')

end SchedulerCatalogService

theorem schedulerBefore_compares :
    Compares schedulerBefore fun scheduler => scheduler.id.code := fun a b => Str.lt_iff a.id b.id

theorem lookup_filed (schedulers : List SchedulerDescriptor)
    (exact : List (Str × SchedulerDescriptor)) (id : Str) :
    (schedulers.foldl (fun exact scheduler => Assoc.insertOrAssign scheduler.id scheduler exact)
      exact).lookup id =
      if (⟨id⟩ : SchedulerDescriptor) ∈ schedulers then some ⟨id⟩ else exact.lookup id := by
  induction schedulers generalizing exact with
  | nil => rfl
  | cons scheduler schedulers ih =>
    rw [List.foldl_cons, ih]
    by_cases hid : id = scheduler.id
    · subst hid
      rw [Assoc.lookup_insertOrAssign_self, if_pos List.mem_cons_self, ite_id]
    · have hne : (⟨id⟩ : SchedulerDescriptor) ≠ scheduler := fun h => hid (h ▸ rfl)
      rw [Assoc.lookup_insertOrAssign_of_ne hid]
      simp only [List.mem_cons, hne, false_or]

/-- What the catalog of some schedulers has. -/
theorem buildSchedulerCatalog_lookup (schedulers : List SchedulerDescriptor) (id : Str) :
    (buildSchedulerCatalog schedulers).exactSchedulers.lookup id =
      if (⟨id⟩ : SchedulerDescriptor) ∈ schedulers then some ⟨id⟩ else none := by
  show List.lookup id (List.foldl _ [] _) = _
  rw [lookup_filed]
  simp only [(sort_perm schedulerBefore schedulers).mem_iff]
  rfl

/-- What is sorted already is listed as it is. -/
theorem buildSchedulerCatalog_sorted {schedulers : List SchedulerDescriptor}
    (h : schedulers.Pairwise fun a b => a.id.code < b.id.code) :
    (buildSchedulerCatalog schedulers).schedulers = schedulers := by
  have hplaces : (schedulers.map fun scheduler => scheduler.id.code).Nodup :=
    List.pairwise_map.2 (h.imp ne_of_lt)
  refine (sort_perm schedulerBefore schedulers).eq_of_pairwise (fun a b _ _ hab hba => ?_)
    (sort_strict schedulerBefore_compares hplaces) h
  exact absurd (lt_trans hab hba) (lt_irrefl _)

/-- The catalog made of what the provider answers. -/
theorem schedulers_spec {pluginDirectories : List Str} {found : Except ProviderExn SchedulerLoader}
    {schedulers : List SchedulerDescriptor}
    (h : listSchedulers pluginDirectories found = .ok schedulers) :
    ∃ loader, found = .ok loader ∧
      (buildSchedulerCatalog schedulers).schedulers = schedulers ∧
      (schedulers.Pairwise fun a b => Str.lt a.id b.id = true) ∧
      (∀ scheduler, scheduler ∈ schedulers ↔ loader.Offers scheduler.id) := by
  obtain ⟨-, loader, rfl, -, -, rfl⟩ := listSchedulers_ok.1 h
  have hstrict : ((schedulerIds loader).map SchedulerDescriptor.mk).Pairwise
      fun a b => a.id.code < b.id.code := List.pairwise_map.2 (schedulerIds_strict loader)
  refine ⟨loader, rfl, buildSchedulerCatalog_sorted hstrict, ?_, ?_⟩
  · exact hstrict.imp fun hlt => (Str.lt_iff _ _).2 hlt
  · intro scheduler
    rw [← mem_schedulerIds]
    refine ⟨fun hmem => ?_, fun hmem => List.mem_map.2 ⟨_, hmem, rfl⟩⟩
    obtain ⟨id, hid, rfl⟩ := List.mem_map.1 hmem
    exact hid

end Gr4cp.App

import Gr4ControlPlane.Core.Assoc
import Gr4ControlPlane.Core.LTS
import Gr4ControlPlane.Core.Ranking
import Gr4ControlPlane.L1Domain.BlockCatalog
import Gr4ControlPlane.L4App.SessionService

/-!
# The block catalog (`app/block_catalog_service.cpp`)

The first request sorts what the provider answers, scans it once and keeps
the result: every block under its id, and of the blocks with one canonical
key the one that is best to browse. The scan replaces a listed block in
place when a better one with its key comes, so the list is sorted again at
the end. Later requests are answered from what was kept.

* `scan_spec`: the scan lists the best of each key, and files every block
  under its id.
* `catalog_order_independent`: with distinct ids, in every run of requests in
  which the provider answers with some permutation of the same blocks, every
  answer is the one for these blocks.
-/
namespace Gr4cp.App

open Gr4cp.Core Gr4cp.Core.Ranking Gr4cp.Domain Gr4cp.Runtime

/-! ## The service -/

/-- mirrors src/app/block_catalog_service.cpp:29-34 -/
def canonicalCatalogKey (block : BlockDescriptor) : Str :=
  match block.canonicalType with
  | some canonical => if canonical ≠ [] then canonical else block.id
  | none => block.id

/-- mirrors src/app/block_catalog_service.cpp:36-38 -/
def isCanonicalImplementationEntry (block : BlockDescriptor) : Bool :=
  match block.canonicalType with
  | some canonical => decide (canonical ≠ [] ∧ block.id = canonical)
  | none => false

/-- mirrors src/app/block_catalog_service.cpp:40-56 -/
def isBetterBrowseEntry (candidate current : BlockDescriptor) : Bool :=
  if isCanonicalImplementationEntry candidate ≠ isCanonicalImplementationEntry current then
    !isCanonicalImplementationEntry candidate
  else if candidate.id.length ≠ current.id.length then
    decide (candidate.id.length > current.id.length)
  else if candidate.category ≠ current.category then Str.lt candidate.category current.category
  else if candidate.name ≠ current.name then Str.lt candidate.name current.name
  else Str.lt candidate.id current.id

/-- The comparator of both sorts.
mirrors src/app/block_catalog_service.cpp:63-71,90-98 -/
def browseBefore (left right : BlockDescriptor) : Bool :=
  if left.category ≠ right.category then Str.lt left.category right.category
  else if left.name ≠ right.name then Str.lt left.name right.name
  else Str.lt left.id right.id

/-- mirrors include/gr4cp/app/block_catalog_service.hpp:21-24 -/
structure CachedCatalog where
  browseBlocks : List BlockDescriptor
  exactBlocks : List (Str × BlockDescriptor)
  deriving DecidableEq

/-- What the scan has at hand: the catalog, and the keys listed. -/
structure CatalogScan where
  catalog : CachedCatalog
  browseKeys : List Str

/-- The body of the loop.
mirrors src/app/block_catalog_service.cpp:75-87 -/
def CatalogScan.visit (s : CatalogScan) (block : BlockDescriptor) : CatalogScan :=
  let exactBlocks := Assoc.insertOrAssign block.id block s.catalog.exactBlocks
  let key := canonicalCatalogKey block
  if key ∉ s.browseKeys then
    { catalog := { browseBlocks := s.catalog.browseBlocks ++ [block], exactBlocks }
      browseKeys := key :: s.browseKeys }
  else
    { s with
      catalog :=
        { browseBlocks := improve canonicalCatalogKey isBetterBrowseEntry block s.catalog.browseBlocks
          exactBlocks } }

/-- mirrors src/app/block_catalog_service.cpp:72-87 -/
def scanCatalog (blocks : List BlockDescriptor) : CatalogScan :=
  blocks.foldl CatalogScan.visit ⟨⟨[], []⟩, []⟩

/-- The catalog made of what the provider answers.
mirrors src/app/block_catalog_service.cpp:62-98 -/
def buildCatalog (blocks : List BlockDescriptor) : CachedCatalog :=
  let catalog := (scanCatalog (sort browseBefore blocks)).catalog
  { catalog with browseBlocks := sort browseBefore catalog.browseBlocks }

/-- The service's `cached_catalog_`. -/
structure BlockCatalogService where
  cachedCatalog : Option CachedCatalog
  deriving DecidableEq

/-- What a request may throw: what the provider threw, or an error of its
own. -/
inductive CatalogThrow where
  | provider (e : ProviderExn)
  | service (e : ServiceError)
  deriving DecidableEq

namespace BlockCatalogService

/-- Nothing is kept yet. -/
def empty : BlockCatalogService := ⟨none⟩

/-- `provided` is what the provider's `list` gives when it is called, and it
is called only while nothing is kept.
mirrors src/app/block_catalog_service.cpp:60-102 -/
def catalog (s : BlockCatalogService) (provided : Except ProviderExn (List BlockDescriptor)) :
    Except CatalogThrow CachedCatalog × BlockCatalogService :=
  match s.cachedCatalog, provided with
  | some catalog, _ => (.ok catalog, s)
  | none, .error e => (.error (.provider e), s)
  | none, .ok blocks => (.ok (buildCatalog blocks), ⟨some (buildCatalog blocks)⟩)

/-- mirrors src/app/block_catalog_service.cpp:12-15 -/
def list (s : BlockCatalogService) (provided : Except ProviderExn (List BlockDescriptor)) :
    Except CatalogThrow (List BlockDescriptor) × BlockCatalogService :=
  match s.catalog provided with
  | (.error e, s') => (.error e, s')
  | (.ok catalog, s') => (.ok catalog.browseBlocks, s')

/-- mirrors src/app/block_catalog_service.cpp:17-25 -/
def get (s : BlockCatalogService) (provided : Except ProviderExn (List BlockDescriptor)) (id : Str) :
    Except CatalogThrow BlockDescriptor × BlockCatalogService :=
  match s.catalog provided with
  | (.error e, s') => (.error e, s')
  | (.ok catalog, s') =>
    match catalog.exactBlocks.lookup id with
    | none => (.error (.service ⟨.notFound, str "block not found: " ++ id⟩), s')
    | some block => (.ok block, s')

end BlockCatalogService

/-- A request with its answer. Requests hold the service's mutex, so they
come one after the other. -/
inductive CatalogLbl where
  | list (provided : Except ProviderExn (List BlockDescriptor))
      (answer : Except CatalogThrow (List BlockDescriptor))
  | get (provided : Except ProviderExn (List BlockDescriptor)) (id : Str)
      (answer : Except CatalogThrow BlockDescriptor)

/-- What the provider gives during the request, if it is asked. -/
def CatalogLbl.provided : CatalogLbl → Except ProviderExn (List BlockDescriptor)
  | .list provided _ => provided
  | .get provided _ _ => provided

def catalogService : LTS BlockCatalogService CatalogLbl where
  init s := s = .empty
  step s l s' :=
    match l with
    | .list provided answer => s.list provided = (answer, s')
    | .get provided id answer => s.get provided id = (answer, s')

/-! ## The two orders -/

/-- Where a block stands in the list: category, then name, then id. -/
def browsePlace (block : BlockDescriptor) : List ℕ ×ₗ List ℕ ×ₗ List ℕ :=
  toLex (block.category.code, toLex (block.name.code, block.id.code))

/-- How good an entry a block is, the best being the least: an alias before
an implementation entry, then the longest id, then the place. -/
def browseRank (block : BlockDescriptor) : Bool ×ₗ ℕᵒᵈ ×ₗ List ℕ ×ₗ List ℕ ×ₗ List ℕ :=
  toLex (isCanonicalImplementationEntry block,
    toLex (OrderDual.toDual block.id.length, browsePlace block))

theorem browseBefore_compares : Compares browseBefore browsePlace := by
  intro a b
  unfold browseBefore browsePlace
  rw [Prod.Lex.toLex_lt_toLex, Prod.Lex.toLex_lt_toLex]
  by_cases hc : a.category = b.category
  · by_cases hn : a.name = b.name
    · simp [hc, hn, Str.lt_iff]
    · have hne : a.name.code ≠ b.name.code := fun h => hn (Str.code_injective h)
      simp [hc, hn, hne, Str.lt_iff]
  · have hne : a.category.code ≠ b.category.code := fun h => hc (Str.code_injective h)
    simp [hc, hne, Str.lt_iff]

theorem isBetterBrowseEntry_compares : Compares isBetterBrowseEntry browseRank := by
  intro a b
  have htail : isBetterBrowseEntry a b =
      if isCanonicalImplementationEntry a ≠ isCanonicalImplementationEntry b then
        !isCanonicalImplementationEntry a
      else if a.id.length ≠ b.id.length then decide (a.id.length > b.id.length)
      else browseBefore a b := rfl
  rw [htail]
  unfold browseRank
  rw [Prod.Lex.toLex_lt_toLex, Prod.Lex.toLex_lt_toLex]
  by_cases hi : isCanonicalImplementationEntry a = isCanonicalImplementationEntry b
  · by_cases hl : a.id.length = b.id.length
    · simp [hi, hl, browseBefore_compares a b]
    · simp [hi, hl]
  · cases ha : isCanonicalImplementationEntry a <;> cases hb : isCanonicalImplementationEntry b <;>
      simp [ha, hb] at hi ⊢

theorem id_of_browsePlace {a b : BlockDescriptor} (h : browsePlace a = browsePlace b) :
    a.id = b.id := by
  simp only [browsePlace, toLex_inj, Prod.mk.injEq] at h
  exact Str.code_injective h.2.2

theorem id_of_browseRank {a b : BlockDescriptor} (h : browseRank a = browseRank b) :
    a.id = b.id := by
  simp only [browseRank, toLex_inj, Prod.mk.injEq] at h
  exact id_of_browsePlace h.2.2

/-- Blocks with distinct ids have distinct places. -/
theorem browsePlace_nodup {blocks : List BlockDescriptor} (h : (blocks.map (·.id)).Nodup) :
    (blocks.map browsePlace).Nodup :=
  List.Nodup.map_on (fun _ ha _ hb he => List.inj_on_of_nodup_map h ha hb (id_of_browsePlace he))
    h.of_map

/-! ## The scan -/

/-- What the scan has made of the blocks seen so far. -/
structure Scanned (seen : List BlockDescriptor) (s : CatalogScan) : Prop where
  browse : BestOf canonicalCatalogKey isBetterBrowseEntry seen s.catalog.browseBlocks
  keys : ∀ key, key ∈ s.browseKeys ↔ key ∈ s.catalog.browseBlocks.map canonicalCatalogKey
  exact : ∀ id block, s.catalog.exactBlocks.lookup id = some block ↔ block ∈ seen ∧ block.id = id

theorem Scanned.nil : Scanned [] ⟨⟨[], []⟩, []⟩ := ⟨.nil, by simp, by simp⟩

/-- Filing a block under a new id. -/
theorem lookup_file {seen : List BlockDescriptor} {exact : List (Str × BlockDescriptor)}
    {block : BlockDescriptor} (hnew : block.id ∉ seen.map (·.id))
    (h : ∀ id b, exact.lookup id = some b ↔ b ∈ seen ∧ b.id = id) (id : Str)
    (b : BlockDescriptor) :
    (Assoc.insertOrAssign block.id block exact).lookup id = some b ↔
      b ∈ seen ++ [block] ∧ b.id = id := by
  rw [List.mem_append, List.mem_singleton]
  by_cases hid : id = block.id
  · subst hid
    rw [Assoc.lookup_insertOrAssign_self, Option.some.injEq]
    refine ⟨fun he => he ▸ ⟨.inr rfl, rfl⟩, fun hb => ?_⟩
    obtain ⟨hb | rfl, he⟩ := hb
    · exact absurd (List.mem_map.2 ⟨b, hb, he⟩) hnew
    · rfl
  · rw [Assoc.lookup_insertOrAssign_of_ne hid, h]
    refine ⟨fun hb => ⟨.inl hb.1, hb.2⟩, fun hb => ?_⟩
    obtain ⟨hb | rfl, he⟩ := hb
    · exact ⟨hb, he⟩
    · exact absurd he.symm hid

theorem Scanned.visit {seen : List BlockDescriptor} {s : CatalogScan} {block : BlockDescriptor}
    (h : Scanned seen s) (hnew : block.id ∉ seen.map (·.id)) :
    Scanned (seen ++ [block]) (s.visit block) := by
  unfold CatalogScan.visit
  by_cases hkey : canonicalCatalogKey block ∈ s.browseKeys
  · rw [if_neg (not_not_intro hkey)]
    have hrank : ∀ b ∈ seen, browseRank b ≠ browseRank block := fun b hb he =>
      hnew (List.mem_map.2 ⟨b, hb, id_of_browseRank he⟩)
    refine ⟨h.browse.improve isBetterBrowseEntry_compares ((h.keys _).1 hkey) hrank, ?_,
      lookup_file hnew h.exact⟩
    simpa using h.keys
  · rw [if_pos hkey]
    refine ⟨h.browse.push fun hk => hkey ((h.keys _).2 hk), fun key => ?_,
      lookup_file hnew h.exact⟩
    rw [List.map_append, List.map_singleton, List.mem_append, List.mem_singleton, List.mem_cons,
      h.keys]
    exact or_comm

theorem Scanned.run {seen rest : List BlockDescriptor} {s : CatalogScan} (h : Scanned seen s)
    (hids : ((seen ++ rest).map (·.id)).Nodup) :
    Scanned (seen ++ rest) (rest.foldl CatalogScan.visit s) := by
  induction rest generalizing seen s with
  | nil => simpa using h
  | cons block rest ih =>
    have hnew : block.id ∉ seen.map (·.id) := by
      rw [List.map_append, List.map_cons] at hids
      exact fun hm => (List.nodup_append.1 hids).2.2 _ hm _ (by simp) rfl
    rw [← List.singleton_append, ← List.append_assoc] at hids ⊢
    exact ih (h.visit hnew) hids

/-- The scan lists the best of each key, and files every block under its
id. -/
theorem scan_spec {blocks : List BlockDescriptor} (h : (blocks.map (·.id)).Nodup) :
    Scanned blocks (scanCatalog blocks) := by
  simpa [scanCatalog] using Scanned.nil.run (by simpa using h)

/-! ## The catalog -/

theorem canonicalCatalogKey_of_impl {block : BlockDescriptor}
    (h : isCanonicalImplementationEntry block = true) : canonicalCatalogKey block = block.id := by
  unfold isCanonicalImplementationEntry at h
  unfold canonicalCatalogKey
  cases hc : block.canonicalType with
  | none => rfl
  | some canonical =>
    simp only [hc, decide_eq_true_eq] at h
    simp [h.1, h.2]

/-- What there is to browse of some blocks: the best of each key, in order.
A block whose id is its canonical type is there only if nothing else has its
key. -/
structure Browsable (blocks listed : List BlockDescriptor) : Prop where
  sorted : listed.Pairwise fun a b => browsePlace a < browsePlace b
  best : ∀ block, block ∈ listed ↔ block ∈ blocks ∧ ∀ other ∈ blocks,
    canonicalCatalogKey other = canonicalCatalogKey block → other ≠ block →
      isBetterBrowseEntry block other = true
  one : ∀ block ∈ blocks, ∃! entry, entry ∈ listed ∧
    canonicalCatalogKey entry = canonicalCatalogKey block
  impl : ∀ block ∈ listed, block.canonicalType = some block.id → ∀ other ∈ blocks,
    canonicalCatalogKey other = canonicalCatalogKey block → other = block

/-- Only a block with no id has no key. -/
theorem id_of_canonicalCatalogKey {block : BlockDescriptor} (h : canonicalCatalogKey block = []) :
    block.id = [] := by
  unfold canonicalCatalogKey at h
  split at h
  · split at h
    · rename_i hne
      exact absurd h hne
    · exact h
  · exact h

/-- An implementation entry is no better than an alias. -/
theorem impl_of_isBetterBrowseEntry {a b : BlockDescriptor} (h : isBetterBrowseEntry a b = true)
    (ha : isCanonicalImplementationEntry a = true) : isCanonicalImplementationEntry b = true := by
  unfold isBetterBrowseEntry at h
  by_contra hb
  simp [ha, hb] at h

theorem buildCatalog_browsable {blocks : List BlockDescriptor} (h : (blocks.map (·.id)).Nodup) :
    Browsable blocks (buildCatalog blocks).browseBlocks := by
  have hsorted := sort_perm browseBefore blocks
  have hscan := scan_spec ((hsorted.map (·.id)).nodup_iff.2 h)
  have hbest := hscan.browse.perm hsorted (sort_perm browseBefore _).symm
  have hids : ((scanCatalog (sort browseBefore blocks)).catalog.browseBlocks.map (·.id)).Nodup :=
    List.Nodup.map_on
      (fun a ha b hb he => List.inj_on_of_nodup_map h (hsorted.mem_iff.1 (hscan.browse.best a ha).1)
        (hsorted.mem_iff.1 (hscan.browse.best b hb).1) he) hscan.browse.nodup.of_map
  refine ⟨sort_strict browseBefore_compares (browsePlace_nodup hids),
    fun block => hbest.mem_iff isBetterBrowseEntry_compares, fun block => hbest.existsUnique,
    fun block hm hcanonical other ho hk => ?_⟩
  by_contra hne
  obtain ⟨hb, hbetter⟩ := hbest.best block hm
  by_cases hid : block.id = []
  · have hkey : canonicalCatalogKey block = [] := by simp [canonicalCatalogKey, hcanonical, hid]
    have hother := id_of_canonicalCatalogKey (hk.trans hkey)
    exact hne (List.inj_on_of_nodup_map h ho hb (hother.trans hid.symm))
  have himpl : isCanonicalImplementationEntry block = true := by
    simp [isCanonicalImplementationEntry, hcanonical, hid]
  -- the other one is an implementation entry too, so both have the key as id
  have himpl' := impl_of_isBetterBrowseEntry (hbetter other ho hk hne) himpl
  rw [canonicalCatalogKey_of_impl himpl, canonicalCatalogKey_of_impl himpl'] at hk
  exact hne (List.inj_on_of_nodup_map h ho hb hk)

theorem buildCatalog_lookup {blocks : List BlockDescriptor} (h : (blocks.map (·.id)).Nodup)
    (id : Str) (block : BlockDescriptor) :
    (buildCatalog blocks).exactBlocks.lookup id = some block ↔ block ∈ blocks ∧ block.id = id := by
  have hsorted := sort_perm browseBefore blocks
  have hscan := scan_spec ((hsorted.map (·.id)).nodup_iff.2 h)
  rw [← hsorted.mem_iff]
  exact hscan.exact id block

/-- The catalog does not depend on the order in which the blocks come. -/
theorem buildCatalog_perm {blocks bs : List BlockDescriptor} (h : (blocks.map (·.id)).Nodup)
    (hp : bs.Perm blocks) : buildCatalog bs = buildCatalog blocks := by
  have hplaces := browsePlace_nodup ((hp.map (·.id)).nodup_iff.2 h)
  unfold buildCatalog
  rw [sort_eq_of_perm browseBefore_compares hplaces hp]

/-! ## Runs of requests -/

/-- The answers that the blocks and the list made of them call for. -/
def Serves (blocks listed : List BlockDescriptor) : CatalogLbl → Prop
  | .list _ answer => answer = .ok listed
  | .get _ id answer =>
    (∀ block ∈ blocks, block.id = id → answer = .ok block) ∧
      (∀ block ∈ listed, block.id = id → answer = .ok block) ∧
      ((∀ block ∈ blocks, block.id ≠ id) →
        answer = .error (.service ⟨.notFound, str "block not found: " ++ id⟩))

/-- Nothing is kept, or the catalog of the blocks. -/
def Keeps (blocks : List BlockDescriptor) (s : BlockCatalogService) : Prop :=
  ∀ catalog, s.cachedCatalog = some catalog → catalog = buildCatalog blocks

section Requests

variable {blocks : List BlockDescriptor} (hids : (blocks.map (·.id)).Nodup)
  {s s' : BlockCatalogService} (provided : Except ProviderExn (List BlockDescriptor))

include hids

/-- A request sees the catalog of the blocks, or the provider's throw. -/
theorem catalog_step (hs : Keeps blocks s) (hp : ∀ bs, provided = .ok bs → bs.Perm blocks) :
    Keeps blocks (s.catalog provided).2 ∧
      ((s.catalog provided).1 = .ok (buildCatalog blocks) ∨
        ∃ e, provided = .error e ∧ (s.catalog provided).1 = .error (.provider e)) := by
  unfold BlockCatalogService.catalog
  split
  · next catalog hc => exact ⟨hs, .inl (congrArg _ (hs catalog hc))⟩
  · next e hc => exact ⟨hs, .inr ⟨e, rfl, rfl⟩⟩
  · next bs hc =>
    have hb := buildCatalog_perm hids (hp bs rfl)
    refine ⟨fun catalog hk => ?_, .inl (congrArg _ hb)⟩
    cases hk
    exact hb

/-- A lookup in the catalog answers as the blocks call for. -/
theorem serves_get {answer : Except CatalogThrow BlockDescriptor} {id : Str}
    (h : answer = match (buildCatalog blocks).exactBlocks.lookup id with
      | none => .error (.service ⟨.notFound, str "block not found: " ++ id⟩)
      | some block => .ok block) :
    Serves blocks (buildCatalog blocks).browseBlocks (.get provided id answer) := by
  have hfound : ∀ block ∈ blocks, block.id = id → answer = .ok block := fun block hb hid => by
    rw [h, (buildCatalog_lookup hids id block).2 ⟨hb, hid⟩]
  have hbrowse := buildCatalog_browsable hids
  refine ⟨hfound, fun block hb => hfound block ((hbrowse.best block).1 hb).1, fun hnone => ?_⟩
  cases hl : (buildCatalog blocks).exactBlocks.lookup id with
  | none => rw [h, hl]
  | some block =>
    obtain ⟨hb, hid⟩ := (buildCatalog_lookup hids id block).1 hl
    exact absurd hid (hnone block hb)

theorem request_step {l : CatalogLbl} (hs : Keeps blocks s)
    (hp : ∀ bs, l.provided = .ok bs → bs.Perm blocks) (hstep : catalogService.step s l s') :
    Keeps blocks s' ∧
      ((∃ bs, l.provided = .ok bs) → Serves blocks (buildCatalog blocks).browseBlocks l) := by
  cases l with
  | list provided answer =>
    obtain ⟨hk, hc⟩ := catalog_step hids provided hs hp
    change s.list provided = (answer, s') at hstep
    unfold BlockCatalogService.list at hstep
    generalize s.catalog provided = result at hk hc hstep
    obtain ⟨found, s''⟩ := result
    rcases hc with rfl | ⟨e, he, rfl⟩
    · cases hstep
      exact ⟨hk, fun _ => rfl⟩
    · cases hstep
      exact ⟨hk, fun hok => absurd hok (by simp [CatalogLbl.provided, he])⟩
  | get provided id answer =>
    obtain ⟨hk, hc⟩ := catalog_step hids provided hs hp
    change s.get provided id = (answer, s') at hstep
    unfold BlockCatalogService.get at hstep
    generalize s.catalog provided = result at hk hc hstep
    obtain ⟨found, s''⟩ := result
    rcases hc with rfl | ⟨e, he, rfl⟩
    · dsimp only at hstep
      cases hl : (buildCatalog blocks).exactBlocks.lookup id with
      | none =>
        rw [hl] at hstep
        cases hstep
        exact ⟨hk, fun _ => serves_get hids _ (by rw [hl])⟩
      | some block =>
        rw [hl] at hstep
        cases hstep
        exact ⟨hk, fun _ => serves_get hids _ (by rw [hl])⟩
    · cases hstep
      exact ⟨hk, fun hok => absurd hok (by simp [CatalogLbl.provided, he])⟩

theorem requests_run {ls : List CatalogLbl} (hrun : catalogService.Run s ls s')
    (hs : Keeps blocks s) (hp : ∀ l ∈ ls, ∀ bs, l.provided = .ok bs → bs.Perm blocks) :
    ∀ l ∈ ls, (∃ bs, l.provided = .ok bs) → Serves blocks (buildCatalog blocks).browseBlocks l := by
  induction hrun with
  | nil => simp
  | cons hstep _ ih =>
    obtain ⟨hk, hserves⟩ := request_step hids hs (hp _ (by simp)) hstep
    intro l hl
    rcases List.mem_cons.1 hl with rfl | hl
    · exact hserves
    · exact ih hk (fun l' hl' => hp l' (by simp [hl'])) l hl

end Requests

/-- In every run in which the provider, when it does not throw, answers with
some permutation of the same blocks, every answer is the one for these
blocks. -/
theorem catalog_order_independent {blocks : List BlockDescriptor}
    (hids : (blocks.map (·.id)).Nodup) {ls : List CatalogLbl} {s : BlockCatalogService}
    (hrun : catalogService.Run .empty ls s)
    (hp : ∀ l ∈ ls, ∀ bs, l.provided = .ok bs → bs.Perm blocks) :
    Browsable blocks (buildCatalog blocks).browseBlocks ∧
      ∀ l ∈ ls, (∃ bs, l.provided = .ok bs) →
        Serves blocks (buildCatalog blocks).browseBlocks l :=
  ⟨buildCatalog_browsable hids, requests_run hids hrun (fun _ h => by cases h) hp⟩

/-- A block without ports. -/
def bareBlock (id canonicalType name category : String) : BlockDescriptor where
  id := str id
  canonicalType := some (str canonicalType)
  name := str name
  category := str category
  summary := []
  inputs := []
  outputs := []
  parameters := []

def mathOpImpl : BlockDescriptor :=
  bareBlock "gr::MathOpImpl<float>" "gr::MathOpImpl<float>" "Mathopimpl<float>" "Math"

def multiplyConst : BlockDescriptor :=
  bareBlock "gr::MultiplyConst<float>" "gr::MathOpImpl<float>" "Multiplyconst<float>" "Math"

/-- Two requests: the provider throws, then names the two blocks. -/
def aliasRequests : List CatalogLbl :=
  [.list (.error .other) (.error (.provider .other)),
    .list (.ok [multiplyConst, mathOpImpl])
      (.ok (buildCatalog [multiplyConst, mathOpImpl]).browseBlocks)]

theorem aliasRequests_run :
    catalogService.Run .empty aliasRequests ⟨some (buildCatalog [multiplyConst, mathOpImpl])⟩ := by
  have hthrow : catalogService.step .empty
      (.list (.error .other) (.error (.provider .other))) .empty := rfl
  exact .cons hthrow (.cons rfl (.nil _))

/-- The alias is listed, whichever of the two is named first. -/
theorem aliasPair_listed :
    Browsable [mathOpImpl, multiplyConst] [multiplyConst] ∧
      (BlockCatalogService.empty.list (.ok [multiplyConst, mathOpImpl])).1 =
        .ok [multiplyConst] := by
  have hlisted : (buildCatalog [mathOpImpl, multiplyConst]).browseBlocks = [multiplyConst] := by
    have hsorted : sort browseBefore [mathOpImpl, multiplyConst] = [mathOpImpl, multiplyConst] :=
      List.mergeSort_of_pairwise (by decide)
    have hscan : (scanCatalog [mathOpImpl, multiplyConst]).catalog.browseBlocks =
        [multiplyConst] := by decide
    rw [buildCatalog, hsorted, hscan]
    exact List.mergeSort_singleton _
  have hprov : ∀ l ∈ aliasRequests, ∀ bs, l.provided = .ok bs →
      bs.Perm [mathOpImpl, multiplyConst] := by
    simp only [aliasRequests, List.mem_cons, List.not_mem_nil, or_false]
    rintro l (rfl | rfl) bs h
    · cases h
    · cases h
      exact .swap _ _ _
  have h := catalog_order_independent (by decide) aliasRequests_run hprov
  rw [hlisted] at h
  have hserves := h.2 (.list (.ok [multiplyConst, mathOpImpl])
    (.ok (buildCatalog [multiplyConst, mathOpImpl]).browseBlocks)) (by simp [aliasRequests]) ⟨_, rfl⟩
  exact ⟨h.1, hserves⟩

end Gr4cp.App

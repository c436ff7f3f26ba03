import SchemaRelay.Proofs.Cache.Refinement
import SchemaRelay.Proofs.Files

/-!
# Closing a cache and opening it again

An index has the pairs of URI and ETag that are in the rows and no others (`TableCache.IsExact`) as long as only its own
cache writes to them. It is in order, too, and so is one that is read from the rows: when a cache is closed and its path
is opened again the result is the same cache (`InStep.openOn`).

`Files.uses` does one thing after the other with the cache of a file, reopening among them. From a new file on the
index is exact at every point, and reopening changes no answer (`reopening_unseen`): the answers, but for the times in
entries, are those of a cache in memory, which is never closed.
-/

namespace SchemaRelay

/-! ## What is done with the cache of a file -/

inductive Use where
  | ask (now : String) (query : Query)
  | entry (uri : String)
  /-- The cache is closed and the path opened again. -/
  | reopen

/-- What comes of a use. -/
inductive Upshot where
  | answer (answer : Answer)
  | entry (found : Except Error (Option CacheEntry))
  /-- The cache that was opened has so many URIs. -/
  | reopened (size : Except Error Nat)
  /-- No cache was open. -/
  | noCache

/-- A use apart from its time, unless it is reopening. -/
def Use.lasting : Use → Option Use
  | .ask _ query => some (.ask "" query)
  | .entry uri => some (.entry uri)
  | .reopen => none

/-- What comes of a use, apart from times, unless it is that of reopening. -/
def Upshot.lasting : Upshot → Option Upshot
  | .answer a => some (.answer a)
  | .entry found => some (.entry (found.map (Option.map CacheEntry.undated)))
  | .reopened _ => none
  | .noCache => some .noCache

namespace Files

/-- Uses the cache that is open under a name on the database of a path. -/
def use (cwd : Names) (path name : String) (t : Files) (u : Use) : Upshot × Files :=
  match TableCache.databaseAt t cwd path with
  | .error _ => (.noCache, t)
  | .ok (names, db) =>
    match db.cache? name, u with
    | none, _ => (.noCache, t)
    | some c, .ask now query =>
      let (answer, c) := TableCache.counted.ask now c query
      (.answer answer, t.set names (.database (db.set name c)))
    | some c, .entry uri => (.entry (c.entry uri), t)
    | some _, .reopen =>
      let (t, result) := TableCache.openFile (t.set names (.database (db.close name))) cwd path name
      (.reopened (result.map TableCache.size), t)

/-- Uses it again and again. -/
def uses (cwd : Names) (path name : String) (t : Files) : List Use → List Upshot × Files
  | [] => ([], t)
  | u :: us =>
    let (up, t) := t.use cwd path name u
    let (ups, t) := uses cwd path name t us
    (up :: ups, t)

end Files

namespace MemoryCache

/-- The same with a cache in memory, which has no times and is never closed. -/
def use (m : MemoryCache) : Use → Upshot × MemoryCache
  | .ask now query =>
    let (answer, m) := counted.ask now m query
    (.answer answer, m)
  | .entry uri => (.entry (.ok ((Fields.get? m uri).map fun p => TableCache.entryOf "" uri p.1 p.2)), m)
  | .reopen => (.reopened (.ok m.size), m)

def uses (m : MemoryCache) : List Use → List Upshot × MemoryCache
  | [] => ([], m)
  | u :: us =>
    let (up, m) := m.use u
    let (ups, m) := uses m us
    (up :: ups, m)

/-- Time and reopening are nothing to a cache in memory. -/
theorem use_lasting (m : MemoryCache) (u : Use) :
    match u.lasting with
    | some u' => (m.use u).1.lasting = some (m.use u').1 ∧ (m.use u).2 = (m.use u').2
    | none => (m.use u).1.lasting = none ∧ (m.use u).2 = m := by
  cases u with
  | ask now query => cases query <;> exact ⟨rfl, rfl⟩
  | entry uri =>
    refine ⟨?_, rfl⟩
    simp only [use, Upshot.lasting, Except.map]
    cases Fields.get? m uri <;> rfl
  | reopen => exact ⟨rfl, rfl⟩

theorem uses_lasting (m : MemoryCache) (us : List Use) :
    (m.uses us).1.filterMap Upshot.lasting = (m.uses (us.filterMap Use.lasting)).1 := by
  induction us generalizing m with
  | nil => rfl
  | cons u us ih =>
    have hu := use_lasting m u
    simp only [uses, List.filterMap_cons]
    cases hl : u.lasting with
    | none =>
      rw [hl] at hu
      rw [hu.1, ih, hu.2]
    | some u' =>
      rw [hl] at hu
      rw [hu.1, ih, hu.2, uses]

end MemoryCache

/-! ## The cache that is opened again -/

/-- A cache over a database that mirrors one in memory and has its index in order. -/
structure InStep (m : MemoryCache) (c : TableCache) : Prop extends Mirrors m c where
  sorted : Fields.Sorted c.etags

namespace InStep

variable {m : MemoryCache} {c : TableCache}

theorem fresh : InStep MemoryCache.empty TableCache.fresh := ⟨Mirrors.fresh, List.Pairwise.nil⟩

theorem ask (h : InStep m c) (now : String) (query : Query) :
    (TableCache.counted.ask now c query).1 = (MemoryCache.counted.ask now m query).1 ∧
      InStep (MemoryCache.counted.ask now m query).2 (TableCache.counted.ask now c query).2 := by
  obtain ⟨ha, hm⟩ := ask_mirrors h.toMirrors now query
  refine ⟨ha, hm, ?_⟩
  cases query with
  | put uri etag content =>
    obtain ⟨rows, hs⟩ := h.sound
    simp only [TableCache.counted, CountedStore.ask, TableCache.store, TableCache.put_of_rows hs.table]
    exact h.sorted.insert uri etag
  | _ => exact h.sorted

/-- **A cache that is opened again is the one that was closed.** -/
theorem openOn (h : InStep m c) : TableCache.openOn c.db = (c.db, .ok c) := by
  obtain ⟨rows, hs⟩ := h.sound
  obtain ⟨c', ho, hdb, hsorted, hc⟩ := hs.openOn
  have hsame : c'.etags = c.etags := by
    -- an index in order is known by what is found in it
    refine hsorted.ext h.sorted fun uri => ?_
    have hold : c.etags.get? uri = (Fields.get? m uri).map (·.1) := h.etag? uri
    have hnew : c'.etags.get? uri = (c.db.pair? uri).map (·.1) := hc uri
    rw [hnew, hold, h.pair?]
  obtain ⟨db', etags'⟩ := c'
  cases hdb
  cases hsame
  exact ho

end InStep

/-! ## Exact indexes -/

/-- The index of a cache tells what is in the rows, one for each URI, which have the digests of their contents. -/
structure TableCache.IsExact (c : TableCache) (rows : List Row) : Prop where
  table : c.db.rows = some rows
  index : (c.etags.map fun p => (Cell.text p.1, Cell.text p.2)).Perm (rows.map fun r => (r.uri, r.etag))
  distinct : (rows.map (·.uri)).Nodup
  digests : ∀ r ∈ rows, ∃ content, r.content = .text content ∧ r.digest = .text (digest content)
  size : c.size = rows.length

theorem InStep.isExact {m : MemoryCache} {c : TableCache} (h : InStep m c) : ∃ rows, c.IsExact rows := by
  obtain ⟨rows, hs⟩ := h.sound
  have hmem : ∀ uri etag, (uri, etag) ∈ c.etags ↔ ∃ r ∈ rows, r.uri = .text uri ∧ r.etag = .text etag := by
    intro uri etag
    have hold : c.etags.get? uri = (Fields.get? m uri).map (·.1) := h.etag? uri
    rw [← h.sorted.get?_eq_some_iff, hold, ← h.pair?, hs.etag_eq_some_iff]
  have hindex : (c.etags.map fun p => (Cell.text p.1, Cell.text p.2)).Perm (rows.map fun r => (r.uri, r.etag)) := by
    -- both lists name each URI once, so that they have the same members is enough
    refine (List.perm_ext_iff_of_nodup (Fields.nodup_of_fst ?_) (Fields.nodup_of_fst ?_)).2 fun x => ?_
    · have hnames : ((c.etags.map (·.1)).map Cell.text).Nodup :=
        List.pairwise_map.2 (h.sorted.names_nodup.imp fun hne heq => hne (Cell.text.inj heq))
      rwa [List.map_map] at hnames ⊢
    · rw [List.map_map]
      exact hs.distinct
    · simp only [List.mem_map]
      constructor
      · rintro ⟨⟨uri, etag⟩, hp, rfl⟩
        obtain ⟨r, hr, hu, he⟩ := (hmem uri etag).1 hp
        exact ⟨r, hr, by rw [hu, he]⟩
      · rintro ⟨r, hr, rfl⟩
        obtain ⟨e, -, rfl⟩ := hs.intact r hr
        exact ⟨(e.schemaUri, e.etag), (hmem _ _).2 ⟨_, hr, rfl, rfl⟩, rfl⟩
  refine ⟨rows, hs.table, hindex, hs.distinct, fun r hr => ?_, ?_⟩
  · obtain ⟨e, hi, rfl⟩ := hs.intact r hr
    have hdigest : digest e.content = e.contentSha256 := by simpa [CacheEntry.isIntact] using hi
    exact ⟨e.content, rfl, congrArg Cell.text hdigest.symm⟩
  · have hlength := hindex.length_eq
    rwa [List.length_map, List.length_map] at hlength

/-! ## The cache of a file -/

namespace SharedDatabase

theorem cache?_set (s : SharedDatabase) (name : String) (c : TableCache) : (s.set name c).cache? name = some c := by
  simp [cache?, set, Fields.get?_insert]

/-- The rows of a cache are everyone's. -/
theorem db_of_cache? {s : SharedDatabase} {name : String} {c : TableCache} (h : s.cache? name = some c) :
    s.db = c.db := by
  obtain ⟨index, -, rfl⟩ := Option.map_eq_some_iff.1 h
  rfl

end SharedDatabase

namespace Files

variable {t : Files} {cwd : Names} {path name : String} {m : MemoryCache}

/-- The path leads to a file with a database on which the cache of a name is open, in step with a cache in memory. -/
structure Keeps (t : Files) (cwd : Names) (path name : String) (m : MemoryCache) : Prop where
  isFile : TableCache.isPrivate path = false
  prepared : TableCache.IsPrepared t cwd path
  cache : ∃ names db c, TableCache.databaseAt t cwd path = .ok (names, db) ∧ db.cache? name = some c ∧ InStep m c

/-- Another database may be kept in the file if the cache is open there. -/
theorem Keeps.set {m' : MemoryCache} (h : t.Keeps cwd path name m) {names : Names} {db db' : SharedDatabase}
    {c : TableCache} (hdb : TableCache.databaseAt t cwd path = .ok (names, db)) (hc : db'.cache? name = some c)
    (hm : InStep m' c) : (t.set names (.database db')).Keeps cwd path name m' where
  isFile := h.isFile
  prepared := h.prepared.set (TableCache.databaseAt_eq_ok hdb).2 _
  cache := ⟨names, db', c, TableCache.databaseAt_set hdb db', hc, hm⟩

/-- To close the cache and to open the path again puts everything back. -/
theorem Keeps.reopen (h : t.Keeps cwd path name m) {names : Names} {db : SharedDatabase} {c : TableCache}
    (hdb : TableCache.databaseAt t cwd path = .ok (names, db)) (hc : db.cache? name = some c) (hm : InStep m c) :
    let opened := TableCache.openFile (t.set names (.database (db.close name))) cwd path name
    opened.2 = .ok c ∧ opened.1.Keeps cwd path name m := by
  intro opened
  have hprep := h.prepared.set (TableCache.databaseAt_eq_ok hdb).2 (.database (db.close name))
  have hclosed := TableCache.databaseAt_set hdb (db.close name)
  have hopenOn : TableCache.openOn (db.close name).db = (c.db, .ok c) := by
    rw [SharedDatabase.close, SharedDatabase.db_of_cache? hc]
    exact hm.openOn
  have hopened : opened = _ := TableCache.openFile_eq h.isFile hprep.prepareDirectory hclosed name
  rw [hopened]
  simp only [SharedDatabase.openAs, hopenOn]
  refine ⟨trivial, h.isFile, ?_, names, _, c, TableCache.databaseAt_set hclosed _, SharedDatabase.cache?_set .., hm⟩
  exact hprep.set (TableCache.databaseAt_eq_ok hclosed).2 _

/-- What is done with the cache is as if it was done in memory. -/
theorem Keeps.use (h : t.Keeps cwd path name m) (u : Use) :
    (t.use cwd path name u).1.lasting = (m.use u).1.lasting ∧ (t.use cwd path name u).2.Keeps cwd path name (m.use u).2 := by
  obtain ⟨names, db, c, hdb, hc, hm⟩ := h.cache
  cases u with
  | ask now query =>
    obtain ⟨ha, hm'⟩ := hm.ask now query
    simp only [Files.use, hdb, hc, MemoryCache.use, ha]
    exact ⟨trivial, h.set hdb (SharedDatabase.cache?_set ..) hm'⟩
  | entry uri =>
    have hentry := hm.entry_undated uri
    simp only [Files.use, hdb, hc, MemoryCache.use, Upshot.lasting, hentry]
    refine ⟨?_, h⟩
    cases Fields.get? m uri <;> rfl
  | reopen =>
    obtain ⟨-, hk⟩ := h.reopen hdb hc hm
    simp only [Files.use, hdb, hc]
    exact ⟨rfl, hk⟩

theorem Keeps.uses (h : t.Keeps cwd path name m) (us : List Use) :
    (t.uses cwd path name us).1.filterMap Upshot.lasting = (m.uses us).1.filterMap Upshot.lasting ∧
      (t.uses cwd path name us).2.Keeps cwd path name (m.uses us).2 := by
  induction us generalizing t m with
  | nil => exact ⟨rfl, h⟩
  | cons u us ih =>
    obtain ⟨hu, hk⟩ := h.use u
    obtain ⟨hus, hks⟩ := ih hk
    refine ⟨?_, hks⟩
    simp only [Files.uses, MemoryCache.uses, List.filterMap_cons, hu, hus]

end Files

/-- A path with a file of its own that is missing or empty, and the directories on the way to it can be made. -/
structure IsNewFile (t : Files) (cwd : Names) (path : String) : Prop where
  isFile : TableCache.isPrivate path = false
  opens : ∃ t' names, TableCache.prepareDirectory t cwd path = .ok t' ∧
    TableCache.databaseAt t' cwd path = .ok (names, .ofDatabase Database.empty)

/-- A new file is opened with an empty cache. -/
theorem IsNewFile.openFile {t : Files} {cwd : Names} {path : String} (h : IsNewFile t cwd path) (name : String) :
    (TableCache.openFile t cwd path name).2 = .ok TableCache.fresh ∧
      (TableCache.openFile t cwd path name).1.Keeps cwd path name MemoryCache.empty := by
  obtain ⟨t', names, hprep, hdb⟩ := h.opens
  rw [TableCache.openFile_eq h.isFile hprep hdb name]
  have hopened : (SharedDatabase.ofDatabase Database.empty).openAs name =
      (SharedDatabase.set ⟨TableCache.fresh.db, []⟩ name TableCache.fresh, .ok TableCache.fresh) := rfl
  rw [hopened]
  refine ⟨rfl, h.isFile, ?_, names, _, TableCache.fresh, TableCache.databaseAt_set hdb _, SharedDatabase.cache?_set ..,
    InStep.fresh⟩
  exact (TableCache.isPrepared_of_prepareDirectory hprep).set (TableCache.databaseAt_eq_ok hdb).2 _

/-- **Reopening is unseen.** From a new file on, whatever is done, a cache is open whose index is exact, and what is
answered does not depend on where it was closed and opened again. -/
theorem reopening_unseen (t : Files) (cwd : Names) (path name : String) (h : IsNewFile t cwd path) :
    let start := TableCache.openFile t cwd path name
    start.2 = .ok TableCache.fresh ∧
      (∀ us, ∃ names db c rows, TableCache.databaseAt (start.1.uses cwd path name us).2 cwd path = .ok (names, db) ∧
        db.cache? name = some c ∧ c.IsExact rows) ∧
      ∀ us us', us.filterMap Use.lasting = us'.filterMap Use.lasting →
        (start.1.uses cwd path name us).1.filterMap Upshot.lasting =
          (start.1.uses cwd path name us').1.filterMap Upshot.lasting := by
  obtain ⟨hfresh, hk⟩ := h.openFile name
  refine ⟨hfresh, fun us => ?_, fun us us' hus => ?_⟩
  · obtain ⟨names, db, c, hdb, hc, hm⟩ := (hk.uses us).2.cache
    obtain ⟨rows, hexact⟩ := hm.isExact
    exact ⟨names, db, c, rows, hdb, hc, hexact⟩
  · rw [(hk.uses us).1, (hk.uses us').1, MemoryCache.uses_lasting, MemoryCache.uses_lasting, hus]

/-- The cache of a file whose directory has yet to be made, closed between a put and a look. -/
theorem reopening_unseen_nested :
    let start := (TableCache.openFile ⟨[]⟩ [] "data/cache.sqlite" "a").1
    let put : Use := .ask "" (.put "https://example.org/schema.json" "1" "one")
    let look : Use := .entry "https://example.org/schema.json"
    IsNewFile ⟨[]⟩ [] "data/cache.sqlite" ∧
      (start.uses [] "data/cache.sqlite" "a" [put, .reopen, look]).1.filterMap Upshot.lasting =
        (start.uses [] "data/cache.sqlite" "a" [put, look]).1.filterMap Upshot.lasting := by
  intro start put look
  have hnew : IsNewFile ⟨[]⟩ [] "data/cache.sqlite" :=
    ⟨by decide, ⟨[(["data"], .directory)]⟩, ["data", "cache.sqlite"], by rfl, by rfl⟩
  exact ⟨hnew, (reopening_unseen ⟨[]⟩ [] "data/cache.sqlite" "a" hnew).2.2 _ _ rfl⟩

end SchemaRelay

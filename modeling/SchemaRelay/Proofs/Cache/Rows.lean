import SchemaRelay.Cache.Migration
import SchemaRelay.Cache.Table
import SchemaRelay.Proofs.Fields
import SchemaRelay.Proofs.Results

/-!
# The rows of the cache

A row that is put is found again under its URI, and no other URI notices (`findRow_putRow`); the URIs of the rows stay
distinct (`nodup_putRow`). A cache that is opened where they are (`Database.Keyed`) has the ETag of every row
(`TableCache.load_eq_ok`).

`Database.Sound db rows` describes a table that only caches have written to: every row is that of an intact entry. There
all reads and writes succeed, an upsert keeps the table sound (`Sound.upsert`), bringing the schema up to date changes
nothing (`Sound.openOn`), and a cache that is opened knows the ETag of every row (`Sound.load`).
-/

namespace SchemaRelay

/-! ## Rows and their URIs -/

namespace Database

theorem findRow_putRow (uri : String) (r : Row) (rows : List Row) :
    findRow uri (putRow r rows) = if r.uri = .text uri then some r else findRow uri rows := by
  induction rows with
  | nil => by_cases h : r.uri = .text uri <;> simp [putRow, findRow, h]
  | cons s rest ih =>
    simp only [findRow] at ih
    simp only [putRow, findRow]
    split
    · next heq => by_cases h : r.uri = .text uri <;> simp [heq, h]
    · next hne =>
      by_cases hs : s.uri = .text uri
      · have hr : r.uri ≠ .text uri := fun h => hne (hs.trans h.symm)
        simp [hs, hr]
      · simp [hs, ih]

theorem mem_putRow {r s : Row} {rows : List Row} (h : s ∈ putRow r rows) : s = r ∨ s ∈ rows := by
  induction rows with
  | nil => exact .inl (List.mem_singleton.1 h)
  | cons q rest ih =>
    simp only [putRow] at h
    split at h
    · exact (List.mem_cons.1 h).imp_right (List.mem_cons_of_mem _)
    · rcases List.mem_cons.1 h with rfl | h
      · exact .inr List.mem_cons_self
      · exact (ih h).imp_right (List.mem_cons_of_mem _)

/-- A row that is put takes the place of the one with its URI or comes last. -/
theorem uris_putRow (r : Row) (rows : List Row) :
    (putRow r rows).map (·.uri) =
      if r.uri ∈ rows.map (·.uri) then rows.map (·.uri) else rows.map (·.uri) ++ [r.uri] := by
  induction rows with
  | nil => rfl
  | cons s rest ih =>
    simp only [putRow]
    split
    · next heq => simp [heq]
    · next hne =>
      simp only [List.map_cons, ih, List.mem_cons, Ne.symm hne, false_or]
      split <;> rfl

theorem nodup_putRow {r : Row} {rows : List Row} (h : (rows.map (·.uri)).Nodup) :
    ((putRow r rows).map (·.uri)).Nodup := by
  rw [uris_putRow]
  split
  · exact h
  · next hr => exact List.nodup_append.2 ⟨h, by simp, fun a ha b hb => by
      rw [List.mem_singleton.1 hb]
      rintro rfl
      exact hr ha⟩

theorem findRow_eq_some {uri : String} {rows : List Row} {r : Row} (h : findRow uri rows = some r) :
    r ∈ rows ∧ r.uri = .text uri :=
  ⟨List.mem_of_find?_eq_some h, by simpa using List.find?_some h⟩

/-- Where the URIs of the rows are distinct, a row is the one of its URI. -/
theorem findRow_of_mem {uri : String} {rows : List Row} {r : Row} (hd : (rows.map (·.uri)).Nodup) (hr : r ∈ rows)
    (hu : r.uri = .text uri) : findRow uri rows = some r := by
  induction rows with
  | nil => cases hr
  | cons s rest ih =>
    obtain ⟨hs, hrest⟩ := List.nodup_cons.1 hd
    simp only [findRow] at ih ⊢
    rcases List.mem_cons.1 hr with rfl | hr
    · simp [hu]
    · have hne : s.uri ≠ .text uri := fun h => hs (List.mem_map.2 ⟨r, hr, hu.trans h.symm⟩)
      simp [hne, ih hrest hr]

/-! ## Reads and writes of a table that is there -/

section Table

variable {db : Database} {rows : List Row}

theorem entry_of_rows (h : db.rows = some rows) (uri : String) :
    db.entry uri = match findRow uri rows with
      | some r => r.entry.map some
      | none => .ok none := by
  unfold entry table
  rw [h]
  change (match findRow uri rows with
    | some r => do return some (← r.entry)
    | none => return none) = _
  cases findRow uri rows with
  | none => rfl
  | some r =>
    change (do return some (← r.entry)) = r.entry.map some
    cases r.entry <;> rfl

theorem table_eq_ok : db.table = .ok rows ↔ db.rows = some rows := by
  unfold table
  cases db.rows <;> simp

theorem upsert_of_rows (h : db.rows = some rows) (e : CacheEntry) :
    db.upsert e = .ok { db with rows := some (putRow e.row rows) } := by
  simp only [upsert, table, h]
  rfl

/-- An entry that is written is read back, and no other URI notices. -/
theorem entry_putRow (h : db.rows = some rows) (e : CacheEntry) (uri : String) :
    ({ db with rows := some (putRow e.row rows) } : Database).entry uri =
      if e.schemaUri = uri then .ok (some e) else db.entry uri := by
  rw [entry_of_rows rfl, entry_of_rows h, findRow_putRow]
  by_cases hu : e.schemaUri = uri
  · have hrow : e.row.uri = .text uri := congrArg Cell.text hu
    rw [if_pos hrow, if_pos hu]
    rfl
  · have hrow : e.row.uri ≠ .text uri := fun h => hu (Cell.text.inj h)
    rw [if_neg hrow, if_neg hu]

/-- The ETag and the content in the row of a URI, if there is a row and it can be read. -/
def pair? (db : Database) (uri : String) : Option (String × String) :=
  match db.entry uri with
  | .ok (some e) => some (e.etag, e.content)
  | _ => none

theorem pair?_putRow (h : db.rows = some rows) (e : CacheEntry) (uri : String) :
    ({ db with rows := some (putRow e.row rows) } : Database).pair? uri =
      if e.schemaUri = uri then some (e.etag, e.content) else db.pair? uri := by
  rw [pair?, entry_putRow h]
  by_cases hu : e.schemaUri = uri
  · rw [if_pos hu, if_pos hu]
  · rw [if_neg hu, if_neg hu]
    rfl

end Table

/-! ## Tables with one row for each URI -/

/-- No two rows have one URI. The table's key sees to that. -/
def Keyed (db : Database) : Prop := ∀ rows, db.rows = some rows → (rows.map (·.uri)).Nodup

section Keyed

variable {db db' : Database}

theorem Keyed.of_rows (h : db.Keyed) (hr : db'.rows = db.rows) : db'.Keyed := fun rows hrows => h rows (hr ▸ hrows)

theorem keyed_of_nodup {rows : List Row} (hr : db.rows = some rows) (h : (rows.map (·.uri)).Nodup) : db.Keyed := by
  intro rows' hr'
  rw [hr] at hr'
  exact Option.some.inj hr' ▸ h

end Keyed

end Database

/-! ## The index that is read -/

theorem Row.text_eq_ok {r : Row} {c : Column} {s : String} : r.text c = .ok s ↔ r.cell c = .text s := by
  unfold Row.text
  cases r.cell c <;> simp

namespace Database

/-- The ETag in the row of a URI. -/
def rowEtag? (db : Database) (uri : String) : Option String :=
  (db.rows.bind (findRow uri)).bind fun r => (r.text .etag).toOption

/-- The pairs that an index is made of are read off the rows one by one. -/
theorem etags_of_ok {rows : List Row} {pairs : List (String × String)}
    (h : rows.mapM (fun r => do return (← r.text .uri, ← r.text .etag) : Row → Except StatementFault _) = .ok pairs) :
    rows.map (·.uri) = pairs.map (fun p => .text p.1) ∧
      ∀ uri, Fields.get? pairs uri = (findRow uri rows).bind fun r => (r.text .etag).toOption := by
  induction rows generalizing pairs with
  | nil =>
    cases h
    exact ⟨rfl, fun _ => rfl⟩
  | cons r rest ih =>
    rw [List.mapM_cons] at h
    obtain ⟨p, hp, h⟩ := bind_eq_ok.1 h
    obtain ⟨ps, hps, h⟩ := bind_eq_ok.1 h
    cases h
    obtain ⟨u, hu, hp⟩ := bind_eq_ok.1 hp
    obtain ⟨e, he, hp⟩ := bind_eq_ok.1 hp
    cases hp
    obtain ⟨huris, hget⟩ := ih hps
    have hru : r.uri = .text u := Row.text_eq_ok.1 hu
    refine ⟨by rw [List.map_cons, List.map_cons, huris, hru], fun uri => ?_⟩
    simp only [Fields.get?, findRow, List.find?_cons, hru]
    by_cases hue : u = uri
    · simp [hue, he, Except.toOption]
    · simp only [if_neg hue, hget, findRow]
      have hne : (Cell.text u == Cell.text uri) = false := by simpa using hue
      rw [hne]

end Database

/-- A cache that is opened has the ETag of every row. -/
theorem TableCache.load_eq_ok {db : Database} {c : TableCache} (hk : db.Keyed) (h : load db = .ok c) :
    c.db = db ∧ Fields.Sorted c.etags ∧ ∀ uri, c.etags.get? uri = db.rowEtag? uri := by
  unfold load at h
  split at h
  · next pairs hp =>
    cases h
    obtain ⟨rows, hr, hp⟩ := bind_eq_ok.1 hp
    have hr := Database.table_eq_ok.1 hr
    obtain ⟨huris, hget⟩ := Database.etags_of_ok hp
    have hd : (pairs.map (·.1)).Nodup := by
      have hmap : rows.map (·.uri) = (pairs.map (·.1)).map Cell.text := by rw [huris, List.map_map]; rfl
      exact List.Pairwise.of_map Cell.text (fun a b hab he => hab (congrArg _ he)) (hmap ▸ hk rows hr)
    refine ⟨rfl, Fields.Sorted.ofList pairs, fun uri => ?_⟩
    rw [Fields.get?_ofList hd, hget, Database.rowEtag?, hr, Option.bind_some]
  · cases h

namespace Database

/-! ## Tables that only caches have written to -/

/-- The table is there with these rows, which are those of intact entries with distinct URIs, and all steps of the
schema are recorded. -/
structure Sound (db : Database) (rows : List Row) : Prop where
  table : db.rows = some rows
  intact : ∀ r ∈ rows, ∃ e : CacheEntry, e.isIntact = true ∧ r = e.row
  distinct : (rows.map (·.uri)).Nodup
  recorded : db.versions = some (Migration.steps.map (·.1))

section Sound

variable {db : Database} {rows : List Row}

/-- A URI has no row or an intact one. -/
theorem Sound.entry (h : db.Sound rows) (uri : String) :
    db.entry uri = .ok none ∨ ∃ e, db.entry uri = .ok (some e) ∧ e.isIntact = true ∧ e.schemaUri = uri := by
  rw [entry_of_rows h.table]
  cases hr : findRow uri rows with
  | none => exact .inl rfl
  | some r =>
    obtain ⟨hm, hu⟩ := findRow_eq_some hr
    obtain ⟨e, he, rfl⟩ := h.intact r hm
    exact .inr ⟨e, rfl, he, Cell.text.inj hu⟩

theorem Sound.upsert (h : db.Sound rows) {e : CacheEntry} (he : e.isIntact = true) :
    ({ db with rows := some (putRow e.row rows) } : Database).Sound (putRow e.row rows) where
  table := rfl
  intact r hr := by
    rcases mem_putRow hr with rfl | hr
    · exact ⟨e, he, rfl⟩
    · exact h.intact r hr
  distinct := nodup_putRow h.distinct
  recorded := h.recorded

/-- A sound database is up to date. -/
theorem Sound.run (h : db.Sound rows) : Migration.run db = (db, .ok ()) := by
  obtain ⟨rows', nameTaken, versions⟩ := db
  obtain rfl : versions = some [1] := h.recorded
  rfl

theorem Sound.keyed (h : db.Sound rows) : db.Keyed := keyed_of_nodup h.table h.distinct

theorem Sound.rowEtag? (h : db.Sound rows) (uri : String) : db.rowEtag? uri = (db.pair? uri).map (·.1) := by
  rw [Database.rowEtag?, pair?, entry_of_rows h.table, h.table, Option.bind_some]
  cases hr : findRow uri rows with
  | none => rfl
  | some r =>
    obtain ⟨e, -, rfl⟩ := h.intact r (findRow_eq_some hr).1
    rfl

/-- A cache that is opened has the ETag of every row. -/
theorem Sound.load (h : db.Sound rows) :
    ∃ c, TableCache.load db = .ok c ∧ c.db = db ∧ Fields.Sorted c.etags ∧
      ∀ uri, c.etag? uri = (db.pair? uri).map (·.1) := by
  have hpairs : ∃ pairs, db.etags = .ok pairs := by
    simp only [etags, table_eq_ok.2 h.table]
    refine exists_mapM_eq_ok fun r hr => ?_
    obtain ⟨e, -, rfl⟩ := h.intact r hr
    exact ⟨_, rfl⟩
  obtain ⟨pairs, hp⟩ := hpairs
  have hl : TableCache.load db = .ok ⟨db, Fields.ofList pairs⟩ := by simp only [TableCache.load, hp]
  obtain ⟨-, hsorted, hget⟩ := TableCache.load_eq_ok h.keyed hl
  exact ⟨_, hl, rfl, hsorted, fun uri => (hget uri).trans (h.rowEtag? uri)⟩

/-- Opening a cache on a sound database changes nothing there. -/
theorem Sound.openOn (h : db.Sound rows) :
    ∃ c, TableCache.openOn db = (db, .ok c) ∧ c.db = db ∧ Fields.Sorted c.etags ∧
      ∀ uri, c.etag? uri = (db.pair? uri).map (·.1) := by
  obtain ⟨c, hl, hc⟩ := h.load
  exact ⟨c, by simp only [TableCache.openOn, h.run, hl], hc⟩

/-- The ETag of a URI is the one that stands beside it in a row. -/
theorem Sound.etag_eq_some_iff (h : db.Sound rows) {uri etag : String} :
    (db.pair? uri).map (·.1) = some etag ↔ ∃ r ∈ rows, r.uri = .text uri ∧ r.etag = .text etag := by
  rw [pair?, entry_of_rows h.table]
  constructor
  · intro hp
    cases hr : findRow uri rows with
    | none =>
      rw [hr] at hp
      cases hp
    | some r =>
      obtain ⟨hm, hu⟩ := findRow_eq_some hr
      obtain ⟨e, -, rfl⟩ := h.intact r hm
      rw [hr] at hp
      cases hp
      exact ⟨_, hm, hu, rfl⟩
  · rintro ⟨r, hm, hu, he⟩
    obtain ⟨e, -, rfl⟩ := h.intact r hm
    rw [findRow_of_mem h.distinct hm hu]
    exact congrArg some (Cell.text.inj he)

/-- Of a sound table every content is found intact. -/
theorem Sound.schema? (h : db.Sound rows) (etags : Fields String) (uri : String) :
    (⟨db, etags⟩ : TableCache).schema? uri = (db.pair? uri).map (·.2) := by
  unfold TableCache.schema? pair?
  rcases h.entry uri with he | ⟨e, he, hi, -⟩
  · simp only [he, Option.map_none]
  · simp only [he, hi, if_true, Option.map_some]

end Sound

/-- The database of a fresh cache is sound and has no rows. -/
theorem sound_fresh : TableCache.fresh.db.Sound [] where
  table := rfl
  intact := by simp
  distinct := List.nodup_nil
  recorded := rfl

end Database

namespace TableCache

/-- The first cache on a new database is the fresh one. -/
theorem openOn_empty : openOn Database.empty = (fresh.db, .ok fresh) := rfl

theorem isIntact_entryOf (now uri etag content : String) : (entryOf now uri etag content).isIntact = true := by
  simp [CacheEntry.isIntact, entryOf]

end TableCache

end SchemaRelay

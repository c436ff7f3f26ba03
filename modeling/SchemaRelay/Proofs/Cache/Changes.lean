import SchemaRelay.Proofs.Cache.Migration
import SchemaRelay.Proofs.Cache.Rows

/-!
# What keeps one row for each URI

The key of the table sees to it that no two rows have one URI (`Database.Keyed`). Here it is kept by all that caches do
to the rows, by bringing the schema up to date (`Keyed.run`) and by putting entries (`Keyed.upsert`), and by what other
programs may do to them (`Change`, `Keyed.change`). A cache that is opened then knows the ETag of every row
(`openOn_eq_ok`).
-/

namespace SchemaRelay

/-! ## Statements and entries -/

namespace Database

variable {db db' : Database}

theorem Keyed.exec (h : db.Keyed) {s : Statement} (hs : s.exec db = .ok db') : db'.Keyed := by
  cases s with
  | makeRecords =>
    cases hs
    exact h.of_rows rfl
  | makeTable v =>
    obtain ⟨-, rfl⟩ := Migration.makeTable_eq_ok.1 hs
    refine keyed_of_nodup rfl ?_
    cases hr : db.rows with
    | none => exact List.nodup_nil
    | some rows => exact h rows hr
  | record v =>
    obtain ⟨vs, -, -, rfl⟩ := Migration.record_eq_ok.1 hs
    exact h.of_rows rfl

theorem Keyed.run (h : db.Keyed) : (Migration.run db).1.Keyed := by
  unfold Migration.run
  generalize Migration.plan db = l
  induction l generalizing db with
  | nil => exact h
  | cons s l ih =>
    simp only [Migration.execAll]
    split
    · next d hs => exact ih (h.exec hs)
    · exact h

theorem upsert_eq_ok {e : CacheEntry} (h : db.upsert e = .ok db') :
    ∃ rows, db.rows = some rows ∧ db' = { db with rows := some (putRow e.row rows) } := by
  obtain ⟨rows, hr, h⟩ := bind_eq_ok.1 h
  cases h
  exact ⟨rows, table_eq_ok.1 hr, rfl⟩

theorem Keyed.upsert (h : db.Keyed) {e : CacheEntry} (hu : db.upsert e = .ok db') : db'.Keyed := by
  obtain ⟨rows, hr, rfl⟩ := upsert_eq_ok hu
  exact keyed_of_nodup rfl (nodup_putRow (h rows hr))

end Database

/-- A pair is taken into the rows and into the index, or nothing changes. -/
theorem TableCache.put_cases (c : TableCache) (now uri etag content : String) :
    (∃ db, c.db.upsert (entryOf now uri etag content) = .ok db ∧
      c.put now uri etag content = (.ok (), ⟨db, c.etags.insert uri etag⟩)) ∨
    ∃ e, c.put now uri etag content = (.error e, c) := by
  unfold put
  split
  · next db hdb => exact .inl ⟨db, hdb, rfl⟩
  · exact .inr ⟨_, rfl⟩

theorem Database.Keyed.put {c : TableCache} (h : c.db.Keyed) (now uri etag content : String) :
    (c.put now uri etag content).2.db.Keyed := by
  rcases c.put_cases now uri etag content with ⟨db, hu, hput⟩ | ⟨e, hput⟩
  · rw [hput]
    exact h.upsert hu
  · rwa [hput]

/-! ## Changes by other programs -/

/-- What another program may do to the database. -/
inductive Change where
  | setColumn (uri : String) (column : Column) (value : Cell)
  | insertRow (row : Row)
  | deleteRow (uri : String)
  | dropTable
  | takeName
  | record (version : Int)
  | forgetRecords

/-- Makes a change, and counts the rows that it meets. -/
def Change.exec (c : Change) (db : Database) : Except StatementFault (Nat × Database) :=
  match c with
  | .setColumn uri column value => db.setColumn uri column value
  | .insertRow r => db.insertRow r
  | .deleteRow uri => db.deleteRow uri
  | .dropTable => db.dropTable.map (0, ·)
  | .takeName => .ok (0, db.takeName)
  | .record v => (db.record v).map (0, ·)
  | .forgetRecords => db.forgetRecords

theorem Row.uri_setCell (r : Row) (c : Column) (v : Cell) : (r.setCell c v).uri = if c = .uri then v else r.uri := by
  cases c <;> rfl

namespace Database

variable {db db' : Database} {n : Nat}

theorem setColumn_eq_ok {uri : String} {c : Column} {v : Cell} (h : db.setColumn uri c v = .ok (n, db')) :
    ∃ rows, db.rows = some rows ∧
      db' = { db with rows := some (rows.map fun r => if r.uri = .text uri then r.setCell c v else r) } ∧
      (c = .uri → ∀ r ∈ rows, ∀ s ∈ rows, r.uri = .text uri → s.uri ≠ .text uri → s.uri ≠ v) := by
  obtain ⟨rows, hr, h⟩ := bind_eq_ok.1 h
  dsimp only at h
  split at h
  · obtain ⟨_, hthrow, -⟩ := bind_eq_ok.1 h
    exact absurd hthrow throw_ne_ok
  · next hfree =>
    cases h
    refine ⟨rows, table_eq_ok.1 hr, rfl, fun hc r hrm s hsm hru hsu hsv => hfree ⟨hc, ?_, ?_⟩⟩
    · exact List.countP_pos_iff.2 ⟨r, hrm, by simp [hru]⟩
    · exact List.any_eq_true.2 ⟨s, List.mem_filter.2 ⟨hsm, by simp [hsu]⟩, by simp [hsv]⟩

theorem insertRow_eq_ok {r : Row} (h : db.insertRow r = .ok (n, db')) :
    ∃ rows, db.rows = some rows ∧ (∀ s ∈ rows, s.uri ≠ r.uri) ∧ db' = { db with rows := some (rows ++ [r]) } := by
  obtain ⟨rows, hr, h⟩ := bind_eq_ok.1 h
  dsimp only at h
  split at h
  · obtain ⟨_, hthrow, -⟩ := bind_eq_ok.1 h
    exact absurd hthrow throw_ne_ok
  · next hfree =>
    cases h
    exact ⟨rows, table_eq_ok.1 hr, by simpa using hfree, rfl⟩

theorem deleteRow_eq_ok {uri : String} (h : db.deleteRow uri = .ok (n, db')) :
    ∃ rows, db.rows = some rows ∧ db' = { db with rows := some (rows.filter (·.uri ≠ .text uri)) } := by
  obtain ⟨rows, hr, h⟩ := bind_eq_ok.1 h
  cases h
  exact ⟨rows, table_eq_ok.1 hr, rfl⟩

theorem dropTable_eq_ok (h : db.dropTable = .ok db') : db' = { db with rows := none } := by
  obtain ⟨rows, hr, h⟩ := bind_eq_ok.1 h
  cases h
  rfl

/-- A column of the row of a URI is set without making two rows of one URI. -/
theorem nodup_setColumn {rows : List Row} (h : (rows.map (·.uri)).Nodup) {uri : String} {c : Column} {v : Cell}
    (hfree : c = .uri → ∀ r ∈ rows, ∀ s ∈ rows, r.uri = .text uri → s.uri ≠ .text uri → s.uri ≠ v) :
    ((rows.map fun r => if r.uri = .text uri then r.setCell c v else r).map (·.uri)).Nodup := by
  rw [List.map_map, List.nodup_iff_pairwise_ne, List.pairwise_map]
  rw [List.nodup_iff_pairwise_ne, List.pairwise_map] at h
  refine h.imp_of_mem fun {r s} hr hs hne => ?_
  simp only [Function.comp_apply]
  by_cases hru : r.uri = .text uri <;> by_cases hsu : s.uri = .text uri
  · exact absurd (hru.trans hsu.symm) hne
  · rw [if_pos hru, if_neg hsu, Row.uri_setCell]
    split
    · next hc => exact (hfree hc r hr s hs hru hsu).symm
    · exact hne
  · rw [if_neg hru, if_pos hsu, Row.uri_setCell]
    split
    · next hc => exact hfree hc s hs r hr hsu hru
    · exact hne
  · rw [if_neg hru, if_neg hsu]
    exact hne

theorem Keyed.change (h : db.Keyed) {c : Change} (hc : c.exec db = .ok (n, db')) : db'.Keyed := by
  cases c with
  | setColumn uri c v =>
    obtain ⟨rows, hr, rfl, hfree⟩ := setColumn_eq_ok hc
    exact keyed_of_nodup rfl (nodup_setColumn (h rows hr) hfree)
  | insertRow r =>
    obtain ⟨rows, hr, hfree, rfl⟩ := insertRow_eq_ok hc
    refine keyed_of_nodup rfl ?_
    rw [List.map_append, List.nodup_append]
    refine ⟨h rows hr, by simp, fun u hu v hv => ?_⟩
    obtain ⟨s, hs, rfl⟩ := List.mem_map.1 hu
    rw [List.map_singleton, List.mem_singleton] at hv
    exact hv ▸ hfree s hs
  | deleteRow uri =>
    obtain ⟨rows, hr, rfl⟩ := deleteRow_eq_ok hc
    exact keyed_of_nodup rfl ((List.filter_sublist.map _).nodup (h rows hr))
  | dropTable =>
    obtain ⟨d, hd, hpair⟩ := map_eq_ok.1 hc
    cases hpair
    rw [dropTable_eq_ok hd]
    exact nofun
  | takeName =>
    cases hc
    exact h.of_rows rfl
  | record v =>
    obtain ⟨d, hd, hpair⟩ := map_eq_ok.1 hc
    cases hpair
    obtain ⟨vs, -, -, rfl⟩ := Migration.record_eq_ok.1 hd
    exact h.of_rows rfl
  | forgetRecords =>
    obtain ⟨vs, -, h'⟩ := bind_eq_ok.1 hc
    cases h'
    exact h.of_rows rfl

end Database

/-! ## Caches that are opened -/

/-- A cache is opened on a database that is brought up to date, and knows the ETags of its rows. -/
theorem TableCache.openOn_eq_ok {db db' : Database} {c : TableCache} (hk : db.Keyed)
    (h : openOn db = (db', .ok c)) :
    db'.Keyed ∧ c.db = db' ∧ Fields.Sorted c.etags ∧ ∀ uri, c.etags.get? uri = db'.rowEtag? uri := by
  have hrun := hk.run
  unfold openOn at h
  split at h
  · next d hd =>
    rw [hd] at hrun
    obtain ⟨rfl, hl⟩ := Prod.mk.inj h
    exact ⟨hrun, load_eq_ok hrun hl⟩
  · cases congrArg Prod.snd h

theorem Database.Keyed.openOn {db : Database} (hk : db.Keyed) : (TableCache.openOn db).1.Keyed := by
  have hrun := hk.run
  unfold TableCache.openOn
  split
  · next d hd => rwa [hd] at hrun
  · next d e hd => rwa [hd] at hrun

end SchemaRelay

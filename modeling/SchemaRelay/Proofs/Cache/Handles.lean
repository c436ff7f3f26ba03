import Mathlib.Data.Set.Card
import SchemaRelay.Proofs.Cache.Changes
import SchemaRelay.Proofs.Cache.Reopening

/-!
# Caches side by side

Several caches are open on one database, each under a name, and other programs change the database besides (`act`).
Nothing that is done makes two rows of one URI (`keyed_act`), and each index is what it was when its cache was opened
but for what that cache stored itself since (`Snapshot`): nobody else touches it (`index_act`).

`rows_shared_indexes_own` puts together what a cache answers after anything that was done: of entries and contents what
is in the rows now, of ETags what it knows itself.
-/

namespace SchemaRelay

/-! ## What is done and what happens -/

namespace SharedDatabase

/-- What can be done with a database: a cache is opened or closed, asked or told something, or another program makes a
change. -/
inductive Act where
  | attach (name : String)
  | detach (name : String)
  | ask (name now : String) (query : Query)
  | entry (name uri : String)
  | change (change : Change)

/-- What was done, and what came of it. -/
inductive Deed where
  /-- A cache was opened, and read its index from this database. -/
  | attached (name : String) (db : Database)
  | refused (name : String) (reason : Error)
  | detached (name : String)
  | asked (name : String) (query : Query) (answer : Answer)
  | found (name uri : String) (entry : Except Error (Option CacheEntry))
  /-- No cache was open under the name. -/
  | absent (name : String)
  | changed (change : Change) (rows : Except StatementFault Nat)

/-- Does one thing. -/
def act (s : SharedDatabase) : Act → Deed × SharedDatabase
  | .attach name =>
    match s.openAs name with
    | (s, .ok c) => (.attached name c.db, s)
    | (s, .error e) => (.refused name e, s)
  | .detach name => (.detached name, s.close name)
  | .ask name now query =>
    match s.cache? name with
    | none => (.absent name, s)
    | some c =>
      let (answer, c) := TableCache.counted.ask now c query
      (.asked name query answer, s.set name c)
  | .entry name uri =>
    match s.cache? name with
    | none => (.absent name, s)
    | some c => (.found name uri (c.entry uri), s)
  | .change c =>
    let (s, rows) := s.change c.exec
    (.changed c rows, s)

/-- Does one thing after the other. -/
def acts (s : SharedDatabase) : List Act → List Deed × SharedDatabase
  | [] => ([], s)
  | a :: as =>
    let (d, s) := s.act a
    let (ds, s) := s.acts as
    (d :: ds, s)

/-- The cache that something is done with. -/
def Act.name? : Act → Option String
  | .attach name => some name
  | .detach name => some name
  | .ask name _ _ => some name
  | .entry name _ => some name
  | .change _ => none

/-- The cache under a name is opened or closed. -/
def Deed.Renews (name : String) : Deed → Prop
  | .attached n _ => n = name
  | .detached n => n = name
  | _ => False

/-- The ETag that the cache under a name stored for a URI. -/
def Deed.stores (name uri : String) : Deed → Option String
  | .asked n (.put u etag _) (.taken (.ok ())) => if n = name ∧ u = uri then some etag else none
  | _ => none

/-- The ETag that the cache under a name stored last for a URI. -/
def lastStored (name uri : String) (ds : List Deed) : Option String := (ds.filterMap (Deed.stores name uri)).getLast?

theorem lastStored_concat (name uri : String) (ds : List Deed) (d : Deed) :
    lastStored name uri (ds ++ [d]) = (d.stores name uri).or (lastStored name uri ds) := by
  unfold lastStored
  rw [List.filterMap_append, List.getLast?_append]
  cases hd : d.stores name uri <;> simp [hd]

/-- What an index holds of each URI: the ETag that its cache stored last since it was opened, or else the one that was in
the row when it was opened. -/
def Snapshot (ds : List Deed) (name : String) (index : Fields String) : Prop :=
  ∃ before db after, ds = before ++ .attached name db :: after ∧ (∀ d ∈ after, ¬d.Renews name) ∧
    ∀ uri, index.get? uri = (lastStored name uri after).or (db.rowEtag? uri)

section Snapshot

variable {ds : List Deed} {name : String} {index index' : Fields String} {d : Deed}

/-- An index goes on from deed to deed with what is stored. -/
theorem Snapshot.concat (h : Snapshot ds name index) (hd : ¬d.Renews name)
    (hi : ∀ uri, index'.get? uri = (d.stores name uri).or (index.get? uri)) : Snapshot (ds ++ [d]) name index' := by
  obtain ⟨before, db, after, rfl, hno, hget⟩ := h
  refine ⟨before, db, after ++ [d], by simp, ?_, fun uri => ?_⟩
  · simpa [or_imp, forall_and] using ⟨hno, hd⟩
  · rw [hi, hget, lastStored_concat, Option.or_assoc]

theorem snapshot_attached (ds : List Deed) (name : String) {db : Database}
    (hi : ∀ uri, index.get? uri = db.rowEtag? uri) : Snapshot (ds ++ [.attached name db]) name index :=
  ⟨ds, db, [], rfl, by simp, fun uri => by rw [hi]; rfl⟩

end Snapshot

/-! ## The invariant -/

/-- The rows have distinct URIs, and every index is in order and known from what was done. -/
structure Tracked (ds : List Deed) (s : SharedDatabase) : Prop where
  keyed : s.db.Keyed
  indexes : ∀ name index, s.indexes.get? name = some index → Fields.Sorted index ∧ Snapshot ds name index

/-- Before anything is done. -/
theorem tracked_start {db : Database} (h : db.Keyed) : Tracked [] (.ofDatabase db) where
  keyed := h
  indexes _ _ hi := nomatch hi

/-- A cache is opened under a name, or all that changes is the database. -/
theorem openAs_cases (s : SharedDatabase) (name : String) :
    (∃ db c, TableCache.openOn s.db = (db, .ok c) ∧ s.openAs name = (set { s with db } name c, .ok c)) ∨
      ∃ db e, TableCache.openOn s.db = (db, .error e) ∧ s.openAs name = ({ s with db }, .error e) := by
  unfold openAs
  split
  · next db c hopen => exact .inl ⟨db, c, hopen, rfl⟩
  · next db e hopen => exact .inr ⟨db, e, hopen, rfl⟩

/-- What the cache under a name does, or other programs do, changes no index but its own. -/
theorem index_act (s : SharedDatabase) {a : Act} {name : String} (h : a.name? ≠ some name) :
    (s.act a).2.indexes.get? name = s.indexes.get? name := by
  cases a with
  | attach n =>
    have hn : n ≠ name := fun he => h (congrArg some he)
    rcases s.openAs_cases n with ⟨db, c, -, hopen⟩ | ⟨db, e, -, hopen⟩
    · simp only [act, hopen, set, Fields.get?_insert, if_neg hn]
    · simp only [act, hopen]
  | detach n =>
    have hn : n ≠ name := fun he => h (congrArg some he)
    simp [act, close, Fields.get?_erase, hn]
  | ask n now query =>
    have hn : n ≠ name := fun he => h (congrArg some he)
    simp only [act]
    split
    · rfl
    · simp [set, Fields.get?_insert, hn]
  | entry n uri =>
    simp only [act]
    split <;> rfl
  | change c =>
    simp only [act, change]
    split <;> rfl

theorem Deed.stores_of_ne {n name : String} (hn : n ≠ name) (query : Query) (answer : Answer) (uri : String) :
    (Deed.asked n query answer).stores name uri = none := by
  unfold stores
  split
  · next heq =>
    cases heq
    exact if_neg fun hand => hn hand.1
  · rfl

/-- Nor does it open or close that cache, or store anything through it. -/
theorem deed_act (s : SharedDatabase) {a : Act} {name : String} (h : a.name? ≠ some name) :
    ¬(s.act a).1.Renews name ∧ ∀ uri, (s.act a).1.stores name uri = none := by
  cases a with
  | attach n =>
    have hn : n ≠ name := fun he => h (congrArg some he)
    simp only [act]
    split
    · exact ⟨hn, fun _ => rfl⟩
    · exact ⟨not_false, fun _ => rfl⟩
  | detach n => exact ⟨fun he => h (congrArg some he), fun _ => rfl⟩
  | ask n now query =>
    have hn : n ≠ name := fun he => h (congrArg some he)
    simp only [act]
    split
    · exact ⟨not_false, fun _ => rfl⟩
    · exact ⟨not_false, fun uri => Deed.stores_of_ne hn query _ uri⟩
  | entry n uri =>
    simp only [act]
    split <;> exact ⟨not_false, fun _ => rfl⟩
  | change c => exact ⟨not_false, fun _ => rfl⟩

theorem cache?_eq_some_iff {s : SharedDatabase} {name : String} {c : TableCache} :
    s.cache? name = some c ↔ s.indexes.get? name = some c.etags ∧ s.db = c.db := by
  rw [cache?, Option.map_eq_some_iff]
  constructor
  · rintro ⟨index, hi, rfl⟩
    exact ⟨hi, rfl⟩
  · rintro ⟨hi, hdb⟩
    exact ⟨c.etags, hi, by rw [hdb]⟩

end SharedDatabase

/-- What asking leaves of an index: what was stored besides what it had. -/
theorem TableCache.ask_etags {c : TableCache} (hs : Fields.Sorted c.etags) (name now : String) (query : Query) :
    let r := counted.ask now c query
    Fields.Sorted r.2.etags ∧
      ∀ uri, r.2.etags.get? uri =
        ((SharedDatabase.Deed.asked name query r.1).stores name uri).or (c.etags.get? uri) := by
  intro r
  cases query with
  | put u etag content =>
    rcases c.put_cases now u etag content with ⟨db, -, hput⟩ | ⟨e, hput⟩
    · have hr : r = (.taken (.ok ()), ⟨db, c.etags.insert u etag⟩) := by
        simp only [r, counted, CountedStore.ask, store, hput]
      rw [hr]
      refine ⟨hs.insert u etag, fun uri => ?_⟩
      rw [Fields.get?_insert]
      by_cases hu : u = uri <;> simp [SharedDatabase.Deed.stores, hu]
    · have hr : r = (.taken (.error e), c) := by
        simp only [r, counted, CountedStore.ask, store, hput]
      rw [hr]
      exact ⟨hs, fun _ => rfl⟩
  | _ => exact ⟨hs, fun _ => rfl⟩

namespace SharedDatabase

/-- Nothing that is done makes two rows of one URI. -/
theorem keyed_act {s : SharedDatabase} (h : s.db.Keyed) (a : Act) : (s.act a).2.db.Keyed := by
  cases a with
  | attach name =>
    rcases s.openAs_cases name with ⟨db, c, hdb, hopen⟩ | ⟨db, e, hdb, hopen⟩
    · obtain ⟨hk, hc, -⟩ := TableCache.openOn_eq_ok h hdb
      simp only [act, hopen, set, hc]
      exact hk
    · have hk := h.openOn
      rw [hdb] at hk
      simp only [act, hopen]
      exact hk
  | detach name => exact h
  | ask name now query =>
    simp only [act]
    split
    · exact h
    · next c hc =>
      obtain ⟨-, hdb⟩ := cache?_eq_some_iff.1 hc
      rw [hdb] at h
      cases query with
      | put uri etag content => exact h.put now uri etag content
      | _ => exact h
  | entry name uri =>
    simp only [act]
    split <;> exact h
  | change c =>
    simp only [act, SharedDatabase.change]
    split
    · next hc => exact h.change hc
    · exact h

theorem keyed_acts {s : SharedDatabase} (h : s.db.Keyed) (as : List Act) : (s.acts as).2.db.Keyed := by
  induction as generalizing s with
  | nil => exact h
  | cons a as ih => exact ih (keyed_act h a)

namespace Tracked

variable {ds : List Deed} {s : SharedDatabase}

/-- An index that was not touched, while its cache was neither opened nor closed and stored nothing. -/
theorem untouched (h : Tracked ds s) {name : String} {index : Fields String} {d : Deed}
    (hi : s.indexes.get? name = some index) (hr : ¬d.Renews name) (hs : ∀ uri, d.stores name uri = none) :
    Fields.Sorted index ∧ Snapshot (ds ++ [d]) name index := by
  obtain ⟨hsorted, hsnap⟩ := h.indexes name index hi
  exact ⟨hsorted, hsnap.concat hr fun uri => by rw [hs, Option.none_or]⟩

/-- One step. -/
theorem act (h : Tracked ds s) (a : Act) : Tracked (ds ++ [(s.act a).1]) (s.act a).2 where
  keyed := keyed_act h.keyed a
  indexes name index hi := by
    by_cases ha : a.name? = some name
    · cases a with
      | attach n =>
        obtain rfl : n = name := Option.some.inj ha
        rcases s.openAs_cases n with ⟨db, c, hdb, hopen⟩ | ⟨db, e, hdb, hopen⟩
        · obtain ⟨-, hc, hsorted, hget⟩ := TableCache.openOn_eq_ok h.keyed hdb
          simp only [SharedDatabase.act, hopen, set, Fields.get?_insert, if_pos, Option.some.injEq] at hi ⊢
          subst hi
          exact ⟨hsorted, snapshot_attached ds n (hc ▸ hget)⟩
        · simp only [SharedDatabase.act, hopen] at hi ⊢
          exact h.untouched hi not_false fun _ => rfl
      | detach n =>
        obtain rfl : n = name := Option.some.inj ha
        simp [SharedDatabase.act, close, Fields.get?_erase] at hi
      | ask n now query =>
        obtain rfl : n = name := Option.some.inj ha
        simp only [SharedDatabase.act] at hi ⊢
        split
        · next hc =>
          rw [hc] at hi
          exact h.untouched hi not_false fun _ => rfl
        · next c hc =>
          rw [hc] at hi
          obtain ⟨hold, -⟩ := cache?_eq_some_iff.1 hc
          obtain ⟨hsorted, hsnap⟩ := h.indexes n _ hold
          obtain ⟨hs, hget⟩ := TableCache.ask_etags hsorted n now query
          obtain rfl : (TableCache.counted.ask now c query).2.etags = index := by
            simpa [set, Fields.get?_insert] using hi
          exact ⟨hs, hsnap.concat not_false hget⟩
      | entry n uri =>
        obtain rfl : n = name := Option.some.inj ha
        simp only [SharedDatabase.act] at hi ⊢
        split
        · next hc =>
          rw [hc] at hi
          exact h.untouched hi not_false fun _ => rfl
        · next c hc =>
          rw [hc] at hi
          exact h.untouched hi not_false fun _ => rfl
      | change c => cases ha
    · rw [index_act s ha] at hi
      obtain ⟨hr, hs⟩ := deed_act s ha
      exact h.untouched hi hr hs

end Tracked

theorem tracked_acts {ds : List Deed} {s : SharedDatabase} (h : Tracked ds s) (as : List Act) :
    Tracked (ds ++ (s.acts as).1) (s.acts as).2 := by
  induction as generalizing ds s with
  | nil => simpa [acts] using h
  | cons a as ih => simpa [acts] using ih (h.act a)

end SharedDatabase

/-! ## What caches answer -/

/-- The row of a URI, if it has one, if there is a table. -/
def Database.row? (db : Database) (uri : String) : Option (Option Row) := db.rows.map (findRow uri)

namespace TableCache

/-- The entry that is read from a row. -/
def entryOfRow : Option (Option Row) → Except Error (Option CacheEntry)
  | none => .error (.ofFault (.noTable Database.tableName))
  | some none => .ok none
  | some (some r) => (r.entry.map some).mapError .ofFault

/-- The content that is read from a row. -/
def schemaOfRow (row : Option (Option Row)) : Option String :=
  match entryOfRow row with
  | .ok (some e) => if e.isIntact then some e.content else none
  | _ => none

theorem entry_eq (c : TableCache) (uri : String) : c.entry uri = entryOfRow (c.db.row? uri) := by
  unfold entry Database.row?
  cases hr : c.db.rows with
  | none =>
    have htable : c.db.table = .error (.noTable Database.tableName) := by simp only [Database.table, hr]
    simp only [Database.entry, htable]
    rfl
  | some rows =>
    rw [Database.entry_of_rows hr, Option.map_some]
    cases Database.findRow uri rows <;> rfl

theorem schema?_eq (c : TableCache) (uri : String) : c.schema? uri = schemaOfRow (c.db.row? uri) := by
  unfold schemaOfRow
  rw [← entry_eq, schema?, entry]
  cases c.db.entry uri with
  | error fault => rfl
  | ok found => cases found <;> rfl

end TableCache

theorem Fields.Sorted.length_eq_ncard {fs : Fields String} (h : fs.Sorted) :
    fs.length = {name | fs.get? name ≠ none}.ncard := by
  have hset : {name | fs.get? name ≠ none} = (fs.map (·.1)).toFinset := by
    ext name
    simp [Fields.get?_eq_none_iff]
  rw [hset, Set.ncard_coe_finset, List.toFinset_card_of_nodup h.names_nodup, List.length_map]

namespace SharedDatabase

/-- What the cache under a name answers after what was done. -/
structure Answers (ds : List Deed) (s : SharedDatabase) (name : String) (c : TableCache) : Prop where
  /-- Entries and contents are those of the row that is there now, whichever cache is asked. -/
  entry : ∀ uri, c.entry uri = TableCache.entryOfRow (s.db.row? uri)
  schema : ∀ uri, c.schema? uri = TableCache.schemaOfRow (s.db.row? uri)
  /-- The ETag of a URI is the one that this cache stored last since it was opened, or else the one that was in the row
  when it was opened. -/
  etag : ∃ before db after, ds = before ++ .attached name db :: after ∧ (∀ d ∈ after, ¬d.Renews name) ∧
    ∀ uri, c.etag? uri = (lastStored name uri after).or (db.rowEtag? uri)
  /-- What is done through other caches or by other programs leaves the ETags as they are. -/
  steady : ∀ a : Act, a.name? ≠ some name →
    ∃ c', (s.act a).2.cache? name = some c' ∧ ∀ uri, c'.etag? uri = c.etag? uri
  /-- The size is the number of URIs with an ETag. -/
  size : c.size = {uri | c.etag? uri ≠ none}.ncard

theorem Tracked.answers {ds : List Deed} {s : SharedDatabase} (h : Tracked ds s) {name : String} {c : TableCache}
    (hc : s.cache? name = some c) : Answers ds s name c := by
  obtain ⟨hi, hdb⟩ := cache?_eq_some_iff.1 hc
  obtain ⟨hsorted, hsnap⟩ := h.indexes name _ hi
  refine ⟨fun uri => ?_, fun uri => ?_, hsnap, fun a ha => ?_, hsorted.length_eq_ncard⟩
  · rw [hdb, c.entry_eq]
  · rw [hdb, c.schema?_eq]
  · refine ⟨⟨(s.act a).2.db, c.etags⟩, cache?_eq_some_iff.2 ⟨?_, rfl⟩, fun _ => rfl⟩
    rw [index_act s ha, hi]

/-- **Rows are everyone's, an index is its cache's own**, whatever is done with the database in whatever order. -/
theorem rows_shared_indexes_own (db : Database) (h : db.Keyed) (as : List Act) (name : String) (c : TableCache)
    (hc : ((ofDatabase db).acts as).2.cache? name = some c) :
    Answers ((ofDatabase db).acts as).1 ((ofDatabase db).acts as).2 name c := by
  have htracked : Tracked ([] ++ ((ofDatabase db).acts as).1) ((ofDatabase db).acts as).2 :=
    tracked_acts (tracked_start h) as
  exact htracked.answers hc

/-- A cache that knows an ETag of which another program has left nothing. -/
theorem rows_shared_indexes_own_edited :
    let uri := "https://example.org/schema.json"
    let db : Database := ⟨some [(TableCache.entryOf "" uri "1" "one").row], false, some [1]⟩
    let run := (ofDatabase db).acts [.attach "b", .change (.setColumn uri .etag (.blob [0])), .attach "a"]
    db.Keyed ∧ ∃ c, run.2.cache? "b" = some c ∧ c.etag? uri = some "1" ∧ Answers run.1 run.2 "b" c := by
  intro uri db run
  have hk : db.Keyed := Database.keyed_of_nodup rfl (by simp)
  have hc : run.2.cache? "b" = some ⟨run.2.db, [(uri, "1")]⟩ := by rfl
  exact ⟨hk, _, hc, by decide, rows_shared_indexes_own db hk _ "b" _ hc⟩

end SharedDatabase

end SchemaRelay

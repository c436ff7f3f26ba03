import SchemaRelay.Cache.Memory
import SchemaRelay.Proofs.Cache.Rows
import SchemaRelay.Proofs.Fetch.Run

/-!
# The cache over a database refines the cache in memory

A cache over a database mirrors one in memory (`Mirrors`) when its table is sound, holds an intact entry with the ETag
and the content of every pair and no other, and its index has the ETags of the pairs. Asking keeps this and gives the
same answers; so does putting (`Mirrors.put`), for a row is written with the digest of its content and is found intact.
Hence neither a sequence of queries nor a run of fetches can tell the two apart (`table_refines_memory`).
-/

namespace SchemaRelay

/-! ## Queries -/

/-- What can be asked of a cache. -/
inductive Query where
  | put (uri etag content : String)
  | etag (uri : String)
  | schema (uri : String)
  | size
  | isEmpty

/-- What a cache answers. -/
inductive Answer where
  | taken (result : Except Error Unit)
  | text (value : Option String)
  | size (n : Nat)
  | isEmpty (b : Bool)

/-- A store, told the time, of which one also can ask how much it has. -/
structure CountedStore (σ : Type) where
  store : String → Store σ
  size : σ → Nat
  isEmpty : σ → Bool

namespace CountedStore

variable {σ : Type}

/-- The answer to a query at the time `now`. -/
def ask (k : CountedStore σ) (now : String) (st : σ) : Query → Answer × σ
  | .put uri etag content =>
    let (result, st) := (k.store now).put uri etag content st
    (.taken result, st)
  | .etag uri =>
    let (value, st) := (k.store now).etag? uri st
    (.text value, st)
  | .schema uri =>
    let (value, st) := (k.store now).schema? uri st
    (.text value, st)
  | .size => (.size (k.size st), st)
  | .isEmpty => (.isEmpty (k.isEmpty st), st)

/-- The answers to queries, each with its time, one after the other. -/
def answers (k : CountedStore σ) : List (String × Query) → σ → List Answer
  | [], _ => []
  | (now, q) :: qs, st =>
    let (a, st) := k.ask now st q
    a :: answers k qs st

end CountedStore

def MemoryCache.counted : CountedStore MemoryCache := ⟨fun _ => store, size, isEmpty⟩

def TableCache.counted : CountedStore TableCache := ⟨store, size, isEmpty⟩

/-! ## Reading -/

theorem MemoryCache.reads : MemoryCache.store.Reads MemoryCache.etag? MemoryCache.schema? :=
  ⟨fun _ _ => rfl, fun _ _ => rfl⟩

theorem TableCache.reads (now : String) : (TableCache.store now).Reads TableCache.etag? TableCache.schema? :=
  ⟨fun _ _ => rfl, fun _ _ => rfl⟩

namespace TableCache

theorem schema?_of_none {c : TableCache} {uri : String} (h : c.db.entry uri = .ok none) : c.schema? uri = none := by
  simp only [schema?, h]

theorem schema?_of_intact {c : TableCache} {uri : String} {e : CacheEntry} (h : c.db.entry uri = .ok (some e))
    (he : e.isIntact = true) : c.schema? uri = some e.content := by
  simp only [schema?, h, he, if_true]

theorem put_of_rows {c : TableCache} {rows : List Row} (h : c.db.rows = some rows) (now uri etag content : String) :
    c.put now uri etag content =
      (.ok (), ⟨{ c.db with rows := some (Database.putRow (entryOf now uri etag content).row rows) },
        c.etags.insert uri etag⟩) := by
  simp only [put, Database.upsert_of_rows h]

end TableCache

/-! ## Mirroring -/

/-- A cache over a database has the pairs of a cache in memory. -/
structure Mirrors (m : MemoryCache) (c : TableCache) : Prop where
  sound : ∃ rows, c.db.Sound rows
  /-- The row of a URI is the one that its pair was written as at some time. -/
  entry : ∀ uri, ∃ now, c.db.entry uri = .ok ((Fields.get? m uri).map fun p => TableCache.entryOf now uri p.1 p.2)
  etags : c.etags = Fields.mapValues (·.1) m

namespace Mirrors

variable {m : MemoryCache} {c : TableCache}

theorem fresh : Mirrors MemoryCache.empty TableCache.fresh where
  sound := ⟨[], Database.sound_fresh⟩
  entry _ := ⟨"", rfl⟩
  etags := rfl

theorem etag? (h : Mirrors m c) (uri : String) : c.etag? uri = m.etag? uri := by
  rw [TableCache.etag?, h.etags, Fields.get?_mapValues]
  rfl

theorem schema? (h : Mirrors m c) (uri : String) : c.schema? uri = m.schema? uri := by
  obtain ⟨now, he⟩ := h.entry uri
  unfold MemoryCache.schema?
  cases hp : Fields.get? m uri with
  | none =>
    rw [hp] at he
    exact TableCache.schema?_of_none he
  | some p =>
    rw [hp] at he
    exact TableCache.schema?_of_intact he (TableCache.isIntact_entryOf ..)

theorem pair? (h : Mirrors m c) (uri : String) : c.db.pair? uri = Fields.get? m uri := by
  obtain ⟨now, he⟩ := h.entry uri
  rw [Database.pair?, he]
  cases Fields.get? m uri <;> rfl

theorem size (h : Mirrors m c) : c.size = m.size := by
  rw [TableCache.size, h.etags, Fields.length_mapValues]
  rfl

/-- A pair that both take is in both, and no other URI notices. -/
theorem put (h : Mirrors m c) (now uri etag content : String) :
    (c.put now uri etag content).1 = .ok () ∧
      Mirrors (m.put uri etag content) (c.put now uri etag content).2 := by
  obtain ⟨rows, hs⟩ := h.sound
  rw [TableCache.put_of_rows hs.table]
  refine ⟨rfl, ⟨_, hs.upsert (TableCache.isIntact_entryOf ..)⟩, fun other => ?_, ?_⟩
  · rw [Database.entry_putRow hs.table, MemoryCache.put, Fields.get?_insert]
    by_cases hu : uri = other
    · subst hu
      exact ⟨now, by simp [TableCache.entryOf]⟩
    · obtain ⟨time, he⟩ := h.entry other
      exact ⟨time, by simpa [TableCache.entryOf, hu] using he⟩
  · simp only [h.etags, MemoryCache.put]
    exact Fields.insert_mapValues (·.1) m uri (etag, content)

end Mirrors

/-- An entry without the time at which it was written. -/
def CacheEntry.undated (e : CacheEntry) : CacheEntry := { e with fetchedAt := "" }

/-- But for its time, the entry of a URI is the one of its pair. -/
theorem Mirrors.entry_undated {m : MemoryCache} {c : TableCache} (h : Mirrors m c) (uri : String) :
    (c.entry uri).map (Option.map CacheEntry.undated) =
      .ok ((Fields.get? m uri).map fun p => TableCache.entryOf "" uri p.1 p.2) := by
  obtain ⟨now, he⟩ := h.entry uri
  rw [TableCache.entry, he]
  cases Fields.get? m uri <;> rfl

/-- Caches that mirror each other answer alike and go on mirroring each other. -/
theorem simulates_memory (now : String) :
    (TableCache.store now).Simulates MemoryCache.store fun c m => Mirrors m c where
  etag? h u := ⟨h.etag? u, h⟩
  schema? h u := ⟨h.schema? u, h⟩
  put h u e text := h.put now u e text

theorem ask_mirrors {m : MemoryCache} {c : TableCache} (h : Mirrors m c) (now : String) (q : Query) :
    (TableCache.counted.ask now c q).1 = (MemoryCache.counted.ask now m q).1 ∧
      Mirrors (MemoryCache.counted.ask now m q).2 (TableCache.counted.ask now c q).2 := by
  cases q with
  | put uri etag content =>
    obtain ⟨ha, hr⟩ := h.put now uri etag content
    exact ⟨congrArg Answer.taken ha, hr⟩
  | etag uri => exact ⟨congrArg Answer.text (h.etag? uri), h⟩
  | schema uri => exact ⟨congrArg Answer.text (h.schema? uri), h⟩
  | size => exact ⟨congrArg Answer.size h.size, h⟩
  | isEmpty => exact ⟨congrArg (fun n => Answer.isEmpty (n == 0)) h.size, h⟩

theorem answers_mirrors {m : MemoryCache} {c : TableCache} (h : Mirrors m c) (qs : List (String × Query)) :
    TableCache.counted.answers qs c = MemoryCache.counted.answers qs m := by
  induction qs generalizing m c with
  | nil => rfl
  | cons q qs ih =>
    obtain ⟨ha, hr⟩ := ask_mirrors h q.1 q.2
    simp only [CountedStore.answers, ha, ih hr]

/-- Runs of fetches over caches that mirror each other are the same, and leave such caches behind. -/
theorem visits_mirrors {τ : Type} (t : Http.Transport τ) (ks : List Fetch.Task) {c : TableCache} {m : MemoryCache}
    (h : Mirrors m c) (st : τ) (calls : List Call) :
    (Fetch.visits TableCache.store t ks ⟨c, st, calls⟩).1 =
        (Fetch.visits (fun _ => MemoryCache.store) t ks ⟨m, st, calls⟩).1 ∧
      World.Related (fun c m => Mirrors m c) (Fetch.visits TableCache.store t ks ⟨c, st, calls⟩).2
        (Fetch.visits (fun _ => MemoryCache.store) t ks ⟨m, st, calls⟩).2 :=
  Fetch.visits_sim simulates_memory ks ⟨h, rfl, rfl⟩

/-- **The cache over a database refines the cache in memory.** Both, new, answer every sequence of queries alike, and
every run of fetches has the same calls, answers and results over either. -/
theorem table_refines_memory :
    (∀ qs : List (String × Query),
      TableCache.counted.answers qs TableCache.fresh = MemoryCache.counted.answers qs MemoryCache.empty) ∧
    ∀ (τ : Type) (t : Http.Transport τ) (st : τ) (ks : List Fetch.Task),
      let run := Fetch.visits TableCache.store t ks ⟨TableCache.fresh, st, []⟩
      let run' := Fetch.visits (fun _ => MemoryCache.store) t ks ⟨MemoryCache.empty, st, []⟩
      run.1 = run'.1 ∧ run.2.calls = run'.2.calls ∧ run.2.transport = run'.2.transport := by
  refine ⟨answers_mirrors Mirrors.fresh, fun τ t st ks => ?_⟩
  obtain ⟨hv, hr⟩ := visits_mirrors t ks Mirrors.fresh st []
  exact ⟨hv, hr.calls, hr.transport⟩

end SchemaRelay

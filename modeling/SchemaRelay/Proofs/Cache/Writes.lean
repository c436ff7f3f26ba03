import SchemaRelay.Proofs.Cache.Integrity
import SchemaRelay.Proofs.Fetch.Sharing

/-!
# Pairs that are put

A cache on a shared database is given an ETag and a content for a URI. Either it takes both, into the row of the URI and
into its own index, and nothing else changes (`Written`), or nothing changes at all (`Unchanged`). Which of the two
depends on nothing but whether the cache is open and the table there: damaged rows are no hindrance, for the row of the
URI is written anew as a whole (`puts_whole`).

A fetch that puts a pair has a document in hand. It gives that back also when the pair is refused (`visit_of_put`).
-/

namespace SchemaRelay

/-! ## Fetches that put a pair -/

namespace Fetch

variable {σ τ : Type} {c : FetchConfig} {uri u e text : String} {tr : List Event} {result : Except Error String}
  {answer : Except Error Unit}

/-- A reply brings the document with this ETag and this text. -/
def Delivers (tr : List Event) (e text : String) : Prop :=
  ∃ q r, .request q (.ok r) ∈ tr ∧ Http.IsDocument r ∧ Http.Validates r e ∧ r.body = text

theorem Stored.eq_of_put {r : Http.Response} (h : Stored uri r tr) (hp : .put u e text answer ∈ tr) :
    u = uri ∧ Http.Validates r e ∧ r.body = text := by
  cases h with
  | put he _ =>
    cases List.mem_singleton.1 hp
    exact ⟨rfl, he, rfl⟩
  | skip _ => cases hp

theorem Recalled.put_notMem {text' : Option String} (h : Recalled uri tr text') : .put u e text answer ∉ tr := by
  cases h <;> simp

theorem Retried.of_put (h : Retried c uri tr result) (hp : .put u e text answer ∈ tr) :
    u = uri ∧ Delivers tr e text ∧ result = .ok text := by
  rcases h with ⟨hd, hs⟩ | _ | _
  · rcases List.mem_cons.1 hp with hp | hp
    · cases hp
    · obtain ⟨rfl, he, rfl⟩ := hs.eq_of_put hp
      exact ⟨rfl, ⟨_, _, List.mem_cons_self, hd, he, rfl⟩, rfl⟩
  · simp at hp
  · simp at hp

/-- A course with a put ends in the content that was put, whatever the answer to the put. -/
theorem Fetched.of_put (h : Fetched c uri tr result) (hp : .put u e text answer ∈ tr) :
    u = uri ∧ Delivers tr e text ∧ result = .ok text := by
  rcases h with ⟨-, hd, hs⟩ | _ | ⟨-, -, ht⟩ | ⟨-, -, hrec⟩ | ⟨-, -, hrec⟩
  all_goals simp only [List.mem_cons, List.not_mem_nil, reduceCtorEq, false_or] at hp
  · obtain ⟨rfl, he, rfl⟩ := hs.eq_of_put hp
    exact ⟨rfl, ⟨_, _, .tail _ (.head _), hd, he, rfl⟩, rfl⟩
  · obtain ⟨hu, ⟨q, r, hm, hdoc⟩, hres⟩ := ht.of_put hp
    exact ⟨hu, ⟨q, r, .tail _ (.tail _ (.tail _ hm)), hdoc⟩, hres⟩
  · exact absurd hp hrec.put_notMem
  · exact absurd hp hrec.put_notMem

/-- A fetch that puts a pair gives the content back, and leaves what the put left of the store that it found. -/
theorem visit_of_put {s : Store σ} {etag schema : σ → String → Option String} (hs : s.Reads etag schema)
    (t : Http.Transport τ) (c : FetchConfig) (uri : String) (w : World σ τ)
    (hp : .put u e text answer ∈ (visit s t c uri w).1.events) :
    u = uri ∧ Delivers (visit s t c uri w).1.events e text ∧ (visit s t c uri w).1.result = .ok text ∧
      s.put uri e text w.store = (answer, (visit s t c uri w).2.store) := by
  obtain ⟨hf, hpl⟩ := visit_course s t c uri w
  obtain ⟨rfl, hd, hres⟩ := hf.of_put hp
  refine ⟨rfl, hd, hres, ?_⟩
  obtain ⟨asked, stored, htr, hread, hst⟩ := hf.puts
  rw [htr] at hpl hp
  -- the put is the last event of the course, and all before it are reads
  have hp : .put u e text answer ∈ stored := (List.mem_append.1 hp).resolve_left fun hm => hread _ hm
  rcases hst with ⟨rfl, -⟩ | ⟨e', text', answer', rfl, -⟩
  · cases hp
  · cases List.mem_singleton.1 hp
    obtain ⟨v, hasked, hstored⟩ := plays_append.1 hpl
    obtain ⟨v', hput, hnil⟩ := plays_cons.1 hstored
    simp only [Event.call, World.perform, World.put, Prod.mk.injEq, Event.put.injEq, true_and] at hput
    rw [← plays_nil.1 hnil, ← hput.2, ← hput.1, (hasked.reads hs hread).1]

end Fetch

/-! ## Rows of other URIs -/

namespace Database

/-- Putting a row leaves the rows of other URIs, in their order. -/
theorem filter_putRow (r : Row) (rows : List Row) :
    (putRow r rows).filter (·.uri ≠ r.uri) = rows.filter (·.uri ≠ r.uri) := by
  induction rows with
  | nil => simp [putRow]
  | cons s rest ih =>
    simp only [putRow]
    split
    · next heq => simp [heq]
    · next hne => simp only [List.filter_cons, ih]

end Database

/-! ## What a put leaves -/

namespace SharedDatabase

/-- All rows and records are as before, and so is every cache with its index. -/
structure Unchanged (s s' : SharedDatabase) : Prop where
  db : s'.db = s.db
  caches : ∀ name, s'.cache? name = s.cache? name

/-- The row of a URI has an ETag, a content and its digest, the index of the cache under a name has the ETag, and that
is all that is new. -/
structure Written (now name uri etag content : String) (s s' : SharedDatabase) : Prop where
  row : s'.db.row? uri = some (some ⟨.text uri, .text etag, .text content, .text (digest content), .text now⟩)
  /-- The rows of other URIs, readable or not, stay as they are and where they are. -/
  others : s'.db.rows.map (·.filter (·.uri ≠ .text uri)) = s.db.rows.map (·.filter (·.uri ≠ .text uri))
  keyed : s.db.Keyed → s'.db.Keyed
  records : s'.db.versions = s.db.versions ∧ s'.db.nameTaken = s.db.nameTaken
  index : ∃ c c', s.cache? name = some c ∧ s'.cache? name = some c' ∧
    ∀ u, c'.etag? u = if u = uri then some etag else c.etag? u
  indexes : ∀ n, n ≠ name → s'.indexes.get? n = s.indexes.get? n
  /-- Every cache on the database gives the content at once. -/
  content : ∀ n c, s'.cache? n = some c → c.schema? uri = some content

section Put

variable {s s' : SharedDatabase} {now name uri etag content : String}

/-- Putting the cache that is there in its own place changes nothing. -/
theorem unchanged_set {c : TableCache} (h : s.cache? name = some c) : Unchanged s (s.set name c) := by
  obtain ⟨hi, hdb⟩ := cache?_eq_some_iff.1 h
  refine ⟨hdb.symm, fun n => ?_⟩
  rw [cache?, cache?, set, Fields.get?_insert, hdb]
  by_cases hn : name = n
  · subst hn
    simp [hi]
  · simp [hn]

theorem written_put {index : Fields String} {rows : List Row} (hi : s.indexes.get? name = some index)
    (hr : s.db.rows = some rows) :
    Written now name uri etag content s
      ⟨{ s.db with rows := some (Database.putRow (TableCache.entryOf now uri etag content).row rows) },
        s.indexes.insert name (index.insert uri etag)⟩ := by
  let e := TableCache.entryOf now uri etag content
  have hrow : Database.findRow uri (Database.putRow e.row rows) = some e.row := by
    rw [Database.findRow_putRow]
    exact if_pos rfl
  refine ⟨congrArg some hrow, ?_, fun hk => ?_, ⟨rfl, rfl⟩, ?_, fun n hn => ?_, fun n c hc => ?_⟩
  · rw [hr]
    exact congrArg some (Database.filter_putRow e.row rows)
  · exact Database.keyed_of_nodup rfl (Database.nodup_putRow (hk rows hr))
  · refine ⟨⟨s.db, index⟩, ⟨_, index.insert uri etag⟩, cache?_eq_some_iff.2 ⟨hi, rfl⟩,
      cache?_eq_some_iff.2 ⟨?_, rfl⟩, fun u => ?_⟩
    · rw [Fields.get?_insert, if_pos rfl]
    · simp only [TableCache.etag?, Fields.get?_insert, eq_comm]
  · rw [Fields.get?_insert, if_neg hn.symm]
  · obtain ⟨-, hdb⟩ := cache?_eq_some_iff.1 hc
    rw [TableCache.schema?_eq, ← hdb]
    exact TableCache.schemaOfRow_eq_some_iff.2
      ⟨e, congrArg some hrow, TableCache.isIntact_entryOf now uri etag content, rfl⟩

/-- A pair is taken whole or not at all, and is taken where a cache is open and the table is there. -/
theorem put_cases (s : SharedDatabase) (now name uri etag content : String) :
    (∃ s', (store now name).put uri etag content s = (.ok (), s') ∧ Written now name uri etag content s s' ∧
      s.cache? name ≠ none ∧ s.db.rows ≠ none) ∨
    ∃ fault s', (store now name).put uri etag content s = (.error fault, s') ∧ Unchanged s s' ∧
      (s.cache? name = none ∨ s.db.rows = none) := by
  cases hi : s.indexes.get? name with
  | none =>
    refine .inr ⟨_, s, Fetch.shared_put_none hi now uri etag content, ⟨rfl, fun _ => rfl⟩, .inl ?_⟩
    simp [cache?, hi]
  | some index =>
    have hc : s.cache? name = some ⟨s.db, index⟩ := cache?_eq_some_iff.2 ⟨hi, rfl⟩
    cases hr : s.db.rows with
    | some rows =>
      exact .inl ⟨_, Fetch.shared_put_some hi hr now uri etag content, written_put hi hr, by simp [hc], by simp⟩
    | none =>
      rcases TableCache.put_cases ⟨s.db, index⟩ now uri etag content with ⟨db, hdb, -⟩ | ⟨fault, hput⟩
      · obtain ⟨rows, hrows, -⟩ := Database.upsert_eq_ok hdb
        cases hr.symm.trans hrows
      · refine .inr ⟨fault, s.set name ⟨s.db, index⟩, ?_, unchanged_set hc, .inr rfl⟩
        simp only [store, hc, hput]

end Put

/-- What comes of pairs that are put through the cache under a name, by itself or in the course of a fetch. -/
structure PutsWhole (now name : String) (s : SharedDatabase) : Prop where
  refused : ∀ uri etag content fault s', (store now name).put uri etag content s = (.error fault, s') → Unchanged s s'
  taken : ∀ uri etag content s', (store now name).put uri etag content s = (.ok (), s') →
    Written now name uri etag content s s'
  takes : ∀ uri etag content, ((store now name).put uri etag content s).1 = .ok () ↔
    s.cache? name ≠ none ∧ s.db.rows ≠ none
  /-- A fetch gives back the document of which the cache refused the pair. -/
  fetched : ∀ {τ : Type} (t : Http.Transport τ) (config : FetchConfig) (uri : String) (w : World SharedDatabase τ),
    w.store = s → let r := Fetch.visit (store now name) t config uri w
      ∀ u etag content fault, .put u etag content (.error fault) ∈ r.1.events →
        u = uri ∧ Fetch.Delivers r.1.events etag content ∧ r.1.result = .ok content ∧ Unchanged s r.2.store

/-- **A put is done whole or not at all**, whatever is in the rows and whoever else is on the database. -/
theorem puts_whole (now name : String) (s : SharedDatabase) : PutsWhole now name s := by
  have hrefused : ∀ uri etag content fault s', (store now name).put uri etag content s = (.error fault, s') →
      Unchanged s s' := by
    intro uri etag content fault s' hput
    rcases put_cases s now name uri etag content with ⟨s₁, h, -⟩ | ⟨fault₁, s₁, h, hu, -⟩
    · cases h.symm.trans hput
    · cases h.symm.trans hput
      exact hu
  refine ⟨hrefused, ?_, ?_, ?_⟩
  · intro uri etag content s' hput
    rcases put_cases s now name uri etag content with ⟨s₁, h, hw, -⟩ | ⟨fault, s₁, h, -⟩
    · cases h.symm.trans hput
      exact hw
    · cases h.symm.trans hput
  · intro uri etag content
    rcases put_cases s now name uri etag content with ⟨s₁, h, -, hopen⟩ | ⟨fault, s₁, h, -, hno⟩
    · simp [h, hopen]
    · rcases hno with hno | hno <;> simp [h, hno]
  · intro τ t config uri w hw r u etag content fault hp
    obtain ⟨rfl, hd, hres, hput⟩ := Fetch.visit_of_put (Fetch.shared_reads now name) t config uri w hp
    exact ⟨rfl, hd, hres, hrefused u etag content fault _ (hw ▸ hput)⟩

end SharedDatabase

end SchemaRelay

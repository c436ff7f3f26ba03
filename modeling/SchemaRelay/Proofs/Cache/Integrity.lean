import SchemaRelay.Proofs.Cache.Handles
import SchemaRelay.Proofs.Fetch.Visit

/-!
# Contents that are intact

A cache gives a content if and only if the row of the URI can be read as a whole and the digest in it is that of the
content (`HasIntact`, `schema?_eq_some_iff`). This is so in every state that rows come to have, since none of them has
two rows for one URI.

A fetch makes several calls, and others may change the rows in between (`contended`). No such change makes two rows of
one URI either (`Plays.keyed`), so what the cache gives to a fetch was intact when it was read (`Plays.intact`), and a
fetch gives back nothing else of the cache (`served_contents_intact`).
-/

namespace SchemaRelay

/-! ## Rows that are read as a whole -/

/-- There is a row for a URI, all its columns are text, and its digest is that of its content. -/
def Database.HasIntact (db : Database) (uri content : String) : Prop :=
  ∃ rows r etag time, db.rows = some rows ∧ r ∈ rows ∧ r.uri = .text uri ∧ r.etag = .text etag ∧
    r.content = .text content ∧ r.digest = .text (digest content) ∧ r.fetchedAt = .text time

/-- A row can be read if and only if it is that of an entry. -/
theorem Row.entry_eq_ok {r : Row} {e : CacheEntry} : r.entry = .ok e ↔ r = e.row := by
  constructor
  · intro h
    obtain ⟨uri, hu, h⟩ := bind_eq_ok.1 h
    obtain ⟨etag, he, h⟩ := bind_eq_ok.1 h
    obtain ⟨content, hc, h⟩ := bind_eq_ok.1 h
    obtain ⟨sum, hd, h⟩ := bind_eq_ok.1 h
    obtain ⟨time, ht, h⟩ := bind_eq_ok.1 h
    cases h
    obtain ⟨_, _, _, _, _⟩ := r
    simp only [CacheEntry.row, Row.mk.injEq]
    exact ⟨text_eq_ok.1 hu, text_eq_ok.1 he, text_eq_ok.1 hc, text_eq_ok.1 hd, text_eq_ok.1 ht⟩
  · rintro rfl
    rfl

namespace TableCache

theorem entryOfRow_eq_ok {row : Option (Option Row)} {e : CacheEntry} :
    entryOfRow row = .ok (some e) ↔ row = some (some e.row) := by
  constructor
  · intro h
    match row with
    | none => cases h
    | some none => cases h
    | some (some r) =>
      obtain ⟨e', he', heq⟩ := map_eq_ok.1 (mapError_eq_ok.1 h)
      cases heq
      rw [Row.entry_eq_ok.1 he']
  · rintro rfl
    rw [entryOfRow, Row.entry_eq_ok.2 rfl]
    rfl

theorem schemaOfRow_eq_some_iff {row : Option (Option Row)} {content : String} :
    schemaOfRow row = some content ↔ ∃ e : CacheEntry, row = some (some e.row) ∧ e.isIntact = true ∧
      e.content = content := by
  constructor
  · intro h
    unfold schemaOfRow at h
    split at h
    · next e he =>
      obtain ⟨hi, hc⟩ := Option.ite_none_right_eq_some.1 h
      exact ⟨e, entryOfRow_eq_ok.1 he, hi, Option.some.inj hc⟩
    · cases h
  · rintro ⟨e, hrow, hi, rfl⟩
    simp only [schemaOfRow, entryOfRow_eq_ok.2 hrow, hi, if_true]

/-- **When a content is given.** Of damaged rows, of missing ones and without a table there is none. -/
theorem schema?_eq_some_iff {c : TableCache} (hk : c.db.Keyed) {uri content : String} :
    c.schema? uri = some content ↔ c.db.HasIntact uri content := by
  rw [schema?_eq, schemaOfRow_eq_some_iff]
  constructor
  · rintro ⟨e, hrow, hi, rfl⟩
    obtain ⟨rows, hrows, hfind⟩ := Option.map_eq_some_iff.1 hrow
    obtain ⟨hm, hu⟩ := Database.findRow_eq_some hfind
    have hd : digest e.content = e.contentSha256 := by simpa [CacheEntry.isIntact] using hi
    exact ⟨rows, e.row, e.etag, e.fetchedAt, hrows, hm, hu, rfl, rfl, congrArg Cell.text hd.symm, rfl⟩
  · rintro ⟨rows, r, etag, time, hrows, hm, hu, he, hc, hd, ht⟩
    refine ⟨⟨uri, etag, content, digest content, time⟩, ?_, by simp [CacheEntry.isIntact], rfl⟩
    obtain ⟨_, _, _, _, _⟩ := r
    cases hu
    cases he
    cases hc
    cases hd
    cases ht
    rw [Database.row?, hrows, Option.map_some, Database.findRow_of_mem (hk rows hrows) hm rfl]
    rfl

end TableCache

/-! ## Fetches while others change the rows -/

namespace SharedDatabase

/-- A database, and what is done to it by others before each call that is still to come. -/
structure Contended where
  shared : SharedDatabase
  batches : List (List Act)

/-- What the others have made of the database when the next call comes. -/
def Contended.meanwhile (s : Contended) : Contended := ⟨(s.shared.acts (s.batches.headD [])).2, s.batches.tail⟩

/-- The cache under a name as a store, others doing something before each call. -/
def contended (now name : String) : Store Contended where
  etag? uri s :=
    let (answer, shared) := (store now name).etag? uri s.meanwhile.shared
    (answer, { s.meanwhile with shared })
  schema? uri s :=
    let (answer, shared) := (store now name).schema? uri s.meanwhile.shared
    (answer, { s.meanwhile with shared })
  put uri etag content s :=
    let (answer, shared) := (store now name).put uri etag content s.meanwhile.shared
    (answer, { s.meanwhile with shared })

/-- What the cache under a name gives is intact. -/
theorem schema_intact {now name : String} {s : SharedDatabase} (h : s.db.Keyed) {uri content : String}
    (hc : ((store now name).schema? uri s).1 = some content) : s.db.HasIntact uri content := by
  obtain ⟨c, hopen, hschema⟩ := Option.bind_eq_some_iff.1 hc
  obtain ⟨-, hdb⟩ := cache?_eq_some_iff.1 hopen
  rw [hdb] at h ⊢
  exact (TableCache.schema?_eq_some_iff h).1 hschema

theorem keyed_put (now name : String) {s : SharedDatabase} (h : s.db.Keyed) (uri etag content : String) :
    ((store now name).put uri etag content s).2.db.Keyed := by
  simp only [store]
  split
  · exact h
  · next c hopen =>
    obtain ⟨-, hdb⟩ := cache?_eq_some_iff.1 hopen
    rw [hdb] at h
    exact h.put now uri etag content

theorem Contended.keyed_meanwhile {s : Contended} (h : s.shared.db.Keyed) : s.meanwhile.shared.db.Keyed :=
  keyed_acts h _

/-- A call and what is done before it make no two rows of one URI. -/
theorem keyed_perform {τ : Type} (t : Http.Transport τ) (now name : String) {w : World Contended τ}
    (h : w.store.shared.db.Keyed) (call : Call) :
    (w.perform (contended now name) t call).2.store.shared.db.Keyed := by
  have hm := Contended.keyed_meanwhile h
  cases call with
  | put uri etag content => exact keyed_put now name hm uri etag content
  | request q => exact h
  | _ => exact hm

end SharedDatabase

section Plays

open SharedDatabase

variable {τ : Type} {t : Http.Transport τ} {now name : String} {w w' : World Contended τ} {tr : List Event}

theorem Plays.keyed (hp : Plays (contended now name) t w tr w') (h : w.store.shared.db.Keyed) :
    w'.store.shared.db.Keyed := by
  induction tr generalizing w with
  | nil =>
    rw [← plays_nil.1 hp]
    exact h
  | cons ev tr ih =>
    obtain ⟨v, hv, htr⟩ := plays_cons.1 hp
    have hk := keyed_perform t now name h ev.call
    rw [hv] at hk
    exact ih htr hk

/-- A content that is given in the course of calls is intact at that time. -/
theorem Plays.intact (h : w.store.shared.db.Keyed) {before after : List Event} {uri content : String}
    (hp : Plays (contended now name) t w (before ++ .schema uri (some content) :: after) w') :
    ∃ v, Plays (contended now name) t w before v ∧ v.store.meanwhile.shared.db.HasIntact uri content := by
  obtain ⟨v, hbefore, hrest⟩ := plays_append.1 hp
  obtain ⟨_, hcall, -⟩ := plays_cons.1 hrest
  have hgiven : ((store now name).schema? uri v.store.meanwhile.shared).1 = some content := by
    have hev := congrArg Prod.fst hcall
    simpa [Event.call, World.perform, World.schema?, contended] using hev
  exact ⟨v, hbefore, schema_intact (Contended.keyed_meanwhile (hbefore.keyed h)) hgiven⟩

end Plays

namespace SharedDatabase

/-- What caches give of the contents in the rows, and fetches of what the caches give. -/
structure ServesIntact (s : SharedDatabase) : Prop where
  content : ∀ name c, s.cache? name = some c → ∀ uri content,
    c.schema? uri = some content ↔ s.db.HasIntact uri content
  nothing : ∀ name c, s.cache? name = some c → ∀ uri,
    (∀ content, ¬s.db.HasIntact uri content) → c.schema? uri = none
  /-- What the cache gives to a fetch is intact in the rows when it is read. -/
  given : ∀ {τ : Type} (t : Http.Transport τ) (config : FetchConfig) (uri now name : String) (w : World Contended τ),
    w.store.shared = s → ∀ (before after : List Event) (u content : String),
      (Fetch.visit (contended now name) t config uri w).1.events = before ++ .schema u (some content) :: after →
        ∃ v, Plays (contended now name) t w before v ∧ v.store.meanwhile.shared.db.HasIntact u content
  /-- A fetch gives back the body of a document or what the cache gave to it. -/
  fetched : ∀ {τ : Type} (t : Http.Transport τ) (config : FetchConfig) (uri now name : String) (w : World Contended τ),
    w.store.shared = s → let v := (Fetch.visit (contended now name) t config uri w).1
      ∀ content, v.result = .ok content →
        (∃ q r, .request q (.ok r) ∈ v.events ∧ Http.IsDocument r ∧ r.body = content) ∨
          .schema uri (some content) ∈ v.events

/-- **Only intact contents are served**, whatever has been done to the database before and is done during a fetch. -/
theorem served_contents_intact (db : Database) (h : db.Keyed) (as : List Act) :
    ServesIntact ((ofDatabase db).acts as).2 := by
  have hk : ((ofDatabase db).acts as).2.db.Keyed := keyed_acts h as
  generalize ((ofDatabase db).acts as).2 = s at hk ⊢
  have hcontent : ∀ name c, s.cache? name = some c → ∀ uri content,
      c.schema? uri = some content ↔ s.db.HasIntact uri content := by
    intro name c hc uri content
    obtain ⟨-, hdb⟩ := cache?_eq_some_iff.1 hc
    rw [hdb] at hk ⊢
    exact TableCache.schema?_eq_some_iff hk
  refine ⟨hcontent, ?_, ?_, ?_⟩
  · intro name c hc uri hno
    exact Option.eq_none_iff_forall_ne_some.2 fun content heq => hno content ((hcontent name c hc uri content).1 heq)
  · intro τ t config uri now name w hw before after u content hev
    obtain ⟨-, hp⟩ := Fetch.visit_course (contended now name) t config uri w
    rw [hev] at hp
    exact hp.intact (hw ▸ hk)
  · rintro τ t config uri now name w - v content hres
    obtain ⟨hf, -⟩ := Fetch.visit_course (contended now name) t config uri w
    exact (hres ▸ hf : Fetch.Fetched config uri v.events (.ok content)).source

/-- Of two rows one is damaged, and the other is served. -/
theorem served_contents_intact_damaged :
    let one := "https://example.org/one.json"
    let two := "https://example.org/two.json"
    let db : Database :=
      ⟨some [(TableCache.entryOf "" one "1" "1").row, (TableCache.entryOf "" two "2" "2").row], false, some [1]⟩
    let s := ((ofDatabase db).acts [.attach "a", .change (.setColumn one .fetchedAt (.blob [0]))]).2
    db.Keyed ∧ ServesIntact s ∧
      ∃ c, s.cache? "a" = some c ∧ c.schema? one = none ∧ c.schema? two = some "2" := by
  intro one two db s
  have hk : db.Keyed := Database.keyed_of_nodup rfl (by decide)
  have hs : ServesIntact s := served_contents_intact db hk _
  have hc : s.cache? "a" = some ⟨s.db, Fields.ofList [(one, "1"), (two, "2")]⟩ := by rfl
  have hm : (TableCache.entryOf "" two "2" "2").row ∈
      [{ (TableCache.entryOf "" one "1" "1").row with fetchedAt := .blob [0] },
        (TableCache.entryOf "" two "2" "2").row] := List.mem_cons_of_mem _ List.mem_cons_self
  exact ⟨hk, hs, _, hc, rfl, (hs.content "a" _ hc two "2").2
    ⟨_, _, "2", "", rfl, hm, rfl, rfl, rfl, rfl, rfl⟩⟩

end SharedDatabase

end SchemaRelay

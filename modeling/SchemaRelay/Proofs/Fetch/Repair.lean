import SchemaRelay.Proofs.Cache.Writes
import SchemaRelay.Proofs.Fetch.Replay

/-!
# Entries that are repaired

Other programs may delete a row, alter it or make columns of it unreadable (`TableCache.Lost`). No content is read from
it then, but a cache that knew the ETag of its URI before goes on sending it, and may be told that the document is the
same. It is then requested once more without condition, and what comes is put: the row is written as a whole, whatever
was in it.

So one fetch repairs all damage at once (`damage_repaired`). From there on, as long as nothing else is done with the URI
(`Act.Spares`), its row and the index stay as the fetch left them (`Kept.acts`): the next fetch sends the new ETag, and
for a document that is the same the content comes from the row, after one request and without a put (`Kept.recalls`).
-/

namespace SchemaRelay

/-! ## Rows without content -/

/-- What has become of the row of a URI from which no content is read. -/
inductive TableCache.Lost : Option Row → Prop
  | deleted : Lost none
  | unreadable {r : Row} (column : Column) (bytes : List UInt8) (h : r.cell column = .blob bytes) : Lost (some r)
  /-- The content or the digest was altered. -/
  | altered {e : CacheEntry} (h : digest e.content ≠ e.contentSha256) : Lost (some e.row)

/-- A row none of whose columns is unreadable is that of an entry. -/
theorem Row.eq_row_of_readable {r : Row} (h : ∀ column bytes, r.cell column ≠ .blob bytes) :
    ∃ e : CacheEntry, r = e.row := by
  have htext : ∀ column, ∃ text, r.cell column = .text text := by
    intro column
    cases hc : r.cell column with
    | text s => exact ⟨s, rfl⟩
    | blob bytes => exact absurd hc (h column bytes)
  obtain ⟨uri, hu⟩ := htext .uri
  obtain ⟨etag, he⟩ := htext .etag
  obtain ⟨content, hc⟩ := htext .content
  obtain ⟨sum, hd⟩ := htext .digest
  obtain ⟨time, ht⟩ := htext .fetchedAt
  refine ⟨⟨uri, etag, content, sum, time⟩, ?_⟩
  obtain ⟨_, _, _, _, _⟩ := r
  simp only [CacheEntry.row, Row.mk.injEq]
  exact ⟨hu, he, hc, hd, ht⟩

/-- There are no other ways to lose a content, as long as there is a table. -/
theorem TableCache.schemaOfRow_eq_none_iff {row : Option Row} : schemaOfRow (some row) = none ↔ Lost row := by
  constructor
  · intro h
    cases row with
    | none => exact .deleted
    | some r =>
      by_cases hb : ∃ column bytes, r.cell column = .blob bytes
      · obtain ⟨column, bytes, hb⟩ := hb
        exact .unreadable column bytes hb
      · obtain ⟨e, rfl⟩ := Row.eq_row_of_readable fun column bytes heq => hb ⟨column, bytes, heq⟩
        refine .altered fun hd => ?_
        have hi : e.isIntact = true := by simpa [CacheEntry.isIntact] using hd
        have hsome : schemaOfRow (some (some e.row)) = some e.content :=
          schemaOfRow_eq_some_iff.2 ⟨e, rfl, hi, rfl⟩
        cases h.symm.trans hsome
  · intro h
    refine Option.eq_none_iff_forall_ne_some.2 fun content hc => ?_
    obtain ⟨e, hrow, hi, -⟩ := schemaOfRow_eq_some_iff.1 hc
    cases h with
    | deleted => cases hrow
    | unreadable column bytes hb =>
      obtain rfl := Option.some.inj (Option.some.inj hrow)
      cases column <;> cases hb
    | @altered e' hd =>
      have hrows : e'.row = e.row := Option.some.inj (Option.some.inj hrow)
      simp only [CacheEntry.row, Row.mk.injEq, Cell.text.injEq] at hrows
      obtain ⟨-, -, hcontent, hsum, -⟩ := hrows
      exact hd (by simpa [CacheEntry.isIntact, hcontent, hsum] using hi)

/-! ## Rows that others leave alone -/

namespace Database

/-- The rows of other URIs are not needed to find a row. -/
theorem findRow_filter {uri other : String} (h : uri ≠ other) (rows : List Row) :
    findRow uri (rows.filter (·.uri ≠ .text other)) = findRow uri rows := by
  unfold findRow
  rw [List.find?_filter]
  congr 1
  funext r
  by_cases hr : r.uri = .text uri
  · simp [hr, h]
  · simp [hr]

theorem row?_of_filter {db db' : Database} {uri other : String} (h : uri ≠ other)
    (hf : db'.rows.map (·.filter (·.uri ≠ .text other)) = db.rows.map (·.filter (·.uri ≠ .text other))) :
    db'.row? uri = db.row? uri := by
  have hrow (db : Database) : db.row? uri = (db.rows.map (·.filter (·.uri ≠ .text other))).map (findRow uri) := by
    rw [Option.map_map]
    exact congrArg (fun f => db.rows.map f) (funext fun rows => (findRow_filter h rows).symm)
  rw [hrow, hrow, hf]

end Database

/-- A cache that is opened has the database that it was opened on, brought up to date. -/
theorem TableCache.db_of_openOn {db db' : Database} {c : TableCache} (h : openOn db = (db', .ok c)) : c.db = db' := by
  unfold openOn at h
  split at h
  · next d hd =>
    obtain ⟨rfl, hl⟩ := Prod.mk.inj h
    unfold load at hl
    split at hl
    · cases hl
      rfl
    · cases hl
  · cases congrArg Prod.snd h

/-- Bringing the schema up to date leaves the rows as they are. -/
theorem TableCache.rows_openOn {db : Database} {rows : List Row} (h : db.rows = some rows) :
    (openOn db).1.rows = some rows := by
  have hrun : (Migration.run db).1.rows = some rows := Migration.execAll_rows h _
  unfold openOn
  split
  · next d hd => rwa [hd] at hrun
  · next d e hd => rwa [hd] at hrun

/-- So does opening a cache under a name, whether that succeeds or not. -/
theorem SharedDatabase.rows_openAs {s : SharedDatabase} {rows : List Row} (h : s.db.rows = some rows) (name : String) :
    (s.openAs name).1.db.rows = some rows := by
  have hrows := TableCache.rows_openOn h
  rcases s.openAs_cases name with ⟨db, c, hdb, hopen⟩ | ⟨db, e, hdb, hopen⟩
  · rw [hdb] at hrows
    simp only [hopen, set, TableCache.db_of_openOn hdb]
    exact hrows
  · rw [hdb] at hrows
    simp only [hopen]
    exact hrows

namespace Fetch

variable {τ : Type}

/-- The cache under a name has an ETag for a URI but no content, and the table is there. -/
structure Damaged (name uri : String) (s : SharedDatabase) : Prop where
  known : etagOf name s uri ≠ none
  lost : schemaOf name s uri = none
  writable : s.db.rows ≠ none

/-- The content that a cache gives is that of the row. -/
theorem schemaOf_eq {name : String} {s : SharedDatabase} {c : TableCache} (h : s.cache? name = some c) (uri : String) :
    schemaOf name s uri = TableCache.schemaOfRow (s.db.row? uri) := by
  obtain ⟨-, hdb⟩ := SharedDatabase.cache?_eq_some_iff.1 h
  rw [schemaOf, h, Option.bind_some, TableCache.schema?_eq, hdb]

/-- A cache that has an ETag is open. -/
theorem exists_cache {name uri : String} {s : SharedDatabase} (h : etagOf name s uri ≠ none) :
    ∃ c, s.cache? name = some c := by
  rw [← Option.ne_none_iff_exists']
  intro hno
  exact h (by rw [etagOf, hno, Option.bind_none])

theorem etagOf_congr {name : String} {s s' : SharedDatabase} (h : s'.indexes.get? name = s.indexes.get? name)
    (uri : String) : etagOf name s' uri = etagOf name s uri := by
  simp only [etagOf, SharedDatabase.cache?, h, Option.bind_map]
  rfl

/-- Where the ETag of a URI is known, damage is what may become of its row. -/
theorem damaged_iff {name uri : String} {s : SharedDatabase} :
    Damaged name uri s ↔ etagOf name s uri ≠ none ∧ ∃ row, s.db.row? uri = some row ∧ TableCache.Lost row := by
  constructor
  · rintro ⟨hknown, hlost, hrows⟩
    obtain ⟨c, hc⟩ := exists_cache hknown
    obtain ⟨rows, hrows⟩ := Option.ne_none_iff_exists'.1 hrows
    have hrow : s.db.row? uri = some (Database.findRow uri rows) := by rw [Database.row?, hrows, Option.map_some]
    rw [schemaOf_eq hc, hrow, TableCache.schemaOfRow_eq_none_iff] at hlost
    exact ⟨hknown, _, hrow, hlost⟩
  · rintro ⟨hknown, row, hrow, hlost⟩
    obtain ⟨c, hc⟩ := exists_cache hknown
    refine ⟨hknown, ?_, fun hno => ?_⟩
    · rw [schemaOf_eq hc, hrow, TableCache.schemaOfRow_eq_none_iff]
      exact hlost
    · rw [Database.row?, hno] at hrow
      cases hrow

/-! ## What is kept while nothing is done with a URI -/

/-- The cache under a name has an ETag for a URI, in whose row are the same ETag and a content with its digest. -/
structure Kept (name uri etag text : String) (s : SharedDatabase) : Prop where
  index : etagOf name s uri = some etag
  row : ∃ now, s.db.row? uri = some (some (TableCache.entryOf now uri etag text).row)

/-- Nothing is done with a URI, and the cache under a name is neither opened nor closed. -/
def Act.Spares (name uri : String) : Act → Prop
  | .attach n => n ≠ name
  | .detach n => n ≠ name
  | .fetch _ k => k.uri ≠ uri

namespace Kept

variable {name uri etag text : String} {s s' : SharedDatabase}

theorem schemaOf_eq_some (h : Kept name uri etag text s) : schemaOf name s uri = some text := by
  have hknown : etagOf name s uri ≠ none := by
    rw [h.index]
    exact Option.some_ne_none etag
  obtain ⟨c, hc⟩ := exists_cache hknown
  obtain ⟨now, hrow⟩ := h.row
  rw [schemaOf_eq hc, hrow]
  exact TableCache.schemaOfRow_eq_some_iff.2 ⟨_, rfl, TableCache.isIntact_entryOf now uri etag text, rfl⟩

/-- A state with the same row and the same ETag in the index is as good. -/
theorem of_eq (h : Kept name uri etag text s) (he : etagOf name s' uri = etagOf name s uri)
    (hr : s'.db.row? uri = s.db.row? uri) : Kept name uri etag text s' where
  index := he.trans h.index
  row := by
    obtain ⟨now, hrow⟩ := h.row
    exact ⟨now, hr.trans hrow⟩

theorem openAs (h : Kept name uri etag text s) {n : String} (hn : n ≠ name) :
    Kept name uri etag text (s.openAs n).1 := by
  obtain ⟨now, hrow⟩ := h.row
  obtain ⟨rows, hrows, -⟩ := Option.map_eq_some_iff.1 hrow
  have hindex : (s.openAs n).1.indexes.get? name = s.indexes.get? name := by
    rcases s.openAs_cases n with ⟨db, c, -, hopen⟩ | ⟨db, e, -, hopen⟩
    · simp only [hopen, SharedDatabase.set, Fields.get?_insert, if_neg hn]
    · simp only [hopen]
  refine h.of_eq (etagOf_congr hindex uri) ?_
  simp only [Database.row?, SharedDatabase.rows_openAs hrows, hrows]

theorem close (h : Kept name uri etag text s) {n : String} (hn : n ≠ name) : Kept name uri etag text (s.close n) := by
  refine h.of_eq (etagOf_congr ?_ uri) rfl
  simp only [SharedDatabase.close, Fields.get?_erase, if_neg hn]

/-- A pair of another URI goes past the row and past the ETag in the index, through whichever cache it is put. -/
theorem put (h : Kept name uri etag text s) {u : String} (hu : u ≠ uri) (now n e content : String) :
    Kept name uri etag text ((SharedDatabase.store now n).put u e content s).2 := by
  rcases SharedDatabase.put_cases s now n u e content with ⟨s', hput, hw, -⟩ | ⟨fault, s', hput, hun, -⟩
  · rw [hput]
    refine h.of_eq ?_ (Database.row?_of_filter hu.symm hw.others)
    by_cases hn : name = n
    · subst hn
      obtain ⟨c, c', hc, hc', hetag⟩ := hw.index
      simp only [etagOf, hc, hc', Option.bind_some, hetag, if_neg hu.symm]
    · exact etagOf_congr (hw.indexes name hn) uri
  · rw [hput]
    refine h.of_eq ?_ ?_
    · simp only [etagOf, hun.caches]
    · rw [hun.db]

theorem fetch {t : Http.Transport τ} {w : World SharedDatabase τ} (h : Kept name uri etag text w.store) (n : String)
    {k : Task} (hu : k.uri ≠ uri) :
    Kept name uri etag text (visit (SharedDatabase.store k.now n) t k.config k.uri w).2.store := by
  rcases visit_store (shared_reads k.now n) t k.config k.uri w with ⟨hst, -, -⟩ | ⟨e, content, answer, hput, -, -⟩
  · rwa [hst]
  · have hkept := h.put hu k.now n e content
    rwa [hput] at hkept

theorem act {t : Http.Transport τ} {w : World SharedDatabase τ} (h : Kept name uri etag text w.store) {a : Act}
    (ha : a.Spares name uri) : Kept name uri etag text (act t w a).2.store := by
  cases a with
  | attach n => exact h.openAs ha
  | detach n => exact h.close ha
  | fetch n k => exact h.fetch n ha

theorem acts {t : Http.Transport τ} {as : List Act} {w : World SharedDatabase τ}
    (h : Kept name uri etag text w.store) (has : ∀ a ∈ as, a.Spares name uri) :
    Kept name uri etag text (acts t as w).2.store := by
  induction as generalizing w with
  | nil => exact h
  | cons a as ih =>
    have hact : Kept name uri etag text (Fetch.act t w a).2.store := h.act (has a List.mem_cons_self)
    exact ih hact fun b hb => has b (List.mem_cons_of_mem a hb)

end Kept

/-! ## The courses of the two fetches -/

section Courses

variable {σ : Type} {s : Store σ} {t : Http.Transport τ} {etag schema : σ → String → Option String} {c : FetchConfig}
  {uri e text : String} {w : World σ τ} {r r' : Http.Response} {st st' : τ}

/-- A store that has a content is told that the document is the same. -/
theorem visit_unchanged (hs : s.Reads etag schema) (he : etag w.store uri = some e)
    (hc : schema w.store uri = some text) (ht : t (requestOf c uri (some e)) w.transport = (.ok r, st))
    (h304 : r.status = 304) :
    visit s t c uri w =
      (⟨uri, [.etag uri (some e), .request (requestOf c uri (some e)) (.ok r), .schema uri (some text)], .ok text⟩,
        ⟨w.store, st, w.calls ++ [.etag uri, .request (requestOf c uri (some e)), .schema uri]⟩) := by
  have hf : Fetched c uri
      [.etag uri (some e), .request (requestOf c uri (some e)) (.ok r), .schema uri (some text)] (.ok text) :=
    .unchanged (conditions_iff.2 rfl) h304
  refine visit_eq (v := ⟨uri, _, _⟩) rfl hf ?_
  simp [Plays, World.replay, World.perform, Event.call, World.etag?, World.schema?, World.send, hs.etag?, hs.schema?,
    he, hc, ht]

/-- A store that has lost a content is told so, and is given the document that comes then. -/
theorem visit_lost {stored : σ} {answer : Except Error Unit} (hs : s.Reads etag schema)
    (hc : schema w.store uri = none) (ht : t (requestOf c uri (etag w.store uri)) w.transport = (.ok r, st))
    (h304 : r.status = 304) (ht' : t (requestOf c uri none) st = (.ok r', st')) (hd : Http.IsDocument r')
    (hv : Http.Validates r' e) (hput : s.put uri e r'.body w.store = (answer, stored)) :
    visit s t c uri w =
      (⟨uri, [.etag uri (etag w.store uri), .request (requestOf c uri (etag w.store uri)) (.ok r), .schema uri none,
          .request (requestOf c uri none) (.ok r'), .put uri e r'.body answer], .ok r'.body⟩,
        ⟨stored, st', w.calls ++ [.etag uri, .request (requestOf c uri (etag w.store uri)), .schema uri,
          .request (requestOf c uri none), .put uri e r'.body]⟩) := by
  have hf : Fetched c uri
      [.etag uri (etag w.store uri), .request (requestOf c uri (etag w.store uri)) (.ok r), .schema uri none,
        .request (requestOf c uri none) (.ok r'), .put uri e r'.body answer] (.ok r'.body) :=
    .lost (conditions_iff.2 rfl) h304 (.document hd (.put hv answer))
  refine visit_eq (v := ⟨uri, _, _⟩) rfl hf ?_
  simp [Plays, World.replay, World.perform, Event.call, World.etag?, World.schema?, World.send, World.put, hs.etag?,
    hs.schema?, hc, ht, ht', hput]

end Courses

/-! ## Repair -/

/-- A transport says that a document is the same, and then, asked without condition, brings it with an ETag. -/
structure Resends (t : Http.Transport τ) (c : FetchConfig) (uri : String) (etag : Option String) (st : τ)
    (e text : String) : Prop where
  unchanged : ∃ r, (t (requestOf c uri etag) st).1 = .ok r ∧ r.status = 304
  anew : ∃ r, (t (requestOf c uri none) (t (requestOf c uri etag) st).2).1 = .ok r ∧ Http.IsDocument r ∧
    Http.Validates r e ∧ r.body = text

/-- The request for a URI on the condition that the document is not the one known by an ETag. -/
def revalidation (c : FetchConfig) (uri e : String) : Http.Request :=
  ⟨uri, c.maxRedirects, [⟨"if-none-match", Http.Header.bytes e⟩], c.http⟩

/-- A fetch sends an ETag, and for a document that is the same gives a content after this one request, with no put. -/
structure Recalls (s : Store SharedDatabase) (t : Http.Transport τ) (k : Task) (w : World SharedDatabase τ)
    (e text : String) : Prop where
  conditional : ∃ reply rest, (visit s t k.config k.uri w).1.events =
    .etag k.uri (some e) :: .request (revalidation k.config k.uri e) reply :: rest
  unchanged : ∀ r st, t (revalidation k.config k.uri e) w.transport = (.ok r, st) → r.status = 304 →
    (visit s t k.config k.uri w).1 = ⟨k.uri, [.etag k.uri (some e),
      .request (revalidation k.config k.uri e) (.ok r), .schema k.uri (some text)], .ok text⟩ ∧
    (visit s t k.config k.uri w).2.store = w.store

/-- What is kept of a URI is recalled. -/
theorem Kept.recalls {name e text : String} {w : World SharedDatabase τ} {k : Task}
    (h : Kept name k.uri e text w.store) (he : Http.IsUsable e) (t : Http.Transport τ) :
    Recalls (SharedDatabase.store k.now name) t k w e text := by
  have hreads := shared_reads k.now name
  have hrequest : requestOf k.config k.uri (some e) = revalidation k.config k.uri e := requestOf_usable he _ _
  refine ⟨?_, fun r st ht h304 => ?_⟩
  · obtain ⟨reply, rest, hev⟩ := visit_opening hreads t k.config k.uri w
    rw [h.index, hrequest] at hev
    exact ⟨reply, rest, hev⟩
  · rw [← hrequest] at ht ⊢
    rw [visit_unchanged hreads h.index h.schemaOf_eq_some ht h304]
    exact ⟨rfl, rfl⟩

/-- What a fetch makes of a damaged entry. -/
structure Repaired (t : Http.Transport τ) (now name : String) (c : FetchConfig) (uri e text : String)
    (w : World SharedDatabase τ) (v : Visit × World SharedDatabase τ) : Prop where
  /-- There are two requests, of which the second has no condition, and one put. -/
  course : ∃ r r', v.1.events = [.etag uri (etagOf name w.store uri),
    .request (requestOf c uri (etagOf name w.store uri)) (.ok r), .schema uri none,
    .request ⟨uri, c.maxRedirects, [], c.http⟩ (.ok r'), .put uri e text (.ok ())]
  result : v.1.result = .ok text
  /-- The row of the URI is new in all columns, with the digest of its content; all other rows are as they were. -/
  written : SharedDatabase.Written now name uri e text w.store v.2.store
  etag : etagOf name v.2.store uri = some e
  schema : schemaOf name v.2.store uri = some text
  /-- Whatever is done with other URIs and caches before, the next fetch finds the entry in order. -/
  next : ∀ as, (∀ a ∈ as, a.Spares name uri) → ∀ k : Task, k.uri = uri →
    Recalls (SharedDatabase.store k.now name) t k (acts t as v.2).2 e text

/-- **Damage is repaired by one fetch**, whatever it is and in however many columns. -/
theorem damage_repaired (t : Http.Transport τ) (now name : String) (c : FetchConfig) (uri e text : String)
    (w : World SharedDatabase τ) (hd : Damaged name uri w.store)
    (ht : Resends t c uri (etagOf name w.store uri) w.transport e text) :
    Repaired t now name c uri e text w (visit (SharedDatabase.store now name) t c uri w) := by
  obtain ⟨⟨r, hr, h304⟩, r', hr', hdoc, hv, rfl⟩ := ht
  obtain ⟨cache, hcache⟩ := exists_cache hd.known
  rcases SharedDatabase.put_cases w.store now name uri e r'.body with
    ⟨stored, hput, hw, -⟩ | ⟨fault, stored, -, -, hno⟩
  · have hvisit := visit_lost (shared_reads now name) hd.lost (Prod.ext hr rfl) h304 (Prod.ext hr' rfl) hdoc hv hput
    have hkept : Kept name uri e r'.body stored := by
      obtain ⟨_, cache', -, hcache', hetag⟩ := hw.index
      refine ⟨?_, now, hw.row⟩
      rw [etagOf, hcache', Option.bind_some, hetag, if_pos rfl]
    rw [hvisit]
    refine ⟨⟨r, r', rfl⟩, rfl, hw, hkept.index, hkept.schemaOf_eq_some, ?_⟩
    rintro as has k rfl
    exact (hkept.acts has).recalls hv.sent.1 t
  · rcases hno with hno | hno
    · cases hno.symm.trans hcache
    · exact absurd hno hd.writable

/-- Another program spoils three columns of a row behind a cache. -/
theorem damage_repaired_columns :
    let db : Database := ⟨some [(TableCache.entryOf "" page.uri "1" "one").row], false, some [1]⟩
    let s := ((SharedDatabase.ofDatabase db).acts [.attach "a",
      .change (.setColumn page.uri .content (.blob [0])), .change (.setColumn page.uri .digest (.text "")),
      .change (.setColumn page.uri .fetchedAt (.blob []))]).2
    let w : World SharedDatabase _ := ⟨s, [unchanged, anew "2" "two"], []⟩
    Damaged "a" page.uri s ∧ Resends Http.Transport.ofList {} page.uri (etagOf "a" s page.uri) w.transport "2" "two" ∧
      Repaired Http.Transport.ofList "" "a" {} page.uri "2" "two" w
        (visit (SharedDatabase.store "" "a") Http.Transport.ofList {} page.uri w) := by
  intro db s w
  have hknown : etagOf "a" s page.uri = some "1" := by rfl
  have hlost : TableCache.Lost (some ⟨.text page.uri, .text "1", .blob [0], .text "", .blob []⟩) :=
    .unreadable .content [0] rfl
  have hd : Damaged "a" page.uri s := by
    refine damaged_iff.2 ⟨?_, _, rfl, hlost⟩
    rw [hknown]
    exact Option.some_ne_none "1"
  have hv : Http.Validates ⟨200, [⟨"etag", Http.Header.bytes "2"⟩], "two"⟩ "2" :=
    ⟨Http.Header.bytes "2", rfl, by decide +kernel, by decide +kernel, rfl⟩
  have ht : Resends Http.Transport.ofList {} page.uri (etagOf "a" s page.uri) w.transport "2" "two" :=
    ⟨⟨_, rfl, rfl⟩, _, rfl, ⟨by decide, by decide⟩, hv, rfl⟩
  exact ⟨hd, ht, damage_repaired Http.Transport.ofList "" "a" {} page.uri "2" "two" w hd ht⟩

end Fetch

end SchemaRelay

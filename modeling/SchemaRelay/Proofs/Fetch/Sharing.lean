import SchemaRelay.Cache.Shared
import SchemaRelay.Proofs.Cache.Rows
import SchemaRelay.Proofs.Fetch.Run

/-!
# Fetches through caches that share a database

Caches are attached to one database and detached from it, and fetches are made through them, in any order (`acts`). The
rows are everyone's, and have the pair that was last taken for each URI by any cache. An index is not: what a cache
knows of a URI it learned when it was attached or when it last stored a pair itself (`Deed.Learns`), and others may have
stored since. `Agrees` says both and is kept by all that can be done (`Agrees.act`).

Hence the content that is served for an unchanged document is the one stored last, by whichever cache, while the ETag
that was sent is the one learned last (`serves_last_taken`). They were stored together if nobody else stored a pair in
between; if somebody did they need not be (`serves_foreign_content`).
-/

namespace SchemaRelay.Fetch

variable {τ : Type}

/-! ## What is done and what happens -/

/-- What can be done with the caches of a database. -/
inductive Act where
  | attach (name : String)
  | detach (name : String)
  | fetch (name : String) (task : Task)

/-- What was done, and for a fetch what happened. -/
inductive Deed where
  | attached (name : String)
  | detached (name : String)
  | fetched (name : String) (visit : Visit)

/-- Does one thing. -/
def act (t : Http.Transport τ) (w : World SharedDatabase τ) : Act → Deed × World SharedDatabase τ
  | .attach name => (.attached name, { w with store := (w.store.openAs name).1 })
  | .detach name => (.detached name, { w with store := w.store.close name })
  | .fetch name k =>
    let (v, w) := visit (SharedDatabase.store k.now name) t k.config k.uri w
    (.fetched name v, w)

/-- Does one thing after the other. -/
def acts (t : Http.Transport τ) : List Act → World SharedDatabase τ → List Deed × World SharedDatabase τ
  | [], w => ([], w)
  | a :: as, w =>
    let (d, w) := act t w a
    let (ds, w) := acts t as w
    (d :: ds, w)

/-- What was called and answered. -/
def Deed.events : Deed → List Event
  | .fetched _ v => v.events
  | _ => []

/-- All that was called and answered. -/
def told (ds : List Deed) : List Event := ds.flatMap Deed.events

/-- The cache under a name learns the ETag of a URI: from the rows, as it is attached, or by storing a pair itself. -/
def Deed.Learns (name uri : String) : Deed → Prop
  | .attached n => n = name
  | .detached _ => False
  | .fetched n v => n = name ∧ lastTaken uri v.events ≠ none

/-- The last time that the cache under a name learned the ETag of a URI was at the end of `before`. -/
structure LearnedAt (name uri : String) (before after : List Deed) : Prop where
  last : ∃ d, before.getLast? = some d ∧ d.Learns name uri
  rest : ∀ d ∈ after, ¬d.Learns name uri

theorem told_append (ds ds' : List Deed) : told (ds ++ ds') = told ds ++ told ds' := List.flatMap_append

theorem lastTaken_mem {u : String} {tr : List Event} {p : String × String} (h : lastTaken u tr = some p) :
    .put u p.1 p.2 (.ok ()) ∈ tr := by
  obtain ⟨ev, hm, hev⟩ := List.mem_filterMap.1 (List.mem_of_getLast? h)
  match ev with
  | .put v e text (.ok ()) =>
    simp only [Event.takes, Option.ite_none_right_eq_some, Option.some.injEq] at hev
    obtain ⟨rfl, rfl⟩ := hev
    exact hm

/-! ## The shared store -/

/-- The ETag that the cache under a name knows. -/
def etagOf (name : String) (s : SharedDatabase) (uri : String) : Option String := (s.cache? name).bind (·.etag? uri)

/-- The content that the cache under a name gives. -/
def schemaOf (name : String) (s : SharedDatabase) (uri : String) : Option String :=
  (s.cache? name).bind (·.schema? uri)

theorem shared_reads (now name : String) : (SharedDatabase.store now name).Reads (etagOf name) (schemaOf name) :=
  ⟨fun _ _ => rfl, fun _ _ => rfl⟩

/-- Where no cache is attached, nothing is taken. -/
theorem shared_put_none {s : SharedDatabase} {name : String} (h : s.indexes.get? name = none)
    (now uri e text : String) :
    (SharedDatabase.store now name).put uri e text s = (.error (.database .closed), s) := by
  simp [SharedDatabase.store, SharedDatabase.cache?, h]

/-- What a cache takes goes into the rows and into its own index. -/
theorem shared_put_some {s : SharedDatabase} {name : String} {index : Fields String} {rows : List Row}
    (h : s.indexes.get? name = some index) (hr : s.db.rows = some rows) (now uri e text : String) :
    (SharedDatabase.store now name).put uri e text s =
      (.ok (), ⟨{ s.db with rows := some (Database.putRow (TableCache.entryOf now uri e text).row rows) },
        s.indexes.insert name (index.insert uri e)⟩) := by
  simp [SharedDatabase.store, SharedDatabase.cache?, h, SharedDatabase.set, TableCache.put,
    Database.upsert_of_rows hr]

/-! ## The invariant -/

/-- The ETag of the pair that was last taken for a URI when the cache under a name learned it last. -/
def Knows (ds : List Deed) (name uri : String) (etag : Option String) : Prop :=
  ∃ before after, ds = before ++ after ∧ LearnedAt name uri before after ∧
    etag = (lastTaken uri (told before)).map (·.1)

/-- What a cache knows stays so as long as it learns nothing new. -/
theorem Knows.concat {ds : List Deed} {name uri : String} {etag : Option String} (h : Knows ds name uri etag) {d : Deed}
    (hd : ¬d.Learns name uri) : Knows (ds ++ [d]) name uri etag := by
  obtain ⟨before, after, rfl, ⟨hl, ha⟩, hk⟩ := h
  refine ⟨before, after ++ [d], List.append_assoc .., ⟨hl, fun d' hd' => ?_⟩, hk⟩
  rcases List.mem_append.1 hd' with hd' | hd'
  · exact ha d' hd'
  · exact List.mem_singleton.1 hd' ▸ hd

/-- What is learned now is what was last taken. -/
theorem knows_concat (ds : List Deed) {name uri : String} {d : Deed} (hd : d.Learns name uri) :
    Knows (ds ++ [d]) name uri ((lastTaken uri (told (ds ++ [d]))).map (·.1)) :=
  ⟨ds ++ [d], [], (List.append_nil _).symm, ⟨⟨d, List.getLast?_concat, hd⟩, by simp⟩, rfl⟩

/-- The rows have the pairs that were last taken, and each index has what its cache learned last. -/
structure Agrees (ds : List Deed) (s : SharedDatabase) : Prop where
  sound : (s.db = Database.empty ∧ s.indexes = []) ∨ ∃ rows, s.db.Sound rows
  pairs : ∀ uri, s.db.pair? uri = lastTaken uri (told ds)
  indexes : ∀ name index, s.indexes.get? name = some index → ∀ uri, Knows ds name uri (index.get? uri)

/-- Before anything is done. -/
theorem agrees_nil : Agrees [] (.ofDatabase Database.empty) where
  sound := .inl ⟨rfl, rfl⟩
  pairs _ := rfl
  indexes _ _ h := nomatch h

/-- A deed without events leaves what was told as it was. -/
theorem told_silent {ds : List Deed} {d : Deed} (hd : d.events = []) : told (ds ++ [d]) = told ds := by
  simp [told, hd]

theorem told_fetched (ds : List Deed) (name : String) (v : Visit) :
    told (ds ++ [.fetched name v]) = told ds ++ v.events := by
  simp [told, Deed.events]

namespace Agrees

variable {ds : List Deed} {s : SharedDatabase} {t : Http.Transport τ} {w : World SharedDatabase τ}

/-- Where a cache is attached the table is there. -/
theorem sound_of_index (h : Agrees ds s) {name : String} {index : Fields String}
    (hi : s.indexes.get? name = some index) : ∃ rows, s.db.Sound rows := by
  rcases h.sound with ⟨-, hnil⟩ | hs
  · rw [hnil] at hi
    cases hi
  · exact hs

/-- A cache that is opened makes the database sound, has its pairs, and leaves them as they were. -/
theorem openOn (h : Agrees ds s) : ∃ db c, TableCache.openOn s.db = (db, .ok c) ∧ (∃ rows, db.Sound rows) ∧ c.db = db ∧
    ∀ uri, db.pair? uri = lastTaken uri (told ds) ∧ c.etag? uri = (lastTaken uri (told ds)).map (·.1) := by
  rcases h.sound with ⟨hd, -⟩ | ⟨rows, hs⟩
  · refine ⟨_, _, hd ▸ TableCache.openOn_empty, ⟨[], Database.sound_fresh⟩, rfl, fun uri => ?_⟩
    have hnone : lastTaken uri (told ds) = none := by
      rw [← h.pairs, hd]
      rfl
    rw [hnone]
    exact ⟨rfl, rfl⟩
  · obtain ⟨c, ho, hdb, -, hc⟩ := hs.openOn
    refine ⟨s.db, c, ho, ⟨rows, hs⟩, hdb, fun uri => ⟨h.pairs uri, ?_⟩⟩
    rw [hc, h.pairs]

theorem attach (h : Agrees ds s) (name : String) : Agrees (ds ++ [.attached name]) (s.openAs name).1 := by
  have htold : told (ds ++ [.attached name]) = told ds := told_silent rfl
  obtain ⟨db, c, ho, hs, hdb, hp⟩ := h.openOn
  have hopen : (s.openAs name).1 = ⟨db, s.indexes.insert name c.etags⟩ := by
    simp only [SharedDatabase.openAs, ho, SharedDatabase.set, hdb]
  rw [hopen]
  refine ⟨.inr hs, fun uri => ?_, fun other index hi uri => ?_⟩
  · rw [htold]
    exact (hp uri).1
  · simp only [Fields.get?_insert] at hi
    by_cases hn : name = other
    · rw [if_pos hn] at hi
      cases hi
      have hk : c.etags.get? uri = (lastTaken uri (told (ds ++ [.attached name]))).map (·.1) := by
        rw [htold]
        exact (hp uri).2
      rw [hk]
      exact knows_concat ds hn
    · rw [if_neg hn] at hi
      exact (h.indexes other index hi uri).concat hn

theorem detach (h : Agrees ds s) (name : String) : Agrees (ds ++ [.detached name]) (s.close name) := by
  refine ⟨h.sound.imp_left fun hd => ⟨hd.1, ?_⟩, fun uri => ?_, fun other index hi uri => ?_⟩
  · simp [SharedDatabase.close, hd.2, Fields.erase]
  · rw [told_silent rfl]
    exact h.pairs uri
  · simp only [SharedDatabase.close, Fields.get?_erase] at hi
    split at hi
    · cases hi
    · exact (h.indexes other index hi uri).concat id

/-- A fetch of which nothing is taken changes nothing. -/
theorem untaken (h : Agrees ds s) (name : String) {v : Visit} (hno : ∀ u, lastTaken u v.events = none) :
    Agrees (ds ++ [.fetched name v]) s where
  sound := h.sound
  pairs uri := by
    rw [told_fetched, lastTaken_append, hno, Option.none_or]
    exact h.pairs uri
  indexes other index hi uri := (h.indexes other index hi uri).concat fun hl => hl.2 (hno uri)

/-- A pair that is taken goes into the rows, for all, and into the index of the cache that took it. -/
theorem taken (h : Agrees ds s) {name : String} {index : Fields String} (hx : s.indexes.get? name = some index)
    {rows : List Row} (hs : s.db.Sound rows) (now : String) {uri e text : String} {v : Visit}
    (htk : ∀ u, lastTaken u v.events = if uri = u then some (e, text) else none) :
    Agrees (ds ++ [.fetched name v])
      ⟨{ s.db with rows := some (Database.putRow (TableCache.entryOf now uri e text).row rows) },
        s.indexes.insert name (index.insert uri e)⟩ := by
  have hlast (u : String) : lastTaken u (told (ds ++ [.fetched name v])) =
      if uri = u then some (e, text) else lastTaken u (told ds) := by
    rw [told_fetched, lastTaken_append, htk]
    split <;> rfl
  refine ⟨.inr ⟨_, hs.upsert (TableCache.isIntact_entryOf ..)⟩, fun u => ?_, fun other index' hi u => ?_⟩
  · rw [hlast, Database.pair?_putRow hs.table, h.pairs]
    rfl
  · simp only [Fields.get?_insert] at hi
    by_cases hn : name = other
    · subst hn
      rw [if_pos rfl] at hi
      cases hi
      rw [Fields.get?_insert]
      by_cases hu : uri = u
      · have hl : (Deed.fetched name v).Learns name u := ⟨rfl, by simp [htk, hu]⟩
        have hk := knows_concat ds hl
        rw [hlast, if_pos hu] at hk
        rwa [if_pos hu]
      · rw [if_neg hu]
        exact (h.indexes name index hx u).concat fun hl => hl.2 (by simp [htk, hu])
    · rw [if_neg hn] at hi
      exact (h.indexes other index' hi u).concat fun hl => hn hl.1

theorem fetch (h : Agrees ds w.store) (name : String) (k : Task) :
    let v := visit (SharedDatabase.store k.now name) t k.config k.uri w
    Agrees (ds ++ [.fetched name v.1]) v.2.store := by
  intro v
  rcases visit_store (shared_reads k.now name) t k.config k.uri w with
    ⟨hst, -, hno⟩ | ⟨e, text, answer, hput, -, htk⟩
  · rw [show v.2.store = w.store from hst]
    exact h.untaken name hno
  · cases hx : w.store.indexes.get? name with
    | none =>
      rw [shared_put_none hx] at hput
      obtain ⟨rfl, hst⟩ := Prod.mk.inj hput
      rw [show v.2.store = w.store from hst.symm]
      exact h.untaken name htk
    | some index =>
      obtain ⟨rows, hs⟩ := h.sound_of_index hx
      rw [shared_put_some hx hs.table] at hput
      obtain ⟨rfl, hst⟩ := Prod.mk.inj hput
      rw [show v.2.store = _ from hst.symm]
      exact h.taken hx hs k.now htk

theorem act (h : Agrees ds w.store) (a : Act) : Agrees (ds ++ [(act t w a).1]) (act t w a).2.store := by
  cases a with
  | attach name => exact h.attach name
  | detach name => exact h.detach name
  | fetch name k => exact h.fetch name k

end Agrees

/-- Whatever is done, the rows and the indexes agree with what happened. -/
theorem agrees_acts (t : Http.Transport τ) (as : List Act) {ds : List Deed} {w : World SharedDatabase τ}
    (h : Agrees ds w.store) : Agrees (ds ++ (acts t as w).1) (acts t as w).2.store := by
  induction as generalizing ds w with
  | nil => simpa [acts] using h
  | cons a as ih => simpa [acts, List.append_assoc] using ih (h.act a)

/-! ## Contents that stand in for unchanged documents -/

/-- A content that a cache gave for an unchanged document, and the ETag that was sent for it, after what was done. -/
structure Provenance (ds : List Deed) (name uri e text : String) : Prop where
  /-- The content is the one that was last taken for the URI, by any cache. -/
  content : ∃ etag, lastTaken uri (told ds) = some (etag, text) ∧ .put uri etag text (.ok ()) ∈ told ds
  /-- The ETag is the one that was last taken for the URI when the cache learned it last, and if nothing was taken
  since, the content was taken with it. -/
  etag : ∃ before after body, ds = before ++ after ∧ LearnedAt name uri before after ∧
    lastTaken uri (told before) = some (e, body) ∧
    (lastTaken uri (told after) = none → .put uri e text (.ok ()) ∈ told ds)

theorem provenance_of_agrees {t : Http.Transport τ} {ds : List Deed} {w : World SharedDatabase τ}
    (h : Agrees ds w.store) {name : String} {k : Task} {e text : String}
    (hv : (visit (SharedDatabase.store k.now name) t k.config k.uri w).1.Serves e text) :
    Provenance ds name k.uri e text := by
  obtain ⟨he, hc⟩ := visit_serves (shared_reads k.now name) hv
  simp only [etagOf, schemaOf, SharedDatabase.cache?] at he hc
  cases hx : w.store.indexes.get? name with
  | none => simp [hx] at he
  | some index =>
    obtain ⟨rows, hs⟩ := h.sound_of_index hx
    simp only [hx, Option.map_some, Option.bind_some, hs.schema?, h.pairs] at he hc
    obtain ⟨⟨etag, text⟩, hlast, rfl⟩ := Option.map_eq_some_iff.1 hc
    have hput := lastTaken_mem hlast
    refine ⟨⟨etag, hlast, hput⟩, ?_⟩
    obtain ⟨before, after, rfl, hl, hk⟩ := h.indexes name index hx k.uri
    obtain ⟨⟨e, body⟩, hb, rfl⟩ := Option.map_eq_some_iff.1 (hk.symm.trans he)
    refine ⟨before, after, body, rfl, hl, hb, fun hno => ?_⟩
    -- nothing was taken since, so both are the same pair
    rw [told_append, lastTaken_append, hno, Option.none_or, hb] at hlast
    cases hlast
    exact hput

/-- **A content that a cache gives for an unchanged document** is the one that was last taken for the URI by any cache
on the database, whatever was done before. The ETag that was sent is the one that this cache learned last. -/
theorem serves_last_taken (t : Http.Transport τ) (st : τ) (as : List Act) (name : String) (k : Task)
    (e text : String) :
    let run := acts t as ⟨.ofDatabase Database.empty, st, []⟩
    (visit (SharedDatabase.store k.now name) t k.config k.uri run.2).1.Serves e text →
      Provenance run.1 name k.uri e text := by
  intro run hv
  have h : Agrees ([] ++ run.1) run.2.store := agrees_acts t as agrees_nil
  exact provenance_of_agrees h hv

/-- A fetch of one document, and replies that bring it anew and say that it is unchanged. -/
def page : Task := ⟨"", {}, "https://example.org/schema.json"⟩

def anew (etag text : String) : Except Http.TransportError Http.Response :=
  .ok ⟨200, [⟨"etag", Http.Header.bytes etag⟩], text⟩

def unchanged : Except Http.TransportError Http.Response := .ok ⟨304, [], ""⟩

/-- A fetch that asked with an ETag, was told that the document is unchanged, and gave back what the store had. -/
def recalled (e text : String) : Visit :=
  ⟨page.uri, [.etag page.uri (some e), .request (requestOf page.config page.uri (some e)) unchanged,
    .schema page.uri (some text)], .ok text⟩

theorem recalled_serves {e : String} (text : String) (hne : e ≠ "") (he : Http.Header.isSendable e = true) :
    (recalled e text).Serves e text where
  unchanged := ⟨_, _, .tail _ (.head _), by simp [requestOf, condition, hne, he], rfl⟩
  stored := .tail _ (.tail _ (.head _))
  result := rfl

/-- A cache that is attached after another one took a pair gives its content for its ETag. -/
theorem serves_last_taken_attached :
    let run := acts Http.Transport.ofList [.attach "a", .fetch "a" page, .attach "b"]
      ⟨.ofDatabase Database.empty, [anew "1" "one", unchanged], []⟩
    (visit (SharedDatabase.store page.now "b") Http.Transport.ofList page.config page.uri run.2).1.Serves "1" "one" ∧
      Provenance run.1 "b" page.uri "1" "one" := by
  intro run
  have hvisit : (visit (SharedDatabase.store page.now "b") Http.Transport.ofList page.config page.uri run.2).1 =
      recalled "1" "one" := by
    decide +kernel
  have hv : (visit (SharedDatabase.store page.now "b") Http.Transport.ofList page.config page.uri run.2).1.Serves
      "1" "one" := by
    rw [hvisit]
    exact recalled_serves "one" (by decide) (by decide)
  exact ⟨hv, serves_last_taken Http.Transport.ofList _ [.attach "a", .fetch "a" page, .attach "b"] "b" page
    "1" "one" hv⟩

/-- **The content need not be one that was stored with the ETag.** Here `b` is attached with the first ETag, `a` stores
a second pair, and `b` then gives the second content where the server means the first. -/
theorem serves_foreign_content :
    ¬∀ (τ : Type) (t : Http.Transport τ) (st : τ) (as : List Act) (name : String) (k : Task) (e text : String),
      let run := acts t as ⟨.ofDatabase Database.empty, st, []⟩
      (visit (SharedDatabase.store k.now name) t k.config k.uri run.2).1.Serves e text →
        .put k.uri e text (.ok ()) ∈ told run.1 := by
  intro h
  let run := acts Http.Transport.ofList [.attach "a", .fetch "a" page, .attach "b", .fetch "a" page]
    ⟨.ofDatabase Database.empty, [anew "1" "one", anew "2" "two", unchanged], []⟩
  have hvisit : (visit (SharedDatabase.store page.now "b") Http.Transport.ofList page.config page.uri run.2).1 =
      recalled "1" "two" := by
    decide +kernel
  have hv : (visit (SharedDatabase.store page.now "b") Http.Transport.ofList page.config page.uri run.2).1.Serves
      "1" "two" := by
    rw [hvisit]
    exact recalled_serves "two" (by decide) (by decide)
  have hput : .put page.uri "1" "two" (.ok ()) ∈ told run.1 :=
    h _ Http.Transport.ofList _ [.attach "a", .fetch "a" page, .attach "b", .fetch "a" page] "b" page "1" "two" hv
  have hno : .put page.uri "1" "two" (.ok ()) ∉ told run.1 := by
    decide +kernel
  exact hno hput

end SchemaRelay.Fetch

import SchemaRelay.Proofs.Fetch.History

/-!
# What is cached stays available

A pair that was brought for a URI is only ever replaced by another (`lastBrought_ne_none_append`), and while a store has
a pair no branch of the tree ends in a failure: the content of the store stands in wherever there is no document
(`Fetched.ok_of_held`). Hence, from the moment a URI has an entry, every fetch of it gives a content, whatever servers and
network do (`cached_stays_available`).

`Tracks` is what both caches have in common: they answer from their state, which is up with the history after every run.
-/

namespace SchemaRelay

namespace Fetch

variable {σ τ : Type} {c : FetchConfig} {uri : String} {tr : List Event} {result : Except Error String}

/-! ## One fetch -/

/-- A store that has a content does not answer that it has none. -/
theorem Recalled.eq_of_held {found : Option String} {e text : String} (h : Recalled uri tr found)
    (he : ∀ a, .etag uri a ∈ tr → a = some e) (hc : ∀ a, .schema uri a ∈ tr → a = some text) : found = some text := by
  cases h with
  | known e' found => exact hc found (List.mem_cons_of_mem _ List.mem_cons_self)
  | unknown => cases he none List.mem_cons_self

/-- Where the store has an ETag and a content, a fetch gives this content or that of a document. -/
theorem Fetched.ok_of_held {e text : String} (h : Fetched c uri tr result)
    (he : ∀ a, .etag uri a ∈ tr → a = some e) (hc : ∀ a, .schema uri a ∈ tr → a = some text) :
    result = .ok text ∨ ∃ q r, .request q (.ok r) ∈ tr ∧ Http.IsDocument r ∧ result = .ok r.body := by
  cases h with
  | document _ hd _ => exact .inr ⟨_, _, List.mem_cons_of_mem _ List.mem_cons_self, hd, rfl⟩
  | @unchanged _ _ _ found _ _ =>
    have hfound : some found = some text := hc _ (by simp)
    exact .inl (congrArg Except.ok (Option.some.inj hfound))
  | lost _ _ _ => cases hc none (by simp)
  | @fallback _ _ _ _ _ found _ _ hrec =>
    have hfound : some found = some text := hrec.eq_of_held
      (fun a hm => he a (List.mem_cons_of_mem _ (List.mem_cons_of_mem _ hm)))
      (fun a hm => hc a (List.mem_cons_of_mem _ (List.mem_cons_of_mem _ hm)))
    exact .inl (congrArg Except.ok (Option.some.inj hfound))
  | failed _ _ hrec =>
    have hfound : none = some text := hrec.eq_of_held
      (fun a hm => he a (List.mem_cons_of_mem _ (List.mem_cons_of_mem _ hm)))
      (fun a hm => hc a (List.mem_cons_of_mem _ (List.mem_cons_of_mem _ hm)))
    cases hfound

/-- The same of a store that is up with the history. -/
theorem visit_ok_of_held {s : Store σ} {t : Http.Transport τ} {etag schema : σ → String → Option String}
    {w : World σ τ} {h : List Event} {p : String × String} (hs : s.Reads etag schema) (hw : Holds etag schema w.store h)
    (hp : lastBrought uri h = some p) :
    let v := (visit s t c uri w).1
    v.result = .ok p.2 ∨ ∃ q r, .request q (.ok r) ∈ v.events ∧ Http.IsDocument r ∧ v.result = .ok r.body := by
  obtain ⟨he, hc⟩ := visit_answers hs t c uri w
  obtain ⟨hetag, hschema⟩ := hw uri
  rw [hp] at hetag hschema
  refine (visit_course s t c uri w).1.ok_of_held (e := p.1) (fun a hm => ?_) (fun a hm => ?_)
  · rw [he uri a hm, hetag]
    rfl
  · rw [hc uri a hm, hschema]
    rfl

/-! ## Runs -/

theorem lastBrought_ne_none_append {u : String} {h : List Event} (hp : lastBrought u h ≠ none) (h' : List Event) :
    lastBrought u (h ++ h') ≠ none := by
  rw [lastBrought_append]
  cases lastBrought u h' with
  | none => exact hp
  | some p => exact Option.some_ne_none p

/-- Reads are answered from the state of the store, and after every run from a state, whatever is answered, the store has
for each URI the pair that was last brought for it. -/
structure Tracks (s : String → Store σ) (held : σ → String → Option (String × String))
    (etag schema : σ → String → Option String) (start : σ) : Prop where
  reads : ∀ now, (s now).Reads etag schema
  held : ∀ {τ : Type} (t : Http.Transport τ) (st : τ) (ks : List Task) (u : String),
    let run := visits s t ks ⟨start, st, []⟩
    held run.2.store u = lastBrought u (history run.1)
  holds : ∀ {τ : Type} (t : Http.Transport τ) (st : τ) (ks : List Task),
    let run := visits s t ks ⟨start, st, []⟩
    Holds etag schema run.2.store (history run.1)

theorem tracks_memory : Tracks (fun _ => MemoryCache.store) Fields.get? MemoryCache.etag? MemoryCache.schema?
    MemoryCache.empty where
  reads _ := MemoryCache.reads
  held t st ks := visits_memory t ks st
  holds t st ks := holds_memory (visits_memory t ks st)

theorem tracks_table : Tracks TableCache.store (·.db.pair?) TableCache.etag? TableCache.schema? TableCache.fresh where
  reads := TableCache.reads
  held t st ks u := by
    obtain ⟨m, hr, hm⟩ := visits_table t ks st
    exact (hr.pair? u).trans (hm u)
  holds t st ks u := by
    obtain ⟨m, hr, hm⟩ := visits_table t ks st
    rw [hr.etag?, hr.schema?]
    exact holds_memory hm u

/-- Along every run from a state, whatever is answered, what a store has of a URI is not lost again. -/
structure StaysAvailable (s : String → Store σ) (held : σ → String → Option (String × String)) (start : σ) : Prop where
  /-- A URI that has an entry has one after every further fetch. -/
  kept : ∀ {τ : Type} (t : Http.Transport τ) (st : τ) (ks ks' : List Task) (u : String),
    held (visits s t ks ⟨start, st, []⟩).2.store u ≠ none →
      held (visits s t (ks ++ ks') ⟨start, st, []⟩).2.store u ≠ none
  /-- Every fetch of a URI that had an entry at any time before gives a content: that of the entry it has now, or that
  of a document that has just come. -/
  served : ∀ {τ : Type} (t : Http.Transport τ) (st : τ) (ks ks' : List Task) (k : Task),
    held (visits s t ks ⟨start, st, []⟩).2.store k.uri ≠ none →
      let run := visits s t (ks ++ ks') ⟨start, st, []⟩
      let v := (visit (s k.now) t k.config k.uri run.2).1
      ∃ text, v.result = .ok text ∧ ((∃ etag, held run.2.store k.uri = some (etag, text)) ∨
        ∃ q r, .request q (.ok r) ∈ v.events ∧ Http.IsDocument r ∧ r.body = text)

theorem Tracks.kept {s : String → Store σ} {held : σ → String → Option (String × String)}
    {etag schema : σ → String → Option String} {start : σ} (h : Tracks s held etag schema start)
    (t : Http.Transport τ) (st : τ) (ks ks' : List Task) (u : String)
    (hu : held (visits s t ks ⟨start, st, []⟩).2.store u ≠ none) :
    held (visits s t (ks ++ ks') ⟨start, st, []⟩).2.store u ≠ none := by
  rw [h.held] at hu ⊢
  rw [visits_append, history_append]
  exact lastBrought_ne_none_append hu _

theorem Tracks.staysAvailable {s : String → Store σ} {held : σ → String → Option (String × String)}
    {etag schema : σ → String → Option String} {start : σ} (h : Tracks s held etag schema start) :
    StaysAvailable s held start where
  kept := h.kept
  served t st ks ks' k hk := by
    intro run v
    have hheld : held run.2.store k.uri = lastBrought k.uri (history run.1) := h.held t st (ks ++ ks') k.uri
    -- the pair may have been replaced since, but there is one
    obtain ⟨p, hp⟩ := Option.ne_none_iff_exists'.1 (hheld ▸ h.kept t st ks ks' k.uri hk)
    rcases visit_ok_of_held (h.reads k.now) (h.holds t st (ks ++ ks')) hp with hok | ⟨q, r, hq, hd, hok⟩
    · exact ⟨p.2, hok, .inl ⟨p.1, hheld.trans hp⟩⟩
    · exact ⟨r.body, hok, .inr ⟨q, r, hq, hd, rfl⟩⟩

end Fetch

/-- **What is cached stays available**, in both caches, when nobody else changes them: no answer of a server and no
failure of the network makes a fetch of a URI with an entry fail. -/
theorem cached_stays_available :
    Fetch.StaysAvailable (fun _ => MemoryCache.store) Fields.get? MemoryCache.empty ∧
      Fetch.StaysAvailable TableCache.store (·.db.pair?) TableCache.fresh :=
  ⟨Fetch.tracks_memory.staysAvailable, Fetch.tracks_table.staysAvailable⟩

/-- A document came once with an ETag; then the server has lost it and the network is down. -/
example :
    let page : Fetch.Task := ⟨"", {}, "https://example.org/schema.json"⟩
    let replies := [.ok ⟨200, [⟨"ETag", [49]⟩], "one"⟩, .ok ⟨404, [], "gone"⟩, .error (.network "down")]
    let run := Fetch.visits (fun _ => MemoryCache.store) Http.Transport.ofList [page, page, page]
      ⟨MemoryCache.empty, replies, []⟩
    run.1.map (·.result) = [.ok "one", .ok "one", .ok "one"] ∧ Fields.get? run.2.store page.uri = some ("1", "one") := by
  decide +kernel

end SchemaRelay

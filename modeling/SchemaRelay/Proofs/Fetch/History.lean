import SchemaRelay.Proofs.Cache.Refinement

/-!
# A store and the history of its fetches

A store of which only fetches know holds for every URI the pair that was last brought for it, and nothing where none
was (`visits_memory`, and over a database `visits_table`). So every content that a fetch gives back was the body of a
document for that URI (`source_of_held`), and the content that stands in for an unchanged document is the one that came
with the ETag that was sent (`held_of_serves`). `caches_keep_history` has all of it for both caches.
-/

namespace SchemaRelay

namespace Fetch

variable {σ τ : Type}

theorem lastBrought_mem {u : String} {tr : List Event} {p : String × String} (h : lastBrought u tr = some p) :
    ∃ q r, .request q (.ok r) ∈ tr ∧ q.url = u ∧ Http.IsDocument r ∧ Http.Validates r p.1 ∧ r.body = p.2 := by
  obtain ⟨ev, hm, hev⟩ := List.mem_filterMap.1 (List.mem_of_getLast? h)
  obtain ⟨q, r, rfl, hq⟩ := Event.brings_eq_some_iff.1 hev
  exact ⟨q, r, hm, hq⟩

/-- The pairs that a store tells of, in two parts, are those that were last brought. -/
def Holds (etag schema : σ → String → Option String) (st : σ) (h : List Event) : Prop :=
  ∀ u, etag st u = (lastBrought u h).map (·.1) ∧ schema st u = (lastBrought u h).map (·.2)

section Holds

variable {s : Store σ} {t : Http.Transport τ} {etag schema : σ → String → Option String} {w : World σ τ}
  {h : List Event} {c : FetchConfig} {uri text : String}

/-- A content that a fetch gives back is the body of a document for its URI. -/
theorem source_of_held (hs : s.Reads etag schema) (hw : Holds etag schema w.store h)
    (hok : (visit s t c uri w).1.result = .ok text) :
    ∃ q r, .request q (.ok r) ∈ h ++ (visit s t c uri w).1.events ∧ q.url = uri ∧ Http.IsDocument r ∧
      r.body = text := by
  have hf := (visit_course s t c uri w).1
  rw [hok] at hf
  rcases hf.source with ⟨q, r, hm, hd, hb⟩ | hm
  · exact ⟨q, r, List.mem_append_right _ hm, hf.about _ hm, hd, hb⟩
  · have hst := ((visit_answers hs t c uri w).2 _ _ hm).symm
    rw [(hw uri).2] at hst
    obtain ⟨p, hp, rfl⟩ := Option.map_eq_some_iff.1 hst
    obtain ⟨q, r, hm, hu, hd, -, hb⟩ := lastBrought_mem hp
    exact ⟨q, r, List.mem_append_left _ hm, hu, hd, hb⟩

/-- The content that stands in for an unchanged document came with the ETag that was sent. -/
theorem held_of_serves (hs : s.Reads etag schema) (hw : Holds etag schema w.store h) {e : String}
    (hv : (visit s t c uri w).1.Serves e text) : lastBrought uri h = some (e, text) := by
  obtain ⟨he, hc⟩ := visit_serves hs hv
  rw [(hw uri).1] at he
  rw [(hw uri).2] at hc
  obtain ⟨p, hp, rfl⟩ := Option.map_eq_some_iff.1 he
  rw [hp] at hc
  cases hc
  exact hp

end Holds

/-! ## The cache in memory -/

variable (t : Http.Transport τ)

/-- One fetch keeps the cache in memory up with the history. -/
theorem visit_memory (h : List Event) (w : World MemoryCache τ) (c : FetchConfig) (uri : String)
    (hw : ∀ u, Fields.get? w.store u = lastBrought u h) (u : String) :
    Fields.get? (visit MemoryCache.store t c uri w).2.store u =
      lastBrought u (h ++ (visit MemoryCache.store t c uri w).1.events) := by
  rw [lastBrought_append]
  rcases visit_store MemoryCache.reads t c uri w with ⟨hst, hbr, -⟩ | ⟨e, text, answer, hput, hbr, -⟩
  · rw [hst, hbr, hw, Option.none_or]
  · obtain ⟨-, hput⟩ := Prod.mk.inj hput
    rw [← hput, MemoryCache.put, Fields.get?_insert, hbr]
    by_cases hu : uri = u
    · simp [hu]
    · simp [hu, Ne.symm hu, hw]

/-- **A run over the cache in memory** leaves the pair that was last brought for each URI. -/
theorem visits_memory (ks : List Task) (st : τ) (u : String) :
    let run := visits (fun _ => MemoryCache.store) t ks ⟨MemoryCache.empty, st, []⟩
    Fields.get? run.2.store u = lastBrought u (history run.1) :=
  visits_keep (P := fun h w => ∀ u, Fields.get? w.store u = lastBrought u h) (h := [])
    (fun h w k hw => visit_memory t h w k.config k.uri hw) ks (fun _ => rfl) u

/-! ## The cache over a database -/

/-- **A run over the cache over a database** leaves the row of the pair that was last brought for each URI, and the
index has its ETag. -/
theorem visits_table (ks : List Task) (st : τ) :
    let run := visits TableCache.store t ks ⟨TableCache.fresh, st, []⟩
    ∃ m, Mirrors m run.2.store ∧ ∀ u, Fields.get? m u = lastBrought u (history run.1) := by
  obtain ⟨hv, hr⟩ := visits_mirrors t ks Mirrors.fresh st []
  refine ⟨_, hr.store, fun u => ?_⟩
  rw [hv]
  exact visits_memory t ks st u

/-! ## Both -/

/-- Along every run from a state, whatever is answered, a store has what the history says, and fetches give back
nothing else. -/
structure KeepsHistory (s : String → Store σ) (held : σ → String → Option (String × String)) (start : σ) : Prop where
  /-- After every run the store has for each URI the pair that was last brought for it, and answers with its parts. -/
  holds : ∀ {τ : Type} (t : Http.Transport τ) (st : τ) (ks : List Task) (now u : String),
    let run := visits s t ks ⟨start, st, []⟩
    let last := lastBrought u (history run.1)
    held run.2.store u = last ∧ ((s now).etag? u run.2.store).1 = last.map (·.1) ∧
      ((s now).schema? u run.2.store).1 = last.map (·.2)
  /-- A content that a fetch after any run gives back is the body of a document for its URI, now or in the run. -/
  source : ∀ {τ : Type} (t : Http.Transport τ) (st : τ) (ks : List Task) (k : Task) (text : String),
    let run := visits s t ks ⟨start, st, []⟩
    let v := (visit (s k.now) t k.config k.uri run.2).1
    v.result = .ok text →
      ∃ q r, .request q (.ok r) ∈ history run.1 ++ v.events ∧ q.url = k.uri ∧ Http.IsDocument r ∧ r.body = text
  /-- A content that stands in for an unchanged document is the one that came with the ETag that was sent. -/
  matched : ∀ {τ : Type} (t : Http.Transport τ) (st : τ) (ks : List Task) (k : Task) (e text : String),
    let run := visits s t ks ⟨start, st, []⟩
    let v := (visit (s k.now) t k.config k.uri run.2).1
    v.Serves e text → lastBrought k.uri (history run.1) = some (e, text)

theorem keepsHistory_of_reads {s : String → Store σ} {held : σ → String → Option (String × String)} {start : σ}
    {etag schema : σ → String → Option String} (hs : ∀ now, (s now).Reads etag schema)
    (hruns : ∀ {τ : Type} (t : Http.Transport τ) (st : τ) (ks : List Task),
      let run := visits s t ks ⟨start, st, []⟩
      (∀ u, held run.2.store u = lastBrought u (history run.1)) ∧ Holds etag schema run.2.store (history run.1)) :
    KeepsHistory s held start where
  holds t st ks now u := by
    obtain ⟨hheld, hpair⟩ := hruns t st ks
    refine ⟨hheld u, ?_, ?_⟩
    · rw [(hs now).etag?]
      exact (hpair u).1
    · rw [(hs now).schema?]
      exact (hpair u).2
  source t st ks k text := source_of_held (hs k.now) (hruns t st ks).2
  matched t st ks k e text := held_of_serves (hs k.now) (hruns t st ks).2

theorem holds_memory {m : MemoryCache} {h : List Event} (hm : ∀ u, Fields.get? m u = lastBrought u h) :
    Holds MemoryCache.etag? MemoryCache.schema? m h := by
  intro u
  rw [MemoryCache.etag?, MemoryCache.schema?, hm]
  exact ⟨rfl, rfl⟩

end Fetch

/-- **Both caches keep up with the history** of the fetches over them, when nobody else changes them. -/
theorem caches_keep_history :
    Fetch.KeepsHistory (fun _ => MemoryCache.store) Fields.get? MemoryCache.empty ∧
      Fetch.KeepsHistory TableCache.store (·.db.pair?) TableCache.fresh := by
  constructor
  · refine Fetch.keepsHistory_of_reads (fun _ => MemoryCache.reads) fun t st ks => ?_
    have hm := Fetch.visits_memory t ks st
    exact ⟨hm, Fetch.holds_memory hm⟩
  · refine Fetch.keepsHistory_of_reads TableCache.reads fun t st ks => ?_
    obtain ⟨m, hr, hm⟩ := Fetch.visits_table t ks st
    refine ⟨fun u => (hr.pair? u).trans (hm u), fun u => ?_⟩
    rw [hr.etag?, hr.schema?]
    exact Fetch.holds_memory hm u

end SchemaRelay

import Mathlib.Logic.Function.Basic
import SchemaRelay.Proofs.Cache.Refinement

/-!
# Fetches of different URIs are independent

Where the replies to the requests for a URL come from a state of their own (`Http.Transport.perUrl`), a fetch reads and
changes nothing but what belongs to its URI: the pair in the store and the state of the transport. In worlds that are
alike for a URI a fetch of it does the same (`visit_alike`), and a fetch of another URI leaves the world alike
(`visit_apart`). So a run is for each URI the run of the fetches of that URI alone, and the order of fetches of different
URIs does not matter (`fetches_independent`). The cache over a database has this from the one in memory, which it refines.
-/

namespace SchemaRelay

variable {σ τ : Type}

/-- A transport that has a state for each URL and answers a request from the state of its URL. -/
def Http.Transport.perUrl (t : Http.Transport τ) : Http.Transport (String → τ) := fun q states =>
  let (answer, state) := t q (states q.url)
  (answer, Function.update states q.url state)

/-- The URI that a call is about. -/
def Call.uri : Call → String
  | .etag u => u
  | .schema u => u
  | .put u _ _ => u
  | .request q => q.url

theorem Event.uri_call (ev : Event) : ev.call.uri = ev.uri := by
  cases ev <;> rfl

namespace Fetch

/-! ## Worlds that are alike for a URI -/

/-- The pair of a URI and the state of its transport are the same. -/
structure Alike (u : String) (w w' : World MemoryCache (String → τ)) : Prop where
  pair : Fields.get? w.store u = Fields.get? w'.store u
  state : w.transport u = w'.transport u

variable {t : Http.Transport τ} {u : String}

theorem Alike.refl (u : String) (w : World MemoryCache (String → τ)) : Alike u w w := ⟨rfl, rfl⟩

theorem Alike.trans {w₁ w₂ w₃ : World MemoryCache (String → τ)} (h : Alike u w₁ w₂) (h' : Alike u w₂ w₃) :
    Alike u w₁ w₃ := ⟨h.pair.trans h'.pair, h.state.trans h'.state⟩

theorem Alike.symm {w w' : World MemoryCache (String → τ)} (h : Alike u w w') : Alike u w' w :=
  ⟨h.pair.symm, h.state.symm⟩

/-- A call about the URI is answered alike and leaves the worlds alike. -/
theorem perform_alike {w w' : World MemoryCache (String → τ)} {c : Call} (hc : c.uri = u) (h : Alike u w w') :
    (w.perform MemoryCache.store t.perUrl c).1 = (w'.perform MemoryCache.store t.perUrl c).1 ∧
      Alike u (w.perform MemoryCache.store t.perUrl c).2 (w'.perform MemoryCache.store t.perUrl c).2 := by
  obtain ⟨hp, ht⟩ := h
  subst hc
  cases c with
  | etag v =>
    have ha : w.store.etag? v = w'.store.etag? v := congrArg (Option.map Prod.fst) hp
    exact ⟨congrArg (Event.etag v) ha, hp, ht⟩
  | schema v =>
    have ha : w.store.schema? v = w'.store.schema? v := congrArg (Option.map Prod.snd) hp
    exact ⟨congrArg (Event.schema v) ha, hp, ht⟩
  | put v e text =>
    refine ⟨rfl, ?_, ht⟩
    change (Fields.insert w.store v (e, text)).get? v = (Fields.insert w'.store v (e, text)).get? v
    rw [Fields.get?_insert, Fields.get?_insert, if_pos rfl, if_pos rfl]
  | request q =>
    have hq : t q (w.transport q.url) = t q (w'.transport q.url) := congrArg (t q) ht
    refine ⟨congrArg (Event.request q) (congrArg Prod.fst hq), hp, ?_⟩
    change Function.update w.transport q.url (t q (w.transport q.url)).2 q.url =
      Function.update w'.transport q.url (t q (w'.transport q.url)).2 q.url
    rw [Function.update_self, Function.update_self, hq]

/-- A call about another URI changes nothing for this one. -/
theorem perform_apart {w : World MemoryCache (String → τ)} {c : Call} (hc : c.uri ≠ u) :
    Alike u w (w.perform MemoryCache.store t.perUrl c).2 := by
  cases c with
  | etag v => exact ⟨rfl, rfl⟩
  | schema v => exact ⟨rfl, rfl⟩
  | put v e text =>
    have hv : v ≠ u := hc
    refine ⟨?_, rfl⟩
    change Fields.get? w.store u = (Fields.insert w.store v (e, text)).get? u
    rw [Fields.get?_insert, if_neg hv]
  | request q => exact ⟨rfl, (Function.update_of_ne (Ne.symm hc) _ _).symm⟩

theorem plays_apart {tr : List Event} {w w' : World MemoryCache (String → τ)}
    (hpl : Plays MemoryCache.store t.perUrl w tr w') (htr : ∀ ev ∈ tr, ev.uri ≠ u) : Alike u w w' := by
  induction tr generalizing w with
  | nil => exact plays_nil.1 hpl ▸ Alike.refl u w
  | cons ev tr ih =>
    obtain ⟨v, hv, hrest⟩ := plays_cons.1 hpl
    have hfirst : Alike u w v := by
      have h := perform_apart (t := t) (w := w) (ev.uri_call.trans_ne (htr ev List.mem_cons_self))
      rwa [hv] at h
    exact hfirst.trans (ih hrest fun ev hm => htr ev (List.mem_cons_of_mem _ hm))

/-! ## Fetches -/

/-- A fetch of a URI does the same in worlds that are alike for it. -/
theorem visit_alike {w w' : World MemoryCache (String → τ)} (h : Alike u w w') (c : FetchConfig) :
    (visit MemoryCache.store t.perUrl c u w).1 = (visit MemoryCache.store t.perUrl c u w').1 ∧
      Alike u (visit MemoryCache.store t.perUrl c u w).2 (visit MemoryCache.store t.perUrl c u w').2 := by
  obtain ⟨hf, hpl⟩ := visit_course MemoryCache.store t.perUrl c u w
  obtain ⟨v', hpl', hv⟩ := hpl.follow h fun ev hm _ _ hw => perform_alike (ev.uri_call.trans (hf.about ev hm)) hw
  have hvisit : visit MemoryCache.store t.perUrl c u w' = ((visit MemoryCache.store t.perUrl c u w).1, v') :=
    visit_eq rfl hf hpl'
  rw [hvisit]
  exact ⟨rfl, hv⟩

/-- A fetch of another URI leaves the world alike for this one. -/
theorem visit_apart {uri : String} (hu : uri ≠ u) (c : FetchConfig) (w : World MemoryCache (String → τ)) :
    Alike u w (visit MemoryCache.store t.perUrl c uri w).2 := by
  obtain ⟨hf, hpl⟩ := visit_course MemoryCache.store t.perUrl c uri w
  exact plays_apart hpl fun ev hm => (hf.about ev hm).trans_ne hu

/-! ## Runs -/

/-- A run over the cache in memory is for a URI the run of the fetches of that URI. -/
theorem visits_alike (ks : List Task) {w w' : World MemoryCache (String → τ)} (h : Alike u w w') :
    let run := visits (fun _ => MemoryCache.store) t.perUrl ks w
    let alone := visits (fun _ => MemoryCache.store) t.perUrl (ks.filter (·.uri = u)) w'
    run.1.filter (·.uri = u) = alone.1 ∧ Alike u run.2 alone.2 := by
  induction ks generalizing w w' with
  | nil => exact ⟨rfl, h⟩
  | cons k ks ih =>
    by_cases hk : k.uri = u
    -- a fetch of the URI is the first of both runs, any other is left out of the run alone
    · subst hk
      obtain ⟨hv, hw⟩ := visit_alike (t := t) h k.config
      obtain ⟨hvs, hws⟩ := ih hw
      have hfirst : (visit MemoryCache.store t.perUrl k.config k.uri w').1.uri = k.uri := rfl
      simp only [List.filter_cons, visits, hvs, hv, hfirst, decide_true, if_true]
      exact ⟨trivial, hws⟩
    · obtain ⟨hvs, hws⟩ := ih ((visit_apart hk k.config w).symm.trans h)
      have huri : (visit MemoryCache.store t.perUrl k.config k.uri w).1.uri = k.uri := rfl
      simp only [List.filter_cons, hk, decide_false, Bool.false_eq_true, if_false, visits, huri]
      exact ⟨hvs, hws⟩

/-- A fetch that is to be made, apart from its time. -/
def Task.undated (k : Task) : FetchConfig × String := (k.config, k.uri)

/-- Time is nothing to a store that is not told of it. -/
theorem visits_undated {s : Store σ} {t : Http.Transport τ} {ks ks' : List Task}
    (h : ks.map Task.undated = ks'.map Task.undated) (w : World σ τ) :
    visits (fun _ => s) t ks w = visits (fun _ => s) t ks' w := by
  induction ks generalizing ks' w with
  | nil =>
    cases ks' with
    | nil => rfl
    | cons k' ks' => cases h
  | cons k ks ih =>
    cases ks' with
    | nil => cases h
    | cons k' ks' =>
      obtain ⟨hk, hks⟩ := List.cons.inj h
      obtain ⟨hconfig, huri⟩ := Prod.mk.inj hk
      simp only [visits, hconfig, huri, ih hks]

theorem history_filter {vs : List Visit} (h : ∀ v ∈ vs, ∀ ev ∈ v.events, ev.uri = v.uri) (u : String) :
    (history vs).filter (·.uri = u) = history (vs.filter (·.uri = u)) := by
  induction vs with
  | nil => rfl
  | cons v vs ih =>
    have hvs := ih fun v hm => h v (List.mem_cons_of_mem _ hm)
    have hv := h v List.mem_cons_self
    simp only [history] at hvs ⊢
    rw [List.flatMap_cons, List.filter_append, hvs, List.filter_cons]
    by_cases hu : v.uri = u
    · have hall : v.events.filter (·.uri = u) = v.events :=
        List.filter_eq_self.2 fun ev hm => decide_eq_true ((hv ev hm).trans hu)
      rw [hall, if_pos (decide_eq_true hu), List.flatMap_cons]
    · have hnone : v.events.filter (·.uri = u) = [] :=
        List.filter_eq_nil_iff.2 fun ev hm hev => hu ((hv ev hm).symm.trans (of_decide_eq_true hev))
      rw [hnone, if_neg (by simpa using hu), List.nil_append]

/-- The calls of a run about a URI are those of its fetches of that URI. -/
theorem visits_calls_filter (s : String → Store σ) (t : Http.Transport τ) (ks : List Task) (start : σ) (st : τ)
    (u : String) :
    let run := visits s t ks ⟨start, st, []⟩
    run.2.calls.filter (·.uri = u) = (history (run.1.filter (·.uri = u))).map Event.call := by
  intro run
  have hcalls : run.2.calls = (history run.1).map Event.call := visits_calls ks _
  have hpred : (fun ev : Event => decide (ev.call.uri = u)) = fun ev => decide (ev.uri = u) :=
    funext fun ev => by rw [ev.uri_call]
  rw [hcalls, List.filter_map, ← history_filter (visits_about ks _)]
  exact congrArg (fun p => ((history run.1).filter p).map Event.call) hpred

/-- From a state, whatever is answered, a store that is asked for several URIs has for each what it has when it is asked
for that one only. -/
structure Independent {α : Type} (s : String → Store σ) (held : σ → String → α) (start : σ) : Prop where
  /-- The fetches of a URI, all calls about it and what the store then has of it are as in the run of these fetches alone,
  whenever they are made. -/
  alone : ∀ {τ : Type} (t : Http.Transport τ) (states : String → τ) (ks ks' : List Task) (u : String),
    ks'.map Task.undated = (ks.filter (·.uri = u)).map Task.undated →
      let run := visits s t.perUrl ks ⟨start, states, []⟩
      let alone := visits s t.perUrl ks' ⟨start, states, []⟩
      run.1.filter (·.uri = u) = alone.1 ∧ run.2.calls.filter (·.uri = u) = alone.2.calls ∧
        held run.2.store u = held alone.2.store u
  /-- Two runs that make the same fetches of each URI in the same order are the same for each URI. -/
  reordered : ∀ {τ : Type} (t : Http.Transport τ) (states : String → τ) (ks ks' : List Task),
    (∀ u, (ks.filter (·.uri = u)).map Task.undated = (ks'.filter (·.uri = u)).map Task.undated) →
      let run := visits s t.perUrl ks ⟨start, states, []⟩
      let run' := visits s t.perUrl ks' ⟨start, states, []⟩
      ∀ u, run.1.filter (·.uri = u) = run'.1.filter (·.uri = u) ∧
        run.2.calls.filter (·.uri = u) = run'.2.calls.filter (·.uri = u) ∧
        held run.2.store u = held run'.2.store u

/-- The calls are decided by the fetches, and a reordered run by the runs of each URI alone. -/
theorem independent_of_alone {α : Type} {s : String → Store σ} {held : σ → String → α} {start : σ}
    (h : ∀ {τ : Type} (t : Http.Transport τ) (states : String → τ) (ks ks' : List Task) (u : String),
      ks'.map Task.undated = (ks.filter (·.uri = u)).map Task.undated →
        let run := visits s t.perUrl ks ⟨start, states, []⟩
        let alone := visits s t.perUrl ks' ⟨start, states, []⟩
        run.1.filter (·.uri = u) = alone.1 ∧ held run.2.store u = held alone.2.store u) :
    Independent s held start where
  alone t states ks ks' u hks := by
    intro run alone
    obtain ⟨hv, hheld⟩ := h t states ks ks' u hks
    have hcalls : alone.2.calls = (history alone.1).map Event.call := visits_calls ks' _
    refine ⟨hv, ?_, hheld⟩
    rw [visits_calls_filter, hcalls, hv]
  reordered t states ks ks' hks := by
    intro run run' u
    obtain ⟨hv, hheld⟩ := h t states ks (ks.filter (·.uri = u)) u rfl
    obtain ⟨hv', hheld'⟩ := h t states ks' (ks.filter (·.uri = u)) u (hks u)
    have hvisits : run.1.filter (·.uri = u) = run'.1.filter (·.uri = u) := hv.trans hv'.symm
    refine ⟨hvisits, ?_, hheld.trans hheld'.symm⟩
    rw [visits_calls_filter, visits_calls_filter, hvisits]

/-- The fetches of a URI and its pair are as in the run of these fetches alone. -/
theorem visits_memory_alone (t : Http.Transport τ) (states : String → τ) {ks ks' : List Task} {u : String}
    (h : ks'.map Task.undated = (ks.filter (·.uri = u)).map Task.undated) :
    let run := visits (fun _ => MemoryCache.store) t.perUrl ks ⟨MemoryCache.empty, states, []⟩
    let alone := visits (fun _ => MemoryCache.store) t.perUrl ks' ⟨MemoryCache.empty, states, []⟩
    run.1.filter (·.uri = u) = alone.1 ∧ Fields.get? run.2.store u = Fields.get? alone.2.store u := by
  intro run alone
  have hundated : alone = _ := visits_undated h _
  obtain ⟨hv, hw⟩ := visits_alike (t := t) ks (Alike.refl u ⟨MemoryCache.empty, states, []⟩)
  rw [hundated]
  exact ⟨hv, hw.pair⟩

end Fetch

/-- What a cache over a database has of a URI: the ETag in its index and its entry, apart from the time of that. -/
def TableCache.holding (c : TableCache) (uri : String) : Option String × Except Error (Option CacheEntry) :=
  (c.etag? uri, (c.entry uri).map (Option.map CacheEntry.undated))

/-- Caches that mirror caches with the same pair have the same. -/
theorem Mirrors.holding_eq {m m' : MemoryCache} {c c' : TableCache} (h : Mirrors m c) (h' : Mirrors m' c')
    {uri : String} (hp : Fields.get? m uri = Fields.get? m' uri) : c.holding uri = c'.holding uri := by
  have hetag : m.etag? uri = m'.etag? uri := congrArg (Option.map Prod.fst) hp
  rw [TableCache.holding, TableCache.holding, h.etag?, h'.etag?, h.entry_undated, h'.entry_undated, hetag, hp]

/-- **Fetches of different URIs are independent** in both caches, when nobody else changes them. -/
theorem fetches_independent :
    Fetch.Independent (fun _ => MemoryCache.store) Fields.get? MemoryCache.empty ∧
      Fetch.Independent TableCache.store TableCache.holding TableCache.fresh := by
  constructor
  · exact Fetch.independent_of_alone fun t states _ _ _ h => Fetch.visits_memory_alone t states h
  · refine Fetch.independent_of_alone fun t states ks ks' u h => ?_
    obtain ⟨hv, hr⟩ := visits_mirrors t.perUrl ks Mirrors.fresh states []
    obtain ⟨hv', hr'⟩ := visits_mirrors t.perUrl ks' Mirrors.fresh states []
    obtain ⟨hm, hp⟩ := Fetch.visits_memory_alone t states h
    refine ⟨?_, hr.store.holding_eq hr'.store hp⟩
    rw [hv, hv']
    exact hm

end SchemaRelay

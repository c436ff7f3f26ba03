import SchemaRelay.Proofs.Fetch.Visit

/-!
# Runs of fetches

Fetches one after the other over one store and one transport (`visits`), with all their events (`history`). What every
fetch keeps, whatever the history before it, every run keeps (`visits_keep`). The calls of a run are those of its events
(`visits_calls`), and each fetch makes only calls about its own URI (`visits_about`).

Where two stores answer alike and go on doing so (`Store.Simulates`), no fetch and no run can tell them apart
(`visit_sim`, `visits_sim`): the tree decides a fetch by the answers alone.
-/

namespace SchemaRelay

variable {σ σ' τ : Type}

namespace Fetch

/-- A fetch that is to be made: when, with which settings, and of what. -/
structure Task where
  now : String
  config : FetchConfig
  uri : String

/-- Makes fetches one after the other, over a store that is told the time of each. -/
def visits (s : String → Store σ) (t : Http.Transport τ) : List Task → World σ τ → List Visit × World σ τ
  | [], w => ([], w)
  | k :: ks, w =>
    let (v, w) := visit (s k.now) t k.config k.uri w
    let (vs, w) := visits s t ks w
    (v :: vs, w)

/-- All that was called and answered in a run. -/
def history (vs : List Visit) : List Event := vs.flatMap (·.events)

/-- What every fetch keeps, every run keeps. -/
theorem visits_keep {s : String → Store σ} {t : Http.Transport τ} {P : List Event → World σ τ → Prop}
    (hstep : ∀ h w (k : Task), P h w →
      P (h ++ (visit (s k.now) t k.config k.uri w).1.events) (visit (s k.now) t k.config k.uri w).2)
    (ks : List Task) {h : List Event} {w : World σ τ} (hw : P h w) :
    P (h ++ history (visits s t ks w).1) (visits s t ks w).2 := by
  induction ks generalizing h w with
  | nil => simpa [visits, history] using hw
  | cons k ks ih => simpa [visits, history, List.append_assoc] using ih (hstep h w k hw)

section Append

variable {s : String → Store σ} {t : Http.Transport τ}

/-- A run goes on where the one before it ended. -/
theorem visits_append (ks ks' : List Task) (w : World σ τ) :
    visits s t (ks ++ ks') w = ((visits s t ks w).1 ++ (visits s t ks' (visits s t ks w).2).1,
      (visits s t ks' (visits s t ks w).2).2) := by
  induction ks generalizing w with
  | nil => rfl
  | cons k ks ih => simp only [List.cons_append, visits, ih]

theorem history_append (vs vs' : List Visit) : history (vs ++ vs') = history vs ++ history vs' := List.flatMap_append

/-- The calls of a run are those of its fetches. -/
theorem visits_calls (ks : List Task) (w : World σ τ) :
    (visits s t ks w).2.calls = w.calls ++ (history (visits s t ks w).1).map Event.call := by
  induction ks generalizing w with
  | nil => simp [visits, history]
  | cons k ks ih =>
    have hv := (visit_course (s k.now) t k.config k.uri w).2.calls
    simp only [visits, ih, hv]
    simp [history]

/-- All that happens in a fetch is about its URI. -/
theorem visits_about (ks : List Task) (w : World σ τ) :
    ∀ v ∈ (visits s t ks w).1, ∀ ev ∈ v.events, ev.uri = v.uri := by
  induction ks generalizing w with
  | nil => simp [visits]
  | cons k ks ih =>
    intro v hv
    rcases List.mem_cons.1 hv with rfl | hv
    · exact (visit_course (s k.now) t k.config k.uri w).1.about
    · exact ih _ v hv

end Append

end Fetch

/-! ## Stores that answer alike -/

/-- From related states two stores give the same answers and leave related states behind. -/
structure Store.Simulates (s : Store σ) (s' : Store σ') (R : σ → σ' → Prop) : Prop where
  etag? : ∀ {st st'}, R st st' → ∀ u,
    (s.etag? u st).1 = (s'.etag? u st').1 ∧ R (s.etag? u st).2 (s'.etag? u st').2
  schema? : ∀ {st st'}, R st st' → ∀ u,
    (s.schema? u st).1 = (s'.schema? u st').1 ∧ R (s.schema? u st).2 (s'.schema? u st').2
  put : ∀ {st st'}, R st st' → ∀ u e text,
    (s.put u e text st).1 = (s'.put u e text st').1 ∧ R (s.put u e text st).2 (s'.put u e text st').2

/-- Worlds with related stores and all else the same. -/
structure World.Related (R : σ → σ' → Prop) (w : World σ τ) (w' : World σ' τ) : Prop where
  store : R w.store w'.store
  transport : w.transport = w'.transport
  calls : w.calls = w'.calls

section Simulation

variable {s : Store σ} {s' : Store σ'} {R : σ → σ' → Prop} {t : Http.Transport τ}

/-- A transcript can be played in another world as well if each of its calls, made in related worlds, has the same
answer and leaves related worlds behind. -/
theorem Plays.follow {τ' : Type} {t' : Http.Transport τ'} {Q : World σ τ → World σ' τ' → Prop} {w v : World σ τ}
    {w' : World σ' τ'} {tr : List Event} (hpl : Plays s t w tr v) (h : Q w w')
    (hstep : ∀ ev ∈ tr, ∀ w w', Q w w' → (w.perform s t ev.call).1 = (w'.perform s' t' ev.call).1 ∧
      Q (w.perform s t ev.call).2 (w'.perform s' t' ev.call).2) :
    ∃ v', Plays s' t' w' tr v' ∧ Q v v' := by
  induction tr generalizing w w' with
  | nil => exact ⟨w', plays_nil.2 rfl, plays_nil.1 hpl ▸ h⟩
  | cons ev tr ih =>
    obtain ⟨u, hev, htr⟩ := plays_cons.1 hpl
    obtain ⟨ha, hr⟩ := hstep ev List.mem_cons_self w w' h
    rw [hev] at ha hr
    obtain ⟨v', htr', hv⟩ := ih htr hr fun ev hm => hstep ev (List.mem_cons_of_mem _ hm)
    exact ⟨v', plays_cons.2 ⟨_, Prod.ext ha.symm rfl, htr'⟩, hv⟩

theorem perform_sim (hs : s.Simulates s' R) {w : World σ τ} {w' : World σ' τ} (h : World.Related R w w') (c : Call) :
    (w.perform s t c).1 = (w'.perform s' t c).1 ∧ World.Related R (w.perform s t c).2 (w'.perform s' t c).2 := by
  obtain ⟨hst, ht, hc⟩ := h
  cases c with
  | etag u =>
    obtain ⟨ha, hr⟩ := hs.etag? hst u
    exact ⟨congrArg (Event.etag u) ha, ⟨hr, ht, congrArg (· ++ [Call.etag u]) hc⟩⟩
  | schema u =>
    obtain ⟨ha, hr⟩ := hs.schema? hst u
    exact ⟨congrArg (Event.schema u) ha, ⟨hr, ht, congrArg (· ++ [Call.schema u]) hc⟩⟩
  | put u e text =>
    obtain ⟨ha, hr⟩ := hs.put hst u e text
    exact ⟨congrArg (Event.put u e text) ha, ⟨hr, ht, congrArg (· ++ [Call.put u e text]) hc⟩⟩
  | request q =>
    have hq : t q w.transport = t q w'.transport := by rw [ht]
    refine ⟨?_, ⟨hst, congrArg (·.2) hq, congrArg (· ++ [Call.request q]) hc⟩⟩
    simp only [World.perform, World.send, hq]

theorem Plays.sim (hs : s.Simulates s' R) {w v : World σ τ} {w' : World σ' τ} {tr : List Event}
    (hpl : Plays s t w tr v) (h : World.Related R w w') :
    ∃ v', Plays s' t w' tr v' ∧ World.Related R v v' :=
  hpl.follow h fun ev _ _ _ hw => perform_sim hs hw ev.call

namespace Fetch

/-- A fetch cannot tell stores apart that answer alike. -/
theorem visit_sim (hs : s.Simulates s' R) {w : World σ τ} {w' : World σ' τ} (h : World.Related R w w')
    (c : FetchConfig) (uri : String) :
    (visit s t c uri w).1 = (visit s' t c uri w').1 ∧
      World.Related R (visit s t c uri w).2 (visit s' t c uri w').2 := by
  obtain ⟨hf, hpl⟩ := visit_course s t c uri w
  obtain ⟨v', hpl', hv⟩ := hpl.sim hs h
  have heq : visit s' t c uri w' = ((visit s t c uri w).1, v') := visit_eq rfl hf hpl'
  rw [heq]
  exact ⟨rfl, hv⟩

/-- Nor can a run. -/
theorem visits_sim {s : String → Store σ} {s' : String → Store σ'} (hs : ∀ now, (s now).Simulates (s' now) R)
    (ks : List Task) {w : World σ τ} {w' : World σ' τ} (h : World.Related R w w') :
    (visits s t ks w).1 = (visits s' t ks w').1 ∧
      World.Related R (visits s t ks w).2 (visits s' t ks w').2 := by
  induction ks generalizing w w' with
  | nil => exact ⟨rfl, h⟩
  | cons k ks ih =>
    obtain ⟨hv, hr⟩ := visit_sim (t := t) (hs k.now) h k.config k.uri
    obtain ⟨hvs, hrs⟩ := ih hr
    exact ⟨by simp only [visits, hv, hvs], hrs⟩

end Fetch

end Simulation

end SchemaRelay

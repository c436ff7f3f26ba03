import SchemaRelay.Proofs.Fetch.Tree

/-!
# Single fetches

What every course of a fetch has in common, read off the tree: all its calls are about one URI (`Fetched.about`), it
puts at most one pair, at its end, and that is the pair that its last reply brought (`Fetched.puts`), and a content that
it gives back comes from a reply or from the store (`Fetched.source`).

Over a store that only a put changes (`Store.Reads`) this says what a fetch was told by the store and what it left
behind (`visit_answers`, `visit_store`).
-/

namespace SchemaRelay

variable {σ τ : Type}

namespace Event

/-- The URI that an event is about. -/
def uri : Event → String
  | .etag u _ => u
  | .schema u _ => u
  | .put u _ _ _ => u
  | .request q _ => q.url

/-- The ETag and the body of a document for a URI, if the event is a reply that brings one with an ETag. -/
def brings (u : String) : Event → Option (String × String)
  | .request q (.ok r) => if q.url = u ∧ r.isSuccess then r.etag?.map fun e => (e, r.body) else none
  | _ => none

/-- The ETag and the content that a store took for a URI. -/
def takes (u : String) : Event → Option (String × String)
  | .put v e text (.ok ()) => if v = u then some (e, text) else none
  | _ => none

/-- The event is no put. -/
def IsRead : Event → Prop
  | .put _ _ _ _ => False
  | _ => True

theorem brings_eq_some_iff {u : String} {ev : Event} {p : String × String} :
    ev.brings u = some p ↔ ∃ q r, ev = .request q (.ok r) ∧ q.url = u ∧ Http.IsDocument r ∧ Http.Validates r p.1 ∧
      r.body = p.2 := by
  obtain ⟨e, text⟩ := p
  constructor
  · intro h
    match ev with
    | .request q (.ok r) =>
      simp only [brings, Option.ite_none_right_eq_some, Option.map_eq_some_iff, Prod.mk.injEq] at h
      obtain ⟨⟨hu, hd⟩, e', he, rfl, rfl⟩ := h
      exact ⟨q, r, rfl, hu, (Http.isSuccess_iff r).1 hd, Http.etag?_eq_some_iff.1 he, rfl⟩
  · rintro ⟨q, r, rfl, rfl, hd, he, rfl⟩
    simp [brings, (Http.isSuccess_iff r).2 hd, Http.etag?_eq_some_iff.2 he]

theorem IsRead.takes {ev : Event} (h : ev.IsRead) (u : String) : ev.takes u = none := by
  cases ev with
  | put => exact h.elim
  | _ => rfl

end Event

namespace Fetch

variable {c : FetchConfig} {uri : String} {tr : List Event} {result : Except Error String}

/-! ## The shape of a course -/

theorem Stored.about {r : Http.Response} (h : Stored uri r tr) : ∀ ev ∈ tr, ev.uri = uri := by
  cases h <;> simp [Event.uri]

theorem Recalled.about {text : Option String} (h : Recalled uri tr text) : ∀ ev ∈ tr, ev.uri = uri := by
  cases h <;> simp [Event.uri]

theorem Retried.about (h : Retried c uri tr result) : ∀ ev ∈ tr, ev.uri = uri := by
  rcases h with ⟨-, hp⟩ | _ | _
  · simpa [Event.uri] using hp.about
  · simp [Event.uri]
  · simp [Event.uri]

/-- All calls of a fetch are about its URI. -/
theorem Fetched.about (h : Fetched c uri tr result) : ∀ ev ∈ tr, ev.uri = uri := by
  rcases h with ⟨-, -, hp⟩ | _ | ⟨-, -, ht⟩ | ⟨-, -, hrec⟩ | ⟨-, -, hrec⟩
  · simpa [Event.uri] using hp.about
  · simp [Event.uri]
  · simpa [Event.uri] using ht.about
  · simpa [Event.uri] using hrec.about
  · simpa [Event.uri] using hrec.about

/-- A course reads and asks first, and then puts nothing, no reply having brought a pair, or puts the one pair that a
reply brought. -/
def PutsBrought (uri : String) (tr : List Event) : Prop :=
  ∃ asked stored, tr = asked ++ stored ∧ (∀ ev ∈ asked, ev.IsRead) ∧
    ((stored = [] ∧ ∀ u, tr.filterMap (Event.brings u) = []) ∨
      ∃ e text answer, stored = [.put uri e text answer] ∧
        ∀ u, tr.filterMap (Event.brings u) = if u = uri then [(e, text)] else [])

theorem brings_request_refused {q : Http.Request} {reply : Except Http.TransportError Http.Response}
    {failure : Failure} (h : Refusal reply failure) (u : String) : (Event.request q reply).brings u = none := by
  cases h with
  | @remote r hd _ =>
    have hns : r.isSuccess = false := Bool.eq_false_iff.2 fun h => hd ((Http.isSuccess_iff r).1 h)
    simp [Event.brings, hns]
  | transport => rfl

theorem brings_request_unchanged {q : Http.Request} {r : Http.Response} (h304 : r.status = 304) (u : String) :
    (Event.request q (.ok r)).brings u = none := by
  simp [Event.brings, Http.Response.isSuccess, h304]

/-- A document after reads that brought nothing. -/
theorem putsBrought_document {q : Http.Request} {r : Http.Response} (before : List Event) {stored : List Event}
    (hread : ∀ ev ∈ before, ev.IsRead) (hno : ∀ u, before.filterMap (Event.brings u) = []) (hq : q.url = uri)
    (hd : Http.IsDocument r) (hp : Stored uri r stored) :
    PutsBrought uri (before ++ .request q (.ok r) :: stored) := by
  have hs := (Http.isSuccess_iff r).2 hd
  refine ⟨before ++ [.request q (.ok r)], stored, by simp, ?_, ?_⟩
  · simpa [or_imp, forall_and, Event.IsRead] using hread
  · cases hp with
    | @put e he answer =>
      refine .inr ⟨e, r.body, answer, rfl, fun u => ?_⟩
      have hbr : (Event.request q (.ok r)).brings u = if u = uri then some (e, r.body) else none := by
        simp [Event.brings, hq, hs, Http.etag?_eq_some_iff.2 he, eq_comm]
      have hput : (Event.put uri e r.body answer).brings u = none := rfl
      by_cases hu : u = uri
      · subst hu
        simp [hno, hbr, hput]
      · simp [hno, hbr, hput, hu]
    | skip he =>
      refine .inl ⟨rfl, fun u => ?_⟩
      have hbr : (Event.request q (.ok r)).brings u = none := by
        simp [Event.brings, Http.etag?_eq_none_iff.2 he]
      simp [hno, hbr]

/-- A course that brings nothing and puts nothing. -/
theorem putsBrought_nothing (hread : ∀ ev ∈ tr, ev.IsRead) (hno : ∀ u, tr.filterMap (Event.brings u) = []) :
    PutsBrought uri tr :=
  ⟨tr, [], by simp, hread, .inl ⟨rfl, hno⟩⟩

theorem Recalled.isRead {text : Option String} (h : Recalled uri tr text) : ∀ ev ∈ tr, ev.IsRead := by
  cases h <;> simp [Event.IsRead]

theorem Recalled.brings {text : Option String} (h : Recalled uri tr text) (u : String) :
    tr.filterMap (Event.brings u) = [] := by
  cases h <;> rfl

/-- A refused first request, and what the store was asked after it. -/
theorem putsBrought_refused {etag : Option String} {q : Http.Request}
    {reply : Except Http.TransportError Http.Response} {failure : Failure} {text : Option String}
    (hr : Refusal reply failure) (hrec : Recalled uri tr text) :
    PutsBrought uri (.etag uri etag :: .request q reply :: tr) := by
  refine putsBrought_nothing ?_ fun u => ?_
  · simpa [Event.IsRead] using hrec.isRead
  · have hq := brings_request_refused (q := q) hr u
    have he : (Event.etag uri etag).brings u = none := rfl
    simp [he, hq, hrec.brings u]

/-- **What is put.** Every course puts exactly the pairs that its replies bring, and nothing comes after a put. -/
theorem Fetched.puts (h : Fetched c uri tr result) : PutsBrought uri tr := by
  rcases h with ⟨-, hd, hp⟩ | ⟨-, h304⟩ | ⟨-, h304, ht⟩ | ⟨-, hr, hrec⟩ | ⟨-, hr, hrec⟩
  · exact putsBrought_document [.etag uri _] (by simp [Event.IsRead]) (fun _ => rfl) rfl hd hp
  · refine putsBrought_nothing (by simp [Event.IsRead]) fun u => ?_
    simp [List.filterMap_cons, Event.brings, Http.Response.isSuccess, h304]
  · rcases ht with ⟨hd, hp⟩ | h304' | hr
    · refine putsBrought_document [.etag uri _, .request _ (.ok _), .schema uri none] (by simp [Event.IsRead])
        (fun u => ?_) rfl hd hp
      simp [List.filterMap_cons, Event.brings, Http.Response.isSuccess, h304]
    · refine putsBrought_nothing (by simp [Event.IsRead]) fun u => ?_
      simp [List.filterMap_cons, Event.brings, Http.Response.isSuccess, h304, h304']
    · refine putsBrought_nothing (by simp [Event.IsRead]) fun u => ?_
      rw [List.filterMap_cons_none rfl, List.filterMap_cons_none (brings_request_unchanged h304 u),
        List.filterMap_cons_none rfl, List.filterMap_cons_none (brings_request_refused hr u), List.filterMap_nil]
  · exact putsBrought_refused hr hrec
  · exact putsBrought_refused hr hrec

theorem Retried.source {text : String} (h : Retried c uri tr (.ok text)) :
    ∃ q r, .request q (.ok r) ∈ tr ∧ Http.IsDocument r ∧ r.body = text := by
  generalize hres : (Except.ok text : Except Error String) = result at h
  rcases h with ⟨hd, -⟩ | _ | _
  · cases hres
    exact ⟨_, _, List.mem_cons_self, hd, rfl⟩
  · cases hres
  · cases hres

/-- A content that is given back is the body of a document or was read from the store. -/
theorem Fetched.source {text : String} (h : Fetched c uri tr (.ok text)) :
    (∃ q r, .request q (.ok r) ∈ tr ∧ Http.IsDocument r ∧ r.body = text) ∨ .schema uri (some text) ∈ tr := by
  generalize hres : (Except.ok text : Except Error String) = result at h
  rcases h with ⟨-, hd, -⟩ | _ | ⟨-, -, ht⟩ | ⟨-, -, hrec⟩ | _
  · cases hres
    exact .inl ⟨_, _, List.mem_cons_of_mem _ List.mem_cons_self, hd, rfl⟩
  · cases hres
    exact .inr (by simp)
  · subst hres
    obtain ⟨q, r, hm, hd, hb⟩ := ht.source
    have hm' := List.mem_cons_of_mem (.schema uri none) hm
    exact .inl ⟨q, r, List.mem_cons_of_mem _ (List.mem_cons_of_mem _ hm'), hd, hb⟩
  · cases hres
    cases hrec
    exact .inr (by simp)
  · cases hres

/-- A header field with an ETag was made of the store's answer. -/
theorem Conditions.etag_of_mem {etag : Option String} {hs : List Http.Header} {e : String} (h : Conditions etag hs)
    (he : ⟨"if-none-match", Http.Header.bytes e⟩ ∈ hs) : etag = some e := by
  cases h with
  | usable _ _ =>
    simp only [List.mem_singleton, Http.Header.mk.injEq, true_and] at he
    rw [Http.Header.bytes_injective he]
  | unusable _ => cases he
  | unknown => cases he

theorem Stored.request_notMem {r : Http.Response} (h : Stored uri r tr) (q : Http.Request)
    (reply : Except Http.TransportError Http.Response) : .request q reply ∉ tr := by
  cases h <;> simp

theorem Recalled.request_notMem {text : Option String} (h : Recalled uri tr text) (q : Http.Request)
    (reply : Except Http.TransportError Http.Response) : .request q reply ∉ tr := by
  cases h <;> simp

/-- The further request has no condition. -/
theorem Retried.headers {q : Http.Request} {reply : Except Http.TransportError Http.Response}
    (h : Retried c uri tr result) (hq : .request q reply ∈ tr) : q.headers = [] := by
  rcases h with ⟨-, hp⟩ | _ | _
  · rcases List.mem_cons.1 hq with hq | hq
    · cases hq; rfl
    · exact absurd hq (hp.request_notMem q reply)
  · cases List.mem_singleton.1 hq; rfl
  · cases List.mem_singleton.1 hq; rfl

/-- A request is the first one, with the fields that the store's ETag makes, or has no fields. -/
theorem Fetched.headers {q : Http.Request} {reply : Except Http.TransportError Http.Response}
    (h : Fetched c uri tr result) (hq : .request q reply ∈ tr) :
    q.headers = [] ∨ ∃ etag, .etag uri etag ∈ tr ∧ Conditions etag q.headers := by
  rcases h with ⟨hc, -, hp⟩ | ⟨hc, -⟩ | ⟨hc, -, ht⟩ | ⟨hc, -, hrec⟩ | ⟨hc, -, hrec⟩
  all_goals
    refine (List.mem_cons.1 hq).elim (fun h => nomatch h) fun hq => (List.mem_cons.1 hq).elim (fun h => ?_) fun hq => ?_
    · cases h
      exact .inr ⟨_, List.mem_cons_self, hc⟩
  · exact absurd hq (hp.request_notMem q reply)
  · cases List.mem_singleton.1 hq
  · rcases List.mem_cons.1 hq with hq | hq
    · cases hq
    · exact .inl (ht.headers hq)
  · exact absurd hq (hrec.request_notMem q reply)
  · exact absurd hq (hrec.request_notMem q reply)

/-- A conditional request is made with the ETag that the store gave. -/
theorem Fetched.etag_of_condition {q : Http.Request} {reply : Except Http.TransportError Http.Response} {e : String}
    (h : Fetched c uri tr result) (hq : .request q reply ∈ tr)
    (he : ⟨"if-none-match", Http.Header.bytes e⟩ ∈ q.headers) : .etag uri (some e) ∈ tr := by
  rcases h.headers hq with hnil | ⟨etag, hm, hc⟩
  · rw [hnil] at he
    cases he
  · exact hc.etag_of_mem he ▸ hm

end Fetch

/-! ## Over a store that only a put changes -/

/-- The ETags and the contents that a store answers are functions of its state, which asking does not change. -/
structure Store.Reads (s : Store σ) (etag schema : σ → String → Option String) : Prop where
  etag? : ∀ u st, s.etag? u st = (etag st u, st)
  schema? : ∀ u st, s.schema? u st = (schema st u, st)

section Reads

variable {s : Store σ} {t : Http.Transport τ} {etag schema : σ → String → Option String} {w w' : World σ τ}
  {tr : List Event}

/-- A read leaves the store as it is and is answered from its state. -/
theorem perform_reads (hs : s.Reads etag schema) {ev : Event} (h : w.perform s t ev.call = (ev, w')) (hr : ev.IsRead) :
    w'.store = w.store ∧ (∀ u a, ev = .etag u a → a = etag w.store u) ∧
      ∀ u a, ev = .schema u a → a = schema w.store u := by
  cases ev with
  | put => exact hr.elim
  | request q reply =>
    obtain ⟨-, rfl⟩ := Prod.mk.inj h
    simp
  | etag u a =>
    simp only [Event.call, World.perform, World.etag?, hs.etag?, Prod.mk.injEq, Event.etag.injEq, true_and] at h
    obtain ⟨rfl, rfl⟩ := h
    simp +contextual
  | schema u a =>
    simp only [Event.call, World.perform, World.schema?, hs.schema?, Prod.mk.injEq, Event.schema.injEq, true_and] at h
    obtain ⟨rfl, rfl⟩ := h
    simp +contextual

/-- Without a put the store stays as it is, and all answers come from that one state. -/
theorem Plays.reads (hs : s.Reads etag schema) (h : Plays s t w tr w') (hr : ∀ ev ∈ tr, ev.IsRead) :
    w'.store = w.store ∧ (∀ u a, .etag u a ∈ tr → a = etag w.store u) ∧
      ∀ u a, .schema u a ∈ tr → a = schema w.store u := by
  induction tr generalizing w with
  | nil =>
    rw [plays_nil.1 h]
    simp
  | cons ev tr ih =>
    obtain ⟨v, hv, htr⟩ := plays_cons.1 h
    obtain ⟨hst, he, hc⟩ := ih htr fun ev hev => hr ev (List.mem_cons_of_mem _ hev)
    obtain ⟨hst', he', hc'⟩ := perform_reads hs hv (hr ev List.mem_cons_self)
    rw [hst'] at hst he hc
    refine ⟨hst, fun u a hm => ?_, fun u a hm => ?_⟩
    · rcases List.mem_cons.1 hm with hm | hm
      · exact he' u a hm.symm
      · exact he u a hm
    · rcases List.mem_cons.1 hm with hm | hm
      · exact hc' u a hm.symm
      · exact hc u a hm

end Reads

namespace Fetch

/-- The last pair that a reply brought for a URI. -/
def lastBrought (u : String) (tr : List Event) : Option (String × String) :=
  (tr.filterMap (Event.brings u)).getLast?

/-- The last pair that the store took for a URI. -/
def lastTaken (u : String) (tr : List Event) : Option (String × String) :=
  (tr.filterMap (Event.takes u)).getLast?

theorem lastBrought_append (u : String) (tr tr' : List Event) :
    lastBrought u (tr ++ tr') = (lastBrought u tr').or (lastBrought u tr) := by
  simp [lastBrought, List.getLast?_append]

theorem lastTaken_append (u : String) (tr tr' : List Event) :
    lastTaken u (tr ++ tr') = (lastTaken u tr').or (lastTaken u tr) := by
  simp [lastTaken, List.getLast?_append]

/-- A fetch that was made: of what, what was called and answered, and its result. -/
structure Visit where
  uri : String
  events : List Event
  result : Except Error String
  deriving DecidableEq

/-- A fetch was told, of the document known by `e`, that it is the same, and gave back a content of the store. -/
structure Visit.Serves (v : Visit) (e text : String) : Prop where
  unchanged : ∃ q r, .request q (.ok r) ∈ v.events ∧ ⟨"if-none-match", Http.Header.bytes e⟩ ∈ q.headers ∧
    r.status = 304
  stored : .schema v.uri (some text) ∈ v.events
  result : v.result = .ok text

/-- Makes a fetch and writes down what happened. -/
def visit (s : Store σ) (t : Http.Transport τ) (c : FetchConfig) (uri : String) (w : World σ τ) : Visit × World σ τ :=
  let (result, w') := (content s t c uri).run w
  (⟨uri, (World.replay s t (w'.calls.drop w.calls.length) w).1, result⟩, w')

section Visit

variable (s : Store σ) (t : Http.Transport τ) (c : FetchConfig) (uri : String) (w : World σ τ)

theorem content_visit :
    (content s t c uri).run w = ((visit s t c uri w).1.result, (visit s t c uri w).2) := rfl

/-- What is written down is a course of the tree, and what happened. -/
theorem visit_course :
    Fetched c uri (visit s t c uri w).1.events (visit s t c uri w).1.result ∧
      Plays s t w (visit s t c uri w).1.events (visit s t c uri w).2 := by
  obtain ⟨tr, hf, hpl⟩ := (follows_content w _ _).1 (content_visit s t c uri w)
  have hev : (visit s t c uri w).1.events = tr := by
    have hcalls : ((visit s t c uri w).2.calls.drop w.calls.length) = tr.map Event.call := by
      rw [hpl.calls, List.drop_left]
    change (World.replay s t ((visit s t c uri w).2.calls.drop w.calls.length) w).1 = tr
    rw [hcalls, hpl]
  rw [hev]
  exact ⟨hf, hpl⟩

variable {s t c uri w}

/-- What is known of a fetch is what happened. -/
theorem visit_eq {v : Visit} {w' : World σ τ} (hu : v.uri = uri) (hf : Fetched c uri v.events v.result)
    (hpl : Plays s t w v.events w') : visit s t c uri w = (v, w') := by
  have hrun := (follows_content w v.result w').2 ⟨v.events, hf, hpl⟩
  obtain ⟨u, events, result⟩ := v
  subst hu
  simp only [visit, hrun, hpl.calls, List.drop_left]
  rw [hpl]

variable {etag schema : σ → String → Option String}

/-- What a fetch was told by the store is what the store held before it. -/
theorem visit_answers (hs : s.Reads etag schema) (t : Http.Transport τ) (c : FetchConfig) (uri : String)
    (w : World σ τ) :
    (∀ u a, .etag u a ∈ (visit s t c uri w).1.events → a = etag w.store uri) ∧
      ∀ u a, .schema u a ∈ (visit s t c uri w).1.events → a = schema w.store uri := by
  obtain ⟨hf, hpl⟩ := visit_course s t c uri w
  have habout := hf.about
  obtain ⟨asked, stored, htr, hread, hst⟩ := hf.puts
  rw [htr] at hpl habout ⊢
  obtain ⟨v, hpl, -⟩ := plays_append.1 hpl
  obtain ⟨-, he, hc⟩ := hpl.reads hs hread
  have hno : ∀ ev ∈ stored, ¬ev.IsRead := by
    rcases hst with ⟨rfl, -⟩ | ⟨e, text, answer, rfl, -⟩
    · simp
    · simp [Event.IsRead]
  have hasked : ∀ ev ∈ asked ++ stored, ev.IsRead → ev ∈ asked := fun ev hm hr =>
    (List.mem_append.1 hm).resolve_right fun hm => hno ev hm hr
  constructor
  · intro u a hm
    obtain rfl : u = uri := habout _ hm
    exact he u a (hasked _ hm trivial)
  · intro u a hm
    obtain rfl : u = uri := habout _ hm
    exact hc u a (hasked _ hm trivial)

/-- What a fetch leaves behind: the store as it was, nothing having been brought, or the store after it was given the
pair that was brought. -/
theorem visit_store (hs : s.Reads etag schema) (t : Http.Transport τ) (c : FetchConfig) (uri : String)
    (w : World σ τ) :
    ((visit s t c uri w).2.store = w.store ∧ (∀ u, lastBrought u (visit s t c uri w).1.events = none) ∧
      ∀ u, lastTaken u (visit s t c uri w).1.events = none) ∨
    ∃ e text answer, s.put uri e text w.store = (answer, (visit s t c uri w).2.store) ∧
      (∀ u, lastBrought u (visit s t c uri w).1.events = if u = uri then some (e, text) else none) ∧
      ∀ u, lastTaken u (visit s t c uri w).1.events = (Event.put uri e text answer).takes u := by
  obtain ⟨hf, hpl⟩ := visit_course s t c uri w
  obtain ⟨asked, stored, htr, hread, hst⟩ := hf.puts
  rw [htr] at hpl hst ⊢
  obtain ⟨v, hasked, hstored⟩ := plays_append.1 hpl
  have hv := (hasked.reads hs hread).1
  have htakes : ∀ u, asked.filterMap (Event.takes u) = [] := fun u =>
    List.filterMap_eq_nil_iff.2 fun ev hev => (hread ev hev).takes u
  rcases hst with ⟨rfl, hbr⟩ | ⟨e, text, answer, rfl, hbr⟩
  · refine .inl ⟨?_, fun u => ?_, fun u => ?_⟩
    · rw [← plays_nil.1 hstored, hv]
    · simp only [lastBrought, hbr, List.getLast?_nil]
    · simp [lastTaken, htakes]
  · obtain ⟨v', hput, hnil⟩ := plays_cons.1 hstored
    simp only [Event.call, World.perform, World.put, Prod.mk.injEq, Event.put.injEq, true_and] at hput
    refine .inr ⟨e, text, answer, ?_, fun u => ?_, fun u => ?_⟩
    · rw [← plays_nil.1 hnil, ← hput.2, ← hput.1, hv]
    · simp only [lastBrought, hbr]
      split <;> rfl
    · cases htk : (Event.put uri e text answer).takes u with
      | none => simp [lastTaken, htakes, htk]
      | some p => simp [lastTaken, htakes, htk]

/-- A content that is served for an unchanged document, and the ETag that the document is known by, are what the store
held. -/
theorem visit_serves (hs : s.Reads etag schema) {e text : String} (h : (visit s t c uri w).1.Serves e text) :
    etag w.store uri = some e ∧ schema w.store uri = some text := by
  obtain ⟨he, hc⟩ := visit_answers hs t c uri w
  obtain ⟨q, r, hq, hh, -⟩ := h.unchanged
  have hm := (visit_course s t c uri w).1.etag_of_condition hq hh
  exact ⟨(he _ _ hm).symm, (hc _ _ h.stored).symm⟩

end Visit

end Fetch

end SchemaRelay

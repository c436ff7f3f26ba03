import SchemaRelay.Proofs.Fetch.Availability

/-!
# ETags that are captured and sent again

An ETag is captured from a field that reads as text and is not empty, and is sent if it is not empty and can be sent. The
first makes the second: what was captured is sent, as the very bytes of the field (`Http.Validates.sent`). So in a store
that is up with the history every ETag can be sent, and a fetch of a URI with an entry starts with a request whose one
field has the bytes that the stored document came with, whatever fields replies have (`etags_replayed`).
-/

namespace SchemaRelay

/-- An ETag that is sent when it is known: it is not empty, and each of its bytes is visible ASCII, a space or a tab. -/
structure Http.IsUsable (e : String) : Prop where
  nonempty : e ≠ ""
  sendable : Http.Header.isSendable e = true
  ascii : ∀ b ∈ Http.Header.bytes e, b = 9 ∨ (32 ≤ b ∧ b < 127)

/-- An ETag of a reply is usable and is sent as the first ETag field of the reply. -/
theorem Http.Validates.sent {r : Http.Response} {e : String} (h : Http.Validates r e) :
    Http.IsUsable e ∧ Http.Header.first? r.headers "etag" = some (Http.Header.bytes e) := by
  obtain ⟨v, hv, hne, hb, he⟩ := h
  have htext : Http.Header.text? v = some e := Http.Header.text?_eq_some_iff.2 ⟨hb, he⟩
  have hbytes : Http.Header.bytes e = v := Http.Header.bytes_of_text? htext
  refine ⟨⟨?_, Http.Header.isSendable_of_text? htext, by rwa [hbytes]⟩, by rw [hv, hbytes]⟩
  rintro rfl
  exact hne hbytes.symm

namespace Fetch

variable {σ τ : Type}

/-- The reply `r` brought the last document for a URI that came with an ETag, and that is `e`. -/
structure LastDocument (h : List Event) (u : String) (r : Http.Response) (e : String) : Prop where
  document : Http.IsDocument r
  etag : Http.Validates r e
  last : ∃ before q after, h = before ++ .request q (.ok r) :: after ∧ q.url = u ∧
    ∀ q' r', .request q' (.ok r') ∈ after → q'.url = u → Http.IsDocument r' → ∀ e', ¬Http.Validates r' e'

/-- The pair that was last brought is that of the last document. -/
theorem lastDocument_of_lastBrought {u : String} {h : List Event} {p : String × String} (hp : lastBrought u h = some p) :
    ∃ r, LastDocument h u r p.1 ∧ r.body = p.2 := by
  obtain ⟨ps, hps⟩ := List.getLast?_eq_some_iff.1 hp
  obtain ⟨front, back, rfl, -, hback⟩ := List.filterMap_eq_append_iff.1 hps
  obtain ⟨idle, ev, after, rfl, -, hev, hafter⟩ := List.filterMap_eq_cons_iff.1 hback
  obtain ⟨q, r, rfl, hu, hd, hv, hb⟩ := Event.brings_eq_some_iff.1 hev
  refine ⟨r, ⟨hd, hv, front ++ idle, q, after, by simp, hu, fun q' r' hm hu' hd' e' hv' => ?_⟩, hb⟩
  have hbrings : (Event.request q' (.ok r')).brings u = some (e', r'.body) :=
    Event.brings_eq_some_iff.2 ⟨q', r', rfl, hu', hd', hv', rfl⟩
  rw [List.filterMap_eq_nil_iff.1 hafter _ hm] at hbrings
  cases hbrings

/-- A fetch asks the store for the ETag and then makes the request with it. -/
theorem Fetched.opening {c : FetchConfig} {uri : String} {tr : List Event} {result : Except Error String}
    (h : Fetched c uri tr result) :
    ∃ etag reply rest, tr = .etag uri etag :: .request (requestOf c uri etag) reply :: rest := by
  obtain ⟨etag, reply, rest, htr, -⟩ := fetched_iff.1 h
  exact ⟨etag, reply, rest, htr⟩

/-- The ETag is the one in the store. -/
theorem visit_opening {s : Store σ} {etag schema : σ → String → Option String} (hs : s.Reads etag schema)
    (t : Http.Transport τ) (c : FetchConfig) (uri : String) (w : World σ τ) :
    ∃ reply rest, (visit s t c uri w).1.events =
      .etag uri (etag w.store uri) :: .request (requestOf c uri (etag w.store uri)) reply :: rest := by
  obtain ⟨e, reply, rest, hev⟩ := (visit_course s t c uri w).1.opening
  have he : e = etag w.store uri := by
    apply (visit_answers hs t c uri w).1 uri e
    rw [hev]
    exact List.mem_cons_self
  rw [he] at hev
  exact ⟨reply, rest, hev⟩

/-- A usable ETag is the one condition of the request. -/
theorem requestOf_usable {e : String} (h : Http.IsUsable e) (c : FetchConfig) (uri : String) :
    requestOf c uri (some e) = ⟨uri, c.maxRedirects, [⟨"if-none-match", Http.Header.bytes e⟩], c.http⟩ := by
  simp [requestOf, condition, h.nonempty, h.sendable]

/-- Along every run from a state, whatever is answered, an ETag is sent as it came. -/
structure Replays (s : String → Store σ) (held : σ → String → Option (String × String)) (start : σ) : Prop where
  /-- The first request of a URI that has an entry has one field, with the bytes of the first ETag field of the last
  document for the URI that came with an ETag; the content of the entry is its body. -/
  sent : ∀ {τ : Type} (t : Http.Transport τ) (st : τ) (ks : List Task) (k : Task) (etag text : String),
    let run := visits s t ks ⟨start, st, []⟩
    let v := (visit (s k.now) t k.config k.uri run.2).1
    held run.2.store k.uri = some (etag, text) →
      ∃ r value reply rest, LastDocument (history run.1) k.uri r etag ∧ r.body = text ∧
        Http.Header.first? r.headers "etag" = some value ∧
        v.events = .etag k.uri (some etag) ::
          .request ⟨k.uri, k.config.maxRedirects, [⟨"if-none-match", value⟩], k.config.http⟩ reply :: rest
  /-- No fetch is told of an ETag that is empty or cannot be sent. -/
  usable : ∀ {τ : Type} (t : Http.Transport τ) (st : τ) (ks : List Task) (k : Task) (u e : String),
    let run := visits s t ks ⟨start, st, []⟩
    .etag u (some e) ∈ (visit (s k.now) t k.config k.uri run.2).1.events → Http.IsUsable e

theorem Tracks.replays {s : String → Store σ} {held : σ → String → Option (String × String)}
    {etag schema : σ → String → Option String} {start : σ} (h : Tracks s held etag schema start) :
    Replays s held start where
  sent t st ks k e text := by
    intro run v hheld
    have hlast : lastBrought k.uri (history run.1) = some (e, text) := (h.held t st ks k.uri).symm.trans hheld
    obtain ⟨r, hdoc, hbody⟩ := lastDocument_of_lastBrought hlast
    obtain ⟨husable, hfirst⟩ := hdoc.etag.sent
    obtain ⟨reply, rest, hev⟩ := visit_opening (h.reads k.now) t k.config k.uri run.2
    have hetag : etag run.2.store k.uri = some e := by
      rw [(h.holds t st ks k.uri).1, hlast]
      rfl
    rw [hetag, requestOf_usable husable] at hev
    exact ⟨r, Http.Header.bytes e, reply, rest, hdoc, hbody, hfirst, hev⟩
  usable t st ks k u e := by
    intro run hm
    have hetag := (visit_answers (h.reads k.now) t k.config k.uri run.2).1 _ _ hm
    rw [(h.holds t st ks k.uri).1] at hetag
    obtain ⟨p, hp, rfl⟩ := Option.map_eq_some_iff.1 hetag.symm
    obtain ⟨r, hdoc, -⟩ := lastDocument_of_lastBrought hp
    exact hdoc.etag.sent.1

end Fetch

/-- **ETags are replayed as they were captured**, by both caches, when nobody else changes them. -/
theorem etags_replayed :
    Fetch.Replays (fun _ => MemoryCache.store) Fields.get? MemoryCache.empty ∧
      Fetch.Replays TableCache.store (·.db.pair?) TableCache.fresh :=
  ⟨Fetch.tracks_memory.replays, Fetch.tracks_table.replays⟩

/-- The first of two ETag fields is sent, with its quotes. -/
example :
    let page : Fetch.Task := ⟨"", {}, "https://example.org/schema.json"⟩
    let replies := [.ok ⟨200, [⟨"ETag", [34, 49, 34]⟩, ⟨"ETag", [34, 50, 34]⟩], "one"⟩, .ok ⟨304, [], ""⟩]
    let run := Fetch.visits (fun _ => MemoryCache.store) Http.Transport.ofList [page, page]
      ⟨MemoryCache.empty, replies, []⟩
    run.2.calls.filterMap (fun | .request q => some q.headers | _ => none) = [[], [⟨"if-none-match", [34, 49, 34]⟩]] := by
  decide +kernel

end SchemaRelay

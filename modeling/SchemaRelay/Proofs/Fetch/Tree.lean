import SchemaRelay.Fetch.Content
import SchemaRelay.Proofs.Fetch.Transcript
import SchemaRelay.Proofs.Http.Header

/-!
# The tree of a fetch

What a fetch may do, said without its program: `Fetched c uri tr result` lists every course of calls and answers with
the result that it ends in, branch by branch, and speaks of replies by their status and header fields only. A fetch
follows it (`content_iff_fetched`): over any store and any transport its runs are exactly these courses, so the tree
fixes the calls, their order and their number as well as the result.
-/

namespace SchemaRelay

namespace Http

/-- A reply that brings what was asked for. -/
def IsDocument (r : Response) : Prop := 200 ≤ r.status ∧ r.status < 300

/-- The first ETag field of a reply is not empty, all its bytes are visible ASCII, spaces or tabs, and read `e`. -/
def Validates (r : Response) (e : String) : Prop :=
  ∃ v, Header.first? r.headers "etag" = some v ∧ v ≠ [] ∧ (∀ b ∈ v, b = 9 ∨ (32 ≤ b ∧ b < 127)) ∧
    e = String.ofList (v.map fun b => Char.ofNat b.toNat)

theorem isSuccess_iff (r : Response) : r.isSuccess = true ↔ IsDocument r := by
  simp [Response.isSuccess, IsDocument]

theorem etag?_eq_some_iff {r : Response} {e : String} : r.etag? = some e ↔ Validates r e := by
  simp only [Response.etag?, Option.filter_eq_some_iff, Option.bind_eq_some_iff, Header.text?_eq_some_iff,
    Validates]
  constructor
  · rintro ⟨⟨v, hv, hb, rfl⟩, hne⟩
    refine ⟨v, hv, ?_, hb, rfl⟩
    rintro rfl
    simp at hne
  · rintro ⟨v, hv, hne, hb, rfl⟩
    exact ⟨⟨v, hv, hb, rfl⟩, by simpa [String.ofList_eq_empty_iff] using hne⟩

theorem etag?_eq_none_iff {r : Response} : r.etag? = none ↔ ∀ e, ¬Validates r e := by
  simp only [Option.eq_none_iff_forall_ne_some, ne_eq, etag?_eq_some_iff]

end Http

namespace Fetch

variable {σ τ : Type}

/-! ## The branches -/

/-- The fields of a first request, by what the store gave for the ETag. -/
inductive Conditions : Option String → List Http.Header → Prop
  /-- An ETag that can be sent is sent as it is. -/
  | usable {e : String} (hne : e ≠ "") (hs : Http.Header.isSendable e = true) :
    Conditions (some e) [⟨"if-none-match", Http.Header.bytes e⟩]
  /-- An empty one is not, nor one that is no value of a field. -/
  | unusable {e : String} (h : e = "" ∨ Http.Header.isSendable e = false) : Conditions (some e) []
  | unknown : Conditions none []

/-- The failure that an answer is, if it brings no document nor the news that the document is the same. -/
inductive Refusal : Except Http.TransportError Http.Response → Failure → Prop
  | remote {r : Http.Response} (hd : ¬Http.IsDocument r) (hs : r.status ≠ 304) :
    Refusal (.ok r) (.remote r.status r.body)
  | transport (cause : Http.TransportError) : Refusal (.error cause) (.transport cause)

/-- What is done with a document: it is put once if it has an ETag, whatever the store says to that. -/
inductive Stored (uri : String) (r : Http.Response) : List Event → Prop
  | put {e : String} (he : Http.Validates r e) (answer : Except Error Unit) : Stored uri r [.put uri e r.body answer]
  | skip (he : ∀ e, ¬Http.Validates r e) : Stored uri r []

/-- How the store is asked for a content after a refusal: first for the ETag, and only with one for the content. -/
inductive Recalled (uri : String) : List Event → Option String → Prop
  | known (e : String) (text : Option String) : Recalled uri [.etag uri (some e), .schema uri text] text
  | unknown : Recalled uri [.etag uri none] none

/-- The one further request, without condition, that is made when the content of an unchanged document is lost. -/
inductive Retried (c : FetchConfig) (uri : String) : List Event → Except Error String → Prop
  | document {r : Http.Response} {tr : List Event} (hd : Http.IsDocument r) (hp : Stored uri r tr) :
    Retried c uri (.request ⟨uri, c.maxRedirects, [], c.http⟩ (.ok r) :: tr) (.ok r.body)
  | unchanged {r : Http.Response} (hs : r.status = 304) :
    Retried c uri [.request ⟨uri, c.maxRedirects, [], c.http⟩ (.ok r)]
      (.error (.fetchFailed (Failure.remote 304 "").diagnostic))
  | refused {reply : Except Http.TransportError Http.Response} {failure : Failure} (hr : Refusal reply failure) :
    Retried c uri [.request ⟨uri, c.maxRedirects, [], c.http⟩ reply] (.error (.fetchFailed failure.diagnostic))

/-- The courses of a fetch and their results. -/
inductive Fetched (c : FetchConfig) (uri : String) : List Event → Except Error String → Prop
  /-- A document is stored and given back. -/
  | document {etag : Option String} {hs : List Http.Header} {r : Http.Response} {tr : List Event}
    (hc : Conditions etag hs) (hd : Http.IsDocument r) (hp : Stored uri r tr) :
    Fetched c uri (.etag uri etag :: .request ⟨uri, c.maxRedirects, hs, c.http⟩ (.ok r) :: tr) (.ok r.body)
  /-- Of a document that is the same, the content in the store is given back. -/
  | unchanged {etag : Option String} {hs : List Http.Header} {r : Http.Response} {text : String}
    (hc : Conditions etag hs) (h304 : r.status = 304) :
    Fetched c uri [.etag uri etag, .request ⟨uri, c.maxRedirects, hs, c.http⟩ (.ok r), .schema uri (some text)]
      (.ok text)
  /-- If that content is lost, there is one more request, and its result counts. -/
  | lost {etag : Option String} {hs : List Http.Header} {r : Http.Response} {tr : List Event}
    {result : Except Error String} (hc : Conditions etag hs) (h304 : r.status = 304) (ht : Retried c uri tr result) :
    Fetched c uri (.etag uri etag :: .request ⟨uri, c.maxRedirects, hs, c.http⟩ (.ok r) :: .schema uri none :: tr)
      result
  /-- After a refusal the content in the store stands in. -/
  | fallback {etag : Option String} {hs : List Http.Header} {reply : Except Http.TransportError Http.Response}
    {failure : Failure} {tr : List Event} {text : String} (hc : Conditions etag hs) (hr : Refusal reply failure)
    (hrec : Recalled uri tr (some text)) :
    Fetched c uri (.etag uri etag :: .request ⟨uri, c.maxRedirects, hs, c.http⟩ reply :: tr) (.ok text)
  /-- Without one the fetch fails, and says why. -/
  | failed {etag : Option String} {hs : List Http.Header} {reply : Except Http.TransportError Http.Response}
    {failure : Failure} {tr : List Event} (hc : Conditions etag hs) (hr : Refusal reply failure)
    (hrec : Recalled uri tr none) :
    Fetched c uri (.etag uri etag :: .request ⟨uri, c.maxRedirects, hs, c.http⟩ reply :: tr)
      (.error (.fetchFailed failure.diagnostic))

/-! ## The program follows the tree -/

theorem conditions_iff {etag : Option String} {hs : List Http.Header} :
    Conditions etag hs ↔ hs = condition etag := by
  constructor
  · rintro (⟨hne, hs⟩ | h | _)
    · simp [condition, hne, hs]
    · rcases h with rfl | h
      · simp [condition]
      · simp [condition, h]
    · rfl
  · rintro rfl
    cases etag with
    | none => exact .unknown
    | some e =>
      simp only [condition]
      split
      · next h => exact .usable h.1 h.2
      · next h => exact .unusable (Decidable.or_iff_not_imp_left.2 (by simpa using h))

theorem ofAnswer_document {r : Http.Response} (hd : Http.IsDocument r) : Outcome.ofAnswer (.ok r) = .fresh r := by
  simp [Outcome.ofAnswer, (Http.isSuccess_iff r).2 hd]

theorem ofAnswer_unchanged {r : Http.Response} (h304 : r.status = 304) : Outcome.ofAnswer (.ok r) = .notModified := by
  simp [Outcome.ofAnswer, Http.Response.isSuccess, h304]

theorem Refusal.ofAnswer {reply : Except Http.TransportError Http.Response} {failure : Failure}
    (h : Refusal reply failure) : Outcome.ofAnswer reply = .failed failure := by
  cases h with
  | @remote r hd hs =>
    have hns : r.isSuccess = false := Bool.eq_false_iff.2 fun h => hd ((Http.isSuccess_iff r).1 h)
    simp [Outcome.ofAnswer, hns, hs]
  | transport cause => rfl

/-- An answer is a document, the news that nothing changed, or a refusal. -/
theorem reply_cases (reply : Except Http.TransportError Http.Response) :
    (∃ r, reply = .ok r ∧ Http.IsDocument r) ∨ (∃ r, reply = .ok r ∧ r.status = 304) ∨
      ∃ failure, Refusal reply failure := by
  cases reply with
  | error cause => exact .inr (.inr ⟨_, .transport cause⟩)
  | ok r =>
    by_cases hd : Http.IsDocument r
    · exact .inl ⟨r, rfl, hd⟩
    · by_cases hs : r.status = 304
      · exact .inr (.inl ⟨r, rfl, hs⟩)
      · exact .inr (.inr ⟨_, .remote hd hs⟩)

variable {s : Store σ} {t : Http.Transport τ} {c : FetchConfig} {uri : String}

theorem follows_ask (etag : Option String) :
    Follows s t (ask t c uri etag) fun tr o => ∃ reply,
      tr = [.request (requestOf c uri etag) reply] ∧ o = Outcome.ofAnswer reply := by
  refine ((follows_send _).bind fun reply => follows_pure (Outcome.ofAnswer reply)).congr fun tr o => ?_
  constructor
  · rintro ⟨reply, _, _, rfl, rfl, rfl, rfl⟩
    exact ⟨reply, by simp, rfl⟩
  · rintro ⟨reply, rfl, rfl⟩
    exact ⟨reply, _, [], by simp, rfl, rfl, rfl⟩

theorem follows_remember (r : Http.Response) : Follows s t (remember s uri r) fun tr _ => Stored uri r tr := by
  unfold remember
  cases he : r.etag? with
  | none =>
    refine (follows_pure ()).congr fun tr _ => ?_
    have hv := Http.etag?_eq_none_iff.1 he
    constructor
    · rintro ⟨rfl, -⟩
      exact .skip hv
    · rintro (⟨hv', _⟩ | _)
      · exact absurd hv' (hv _)
      · exact ⟨rfl, rfl⟩
  | some e =>
    refine ((follows_put uri e r.body).bind fun _ => follows_pure ()).congr fun tr _ => ?_
    have hv := Http.etag?_eq_some_iff.1 he
    constructor
    · rintro ⟨answer, _, _, rfl, rfl, rfl, -⟩
      exact .put hv answer
    · rintro (⟨hv', answer⟩ | hn)
      · have heq := he.symm.trans (Http.etag?_eq_some_iff.2 hv')
        cases heq
        exact ⟨answer, _, [], by simp, rfl, rfl, rfl⟩
      · exact absurd hv (hn e)

/-- What is asked for the content, by the answer for the ETag. -/
def Recall (uri : String) : Option String → List Event → Option String → Prop
  | some _ => fun tr text => tr = [.schema uri text]
  | none => fun tr text => tr = [] ∧ text = none

theorem follows_cached : Follows s t (cached? s uri) (Recalled uri) := by
  refine ((follows_etag uri).bind (Q := Recall uri) fun a => ?_).congr fun tr text => ?_
  · cases a with
    | none => exact follows_pure none
    | some _ => exact follows_schema uri
  · constructor
    · rintro ⟨_ | e, _, _, rfl, rfl, h⟩
      · obtain ⟨rfl, rfl⟩ := h
        exact .unknown
      · cases h
        exact .known e text
    · rintro (⟨e, _⟩ | _)
      · exact ⟨some e, _, _, rfl, rfl, rfl⟩
      · exact ⟨none, _, [], by simp, rfl, rfl, rfl⟩

/-- Storing a document and giving it back. -/
theorem follows_document (r : Http.Response) :
    Follows s t (remember s uri r >>= fun _ => pure (.ok r.body : Except Error String)) fun tr result =>
      Stored uri r tr ∧ result = .ok r.body := by
  refine ((follows_remember r).bind fun _ => follows_pure _).congr fun tr result => ?_
  constructor
  · rintro ⟨_, tr, _, rfl, hp, rfl, rfl⟩
    exact ⟨by simpa using hp, rfl⟩
  · rintro ⟨hp, rfl⟩
    exact ⟨(), tr, [], by simp, hp, rfl, rfl⟩

/-- What follows the further request, by its outcome. -/
def Retry (uri : String) : Outcome → List Event → Except Error String → Prop
  | .fresh r => fun tr result => Stored uri r tr ∧ result = .ok r.body
  | .notModified => fun tr result => tr = [] ∧ result = .error (.fetchFailed (Failure.remote 304 "").diagnostic)
  | .failed failure => fun tr result => tr = [] ∧ result = .error (.fetchFailed failure.diagnostic)

/-- The further request and what follows it. -/
theorem retried_iff {c : FetchConfig} {uri : String} {tr : List Event} {result : Except Error String} :
    Retried c uri tr result ↔ ∃ reply rest, tr = .request (requestOf c uri none) reply :: rest ∧
      Retry uri (Outcome.ofAnswer reply) rest result := by
  constructor
  · rintro (⟨hd, hp⟩ | h304 | hr)
    · refine ⟨_, _, rfl, ?_⟩
      rw [ofAnswer_document hd]
      exact ⟨hp, rfl⟩
    · refine ⟨_, [], rfl, ?_⟩
      rw [ofAnswer_unchanged h304]
      exact ⟨rfl, rfl⟩
    · refine ⟨_, [], rfl, ?_⟩
      rw [hr.ofAnswer]
      exact ⟨rfl, rfl⟩
  · rintro ⟨reply, rest, rfl, h⟩
    rcases reply_cases reply with ⟨r, rfl, hd⟩ | ⟨r, rfl, h304⟩ | ⟨failure, hr⟩
    · rw [ofAnswer_document hd] at h
      obtain ⟨hp, rfl⟩ := h
      exact .document hd hp
    · rw [ofAnswer_unchanged h304] at h
      obtain ⟨rfl, rfl⟩ := h
      exact .unchanged h304
    · rw [hr.ofAnswer] at h
      obtain ⟨rfl, rfl⟩ := h
      exact .refused hr

theorem follows_again : Follows s t (again s t c uri) (Retried c uri) := by
  refine ((follows_ask none).bind (Q := Retry uri) fun o => ?_).congr fun tr result => ?_
  · cases o with
    | fresh r => exact follows_document r
    | notModified => exact follows_pure _
    | failed failure => exact follows_pure _
  · rw [retried_iff]
    constructor
    · rintro ⟨_, _, rest, rfl, ⟨reply, rfl, rfl⟩, h⟩
      exact ⟨reply, rest, rfl, h⟩
    · rintro ⟨reply, rest, rfl, h⟩
      exact ⟨_, _, rest, rfl, ⟨reply, rfl, rfl⟩, h⟩

/-- What is done after news that the document is the same, by the content in the store. -/
def Served (c : FetchConfig) (uri : String) : Option String → List Event → Except Error String → Prop
  | some text => fun tr result => tr = [] ∧ result = .ok text
  | none => Retried c uri

/-- What is done after a refusal, by the content in the store. -/
def Resorted (failure : Failure) : Option String → List Event → Except Error String → Prop
  | some text => fun tr result => tr = [] ∧ result = .ok text
  | none => fun tr result => tr = [] ∧ result = .error (.fetchFailed failure.diagnostic)

/-- What follows the first request, by its outcome. -/
def Answered (c : FetchConfig) (uri : String) : Outcome → List Event → Except Error String → Prop
  | .fresh r => fun tr result => Stored uri r tr ∧ result = .ok r.body
  | .notModified => fun tr result => ∃ text tr₁ tr₂, tr = tr₁ ++ tr₂ ∧ tr₁ = [.schema uri text] ∧
      Served c uri text tr₂ result
  | .failed failure => fun tr result => ∃ text tr₁ tr₂, tr = tr₁ ++ tr₂ ∧ Recalled uri tr₁ text ∧
      Resorted failure text tr₂ result

/-- The first request and what follows it. -/
theorem fetched_iff {c : FetchConfig} {uri : String} {tr : List Event} {result : Except Error String} :
    Fetched c uri tr result ↔ ∃ etag reply rest,
      tr = .etag uri etag :: .request (requestOf c uri etag) reply :: rest ∧
        Answered c uri (Outcome.ofAnswer reply) rest result := by
  constructor
  · rintro (⟨hc, hd, hp⟩ | ⟨hc, h304⟩ | ⟨hc, h304, ht⟩ | ⟨hc, hr, hrec⟩ | ⟨hc, hr, hrec⟩)
    all_goals
      obtain rfl := conditions_iff.1 hc
      refine ⟨_, _, _, rfl, ?_⟩
    · rw [ofAnswer_document hd]
      exact ⟨hp, rfl⟩
    · rw [ofAnswer_unchanged h304]
      exact ⟨some _, _, [], rfl, rfl, rfl, rfl⟩
    · rw [ofAnswer_unchanged h304]
      exact ⟨none, _, _, rfl, rfl, ht⟩
    · rw [hr.ofAnswer]
      exact ⟨some _, _, [], (List.append_nil _).symm, hrec, rfl, rfl⟩
    · rw [hr.ofAnswer]
      exact ⟨none, _, [], (List.append_nil _).symm, hrec, rfl, rfl⟩
  · rintro ⟨etag, reply, rest, rfl, h⟩
    have hc : Conditions etag (condition etag) := conditions_iff.2 rfl
    rcases reply_cases reply with ⟨r, rfl, hd⟩ | ⟨r, rfl, h304⟩ | ⟨failure, hr⟩
    · rw [ofAnswer_document hd] at h
      obtain ⟨hp, rfl⟩ := h
      exact .document hc hd hp
    · rw [ofAnswer_unchanged h304] at h
      obtain ⟨_ | text, _, tr, rfl, rfl, h⟩ := h
      · exact .lost hc h304 h
      · obtain ⟨rfl, rfl⟩ := h
        exact .unchanged hc h304
    · rw [hr.ofAnswer] at h
      obtain ⟨_ | text, tr, _, rfl, hrec, rfl, rfl⟩ := h
      · rw [List.append_nil]
        exact .failed hc hr hrec
      · rw [List.append_nil]
        exact .fallback hc hr hrec

theorem follows_content : Follows s t (content s t c uri) (Fetched c uri) := by
  refine ((follows_etag uri).bind fun etag => (follows_ask etag).bind (Q := Answered c uri) fun o => ?_).congr
    fun tr result => ?_
  · cases o with
    | fresh r => exact follows_document r
    | notModified =>
      refine (follows_schema uri).bind fun text => ?_
      cases text with
      | some text => exact follows_pure _
      | none => exact follows_again
    | failed failure =>
      refine follows_cached.bind fun text => ?_
      cases text with
      | some text => exact follows_pure _
      | none => exact follows_pure _
  · rw [fetched_iff]
    constructor
    · rintro ⟨etag, _, _, rfl, rfl, _, _, rest, rfl, ⟨reply, rfl, rfl⟩, h⟩
      exact ⟨etag, reply, rest, rfl, h⟩
    · rintro ⟨etag, reply, rest, rfl, h⟩
      exact ⟨etag, _, _, rfl, rfl, _, _, rest, rfl, ⟨reply, rfl, rfl⟩, h⟩

/-- **The runs of a fetch are the courses of the tree**, answered by the store and the transport, whatever these are;
nothing else is called. -/
theorem content_iff_fetched (s : Store σ) (t : Http.Transport τ) (c : FetchConfig) (uri : String) (w w' : World σ τ)
    (result : Except Error String) :
    (content s t c uri).run w = (result, w') ↔
      ∃ tr, Fetched c uri tr result ∧ Plays s t w tr w' ∧ w'.calls = w.calls ++ tr.map Event.call := by
  rw [follows_content w result w']
  constructor
  · rintro ⟨tr, h, hpl⟩
    exact ⟨tr, h, hpl, hpl.calls⟩
  · rintro ⟨tr, h, hpl, -⟩
    exact ⟨tr, h, hpl⟩

end Fetch

end SchemaRelay

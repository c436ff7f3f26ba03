import SchemaRelay.Cache.Memory
import SchemaRelay.Proofs.Fetch.Visit
import SchemaRelay.Proofs.Text.Blank

/-!
# What a failed fetch says

A fetch fails in one way only, with a message about the reply to its last request: what the server said, if it said
anything, else what its status means, or else which status it was; or what went wrong with the transport (`Diagnosed`).
Whichever it is, the message is not blank (`Diagnosed.not_blank`), and no store and no transport can make a fetch fail
otherwise (`failure_diagnosed`). That a document is the same for the second time is a failure of which only the status
is told, even if the reply has a body (`unchanged_words_unheard`).
-/

namespace SchemaRelay

/-! ## Texts of statuses and of failures -/

namespace Http

/-- There is no sentence on a status below 400, and one on every other. -/
theorem statusDescription_eq_none_iff {status : Nat} : statusDescription status = none ↔ status < 400 := by
  unfold statusDescription
  split
  · next hlow => exact ⟨fun _ => hlow, fun _ => rfl⟩
  · next hhigh => exact ⟨nofun, fun hlow => absurd hlow hhigh⟩

theorem not_blank_statusDescription {status : Nat} {text : String} (h : statusDescription status = some text) :
    ¬Text.Blank text := by
  unfold statusDescription at h
  split at h
  · cases h
  · rw [← Option.some.inj h]
    split
    -- the sentence on 501 is put together, and so is that on a status without one of its own
    case h_17 | h_19 => exact Text.not_blank_append (Text.not_blank_of_first ⟨_, _, rfl, rfl⟩) _
    all_goals exact Text.not_blank_of_first ⟨_, _, rfl, rfl⟩

/-- A message names the kind of failure, so it is not blank even if the failure has no words of its own. -/
theorem not_blank_message (cause : TransportError) : ¬Text.Blank cause.message := by
  cases cause with
  | proxy address reason =>
    have hkind : ¬Text.Blank "invalid proxy " := Text.not_blank_of_first ⟨_, _, rfl, rfl⟩
    exact Text.not_blank_append (Text.not_blank_append (Text.not_blank_append hkind address) ": ") reason
  | client reason | timeout reason | network reason | decode reason =>
    exact Text.not_blank_append (Text.not_blank_of_first ⟨_, _, rfl, rfl⟩) reason

end Http

namespace Fetch

variable {σ τ : Type} {c : FetchConfig} {uri : String} {tr : List Event} {result : Except Error String}

/-! ## Messages -/

/-- What is said of a reply that is no document. -/
inductive Diagnosed : Except Http.TransportError Http.Response → String → Prop
  /-- The server's own words, if it has any. -/
  | words {r : Http.Response} (hs : r.status ≠ 304) (hb : ¬Text.Blank r.body) : Diagnosed (.ok r) r.body
  /-- Else the sentence on the status. -/
  | sentence {r : Http.Response} {text : String} (hb : Text.Blank r.body)
    (ht : Http.statusDescription r.status = some text) : Diagnosed (.ok r) text
  /-- A status on which there is no sentence is named. Of 304 nothing else is said, whatever came with it. -/
  | status {r : Http.Response} {text : String} (hb : Text.Blank r.body ∨ r.status = 304) (hlow : r.status < 400)
    (ht : text = "unexpected HTTP status " ++ Http.statusText r.status)
    (hnamed : (toString r.status).toList <:+: text.toList) : Diagnosed (.ok r) text
  /-- Without a reply it is the transport's message. -/
  | transport (cause : Http.TransportError) : Diagnosed (.error cause) cause.message

/-- Something is said. -/
theorem Diagnosed.not_blank {reply : Except Http.TransportError Http.Response} {text : String}
    (h : Diagnosed reply text) : ¬Text.Blank text := by
  cases h with
  | words _ hb => exact hb
  | sentence _ ht => exact Http.not_blank_statusDescription ht
  | status _ _ ht _ =>
    rw [ht]
    exact Text.not_blank_append (Text.not_blank_of_first ⟨_, _, rfl, rfl⟩) _
  | transport cause => exact Http.not_blank_message cause

theorem diagnosed_status {r : Http.Response} (hb : Text.Blank r.body ∨ r.status = 304) (hlow : r.status < 400) :
    Diagnosed (.ok r) ("unexpected HTTP status " ++ Http.statusText r.status) := by
  refine .status hb hlow rfl ?_
  have htext : (Http.statusText r.status).toList =
      (toString r.status).toList ++ (' ' :: ((Http.reason? r.status).getD "<unknown status code>").toList) := by
    simp [Http.statusText, toString]
  rw [String.toList_append, htext]
  exact List.infix_append' ..

/-- The message about a refusal. -/
theorem Refusal.diagnosed {reply : Except Http.TransportError Http.Response} {failure : Failure}
    (h : Refusal reply failure) : Diagnosed reply failure.diagnostic := by
  cases h with
  | transport cause => exact .transport cause
  | @remote r _ hs =>
    unfold Failure.diagnostic
    by_cases hb : Text.Blank r.body
    · have hall : Text.allBlank r.body = true := Text.allBlank_iff.2 hb
      simp only [hall, if_true]
      cases ht : Http.statusDescription r.status with
      | some text => exact .sentence hb ht
      | none => exact diagnosed_status (.inl hb) (Http.statusDescription_eq_none_iff.1 ht)
    · have hall : ¬Text.allBlank r.body = true := fun h => hb (Text.allBlank_iff.1 h)
      simp only [if_neg hall]
      exact .words hs hb

/-- The message about a document that is the same for the second time. -/
theorem diagnosed_unchanged {r : Http.Response} (h304 : r.status = 304) :
    Diagnosed (.ok r) (Failure.remote 304 "").diagnostic := by
  have h := diagnosed_status (r := r) (.inr h304) (by omega)
  rw [h304] at h
  exact h

/-! ## The last request -/

/-- The reply to the last request of a course. -/
def LastReply (tr : List Event) (reply : Except Http.TransportError Http.Response) : Prop :=
  ∃ before q after, tr = before ++ .request q reply :: after ∧ ∀ q' reply', .request q' reply' ∉ after

theorem LastReply.cons {reply : Except Http.TransportError Http.Response} (h : LastReply tr reply) (ev : Event) :
    LastReply (ev :: tr) reply := by
  obtain ⟨before, q, after, rfl, hafter⟩ := h
  exact ⟨ev :: before, q, after, rfl, hafter⟩

theorem lastReply_request (q : Http.Request) (reply : Except Http.TransportError Http.Response)
    (h : ∀ q' reply', .request q' reply' ∉ tr) : LastReply (.request q reply :: tr) reply :=
  ⟨[], q, tr, rfl, h⟩

/-- What a course that ends in a failure says, and of which reply. -/
def FailsDiagnosed (tr : List Event) (e : Error) : Prop :=
  ∃ text reply, e = .fetchFailed text ∧ LastReply tr reply ∧ Diagnosed reply text

theorem FailsDiagnosed.cons {e : Error} (h : FailsDiagnosed tr e) (ev : Event) : FailsDiagnosed (ev :: tr) e := by
  obtain ⟨text, reply, he, hlast, hd⟩ := h
  exact ⟨text, reply, he, hlast.cons ev, hd⟩

theorem Retried.failsDiagnosed {e : Error} (h : Retried c uri tr (.error e)) : FailsDiagnosed tr e := by
  generalize hres : (Except.error e : Except Error String) = result at h
  cases h with
  | document _ _ => cases hres
  | unchanged h304 =>
    cases hres
    exact ⟨_, _, rfl, lastReply_request _ _ (by simp), diagnosed_unchanged h304⟩
  | refused hr =>
    cases hres
    exact ⟨_, _, rfl, lastReply_request _ _ (by simp), hr.diagnosed⟩

/-- A course that ends in a failure says what the reply to its last request was. -/
theorem Fetched.failsDiagnosed {e : Error} (h : Fetched c uri tr (.error e)) : FailsDiagnosed tr e := by
  generalize hres : (Except.error e : Except Error String) = result at h
  cases h with
  | document _ _ _ => cases hres
  | unchanged _ _ => cases hres
  | fallback _ _ _ => cases hres
  | lost _ _ ht =>
    subst hres
    exact ((ht.failsDiagnosed.cons _).cons _).cons _
  | failed _ hr hrec =>
    cases hres
    exact ⟨_, _, rfl, (lastReply_request _ _ hrec.request_notMem).cons _, hr.diagnosed⟩

/-- **Every failure of a fetch is diagnosed**: its message is about the reply to the last request that was made, and is
not blank. -/
theorem failure_diagnosed (s : Store σ) (t : Http.Transport τ) (c : FetchConfig) (uri : String) (w : World σ τ)
    (e : Error) (h : (visit s t c uri w).1.result = .error e) :
    ∃ text reply, e = .fetchFailed text ∧ (∃ ch ∈ text.toList, Text.isBlank ch = false) ∧
      LastReply (visit s t c uri w).1.events reply ∧ Diagnosed reply text := by
  obtain ⟨hf, -⟩ := visit_course s t c uri w
  rw [h] at hf
  obtain ⟨text, reply, he, hlast, hd⟩ := hf.failsDiagnosed
  exact ⟨text, reply, he, Text.not_blank_iff.1 hd.not_blank, hlast, hd⟩

/-- The second reply counts, and it has no words but white space. -/
theorem failure_diagnosed_again :
    let replies := [.ok ⟨304, [], "the first"⟩, .ok ⟨500, [], " \u2003\n"⟩]
    let v := (visit MemoryCache.store Http.Transport.ofList {} "https://example.org/schema.json"
      ⟨MemoryCache.empty, replies, []⟩).1
    v.result = .error (.fetchFailed "Internal Server Error.") ∧
      ∃ text reply, Error.fetchFailed "Internal Server Error." = .fetchFailed text ∧
        (∃ ch ∈ text.toList, Text.isBlank ch = false) ∧ LastReply v.events reply ∧ Diagnosed reply text := by
  intro replies v
  have hv : v.result = .error (.fetchFailed "Internal Server Error.") := by
    decide +kernel
  exact ⟨hv, failure_diagnosed _ _ _ _ _ _ hv⟩

/-- **What comes with the second news that a document is the same is not told**, although it is not blank. -/
theorem unchanged_words_unheard :
    ¬∀ (σ τ : Type) (s : Store σ) (t : Http.Transport τ) (c : FetchConfig) (uri : String) (w : World σ τ)
      (text : String) (r : Http.Response), (visit s t c uri w).1.result = .error (.fetchFailed text) →
        LastReply (visit s t c uri w).1.events (.ok r) → ¬Text.Blank r.body → text = r.body := by
  intro h
  let unchanged (body : String) : Http.Response := ⟨304, [], body⟩
  let w : World MemoryCache (List (Except Http.TransportError Http.Response)) :=
    ⟨MemoryCache.empty, [.ok (unchanged ""), .ok (unchanged "moved")], []⟩
  let v := (visit MemoryCache.store Http.Transport.ofList {} "https://example.org/schema.json" w).1
  have hresult : v.result = .error (.fetchFailed "unexpected HTTP status 304 Not Modified") := by
    decide +kernel
  have hevents : v.events = [.etag "https://example.org/schema.json" none,
      .request (requestOf {} "https://example.org/schema.json" none) (.ok (unchanged "")),
      .schema "https://example.org/schema.json" none,
      .request (requestOf {} "https://example.org/schema.json" none) (.ok (unchanged "moved"))] := by
    decide +kernel
  have hlast : LastReply v.events (.ok (unchanged "moved")) := by
    rw [hevents]
    exact (((lastReply_request _ _ (by simp)).cons _).cons _).cons _
  have hwords : ¬Text.Blank (unchanged "moved").body := by
    intro hb
    have hall := Text.allBlank_iff.2 hb
    revert hall
    decide +kernel
  have htext := h _ _ MemoryCache.store Http.Transport.ofList {} "https://example.org/schema.json" w _ _ hresult hlast
    hwords
  revert htext
  decide +kernel

end Fetch

end SchemaRelay

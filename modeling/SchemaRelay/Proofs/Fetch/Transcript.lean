import Mathlib.Control.Monad.Basic
import SchemaRelay.Fetch.World

/-!
# Transcripts

A transcript is a list of calls, each with what came back. `Plays s t w tr w'` says that the calls of `tr`, made one
after the other in the world `w`, are answered as `tr` tells and lead to `w'`. A program on worlds follows a relation
between transcripts and answers (`Follows`) if its runs are exactly the pairs in the relation; programs that do so
compose (`Follows.bind`).
-/

namespace SchemaRelay

/-- A call and what came back. -/
inductive Event where
  | etag (uri : String) (answer : Option String)
  | schema (uri : String) (answer : Option String)
  | put (uri etag content : String) (answer : Except Error Unit)
  | request (request : Http.Request) (answer : Except Http.TransportError Http.Response)
  deriving DecidableEq

/-- The call of an event. -/
def Event.call : Event → Call
  | .etag uri _ => .etag uri
  | .schema uri _ => .schema uri
  | .put uri e content _ => .put uri e content
  | .request r _ => .request r

variable {σ τ α β : Type}

namespace World

/-- Makes a call. -/
def perform (s : Store σ) (t : Http.Transport τ) (w : World σ τ) : Call → Event × World σ τ
  | .etag uri =>
    let (answer, w) := World.etag? s uri w
    (.etag uri answer, w)
  | .schema uri =>
    let (answer, w) := schema? s uri w
    (.schema uri answer, w)
  | .put uri etag content =>
    let (answer, w) := put s uri etag content w
    (.put uri etag content answer, w)
  | .request r =>
    let (answer, w) := send t r w
    (.request r answer, w)

/-- Makes calls one after the other. -/
def replay (s : Store σ) (t : Http.Transport τ) : List Call → World σ τ → List Event × World σ τ
  | [], w => ([], w)
  | c :: cs, w =>
    let (e, w) := w.perform s t c
    let (es, w) := replay s t cs w
    (e :: es, w)

/-- Every call is noted. -/
theorem calls_perform (s : Store σ) (t : Http.Transport τ) (w : World σ τ) (c : Call) :
    (w.perform s t c).2.calls = w.calls ++ [c] := by
  cases c <;> rfl

end World

/-- The calls of a transcript are answered as it tells, and lead from a world to another. -/
def Plays (s : Store σ) (t : Http.Transport τ) (w : World σ τ) (tr : List Event) (w' : World σ τ) : Prop :=
  World.replay s t (tr.map Event.call) w = (tr, w')

section Plays

variable {s : Store σ} {t : Http.Transport τ} {w w' : World σ τ}

theorem plays_nil : Plays s t w [] w' ↔ w = w' := by
  simp [Plays, World.replay]

theorem plays_cons {e : Event} {tr : List Event} :
    Plays s t w (e :: tr) w' ↔ ∃ v, w.perform s t e.call = (e, v) ∧ Plays s t v tr w' := by
  simp only [Plays, List.map_cons, World.replay, Prod.mk.injEq, List.cons.injEq]
  constructor
  · rintro ⟨⟨he, htr⟩, hw⟩
    exact ⟨_, Prod.ext he rfl, Prod.ext htr hw⟩
  · rintro ⟨v, he, htr⟩
    rw [he]
    exact ⟨⟨rfl, congrArg Prod.fst htr⟩, congrArg Prod.snd htr⟩

theorem plays_append {tr tr' : List Event} :
    Plays s t w (tr ++ tr') w' ↔ ∃ v, Plays s t w tr v ∧ Plays s t v tr' w' := by
  induction tr generalizing w with
  | nil => simp [plays_nil]
  | cons e tr ih =>
    simp only [List.cons_append, plays_cons, ih]
    constructor
    · rintro ⟨v, he, u, htr, htr'⟩
      exact ⟨u, ⟨v, he, htr⟩, htr'⟩
    · rintro ⟨u, ⟨v, he, htr⟩, htr'⟩
      exact ⟨v, he, u, htr, htr'⟩

/-- The calls of a transcript are noted in their order. -/
theorem Plays.calls {tr : List Event} (h : Plays s t w tr w') : w'.calls = w.calls ++ tr.map Event.call := by
  induction tr generalizing w with
  | nil => rw [plays_nil.1 h]; simp
  | cons e tr ih =>
    obtain ⟨v, he, htr⟩ := plays_cons.1 h
    have hv : v.calls = w.calls ++ [e.call] := by
      rw [← World.calls_perform s t w e.call, he]
    rw [ih htr, hv, List.map_cons, List.append_assoc, List.singleton_append]

end Plays

/-! ## Programs -/

/-- The runs of a program are exactly the transcripts and answers of a relation. -/
def Follows (s : Store σ) (t : Http.Transport τ) (x : StateM (World σ τ) α) (P : List Event → α → Prop) : Prop :=
  ∀ w a w', x.run w = (a, w') ↔ ∃ tr, P tr a ∧ Plays s t w tr w'

section Follows

variable {s : Store σ} {t : Http.Transport τ}

theorem Follows.congr {x : StateM (World σ τ) α} {P Q : List Event → α → Prop} (hx : Follows s t x P)
    (h : ∀ tr a, P tr a ↔ Q tr a) : Follows s t x Q := by
  intro w a w'
  simp only [hx w a w', h]

theorem follows_pure (a : α) : Follows s t (pure a) fun tr b => tr = [] ∧ b = a := by
  intro w b w'
  simp only [and_assoc, exists_eq_left, plays_nil]
  constructor
  · rintro ⟨⟩
    exact ⟨rfl, rfl⟩
  · rintro ⟨rfl, rfl⟩
    rfl

/-- A program that follows with one that does so for every answer. -/
theorem Follows.bind {x : StateM (World σ τ) α} {f : α → StateM (World σ τ) β} {P : List Event → α → Prop}
    {Q : α → List Event → β → Prop} (hx : Follows s t x P) (hf : ∀ a, Follows s t (f a) (Q a)) :
    Follows s t (x >>= f) fun tr b => ∃ a tr₁ tr₂, tr = tr₁ ++ tr₂ ∧ P tr₁ a ∧ Q a tr₂ b := by
  intro w b w'
  rcases hv : x.run w with ⟨a, v⟩
  have hrun : (x >>= f).run w = (f a).run v := by
    rw [StateT.run_bind, hv]; rfl
  obtain ⟨tr₁, hP, hpl⟩ := (hx w a v).1 hv
  rw [hrun, hf a]
  constructor
  · rintro ⟨tr₂, hQ, hpl'⟩
    exact ⟨tr₁ ++ tr₂, ⟨a, tr₁, tr₂, rfl, hP, hQ⟩, plays_append.2 ⟨v, hpl, hpl'⟩⟩
  · rintro ⟨_, ⟨a', tr₁', tr₂, rfl, hP', hQ⟩, hpl'⟩
    obtain ⟨v', h₁, h₂⟩ := plays_append.1 hpl'
    -- the first program has but one run from `w`
    have heq := hv.symm.trans ((hx w a' v').2 ⟨tr₁', hP', h₁⟩)
    obtain ⟨rfl, rfl⟩ := Prod.mk.inj heq
    exact ⟨tr₂, hQ, h₂⟩

/-- A program that makes one call has one event. -/
theorem follows_call {x : StateM (World σ τ) α} {c : Call} {e : α → Event} (hcall : ∀ a, (e a).call = c)
    (hinj : ∀ a b, e a = e b → a = b) (hx : ∀ w, w.perform s t c = (e (x.run w).1, (x.run w).2)) :
    Follows s t x fun tr a => tr = [e a] := by
  intro w a w'
  simp only [exists_eq_left, plays_cons, plays_nil, hcall, hx]
  constructor
  · intro h
    exact ⟨w', by rw [h], rfl⟩
  · rintro ⟨_, h, rfl⟩
    obtain ⟨he, hw⟩ := Prod.mk.inj h
    exact Prod.ext (hinj _ _ he) hw

theorem follows_etag (uri : String) : Follows s t (World.etag? s uri) fun tr a => tr = [.etag uri a] :=
  follows_call (c := .etag uri) (fun _ => rfl) (fun _ _ h => by injection h) fun _ => rfl

theorem follows_schema (uri : String) : Follows s t (World.schema? s uri) fun tr a => tr = [.schema uri a] :=
  follows_call (c := .schema uri) (fun _ => rfl) (fun _ _ h => by injection h) fun _ => rfl

theorem follows_put (uri etag content : String) :
    Follows s t (World.put s uri etag content) fun tr a => tr = [.put uri etag content a] :=
  follows_call (c := .put uri etag content) (fun _ => rfl) (fun _ _ h => by injection h) fun _ => rfl

theorem follows_send (r : Http.Request) : Follows s t (World.send t r) fun tr a => tr = [.request r a] :=
  follows_call (c := .request r) (fun _ => rfl) (fun _ _ h => by injection h) fun _ => rfl

end Follows

end SchemaRelay

import SchemaRelay.Proofs.Cache.Integrity
import SchemaRelay.Proofs.Cache.Refinement
import SchemaRelay.Proofs.Results
import SchemaRelay.Proofs.Tool.Content
import SchemaRelay.Proofs.Tool.Reading
import SchemaRelay.Service.Session

/-!
# What is shown of the cache and what is served from it

Two tools reach the row of a URI. `schema_cache_get` shows the row under the very URI that it is given, whatever is in
it. `schema_content` takes white space off the URI, and where the network fails it serves the content of the row if the
service's own index has an ETag for the URI and the digest in the row holds. So everything that is served offline is
shown under the URI without white space, and of what is shown there exactly the entries are served that are intact and
known to the index (`offline_serves_shown`).

Other programs can add a row of which the index does not know, or damage one: both are shown and not served
(`shown_unlike_served`). Where only fetches have written to the rows every entry is known and intact, and the two tools
agree.
-/

namespace SchemaRelay

/-! ## Entries that are shown -/

theorem digest_ne_empty (content : String) : digest content ≠ "" := by
  simp [digest, Sha256.hex, Sha256.hexWord, String.ofList_eq_empty_iff]

/-- A content is given if and only if the entry of the URI can be read and is intact. -/
theorem TableCache.schema?_eq_some_iff_entry {c : TableCache} {uri content : String} :
    c.schema? uri = some content ↔ ∃ e, c.entry uri = .ok (some e) ∧ e.isIntact = true ∧ e.content = content := by
  rw [schema?_eq, entry_eq, schemaOfRow]
  constructor
  · intro h
    split at h
    · next e he =>
      obtain ⟨hi, hc⟩ := Option.ite_none_right_eq_some.1 h
      exact ⟨e, he, hi, Option.some.inj hc⟩
    · cases h
  · rintro ⟨e, he, hi, rfl⟩
    simp only [he, hi, if_true]

/-! ## Fetches that are not answered -/

/-- A fetch whose first request fails gives the content of the store if the store has an ETag beside it. -/
theorem Fetch.content_of_refused {σ τ : Type} {s : Store σ} {etag schema : σ → String → Option String}
    (hs : s.Reads etag schema) {t : Http.Transport τ} {c : FetchConfig} {uri : String} {w : World σ τ}
    {cause : Http.TransportError} (h : (t (requestOf c uri (etag w.store uri)) w.transport).1 = .error cause) :
    ((content s t c uri).run w).1 =
      match (etag w.store uri).bind fun _ => schema w.store uri with
      | some text => .ok text
      | none => .error (.fetchFailed cause.message) := by
  have hpure {α : Type} (a : α) (w : World σ τ) : (pure a : StateM (World σ τ) α) w = (a, w) := rfl
  simp only [content, ask, cached?, World.etag?, World.send, StateT.run, bind, StateT.bind, hpure, hs.etag?, h,
    Outcome.ofAnswer, Failure.diagnostic]
  cases etag w.store uri with
  | none => rfl
  | some e =>
    simp only [World.schema?, hs.schema?, Option.bind_some]
    cases schema w.store uri <;> rfl

/-- Over a network in which nothing can be reached every request fails. -/
theorem Http.Connector.unreachable (sender : Sender) (r : Request) (c : Connector Unit) :
    ∃ cause, (transport Wire.unreachable sender r c).1 = .error cause := by
  unfold transport
  split
  · exact ⟨_, rfl⟩
  · next client c' _ =>
    simp only [Client.get]
    cases hurl : Client.target r.url with
    | error e => exact ⟨e, rfl⟩
    | ok url =>
      have hfollow : ∀ hops n, (Client.follow Wire.unreachable client r.headers hops url n).1 =
          .error (Client.failure url .unanswered) := by
        intro hops n
        cases hops <;> rfl
      exact ⟨Client.failure url .unanswered, by simp only [hfollow]; rfl⟩

namespace Service

variable {ν : Type}

/-! ## The two tools -/

/-- The arguments of a tool that takes a URI. -/
def uriArgument (uri : String) : Fields Json := [("uri", .str uri)]

/-- No request of the service is answered. -/
def Offline (env : Surroundings ν) (s : Service ν) : Prop :=
  ∀ r, ∃ cause, (Http.Connector.transport env.wire (.ofConfig s.config.fetch) r s.connector).1 = .error cause

/-- `schema_cache_get` answers with an entry. -/
def Shows (env : Surroundings ν) (s : Service ν) (uri : String) (e : CacheEntry) : Prop :=
  (s.call env "schema_cache_get" (uriArgument uri)).1 = .ok (Tool.entryJson e).pretty

/-- `schema_content` answers with a content. -/
def Serves (env : Surroundings ν) (s : Service ν) (uri content : String) : Prop :=
  (s.call env "schema_content" (uriArgument uri)).1 = .ok content

section Tools

variable {env : Surroundings ν} {s : Service ν} {uri u : String}

theorem shows_iff {e : CacheEntry} : s.Shows env uri e ↔ s.cache.entry uri = .ok (some e) := by
  have hcall : (s.call env "schema_cache_get" (uriArgument uri)).1 =
      (Tool.cacheGet s.cache uri).mapError .failed := rfl
  rw [Shows, hcall, mapError_eq_ok, Tool.cacheGet_eq_ok_iff]

theorem call_content (env : Surroundings ν) (s : Service ν) (uri : String) :
    s.call env "schema_content" (uriArgument uri) =
      ((s.content env uri).1.mapError .failed, (s.content env uri).2) := by
  have hargument : Tool.contentOfJson (.obj (uriArgument uri)) = .ok uri := rfl
  simp only [call, hargument]

/-- A service fetches over its own cache and network. -/
theorem content_run (env : Surroundings ν) (s : Service ν) (uri : String) :
    (s.content env uri).1 = ((Tool.content (TableCache.store env.now)
      (Http.Connector.transport env.wire (.ofConfig s.config.fetch)) s.config.fetch uri).run
        ⟨s.cache, s.connector, []⟩).1 := by
  simp only [content]
  generalize (Tool.content _ _ s.config.fetch uri).run _ = run
  rfl

/-- A session answers a call of `schema_content` as the tool does. -/
theorem answer_content (env : Surroundings ν) (s : Service ν) (uri : String) :
    (Session.answer env s (.callTool "schema_content" (uriArgument uri))).1 =
      ((Tool.contentAnswer (TableCache.store env.now)
        (Http.Connector.transport env.wire (.ofConfig s.config.fetch)) s.config.fetch uri).run
          ⟨s.cache, s.connector, []⟩).1.map Session.toolResult := by
  rw [Tool.contentAnswer_run, ← content_run]
  unfold Session.answer
  simp only [call_content]
  cases (s.content env uri).1 <;> rfl

theorem serves_iff {content : String} : s.Serves env uri content ↔ (s.content env uri).1 = .ok content := by
  rw [Serves, call_content, mapError_eq_ok]

theorem serves_offline_iff (hoff : s.Offline env) (hu : Tool.checkedUri uri = .ok u) {content : String} :
    s.Serves env uri content ↔ s.cache.etag? u ≠ none ∧ s.cache.schema? u = some content := by
  let t := Http.Connector.transport env.wire (.ofConfig s.config.fetch)
  let w : World TableCache (Http.Connector ν) := ⟨s.cache, s.connector, []⟩
  obtain ⟨cause, hcause⟩ := hoff (Fetch.requestOf s.config.fetch u (s.cache.etag? u))
  have hrun : (s.content env uri).1 = ((Fetch.content (TableCache.store env.now) t s.config.fetch u).run w).1 := by
    rw [content_run, Tool.content, hu]
  rw [serves_iff, hrun, Fetch.content_of_refused (TableCache.reads env.now) hcause]
  cases s.cache.etag? u with
  | none => simp
  | some e => cases s.cache.schema? u <;> simp

end Tools

/-! ## What happens to a service -/

/-- What can happen between two looks at a service: it is asked for a content, or another program changes the rows. -/
inductive Turn (ν : Type) where
  | fetch (env : Surroundings ν) (uri : String)
  | change (change : Change)

def turn (s : Service ν) : Turn ν → Service ν
  | .fetch env uri => (s.call env "schema_content" (uriArgument uri)).2
  | .change c =>
    match c.exec s.cache.db with
    | .ok (_, db) => { s with cache := { s.cache with db } }
    | .error _ => s

def turns (s : Service ν) (ts : List (Turn ν)) : Service ν := ts.foldl turn s

theorem turns_cons (s : Service ν) (t : Turn ν) (ts : List (Turn ν)) : s.turns (t :: ts) = (s.turn t).turns ts := by
  simp only [turns, List.foldl_cons]

/-- The cache was opened on some database, and then things happened. -/
def Reachable (s : Service ν) : Prop :=
  ∃ config db db' cache wire ts, db.Keyed ∧ TableCache.openOn db = (db', .ok cache) ∧
    s = (ready config cache wire).turns ts

/-- The cache was new, and nothing but fetches happened. -/
def Undisturbed (s : Service ν) : Prop :=
  ∃ config wire, ∃ fetches : List (Surroundings ν × String),
    s = (ready config .fresh wire).turns (fetches.map fun f => .fetch f.1 f.2)

/-- A fetch leaves a cache that mirrors one in memory so. -/
theorem mirrors_fetch {s : Service ν} {m : MemoryCache} (h : Mirrors m s.cache) (env : Surroundings ν) (uri : String) :
    ∃ m', Mirrors m' (s.turn (.fetch env uri)).cache := by
  let t := Http.Connector.transport env.wire (.ofConfig s.config.fetch)
  have hcache : (s.turn (.fetch env uri)).cache =
      ((Tool.content (TableCache.store env.now) t s.config.fetch uri).run ⟨s.cache, s.connector, []⟩).2.store := by
    simp only [turn, call_content, Service.content]
    generalize (Tool.content _ _ s.config.fetch uri).run _ = run
    rfl
  rw [hcache]
  cases hu : Tool.checkedUri uri with
  | error e =>
    refine ⟨m, ?_⟩
    simp only [Tool.content, hu]
    exact h
  | ok u =>
    simp only [Tool.content, hu]
    let w : World TableCache (Http.Connector ν) := ⟨s.cache, s.connector, []⟩
    have hw : World.Related (fun c m => Mirrors m c) w ⟨m, s.connector, []⟩ := ⟨h, rfl, rfl⟩
    obtain ⟨-, hr⟩ := Fetch.visit_sim (t := t) (simulates_memory env.now) hw s.config.fetch u
    exact ⟨_, hr.store⟩

theorem Undisturbed.mirrors {s : Service ν} (h : s.Undisturbed) : ∃ m, Mirrors m s.cache := by
  obtain ⟨config, wire, fetches, rfl⟩ := h
  have hrun : ∀ (fs : List (Surroundings ν × String)) (s : Service ν) (m : MemoryCache), Mirrors m s.cache →
      ∃ m', Mirrors m' (s.turns (fs.map fun f => .fetch f.1 f.2)).cache := by
    intro fs
    induction fs with
    | nil => exact fun s m hm => ⟨m, hm⟩
    | cons f fs ih =>
      intro s m hm
      obtain ⟨m', hm'⟩ := mirrors_fetch hm f.1 f.2
      rw [List.map_cons, turns_cons]
      exact ih _ m' hm'
  exact hrun fetches _ _ Mirrors.fresh

/-- In such a cache every entry is intact and its ETag is known. -/
theorem known_of_mirrors {m : MemoryCache} {c : TableCache} (h : Mirrors m c) {uri : String} {e : CacheEntry}
    (he : c.entry uri = .ok (some e)) : e.contentSha256 = digest e.content ∧ c.etag? uri ≠ none := by
  obtain ⟨now, hentry⟩ := h.entry uri
  rw [TableCache.entry, hentry] at he
  rw [h.etag?, MemoryCache.etag?]
  cases hp : Fields.get? m uri with
  | none =>
    rw [hp] at he
    cases he
  | some p =>
    rw [hp] at he
    cases he
    exact ⟨rfl, by simp⟩

/-! ## What is served -/

/-- `schema_content` accepts a URI. -/
def Accepts (uri : String) : Prop := ∃ u, Tool.checkedUri uri = .ok u

theorem Accepts.eq_trim {uri : String} (h : Accepts uri) : Tool.checkedUri uri = .ok (Text.trim uri) := by
  obtain ⟨u, hu⟩ := h
  rcases Tool.checkedUri_cases uri with ⟨-, herror⟩ | ⟨-, cause, -, herror⟩ | ⟨-, url, -, hok⟩
  · cases hu.symm.trans herror
  · cases hu.symm.trans herror
  · exact hok

/-- **What is served offline is shown, and what is shown is served if it is intact and its ETag is known.** Both hold of
everything that is shown as long as nobody else changes the rows. -/
theorem offline_serves_shown (env : Surroundings ν) (s : Service ν) (hoff : s.Offline env) (uri : String)
    (hu : Accepts uri) (content : String) :
    (s.Serves env uri content ↔ ∃ e, s.Shows env (Text.trim uri) e ∧ e.content = content ∧
      e.contentSha256 = digest content ∧ s.cache.etag? (Text.trim uri) ≠ none) ∧
    (s.Undisturbed → (s.Serves env uri content ↔ ∃ e, s.Shows env (Text.trim uri) e ∧ e.content = content)) := by
  have hserves : s.Serves env uri content ↔ ∃ e, s.Shows env (Text.trim uri) e ∧ e.content = content ∧
      e.contentSha256 = digest content ∧ s.cache.etag? (Text.trim uri) ≠ none := by
    rw [serves_offline_iff hoff hu.eq_trim, TableCache.schema?_eq_some_iff_entry]
    constructor
    · rintro ⟨hknown, e, he, hi, rfl⟩
      have hd : digest e.content = e.contentSha256 := by simpa [CacheEntry.isIntact] using hi
      exact ⟨e, shows_iff.2 he, rfl, hd.symm, hknown⟩
    · rintro ⟨e, he, rfl, hd, hknown⟩
      exact ⟨hknown, e, shows_iff.1 he, by simp [CacheEntry.isIntact, hd], rfl⟩
  refine ⟨hserves, fun hund => ?_⟩
  obtain ⟨m, hm⟩ := hund.mirrors
  rw [hserves]
  constructor
  · rintro ⟨e, he, hc, -⟩
    exact ⟨e, he, hc⟩
  · rintro ⟨e, he, rfl⟩
    exact ⟨e, he, rfl, known_of_mirrors hm (shows_iff.1 he)⟩

/-! ## Where the two differ -/

/-- Surroundings without network and files. -/
def nowhere : Surroundings Unit := ⟨Http.Wire.unreachable, fun _ => .error .notFound, ""⟩

theorem offline_nowhere (s : Service Unit) : s.Offline nowhere := fun r =>
  Http.Connector.unreachable (.ofConfig s.config.fetch) r s.connector

def page : String := "https://x/s.json"

theorem trim_page : Text.trim page = page ∧ Text.trim (" " ++ page) = page := by decide +kernel

theorem accepts_page : Accepts page ∧ Accepts (" " ++ page) := by
  have hpage : Tool.checkedUri page = .ok page := by decide +kernel
  refine ⟨⟨page, hpage⟩, page, ?_⟩
  rw [Tool.checkedUri, trim_page.1] at hpage
  rw [Tool.checkedUri, trim_page.2]
  exact hpage

/-- An entry, a database with its row, and a service whose cache was opened on that. -/
def pageEntry : CacheEntry := TableCache.entryOf "" page "1" "one"

def stock : Database := ⟨some [pageEntry.row], false, some [1]⟩

def stocked : Service Unit := ready {} ⟨stock, [(page, "1")]⟩ ()

theorem reachable_stocked (ts : List (Turn Unit)) : (stocked.turns ts).Reachable :=
  ⟨{}, stock, stock, ⟨stock, [(page, "1")]⟩, (), ts, Database.keyed_of_nodup rfl (by simp), rfl, rfl⟩

theorem known_page : stocked.cache.etag? page ≠ none := by
  simp [stocked, ready, TableCache.etag?, Fields.get?]

theorem shows_page : stocked.Shows nowhere page pageEntry := shows_iff.2 rfl

/-- White space before the URI of an entry that is intact and known. -/
theorem offline_serves_shown_spaced :
    stocked.Offline nowhere ∧ Accepts (" " ++ page) ∧ stocked.Serves nowhere (" " ++ page) "one" := by
  have hoff := offline_nowhere stocked
  refine ⟨hoff, accepts_page.2, (offline_serves_shown nowhere stocked hoff _ accepts_page.2 "one").1.2 ?_⟩
  rw [trim_page.2]
  exact ⟨pageEntry, shows_page, rfl, rfl, known_page⟩

/-- The two tools agree about a URI. -/
def Agrees (env : Surroundings ν) (s : Service ν) (uri : String) : Prop :=
  ∀ content, (∃ e, s.Shows env uri e ∧ e.content = content) ↔ s.Serves env uri content

/-- **The two tools need not agree**: about an entry that another program added or one that it damaged, or about a URI
with white space around it. -/
theorem shown_unlike_served :
    let added := (ready {} .fresh ()).turns [.change (.insertRow pageEntry.row)]
    let damaged := stocked.turns [.change (.setColumn page .digest (.text ""))]
    (added.Reachable ∧ added.Offline nowhere ∧ Accepts page ∧ ¬added.Agrees nowhere page) ∧
      (damaged.Reachable ∧ damaged.Offline nowhere ∧ Accepts page ∧ ¬damaged.Agrees nowhere page) ∧
      (stocked.Reachable ∧ stocked.Offline nowhere ∧ Accepts (" " ++ page) ∧
        ¬stocked.Agrees nowhere (" " ++ page)) := by
  intro added damaged
  refine ⟨⟨?added, offline_nowhere _, accepts_page.1, fun h => ?notKnown⟩,
    ⟨reachable_stocked _, offline_nowhere _, accepts_page.1, fun h => ?notIntact⟩,
    ⟨reachable_stocked [], offline_nowhere _, accepts_page.2, fun h => ?notTrimmed⟩⟩
  case added => exact ⟨{}, Database.empty, _, .fresh, (), _, nofun, TableCache.openOn_empty, rfl⟩
  case notKnown =>
    have hserved := (h "one").1 ⟨pageEntry, shows_iff.2 rfl, rfl⟩
    rw [serves_offline_iff (offline_nowhere _) accepts_page.1.eq_trim, trim_page.1] at hserved
    exact hserved.1 rfl
  case notIntact =>
    have hentry : damaged.cache.entry page = .ok (some { pageEntry with contentSha256 := "" }) := rfl
    have hserved := (h "one").1 ⟨_, shows_iff.2 hentry, rfl⟩
    rw [serves_offline_iff (offline_nowhere _) accepts_page.1.eq_trim, trim_page.1,
      TableCache.schema?_eq_some_iff_entry, hentry] at hserved
    obtain ⟨-, e, he, hintact, -⟩ := hserved
    cases he
    exact digest_ne_empty _ (by simpa [CacheEntry.isIntact] using hintact)
  case notTrimmed =>
    have hserves : stocked.Serves nowhere (" " ++ page) "one" := by
      rw [serves_offline_iff (offline_nowhere _) accepts_page.2.eq_trim, trim_page.2,
        TableCache.schema?_eq_some_iff_entry]
      exact ⟨known_page, pageEntry, rfl, by simp [CacheEntry.isIntact, pageEntry, TableCache.entryOf], rfl⟩
    obtain ⟨e, he, -⟩ := (h "one").2 hserves
    have hnone : stocked.cache.entry (" " ++ page) = .ok none := rfl
    rw [shows_iff, hnone] at he
    cases he

end Service

end SchemaRelay

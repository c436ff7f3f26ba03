import Mathlib.Control.Monad.Basic
import SchemaRelay.Http.Connector
import SchemaRelay.Proofs.Results

/-!
# Clients that are kept

A connector keeps the client that it built last and takes it for every request that needs the same. Nobody can tell: the
client that is kept was built for the key that it is kept under (`Connector.Fits`), so each request is carried out by
the very client that would be built for it (`transport_cases`), and a list of requests gets the answers, and leaves the
network in the state, that it would with a new client for each (`serve_transport`). A client that cannot be built
concerns no other request.

In particular the limit of redirects is that of the request at hand. A chain of redirects is what a network does to a
client that follows it to its end (`Leads`); it is followed to its end if it is not longer than the limit
(`follow_of_le`), and else the redirect past the limit is an error (`follow_of_lt`).
-/

namespace SchemaRelay.Http

variable {ν τ : Type}

/-- Answers requests one after the other. -/
def Transport.serve (t : Transport τ) : List Request → τ → List (Except TransportError Response) × τ
  | [], st => ([], st)
  | r :: rs, st =>
    let (answer, st) := t r st
    let (answers, st) := serve t rs st
    (answer :: answers, st)

/-! ## Redirects -/

namespace Client

variable {w : Wire ν} {c client : Client} {headers : List Header} {url : Url} {n n' : ν} {k hops : Nat}
  {r reply : Reply}

/-- A client is built of a proxy that can be used and a name that can be sent, with the limit that the key has. -/
theorem build_eq_ok {s : Sender} {key : ClientKey} :
    build s key = .ok client ↔ ∃ proxy, proxyOf key.settings.proxy = .ok proxy ∧ Header.isSendable s.userAgent = true ∧
      client = ⟨s, proxy, key.settings.proxyStrictSsl, key.maxRedirects⟩ := by
  unfold build
  rw [bind_eq_ok]
  constructor
  · rintro ⟨proxy, hproxy, h⟩
    split at h
    · next hname =>
      cases h
      exact ⟨proxy, hproxy, hname, rfl⟩
    · cases h
  · rintro ⟨proxy, hproxy, hname, rfl⟩
    refine ⟨proxy, hproxy, ?_⟩
    rw [if_pos hname]
    rfl

/-- From a URL a client is sent on `k` times and then gets a reply that sends it nowhere. -/
inductive Leads (w : Wire ν) (c : Client) (headers : List Header) : Url → ν → Nat → Reply → ν → Prop
  | last {url : Url} {n n' : ν} {r : Reply} (hw : w (c.exchange headers url) n = (.ok r, n'))
    (hnext : next? url r = none) : Leads w c headers url n 0 r n'
  | hop {url next : Url} {n n₁ n' : ν} {k : Nat} {r reply : Reply} (hw : w (c.exchange headers url) n = (.ok r, n₁))
    (hnext : next? url r = some next) (hrest : Leads w c headers next n₁ k reply n') :
    Leads w c headers url n (k + 1) reply n'

/-- A chain of redirects that is not too long is followed to its end. -/
theorem follow_of_le (h : Leads w c headers url n k reply n') (hk : k ≤ hops) :
    follow w c headers hops url n = (.ok reply, n') := by
  induction h generalizing hops with
  | last hw hnext =>
    unfold follow
    simp only [hw, hnext]
  | hop hw hnext _ ih =>
    obtain ⟨hops, rfl⟩ : ∃ m, hops = m + 1 := ⟨hops - 1, by omega⟩
    unfold follow
    simp only [hw, hnext]
    exact ih (by omega)

/-- Of a chain that is too long the redirect past the limit is an error. -/
theorem follow_of_lt (h : Leads w c headers url n k reply n') (hk : hops < k) :
    ∃ u n₁, follow w c headers hops url n = (.error (.network (about "error following redirect" u)), n₁) := by
  induction h generalizing hops with
  | last hw hnext => omega
  | @hop url next _ n₁ _ _ _ _ hw hnext _ ih =>
    cases hops with
    | zero =>
      refine ⟨url, n₁, ?_⟩
      unfold follow
      simp only [hw, hnext]
    | succ hops =>
      obtain ⟨u, n₂, hfollow⟩ := ih (by omega : hops < _)
      refine ⟨u, n₂, ?_⟩
      unfold follow
      simp only [hw, hnext]
      exact hfollow

/-- No reply makes a response that is the error of a redirect. -/
theorem response_ne_redirect (address : String) (reply : Reply) (u : Url) :
    response address reply ≠ .error (.network (about "error following redirect" u)) := by
  intro h
  unfold response at h
  split at h
  · have htext : "error decoding response body" = about "error following redirect" u := by
      simpa using h
    -- the two texts part at "error d" and "error f"
    have hchar := congrArg (fun text => text.toList[6]?) htext
    simp [about, toString] at hchar
  · split at h
    · cases h
    · cases h

end Client

/-! ## Answers with a client that is kept and without -/

/-- The transport over a network that builds a client for every request and keeps none. -/
def Client.transport (w : Wire ν) (s : Sender) : Transport ν := fun r n =>
  match Client.build s r.key with
  | .ok client => client.get w r n
  | .error e => (.error e, n)

namespace Connector

/-- The client that is kept, if there is one, was built for the key that it is kept under. -/
def Fits (s : Sender) (c : Connector ν) : Prop :=
  ∀ key client, c.kept = some (key, client) → Client.build s key = .ok client

variable {w : Wire ν} {s : Sender} {c : Connector ν}

theorem fits_idle (s : Sender) (n : ν) : (idle n).Fits s := nofun

/-- The client for a key is the one that is built for it, and is then kept; if none can be built, nothing changes. -/
theorem clientFor_cases (h : c.Fits s) (key : ClientKey) :
    (∃ client, Client.build s key = .ok client ∧
      clientFor s c key = (.ok client, { c with kept := some (key, client) })) ∨
    ∃ e, Client.build s key = .error e ∧ clientFor s c key = (.error e, c) := by
  have hbuilt : c.kept.map (·.1) ≠ some key → clientFor s c key =
      match Client.build s key with
      | .ok client => (.ok client, { c with kept := some (key, client) })
      | .error e => (.error e, c) := by
    intro hother
    unfold clientFor
    cases hkept : c.kept with
    | none => rfl
    | some pair =>
      obtain ⟨current, client⟩ := pair
      have hne : current ≠ key := by simpa [hkept] using hother
      exact if_neg hne
  by_cases hkey : c.kept.map (·.1) = some key
  · obtain ⟨⟨current, client⟩, hkept, rfl⟩ := Option.map_eq_some_iff.1 hkey
    refine .inl ⟨client, h current client hkept, ?_⟩
    have hsame : { c with kept := some (current, client) } = c := by
      rw [← hkept]
    unfold clientFor
    simp only [hkept, if_pos, hsame]
  · rw [hbuilt hkey]
    cases Client.build s key with
    | ok client => exact .inl ⟨client, rfl, rfl⟩
    | error e => exact .inr ⟨e, rfl, rfl⟩

/-- A request is carried out by the client that is built for it; if none can be built, that is its answer and nothing
changes. -/
theorem transport_cases (h : c.Fits s) (w : Wire ν) (r : Request) :
    (∃ client, Client.build s r.key = .ok client ∧
      transport w s r c = ((client.get w r c.wire).1, ⟨some (r.key, client), (client.get w r c.wire).2⟩)) ∨
    ∃ e, Client.build s r.key = .error e ∧ transport w s r c = (.error e, c) := by
  rcases clientFor_cases h r.key with ⟨client, hbuild, hclient⟩ | ⟨e, hbuild, hclient⟩
  · refine .inl ⟨client, hbuild, ?_⟩
    unfold transport
    simp only [hclient]
  · refine .inr ⟨e, hbuild, ?_⟩
    unfold transport
    simp only [hclient]

/-- One request. -/
theorem transport_eq (h : c.Fits s) (w : Wire ν) (r : Request) :
    (transport w s r c).1 = (Client.transport w s r c.wire).1 ∧
      (transport w s r c).2.wire = (Client.transport w s r c.wire).2 ∧ (transport w s r c).2.Fits s := by
  unfold Client.transport
  rcases transport_cases h w r with ⟨client, hbuild, heq⟩ | ⟨e, hbuild, heq⟩
  · rw [heq, hbuild]
    refine ⟨rfl, rfl, ?_⟩
    rintro key client' hkept
    cases hkept
    exact hbuild
  · rw [heq, hbuild]
    exact ⟨rfl, rfl, h⟩

/-- Requests one after the other. -/
theorem serve_transport (h : c.Fits s) (w : Wire ν) (rs : List Request) :
    ((transport w s).serve rs c).1 = ((Client.transport w s).serve rs c.wire).1 ∧
      ((transport w s).serve rs c).2.wire = ((Client.transport w s).serve rs c.wire).2 ∧
      ((transport w s).serve rs c).2.Fits s := by
  induction rs generalizing c with
  | nil => exact ⟨rfl, rfl, h⟩
  | cons r rs ih =>
    obtain ⟨hanswer, hwire, hfits⟩ := transport_eq h w r
    obtain ⟨hanswers, hwires, hfits'⟩ := ih hfits
    rw [hwire] at hanswers hwires
    simp only [Transport.serve]
    exact ⟨by rw [hanswer, hanswers], hwires, hfits'⟩

/-- What comes of a request over a connector in a state that it got into. -/
structure Serves (w : Wire ν) (s : Sender) (c : Connector ν) (r : Request) : Prop where
  /-- A chain of redirects is followed to its end if and only if it is not longer than the limit of this request. -/
  redirects : ∀ client url k reply n', Client.build s r.key = .ok client → Client.target r.url = .ok url →
    Client.Leads w client r.headers url c.wire k reply n' →
      ((transport w s r c).1 = Client.response r.url reply ↔ k ≤ r.maxRedirects) ∧
        (k ≤ r.maxRedirects → (transport w s r c).2.wire = n') ∧
        (r.maxRedirects < k → ∃ u, (transport w s r c).1 =
          .error (.network (Client.about "error following redirect" u)))
  /-- That no client can be built is the answer to this request, and all else stays as it was. -/
  failed : ∀ e, Client.build s r.key = .error e → transport w s r c = (.error e, c)

theorem Fits.serves (h : c.Fits s) (w : Wire ν) (r : Request) : Serves w s c r where
  redirects client url k reply n' hbuild htarget hleads := by
    have hlimit : client.maxRedirects = r.maxRedirects := by
      obtain ⟨proxy, -, -, rfl⟩ := Client.build_eq_ok.1 hbuild
      rfl
    have hanswer : (transport w s r c).1 =
        (Client.follow w client r.headers r.maxRedirects url c.wire).1.bind (Client.response r.url) := by
      rw [(transport_eq h w r).1]
      simp only [Client.transport, hbuild, Client.get, htarget, hlimit]
    have hwire : (transport w s r c).2.wire =
        (Client.follow w client r.headers r.maxRedirects url c.wire).2 := by
      rw [(transport_eq h w r).2.1]
      simp only [Client.transport, hbuild, Client.get, htarget, hlimit]
    rcases Nat.lt_or_ge r.maxRedirects k with hlt | hle
    · obtain ⟨u, n₁, hfollow⟩ := Client.follow_of_lt hleads hlt
      have herror : (transport w s r c).1 = .error (.network (Client.about "error following redirect" u)) := by
        rw [hanswer, hfollow]
        rfl
      refine ⟨⟨fun heq => ?_, fun hk => absurd hlt (by omega)⟩, fun hk => absurd hlt (by omega), fun _ => ⟨u, herror⟩⟩
      exact absurd (heq.symm.trans herror) (Client.response_ne_redirect r.url reply u)
    · have hfollow := Client.follow_of_le hleads hle
      refine ⟨⟨fun _ => hle, fun _ => ?_⟩, fun _ => ?_, fun hlt => absurd hlt (by omega)⟩
      · rw [hanswer, hfollow]
        rfl
      · rw [hwire, hfollow]
  failed e hbuild := by
    rcases transport_cases h w r with ⟨client, hok, -⟩ | ⟨e', herror, heq⟩
    · cases hbuild.symm.trans hok
    · cases hbuild.symm.trans herror
      exact heq

/-- **That a client is kept is not seen.** Requests have the answers that they would have with a new client for each,
and leave the network as it would be then; and whatever was requested before, the next request goes by its own settings
and its own limit. -/
theorem kept_client_unseen (w : Wire ν) (s : Sender) (rs : List Request) (n : ν) :
    ((transport w s).serve rs (idle n)).1 = ((Client.transport w s).serve rs n).1 ∧
      ((transport w s).serve rs (idle n)).2.wire = ((Client.transport w s).serve rs n).2 ∧
      ∀ r, Serves w s ((transport w s).serve rs (idle n)).2 r := by
  obtain ⟨hanswers, hwire, hfits⟩ := serve_transport (fits_idle s n) w rs
  exact ⟨hanswers, hwire, fun r => hfits.serves w r⟩

/-- A network that redirects as often as its state tells, and its answer to a request that comes after one with a higher
limit and one with a proxy that cannot be used. -/
example :
    let w : Wire Nat := fun _ n =>
      match n with
      | 0 => (.ok ⟨200, [], some []⟩, 3)
      | n + 1 => (.ok ⟨302, [⟨"location", Header.bytes "/next"⟩], some []⟩, n)
    let get (limit : Nat) (proxy : Option String) : Request := ⟨"http://[::1]/", limit, [], ⟨proxy, true⟩⟩
    ((transport w ⟨"agent", 1000⟩).serve [get 3 none, get 5 (some "http://"), get 2 none] (idle 3)).1 =
      [.ok ⟨200, [], ""⟩, .error (.proxy "http://" Client.builderError),
        .error (.network "error following redirect for url (http://[::1]/next)")] := by
  decide +kernel

end Connector

end SchemaRelay.Http

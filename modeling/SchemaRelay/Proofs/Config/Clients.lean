import SchemaRelay.Proofs.Config.Layers
import SchemaRelay.Proofs.Http.Reuse
import SchemaRelay.Proofs.Url.Host

/-!
# Configurations and their clients

The limits of a configuration and the building of its client look at the same proxy and the same user agent, in
different ways. A proxy within the limits is any absolute URL; a client needs the address of a host (`NamesProxy`), may
put `http://` in front of a text to get one, and takes an empty text for no proxy. A user agent within the limits is any
text but the empty one; a client needs one without control characters (`HasControl`).

So a configuration within its limits has a client if its proxy is a URL with a host, as all URLs of the web are
(`hasHost_of_special`), and its user agent can be sent; and a proxy that a client can have is within the limits if it is
a URL as it stands (`clients_fit_limits`). Otherwise the two do not agree (`limits_unlike_client`).
-/

namespace SchemaRelay

/-! ## What a client is built of -/

namespace Http

/-- The text has a control character other than a tab. -/
def Header.HasControl (s : String) : Prop := ∃ c ∈ s.toList, c ≠ '\t' ∧ (c.toNat < 32 ∨ c.toNat = 127)

theorem Header.isSendable_iff {s : String} : Header.isSendable s = true ↔ ¬Header.HasControl s := by
  simp only [Header.isSendable, List.all_eq_true, Bool.or_eq_true, beq_iff_eq, Bool.and_eq_true, decide_eq_true_eq,
    Header.HasControl, not_exists, not_and, not_or, Nat.not_lt]
  exact forall₂_congr fun c _ => or_iff_not_imp_left

namespace Client

variable {s : Sender} {key : ClientKey} {address : String}

/-- An address that a proxy can have: a URL with a host, or what becomes one behind `http://` and has no host, or not
even a scheme, without it. -/
inductive NamesProxy (address : String) : Prop
  | url {url : Url} (h : Url.parse address = .ok url) (hhost : url.hasHost = true)
  | hostless {url u : Url} (h : Url.parse address = .ok u) (hu : u.hasHost = false)
    (hurl : Url.parse s!"http://{address}" = .ok url) (hhost : url.hasHost = true)
  | relative {url : Url} (h : Url.parse address = .error .relativeWithoutBase)
    (hurl : Url.parse s!"http://{address}" = .ok url) (hhost : url.hasHost = true)

theorem isSome_withHost {x : Except UrlError Url} :
    (x.toOption.filter Url.hasHost).isSome ↔ ∃ url, x = .ok url ∧ url.hasHost = true := by
  simp only [Option.isSome_iff_exists, Option.filter_eq_some_iff, toOption_eq_some]

theorem isSome_proxyUrl? : (proxyUrl? address).isSome ↔ NamesProxy address := by
  unfold proxyUrl?
  cases hparse : Url.parse address with
  | ok u =>
    cases hu : u.hasHost with
    | true => simpa [hu] using .url hparse hu
    | false =>
      simp only [hu, Bool.false_eq_true, if_false, isSome_withHost]
      constructor
      · rintro ⟨url, hurl, hhost⟩
        exact .hostless hparse hu hurl hhost
      · rintro (⟨h, hhost⟩ | ⟨-, -, hurl, hhost⟩ | ⟨h, -, -⟩)
        · cases hparse.symm.trans h
          cases hu.symm.trans hhost
        · exact ⟨_, hurl, hhost⟩
        · cases hparse.symm.trans h
  | error e =>
    have hnames : NamesProxy address ↔ e = .relativeWithoutBase ∧
        ∃ url, Url.parse s!"http://{address}" = .ok url ∧ url.hasHost = true := by
      constructor
      · rintro (⟨h, -⟩ | ⟨h, -, -, -⟩ | ⟨h, hurl, hhost⟩)
        · cases hparse.symm.trans h
        · cases hparse.symm.trans h
        · cases hparse.symm.trans h
          exact ⟨rfl, _, hurl, hhost⟩
      · rintro ⟨rfl, url, hurl, hhost⟩
        exact .relative hparse hurl hhost
    rw [hnames, ← isSome_withHost]
    cases e <;> simp

/-- No proxy, an empty one, or one with an address. -/
def AllowsProxy (proxy? : Option String) : Prop := ∀ p, proxy? = some p → p ≠ "" → NamesProxy p

theorem proxyOf_cases (proxy? : Option String) :
    (AllowsProxy proxy? ∧ ∃ url?, proxyOf proxy? = .ok url?) ∨
      ∃ p, proxy? = some p ∧ p ≠ "" ∧ ¬NamesProxy p ∧ proxyOf proxy? = .error (.proxy p builderError) := by
  unfold proxyOf
  split
  · exact .inl ⟨nofun, _, rfl⟩
  · refine .inl ⟨fun p hp hne => ?_, _, rfl⟩
    cases hp
    exact absurd rfl hne
  · next p hne =>
    have hne' : p ≠ "" := fun h => hne (h ▸ rfl)
    cases hurl : proxyUrl? p with
    | some url =>
      have hnames : NamesProxy p := isSome_proxyUrl?.1 (hurl ▸ rfl)
      refine .inl ⟨fun q hq _ => ?_, _, rfl⟩
      cases hq
      exact hnames
    | none =>
      refine .inr ⟨p, rfl, hne', fun hnames => ?_, rfl⟩
      rw [← isSome_proxyUrl?, hurl] at hnames
      cases hnames

/-- What comes of building a client. -/
theorem build_cases (s : Sender) (key : ClientKey) :
    (AllowsProxy key.settings.proxy ∧ ¬Header.HasControl s.userAgent ∧ ∃ client, build s key = .ok client) ∨
    (AllowsProxy key.settings.proxy ∧ Header.HasControl s.userAgent ∧ build s key = .error (.client builderError)) ∨
    ∃ p, key.settings.proxy = some p ∧ p ≠ "" ∧ ¬NamesProxy p ∧ build s key = .error (.proxy p builderError) := by
  rcases proxyOf_cases key.settings.proxy with ⟨hallows, url?, hproxy⟩ | ⟨p, hp, hne, hnames, hproxy⟩
  · by_cases hcontrol : Header.HasControl s.userAgent
    · refine .inr (.inl ⟨hallows, hcontrol, ?_⟩)
      rw [build, hproxy]
      exact if_neg fun h => Header.isSendable_iff.1 h hcontrol
    · exact .inl ⟨hallows, hcontrol, _, build_eq_ok.2 ⟨url?, hproxy, Header.isSendable_iff.2 hcontrol, rfl⟩⟩
  · refine .inr (.inr ⟨p, hp, hne, hnames, ?_⟩)
    rw [build, hproxy]
    rfl

end Client

end Http

/-! ## Configurations -/

namespace Config

open Http

/-- The client for the requests of a configuration. -/
def client (c : Config) : Except TransportError Client :=
  Client.build (.ofConfig c.fetch) ⟨c.fetch.http, c.fetch.maxRedirects⟩

/-- How the limits of a configuration go together with the building of its client. -/
structure ClientFits (c : Config) : Prop where
  /-- Within its limits a configuration has a client unless its user agent has a control character or its proxy names
  none. -/
  built : c.validate = .ok () → ((∃ client, c.client = .ok client) ↔
    ¬Header.HasControl c.userAgent ∧ ∀ p, c.httpProxy = some p → Client.NamesProxy p)
  agent : c.validate = .ok () → ((∃ reason, c.client = .error (.client reason)) ↔
    Header.HasControl c.userAgent ∧ ∀ p, c.httpProxy = some p → Client.NamesProxy p)
  proxy : c.validate = .ok () → ((∃ p reason, c.client = .error (.proxy p reason)) ↔
    ∃ p, c.httpProxy = some p ∧ ¬Client.NamesProxy p)
  /-- A proxy that names none is then a URL without a host, and none of the web. -/
  hostless : c.validate = .ok () → ∀ p, c.httpProxy = some p → ¬Client.NamesProxy p →
    ∃ url, Url.parse p = .ok url ∧ url.hasHost = false ∧ url.scheme ≠ "http".toList ∧ url.scheme ≠ "https".toList
  /-- A proxy that a client can have is within the limits, all else being so, just when it is a URL; it has no scheme
  otherwise. -/
  accepted : { c with httpProxy := none }.validate = .ok () → ∀ p, c.httpProxy = some p → p ≠ "" →
    (∀ address reason, c.client ≠ .error (.proxy address reason)) →
      (c.validate = .ok () ↔ ∃ url, Url.parse p = .ok url) ∧
        (c.validate ≠ .ok () → c.validate = .error (.proxyUrl .relativeWithoutBase))

variable {c : Config} {p : String}

/-- What comes of building the client of a configuration. -/
theorem client_cases (c : Config) :
    (Client.AllowsProxy c.httpProxy ∧ ¬Header.HasControl c.userAgent ∧ ∃ client, c.client = .ok client) ∨
    (Client.AllowsProxy c.httpProxy ∧ Header.HasControl c.userAgent ∧
      c.client = .error (.client Client.builderError)) ∨
    ∃ p, c.httpProxy = some p ∧ p ≠ "" ∧ ¬Client.NamesProxy p ∧
      c.client = .error (.proxy p Client.builderError) :=
  Client.build_cases (.ofConfig c.fetch) ⟨c.fetch.http, c.fetch.maxRedirects⟩

theorem ne_empty_of_parse {url : Url} (h : Url.parse p = .ok url) : p ≠ "" := by
  rintro rfl
  cases h

/-- An accepted proxy is not empty. -/
theorem allowsProxy_iff (h : c.validate = .ok ()) :
    Client.AllowsProxy c.httpProxy ↔ ∀ p, c.httpProxy = some p → Client.NamesProxy p := by
  refine forall₂_congr fun p hp => ⟨fun hnames => hnames ?_, fun hnames _ => hnames⟩
  obtain ⟨url, hurl⟩ := (validate_eq_ok.1 h).proxy p hp
  exact ne_empty_of_parse hurl

/-- All else being within the limits, the proxy decides. -/
theorem validate_of_others (h : { c with httpProxy := none }.validate = .ok ()) :
    c.validate = checkProxy c.httpProxy := by
  obtain ⟨⟨hshort, hlong⟩, hredirects, hagent, -⟩ := validate_eq_ok.1 h
  rw [validate, if_neg (Nat.not_lt.2 hshort), if_neg (Nat.not_lt.2 hlong), if_neg (Nat.not_lt.2 hredirects),
    if_neg hagent]

theorem isSpecial_web : Url.isSpecial "http".toList = true ∧ Url.isSpecial "https".toList = true := by decide

/-- **Limits and clients agree** on proxies that are URLs with hosts and user agents without control characters. -/
theorem clients_fit_limits (c : Config) : c.ClientFits where
  built h := by
    rw [← allowsProxy_iff h]
    rcases client_cases c with ⟨hallows, hagent, client, hclient⟩ | ⟨-, hagent, hclient⟩ | ⟨p, hp, hne, hnames, hclient⟩
    · simp [hclient, hallows, hagent]
    · simp [hclient, hagent]
    · have hrefused : ¬Client.AllowsProxy c.httpProxy := fun hallows => hnames (hallows p hp hne)
      simp [hclient, hrefused]
  agent h := by
    rw [← allowsProxy_iff h]
    rcases client_cases c with ⟨-, hagent, client, hclient⟩ | ⟨hallows, hagent, hclient⟩ | ⟨p, hp, hne, hnames, hclient⟩
    · simp [hclient, hagent]
    · simp [hclient, hallows, hagent]
    · have hrefused : ¬Client.AllowsProxy c.httpProxy := fun hallows => hnames (hallows p hp hne)
      simp [hclient, hrefused]
  proxy h := by
    have hallows := allowsProxy_iff h
    rcases client_cases c with ⟨hp, -, client, hclient⟩ | ⟨hp, -, hclient⟩ | ⟨p, hp, -, hnames, hclient⟩
    · simpa [hclient] using hallows.1 hp
    · simpa [hclient] using hallows.1 hp
    · exact iff_of_true ⟨p, _, hclient⟩ ⟨p, hp, hnames⟩
  hostless h p hp hnames := by
    obtain ⟨url, hurl⟩ := (validate_eq_ok.1 h).proxy p hp
    have hhost : ¬url.hasHost = true := fun hhost => hnames (.url hurl hhost)
    refine ⟨url, hurl, Bool.eq_false_iff.2 hhost, fun hscheme => ?_, fun hscheme => ?_⟩
    · exact hhost (Url.hasHost_of_special hurl (hscheme ▸ isSpecial_web.1))
    · exact hhost (Url.hasHost_of_special hurl (hscheme ▸ isSpecial_web.2))
  accepted h p hp hne hclient := by
    have hnames : Client.NamesProxy p := by
      rcases client_cases c with ⟨hallows, -⟩ | ⟨hallows, -⟩ | ⟨q, -, -, -, herror⟩
      · exact hallows p hp hne
      · exact hallows p hp hne
      · exact absurd herror (hclient _ _)
    rw [validate_of_others h, hp, checkProxy]
    rcases hnames with ⟨hurl, -⟩ | ⟨hurl, -, -, -⟩ | ⟨hurl, -, -⟩
    · simp [hurl]
    · simp [hurl]
    · simp [hurl]

/-- **Limits and clients do not agree** on a user agent with a control character, a proxy without a host, an empty one
and one without a scheme. -/
theorem limits_unlike_client :
    let named : Config := { userAgent := "a\x01" }
    let proxied (proxy : String) : Config := { httpProxy := some proxy }
    (named.validate = .ok () ∧ named.client = .error (.client Client.builderError)) ∧
    ((proxied "mailto:admin@").validate = .ok () ∧
      (proxied "mailto:admin@").client = .error (.proxy "mailto:admin@" Client.builderError)) ∧
    ((proxied "").validate = .error (.proxyUrl .relativeWithoutBase) ∧ (proxied "").client.isOk) ∧
    ((proxied "[::1]:3128").validate = .error (.proxyUrl .relativeWithoutBase) ∧
      (proxied "[::1]:3128").client.isOk) := by
  decide +kernel

end Config

end SchemaRelay

import Mathlib.Data.List.Basic
import Mathlib.Data.List.Induction
import SchemaRelay.Config.Load
import SchemaRelay.Proofs.Fields
import SchemaRelay.Proofs.Results
import SchemaRelay.Proofs.Text.Blank

/-!
# Where the values of a configuration come from

A variable names a field if its path is the field's key alone (`variablePath?_of_spelled`), and the last one that does
gives the environment's value (`named?`). A variable that leads into a field makes a table of it, and no field is a
table; so a configuration that is loaded has for every field the value of the environment, else that of the file, else
its default (`load_layers`).

The settings decide the configuration entirely: `Sources.config_eq_ok` has one equation for each field, with the value
of the field on one side and what the sources give on the other.
-/

namespace SchemaRelay

namespace Config

/-! ## Fields and their values -/

/-- A field of a configuration. -/
inductive Field where
  | dbPath
  | userAgent
  | timeoutMs
  | maxRedirects
  | httpProxy
  | httpProxyStrictSsl
  | statusText
  | extensionDirs
  deriving DecidableEq, Repr

/-- The key of a field in a configuration file. -/
def Field.key : Field → String
  | .dbPath => "db_path"
  | .userAgent => "user_agent"
  | .timeoutMs => "timeout_ms"
  | .maxRedirects => "max_redirects"
  | .httpProxy => "http_proxy"
  | .httpProxyStrictSsl => "http_proxy_strict_ssl"
  | .statusText => "status_text"
  | .extensionDirs => "extension_dirs"

theorem Field.key_injective : Function.Injective key := by
  intro f g h
  cases f <;> cases g <;> first | rfl | simp [key] at h

/-- A list of texts. -/
def Value.texts (texts : List String) : Value := .list (texts.map .text)

/-- The value of a field. The proxy has none if there is no proxy. -/
def get? (c : Config) : Field → Option Value
  | .dbPath => some (.text c.dbPath)
  | .userAgent => some (.text c.userAgent)
  | .timeoutMs => some (.unsigned c.timeoutMs)
  | .maxRedirects => some (.unsigned c.maxRedirects)
  | .httpProxy => c.httpProxy.map .text
  | .httpProxyStrictSsl => some (.bool c.httpProxyStrictSsl)
  | .statusText => some (.text c.statusText)
  | .extensionDirs => some (.texts c.extensionDirs)

namespace Value

/-- The value with a number that is not negative as one without a sign. -/
def plain : Value → Value
  | .signed n => if n < 0 then .signed n else .unsigned n.toNat
  | v => v

theorem plain_eq_text_iff {v : Value} {s : String} : v.plain = .text s ↔ v = .text s := by
  cases v with
  | signed n => by_cases hn : n < 0 <;> simp [plain, hn]
  | _ => simp [plain]

theorem plain_eq_list_iff {v : Value} {vs : List Value} : v.plain = .list vs ↔ v = .list vs := by
  cases v with
  | signed n => by_cases hn : n < 0 <;> simp [plain, hn]
  | _ => simp [plain]

theorem texts_injective : Function.Injective texts := by
  intro texts texts' h
  refine List.map_injective_iff.2 ?_ (Value.list.inj h)
  exact fun _ _ => Value.text.inj

theorem asText_eq_ok {wanted : String} {v : Value} {s : String} : v.asText wanted = .ok s ↔ v.plain = .text s := by
  rw [plain_eq_text_iff]
  cases v <;> simp [asText]

theorem asBool_eq_ok {v : Value} {b : Bool} : v.asBool = .ok b ↔ v.plain = .bool b := by
  cases v with
  | signed n => by_cases hn : n < 0 <;> simp [asBool, plain, hn]
  | _ => simp [asBool, plain]

theorem asWord_eq_ok {wanted : String} {v : Value} {n : Nat} : v.asWord wanted = .ok n ↔ v.plain = .unsigned n := by
  cases v with
  | signed m => by_cases hm : m < 0 <;> simp [asWord, plain, hm]
  | _ => simp [asWord, plain]

end Value

/-! ## Settings that are read -/

namespace Sources

variable {α : Type} {s : Sources} {key : String}

/-- The value of a setting, wherever it comes from. -/
def value? (s : Sources) (key : String) : Option Value := (s.given? key).map (·.value)

/-- A setting is read right if the value that was given shows in what is read, and else the default. -/
theorem setting_eq_ok {read : Value → Except Mismatch α} (shown : α → Option Value)
    (hread : ∀ v a, read v = .ok a ↔ some v.plain = shown a) (hinj : Function.Injective shown) {fallback a : α} :
    s.setting key read fallback = .ok a ↔ shown a = ((s.value? key).map Value.plain).or (shown fallback) := by
  unfold setting value?
  cases s.given? key with
  | none => simp [hinj.eq_iff, eq_comm]
  | some g =>
    simp only [mapError_eq_ok, hread, Option.map_some, Option.some_or]
    exact eq_comm

theorem textSetting_eq_ok {wanted fallback a : String} :
    s.setting key (Value.asText wanted) fallback = .ok a ↔
      some (.text a) = ((s.value? key).map Value.plain).or (some (.text fallback)) :=
  setting_eq_ok (fun a => some (.text a)) (by simp [Value.asText_eq_ok]) fun _ _ h =>
    Value.text.inj (Option.some.inj h)

theorem boolSetting_eq_ok {fallback a : Bool} :
    s.setting key Value.asBool fallback = .ok a ↔
      some (.bool a) = ((s.value? key).map Value.plain).or (some (.bool fallback)) :=
  setting_eq_ok (fun a => some (.bool a)) (by simp [Value.asBool_eq_ok]) fun _ _ h =>
    Value.bool.inj (Option.some.inj h)

theorem wordSetting_eq_ok {wanted : String} {fallback a : Nat} :
    s.setting key (Value.asWord wanted) fallback = .ok a ↔
      some (.unsigned a) = ((s.value? key).map Value.plain).or (some (.unsigned fallback)) :=
  setting_eq_ok (fun a => some (.unsigned a)) (by simp [Value.asWord_eq_ok]) fun _ _ h =>
    Value.unsigned.inj (Option.some.inj h)

theorem nullableSetting_eq_ok {wanted : String} {fallback a : Option String} :
    s.setting key (fun v => (v.asText wanted).map some) fallback = .ok a ↔
      a.map .text = ((s.value? key).map Value.plain).or (fallback.map .text) := by
  refine setting_eq_ok (Option.map .text) (fun v a => ?_) (Option.map_injective fun _ _ => Value.text.inj)
  rw [map_eq_ok]
  cases a <;> simp [Value.asText_eq_ok]

theorem elements_eq_ok {source : Source} {wanted : String} {i : Nat} {vs : List Value} {texts : List String} :
    elements source key (Value.asText wanted) i vs = .ok texts ↔ vs = texts.map .text := by
  induction vs generalizing i texts with
  | nil => simp [elements, eq_comm]
  | cons v vs ih =>
    simp only [elements, bind_eq_ok, mapError_eq_ok, Value.asText_eq_ok, Value.plain_eq_text_iff, ih]
    cases texts with
    | nil => simp [pure, Except.pure]
    | cons t ts => simp [pure, Except.pure]

theorem listSetting_eq_ok {wanted : String} {fallback texts : List String} :
    s.listSetting key (Value.asText wanted) fallback = .ok texts ↔
      some (Value.texts texts) = ((s.value? key).map Value.plain).or (some (.texts fallback)) := by
  unfold listSetting value?
  cases s.given? key with
  | none => simp [Value.texts_injective.eq_iff, eq_comm]
  | some g =>
    obtain ⟨source, v⟩ := g
    simp only [Option.map_some, Option.some_or, Option.some.injEq]
    rw [eq_comm (a := Value.texts texts), Value.texts, Value.plain_eq_list_iff]
    cases v with
    | list vs => simp [elements_eq_ok]
    | _ => simp

/-- **The settings decide the configuration**: each field has the value that is given for it, or else its default. -/
theorem config_eq_ok {c : Config} :
    s.config = .ok c ↔ ∀ f, c.get? f = ((s.value? f.key).map Value.plain).or (({} : Config).get? f) := by
  simp only [config, bind_eq_ok]
  constructor
  · rintro ⟨_, hdb, _, hdirs, _, hproxy, _, hstrict, _, hredirects, _, hstatus, _, htimeout, _, hagent, h⟩
    cases h
    intro f
    cases f with
    | dbPath => exact textSetting_eq_ok.1 hdb
    | userAgent => exact textSetting_eq_ok.1 hagent
    | timeoutMs => exact wordSetting_eq_ok.1 htimeout
    | maxRedirects => exact wordSetting_eq_ok.1 hredirects
    | httpProxy => exact nullableSetting_eq_ok.1 hproxy
    | httpProxyStrictSsl => exact boolSetting_eq_ok.1 hstrict
    | statusText => exact textSetting_eq_ok.1 hstatus
    | extensionDirs => exact listSetting_eq_ok.1 hdirs
  · intro h
    exact ⟨_, textSetting_eq_ok.2 (h .dbPath), _, listSetting_eq_ok.2 (h .extensionDirs),
      _, nullableSetting_eq_ok.2 (h .httpProxy), _, boolSetting_eq_ok.2 (h .httpProxyStrictSsl),
      _, wordSetting_eq_ok.2 (h .maxRedirects), _, textSetting_eq_ok.2 (h .statusText),
      _, wordSetting_eq_ok.2 (h .timeoutMs), _, textSetting_eq_ok.2 (h .userAgent), rfl⟩

end Sources

/-! ## Names of variables -/

/-- A name is the start of the service's variables and a key, letter case aside. -/
def Spells (name key : String) : Prop :=
  lowerAscii name.toList = lowerAscii variableStart.toList ++ key.toList

/-- **A variable that is spelled like a field names it**; of the extension directories this does not hold. -/
theorem variablePath?_of_spelled {name : String} {f : Field} (hf : f ≠ .extensionDirs) (h : Spells name f.key) :
    variablePath? name = some [f.key] := by
  -- No character of the name is white space, so nothing is taken off its ends.
  have hblank : ∀ c ∈ name.toList, Text.isBlank c = false := by
    intro c hc
    have hlower : c.toLower ∈ lowerAscii variableStart.toList ++ f.key.toList := h ▸ List.mem_map_of_mem hc
    have hall : (lowerAscii variableStart.toList ++ f.key.toList).all (!Text.isBlank ·) = true := by
      cases f <;> decide +kernel
    exact Text.isBlank_of_toLower (by simpa using List.all_eq_true.1 hall _ hlower)
  have hlength : (lowerAscii variableStart.toList).length = variableStart.toList.length := List.length_map _
  have htake : lowerAscii (name.toList.take variableStart.toList.length) = lowerAscii variableStart.toList := by
    rw [lowerAscii, List.map_take, ← lowerAscii, h, List.take_left' hlength]
  have hdrop : lowerAscii (name.toList.drop variableStart.toList.length) = f.key.toList := by
    rw [lowerAscii, List.map_drop, ← lowerAscii, h, List.drop_left' hlength]
  simp only [variablePath?, Text.trimChars_of_not_blank hblank, htake, hdrop]
  cases f with
  | extensionDirs => exact absurd rfl hf
  | _ => decide +kernel

/-! ## Variables -/

theorem Value.combine_table (old : Option Value) (fs : Fields Value) : ∃ fs', combine old (.table fs) = .table fs' := by
  unfold combine
  split <;> exact ⟨_, rfl⟩

/-- Over an old value a new one is a table or else stays as it is. -/
theorem Value.combine_cases (old : Option Value) (v : Value) :
    (∃ fs, combine old v = .table fs) ∨ combine old v = v := by
  cases v with
  | table fs => exact .inl (combine_table old fs)
  | _ => exact .inr rfl

/-- The value that variables give to a key: of those that have the key alone as their path the last one counts. -/
def named? (env : Environment) (key : String) : Option Value :=
  (env.reverse.find? fun p => variablePath? p.1 = some [key]).map fun p => EnvText.parse p.2

theorem named?_concat (env : Environment) (p : String × String) (key : String) :
    named? (env ++ [p]) key =
      if variablePath? p.1 = some [key] then some (EnvText.parse p.2) else named? env key := by
  simp only [named?, List.reverse_append, List.reverse_singleton, List.singleton_append, List.find?_cons]
  by_cases hp : variablePath? p.1 = some [key] <;> simp [hp]

theorem named?_of_spelled {env : Environment} {name text : String} {f : Field} (hf : f ≠ .extensionDirs)
    (hmem : (name, text) ∈ env) (hspelled : Spells name f.key)
    (hunique : ∀ p ∈ env, variablePath? p.1 = some [f.key] → p = (name, text)) :
    named? env f.key = some (EnvText.parse text) := by
  unfold named?
  cases hfind : env.reverse.find? fun p => variablePath? p.1 = some [f.key] with
  | none =>
    have hnot := List.find?_eq_none.1 hfind (name, text) (List.mem_reverse.2 hmem)
    exact absurd (variablePath?_of_spelled hf hspelled) (by simpa using hnot)
  | some p =>
    have hpath := List.find?_some hfind
    rw [hunique p (List.mem_reverse.1 (List.mem_of_find?_eq_some hfind)) (by simpa using hpath)]
    rfl

theorem ofEnvironment_concat (env : Environment) (p : String × String) :
    ofEnvironment (env ++ [p]) = match variablePath? p.1 with
      | some (k :: path) => Value.overlay (ofEnvironment env) [(k, nested (EnvText.parse p.2) path)]
      | _ => ofEnvironment env := by
  rw [ofEnvironment, List.foldl_append]
  rfl

/-- The settings of an environment have a table under a key, or what the variables give to it. -/
theorem get?_ofEnvironment (env : Environment) (key : String) :
    (∃ fs, (ofEnvironment env).get? key = some (.table fs)) ∨ (ofEnvironment env).get? key = named? env key := by
  -- From the last variable on, which goes over what the earlier ones gave.
  induction env using List.reverseRecOn with
  | nil => exact .inr rfl
  | append_singleton env p ih =>
    rw [ofEnvironment_concat, named?_concat]
    split
    · next k path hpath =>
      simp only [Value.overlay, Fields.get?_insert, hpath]
      by_cases hk : k = key
      · subst hk
        cases path with
        | nil =>
          simp only [if_true, nested, Option.some.injEq]
          exact Value.combine_cases _ _
        | cons k' path =>
          obtain ⟨fs, hfs⟩ := Value.combine_table ((ofEnvironment env).get? k)
            [(k', nested (EnvText.parse p.2) path)]
          exact .inl ⟨fs, by rw [if_pos rfl, nested, hfs]⟩
      · simpa [hk] using ih
    · next hpath =>
      have hne : variablePath? p.1 ≠ some [key] := fun h => hpath _ _ h
      rwa [if_neg hne]

theorem Sources.value?_eq (s : Sources) (key : String) :
    s.value? key = (s.environment.get? key).elim (s.file.get? key) fun v =>
      some (Value.combine (s.file.get? key) v) := by
  unfold value? given?
  cases s.environment.get? key with
  | some v => rfl
  | none => cases s.file.get? key <;> rfl

/-- What the sources give to a key is a table, or the environment's value, or else the file's. -/
theorem Sources.value?_cases {s : Sources} {env : Environment} (henv : s.environment = ofEnvironment env)
    (key : String) :
    (∃ fs, s.value? key = some (.table fs)) ∨ s.value? key = (named? env key).or (s.file.get? key) := by
  rw [value?_eq, henv]
  obtain ⟨fs, htable⟩ | hnamed := get?_ofEnvironment env key
  · obtain ⟨fs', hfs'⟩ := Value.combine_table (s.file.get? key) fs
    exact .inl ⟨fs', by simp only [htable, Option.elim_some, hfs']⟩
  · rw [hnamed]
    cases named? env key with
    | none => exact .inr rfl
    | some v =>
      refine (Value.combine_cases (s.file.get? key) v).imp ?_ ?_
      · rintro ⟨fs, hfs⟩
        exact ⟨fs, congrArg some hfs⟩
      · exact congrArg some

/-- No field is a table. -/
theorem get?_ne_table (c : Config) (f : Field) (fs : Fields Value) : c.get? f ≠ some (.table fs) := by
  cases f with
  | httpProxy => cases hp : c.httpProxy <;> simp [get?, hp]
  | _ => simp [get?, Value.texts]

/-- **A configuration has** what variables give to its fields, else what the file gives, else its defaults. -/
theorem Sources.get?_of_config {s : Sources} {env : Environment} (henv : s.environment = ofEnvironment env) {c : Config}
    (h : s.config = .ok c) (f : Field) :
    c.get? f = (((named? env f.key).or (s.file.get? f.key)).map Value.plain).or (({} : Config).get? f) := by
  have hf := config_eq_ok.1 h f
  -- Sources that give a table to the field give no configuration.
  obtain ⟨fs, htable⟩ | hvalue := value?_cases henv f.key
  · rw [htable] at hf
    exact absurd hf (get?_ne_table c f fs)
  · rw [hf, hvalue]

/-! ## Loading -/

/-- The value that the variable of the extension directories gives to them. -/
def listed? (env : Environment) (f : Field) : Option Value :=
  if f = .extensionDirs then (env.get? dirsVariable).map fun list => .texts (splitPaths list) else none

/-- The value that an environment gives to a field. -/
def environment? (env : Environment) (f : Field) : Option Value := (listed? env f).or (named? env f.key)

theorem plain_listed? (env : Environment) (f : Field) : (listed? env f).map Value.plain = listed? env f := by
  unfold listed?
  split
  · cases env.get? dirsVariable <;> rfl
  · rfl

/-- The document of the configuration file has the given keys; where there is no file there are none. -/
def Document (find : String → Option FoundFile) (env : Environment) (doc : Fields Toml) : Prop :=
  match (env.get? fileVariable).bind find with
  | none => doc = []
  | some file => ∃ text, String.fromUTF8? file.bytes = some text ∧ Toml.parse? text = some doc

theorem get?_ofFields (doc : Fields Toml) (key : String) :
    Fields.get? (Value.ofFields doc) key = (doc.get? key).map Value.ofToml := by
  induction doc with
  | nil => rfl
  | cons p doc ih =>
    simp only [Value.ofFields, Fields.get?, ih]
    split <;> rfl

/-- The sources are those of the file's document and the environment. -/
theorem document_of_sources {find : String → Option FoundFile} {env : Environment} {s : Sources}
    (h : sources find env = .ok s) :
    ∃ doc, Document find env doc ∧ s.file = Value.ofFields doc ∧ s.environment = ofEnvironment env := by
  unfold sources at h
  unfold Document
  cases hfile : (env.get? fileVariable).bind find with
  | none =>
    rw [hfile] at h
    cases h
    exact ⟨[], rfl, rfl, rfl⟩
  | some file =>
    simp only [hfile, map_eq_ok, ofFile] at h
    obtain ⟨fields, hfields, rfl⟩ := h
    split at hfields
    · cases hfields
    · next text htext =>
      split at hfields
      · cases hfields
      · next doc hdoc =>
        cases hfields
        exact ⟨doc, ⟨text, htext, hdoc⟩, rfl, rfl⟩

theorem sources_of_document {find : String → Option FoundFile} {env : Environment} {doc : Fields Toml}
    (h : Document find env doc) :
    ∃ s, sources find env = .ok s ∧ s.file = Value.ofFields doc ∧ s.environment = ofEnvironment env := by
  unfold Document at h
  unfold sources
  cases hfile : (env.get? fileVariable).bind find with
  | none =>
    simp only [hfile] at h
    subst h
    exact ⟨_, rfl, rfl, rfl⟩
  | some file =>
    simp only [hfile] at h
    obtain ⟨text, htext, hdoc⟩ := h
    exact ⟨⟨file.name, Value.ofFields doc, ofEnvironment env⟩, by simp [ofFile, htext, hdoc, Except.map], rfl, rfl⟩

theorem load_eq_ok {find : String → Option FoundFile} {env : Environment} {c : Config} :
    load find env = .ok c ↔
      ∃ s c₀, sources find env = .ok s ∧ s.config = .ok c₀ ∧ withListedDirs env c₀ = c ∧ c.validate = .ok () := by
  simp only [load, bind_eq_ok, mapError_eq_ok]
  constructor
  · rintro ⟨s, hs, c₀, hc₀, _, hlimits, hc⟩
    cases hc
    exact ⟨s, c₀, hs, hc₀, rfl, hlimits⟩
  · rintro ⟨s, c₀, hs, hc₀, rfl, hlimits⟩
    exact ⟨s, hs, c₀, hc₀, (), hlimits, rfl⟩

theorem get?_withListedDirs (env : Environment) (c : Config) (f : Field) :
    (withListedDirs env c).get? f = (listed? env f).or (c.get? f) := by
  unfold withListedDirs listed?
  cases env.get? dirsVariable with
  | none => simp
  | some list => cases f <;> rfl

/-- The limits of a configuration. -/
structure WithinLimits (c : Config) : Prop where
  timeout : 100 ≤ c.timeoutMs ∧ c.timeoutMs ≤ 300000
  redirects : c.maxRedirects ≤ 20
  agent : c.userAgent ≠ ""
  proxy : ∀ proxy, c.httpProxy = some proxy → ∃ url, Url.parse proxy = .ok url

theorem checkProxy_eq_ok {proxy? : Option String} :
    checkProxy proxy? = .ok () ↔ ∀ proxy, proxy? = some proxy → ∃ url, Url.parse proxy = .ok url := by
  cases proxy? with
  | none => simp [checkProxy]
  | some proxy => cases hurl : Url.parse proxy <;> simp [checkProxy, hurl]

theorem validate_eq_ok {c : Config} : c.validate = .ok () ↔ c.WithinLimits := by
  simp only [validate, ite_error_eq_ok, checkProxy_eq_ok, Nat.not_lt]
  constructor
  · rintro ⟨hshort, hlong, hredirects, hagent, hproxy⟩
    exact ⟨⟨hshort, hlong⟩, hredirects, hagent, hproxy⟩
  · rintro ⟨⟨hshort, hlong⟩, hredirects, hagent, hproxy⟩
    exact ⟨hshort, hlong, hredirects, hagent, hproxy⟩

/-- Where the values of a configuration come from, and what they are like. -/
structure Layers (find : String → Option FoundFile) (env : Environment) (c : Config) : Prop where
  /-- Each field has the value of the environment, else that of the file's document, else its default. -/
  value : ∃ doc, Document find env doc ∧ ∀ f, c.get? f =
    (((environment? env f).or ((doc.get? f.key).map .ofToml)).map Value.plain).or (({} : Config).get? f)
  /-- A variable that is spelled like a field, no other naming that field, gives its value. -/
  spelled : ∀ f name text, f ≠ .extensionDirs → (name, text) ∈ env → Spells name f.key →
    (∀ p ∈ env, variablePath? p.1 = some [f.key] → p = (name, text)) → c.get? f = some (EnvText.parse text).plain
  /-- The directories are those that their variable lists, if it is there. -/
  listed : ∀ list, env.get? dirsVariable = some list → c.extensionDirs = splitPaths list
  limits : c.WithinLimits

/-- **A configuration that is loaded** has for each field the value of the environment, else that of the file, else the
default, and is within its limits. -/
theorem load_layers {find : String → Option FoundFile} {env : Environment} {c : Config} (h : load find env = .ok c) :
    Layers find env c := by
  obtain ⟨s, c₀, hs, hc₀, rfl, hlimits⟩ := load_eq_ok.1 h
  obtain ⟨doc, hdoc, hfile, henv⟩ := document_of_sources hs
  have hvalue : ∀ f, (withListedDirs env c₀).get? f =
      (((environment? env f).or ((doc.get? f.key).map .ofToml)).map Value.plain).or (({} : Config).get? f) := by
    intro f
    rw [get?_withListedDirs, Sources.get?_of_config henv hc₀ f, hfile, get?_ofFields]
    simp only [environment?, Option.map_or, Option.or_assoc, plain_listed?]
  refine ⟨⟨doc, hdoc, hvalue⟩, ?spelled, ?listed, validate_eq_ok.1 hlimits⟩
  case spelled =>
    intro f name text hf hmem hspelled hunique
    rw [hvalue f, environment?, listed?, if_neg hf, named?_of_spelled hf hmem hspelled hunique]
    rfl
  case listed =>
    intro list hlist
    simp only [withListedDirs, hlist]

/-- A directory in which every path is that of a file with the same text. -/
def onlyFile (text : String) : String → Option FoundFile := fun _ => some ⟨"c.toml", text.toUTF8⟩

/-- A file with two keys, one of which the environment replaces. -/
theorem load_layers_twoKeys :
    let find := onlyFile "status_text = 'a'\nextension_dirs = ['/a']"
    let env : Environment := [(fileVariable, "c.toml"), ("SCHEMA_BRIDGE_STATUS_TEXT", "YAML")]
    let c : Config := { statusText := "YAML", extensionDirs := ["/a"] }
    load find env = .ok c ∧ Layers find env c := by
  intro find env c
  have hload : load find env = .ok c := toOption_eq_some.1 (by decide +kernel)
  exact ⟨hload, load_layers hload⟩

end Config

end SchemaRelay

import SchemaRelay.Proofs.Config.Layers

/-!
# What the environment hides of the file

Where a variable names a field its value stands over the file's before anything is read, so nothing that the file gives
to the field is noticed, not even a value of the wrong kind (`load_shadowed`). The list of extension directories
replaces the file's only in the configuration that was read: a file whose own value is not a list of texts is refused
before that (`dirs_not_shadowed`), and only such a value can be noticed.
-/

namespace SchemaRelay.Config

/-! ## Lists of texts in a document -/

/-- The value in a document is missing or a list of texts. -/
def IsTexts (v? : Option Toml) : Prop := ∀ v, v? = some v → ∃ texts : List String, v = .list (texts.map .str)

theorem ofElements_eq_texts {xs : List Toml} {texts : List String} :
    Value.ofElements xs = texts.map .text ↔ xs = texts.map .str := by
  induction xs generalizing texts with
  | nil => cases texts <;> simp [Value.ofElements]
  | cons x xs ih =>
    cases texts with
    | nil => simp [Value.ofElements]
    | cons t ts =>
      have hx : Value.ofToml x = .text t ↔ x = .str t := by cases x <;> simp [Value.ofToml]
      simp [Value.ofElements, hx, ih]

theorem ofToml_eq_texts {v : Toml} {texts : List String} :
    Value.ofToml v = .texts texts ↔ v = .list (texts.map .str) := by
  cases v with
  | list xs => simp [Value.ofToml, Value.texts, ofElements_eq_texts]
  | _ => simp [Value.ofToml, Value.texts]

/-- The value of a document gives a list of directories just when it is missing or a list of texts. -/
theorem isTexts_iff {v? : Option Toml} {fallback : List String} :
    IsTexts v? ↔ ∃ texts, some (Value.texts texts) =
      ((v?.map Value.ofToml).map Value.plain).or (some (.texts fallback)) := by
  cases v? with
  | none => simp [IsTexts, Value.texts_injective.eq_iff]
  | some v =>
    have hplain : ∀ texts, Value.texts texts = (Value.ofToml v).plain ↔ v = .list (texts.map .str) := fun texts => by
      rw [eq_comm, ← ofToml_eq_texts]
      exact Value.plain_eq_list_iff
    simp [IsTexts, hplain]

/-! ## Sources that differ in one field -/

namespace Sources

/-- Two sources have the same environment, and their files agree but for one field. -/
structure AgreeBut (f : Field) (s₁ s₂ : Sources) : Prop where
  environment : s₁.environment = s₂.environment
  file : ∀ key, key ≠ f.key → s₁.file.get? key = s₂.file.get? key

variable {f : Field} {s₁ s₂ : Sources} {c : Config}

theorem AgreeBut.value? (h : AgreeBut f s₁ s₂) {g : Field} (hg : g ≠ f) : s₁.value? g.key = s₂.value? g.key := by
  rw [value?_eq, value?_eq, h.environment, h.file _ (Field.key_injective.ne hg)]

theorem value?_ne_table (hc : s₁.config = .ok c) (f : Field) (fs : Fields Value) :
    s₁.value? f.key ≠ some (.table fs) := by
  intro hfs
  have hf := config_eq_ok.1 hc f
  rw [hfs] at hf
  exact get?_ne_table c f fs hf

/-- Where the environment has a value for the field, the file's can only be noticed by the table that both become. -/
theorem AgreeBut.config_of_set (h : AgreeBut f s₁ s₂) {v : Value} (hset : s₁.environment.get? f.key = some v)
    (hc : s₁.config = .ok c) : s₂.config = .ok c := by
  have hsame : s₁.value? f.key = s₂.value? f.key := by
    have hflat := value?_ne_table hc f
    rw [value?_eq, hset] at hflat
    rw [value?_eq, value?_eq, ← h.environment, hset]
    -- A table is put over the file's value, any other value replaces it.
    cases v with
    | table fs =>
      obtain ⟨fs', hfs'⟩ := Value.combine_table (s₁.file.get? f.key) fs
      exact absurd (congrArg some hfs') (hflat fs')
    | _ => rfl
  refine config_eq_ok.2 fun g => ?_
  rw [config_eq_ok.1 hc g]
  by_cases hg : g = f
  · rw [hg, hsame]
  · rw [h.value? hg]

/-- Files that differ in the extension directories alone give configurations that do, if both have a list of texts there
or none. -/
theorem AgreeBut.config_of_texts (h : AgreeBut .extensionDirs s₁ s₂) {v₁ v₂ : Option Toml}
    (hset : s₁.environment.get? Field.extensionDirs.key = none)
    (hv₁ : s₁.file.get? Field.extensionDirs.key = v₁.map Value.ofToml)
    (hv₂ : s₂.file.get? Field.extensionDirs.key = v₂.map Value.ofToml) (htexts : IsTexts v₁ → IsTexts v₂)
    (hc : s₁.config = .ok c) : ∃ texts, s₂.config = .ok { c with extensionDirs := texts } := by
  have hvalue₁ : s₁.value? Field.extensionDirs.key = v₁.map Value.ofToml := by
    rw [value?_eq, hset, hv₁, Option.elim_none]
  have hvalue₂ : s₂.value? Field.extensionDirs.key = v₂.map Value.ofToml := by
    rw [value?_eq, ← h.environment, hset, hv₂, Option.elim_none]
  have hdirs := config_eq_ok.1 hc .extensionDirs
  rw [hvalue₁] at hdirs
  obtain ⟨texts, hdirs₂⟩ := isTexts_iff.1 (htexts (isTexts_iff.2 ⟨_, hdirs⟩))
  refine ⟨texts, config_eq_ok.2 fun g => ?_⟩
  by_cases hg : g = .extensionDirs
  · rw [hg, hvalue₂]
    exact hdirs₂
  · rw [← h.value? hg, ← config_eq_ok.1 hc g]
    cases g <;> first | rfl | exact absurd rfl hg

end Sources

/-! ## Two files -/

/-- The environment has a value for a field, or lists the directories. -/
theorem isSome_environment? {env : Environment} {f : Field} (h : (environment? env f).isSome) :
    (∃ v, (ofEnvironment env).get? f.key = some v) ∨
      f = .extensionDirs ∧ (∃ list, env.get? dirsVariable = some list) ∧ (ofEnvironment env).get? f.key = none := by
  cases hget : (ofEnvironment env).get? f.key with
  | some v => exact .inl ⟨v, rfl⟩
  | none =>
    have hnamed : named? env f.key = none := by
      obtain ⟨fs, htable⟩ | hnamed := get?_ofEnvironment env f.key
      · rw [hget] at htable
        cases htable
      · rw [← hnamed, hget]
    rw [environment?, hnamed, Option.or_none, listed?] at h
    split at h
    · next hf =>
      rw [Option.isSome_map] at h
      exact .inr ⟨hf, Option.isSome_iff_exists.1 h, rfl⟩
    · cases h

section Files

variable {find₁ find₂ : String → Option FoundFile} {env : Environment} {doc₁ doc₂ : Fields Toml} {f : Field}
  {c : Config}

/-- If one file gives a configuration then so does the other. -/
theorem load_of_load (hset : (environment? env f).isSome) (h₁ : Document find₁ env doc₁) (h₂ : Document find₂ env doc₂)
    (hagree : ∀ key, key ≠ f.key → doc₁.get? key = doc₂.get? key)
    (hdirs : f = .extensionDirs → IsTexts (doc₁.get? f.key) → IsTexts (doc₂.get? f.key))
    (h : load find₁ env = .ok c) : load find₂ env = .ok c := by
  obtain ⟨s₁, c₁, hs₁, hc₁, rfl, hlimits⟩ := load_eq_ok.1 h
  obtain ⟨s, hs, hfile₁, henv₁⟩ := sources_of_document h₁
  cases hs₁.symm.trans hs
  obtain ⟨s₂, hs₂, hfile₂, henv₂⟩ := sources_of_document h₂
  have hbut : Sources.AgreeBut f s₁ s₂ := by
    refine ⟨henv₁.trans henv₂.symm, fun key hkey => ?_⟩
    rw [hfile₁, hfile₂, get?_ofFields, get?_ofFields, hagree key hkey]
  rw [load_eq_ok]
  -- A variable that names the field hides the file's value from the start, the list of directories only afterwards.
  obtain ⟨v, hv⟩ | ⟨rfl, ⟨list, hlist⟩, hnone⟩ := isSome_environment? hset
  · exact ⟨s₂, c₁, hs₂, hbut.config_of_set (henv₁ ▸ hv) hc₁, rfl, hlimits⟩
  · obtain ⟨texts, hc₂⟩ := hbut.config_of_texts (henv₁ ▸ hnone) (hfile₁ ▸ get?_ofFields _ _)
      (hfile₂ ▸ get?_ofFields _ _) (hdirs rfl) hc₁
    exact ⟨s₂, _, hs₂, hc₂, by simp only [withListedDirs, hlist], hlimits⟩

/-- **What a variable sets is hidden of the file**: two files that differ in the field alone give the same configuration
or none. Of the extension directories this holds if both files have a list of texts there or none, or both do not. -/
theorem load_shadowed (hset : (environment? env f).isSome) (h₁ : Document find₁ env doc₁) (h₂ : Document find₂ env doc₂)
    (hagree : ∀ key, key ≠ f.key → doc₁.get? key = doc₂.get? key)
    (hdirs : f = .extensionDirs → (IsTexts (doc₁.get? f.key) ↔ IsTexts (doc₂.get? f.key))) :
    load find₁ env = .ok c ↔ load find₂ env = .ok c :=
  ⟨load_of_load hset h₁ h₂ hagree fun hf => (hdirs hf).1,
    load_of_load hset h₂ h₁ (fun key hkey => (hagree key hkey).symm) fun hf => (hdirs hf).2⟩

end Files

/-! ## Values of the wrong kind -/

/-- The document of a file, known by its keys. -/
theorem exists_document {env : Environment} {path : String} (henv : env.get? fileVariable = some path) (text : String)
    (names : List String) (hnames : (Toml.parse? text).map (fun doc => doc.map (·.1)) = some names) :
    ∃ doc, Document (onlyFile text) env doc ∧ ∀ key, key ∉ names → Fields.get? doc key = none := by
  obtain ⟨doc, hdoc, rfl⟩ := Option.map_eq_some_iff.1 hnames
  refine ⟨doc, ?_, fun key => Fields.get?_eq_none_iff.2⟩
  rw [Document, henv]
  exact ⟨text, by simp [String.fromUTF8?, String.fromUTF8, text.isValidUTF8], hdoc⟩

theorem load_shadowed_mismatched :
    let env : Environment := [(fileVariable, "c.toml"), ("SCHEMA_BRIDGE_TIMEOUT_MS", "5000")]
    (environment? env .timeoutMs).isSome ∧ load (onlyFile "timeout_ms = 'x'") env = .ok { timeoutMs := 5000 } := by
  intro env
  have hpath : env.get? fileVariable = some "c.toml" := rfl
  have hset : (environment? env .timeoutMs).isSome := by decide +kernel
  obtain ⟨doc₁, h₁, hget₁⟩ := exists_document hpath "timeout_ms = 'x'" ["timeout_ms"] (by decide +kernel)
  obtain ⟨doc₂, h₂, hget₂⟩ := exists_document hpath "" [] (by decide +kernel)
  have hagree : ∀ key, key ≠ Field.timeoutMs.key → doc₁.get? key = doc₂.get? key := fun key hkey => by
    rw [hget₁ key (mt List.mem_singleton.1 hkey), hget₂ key List.not_mem_nil]
  refine ⟨hset, (load_shadowed hset h₁ h₂ hagree nofun).2 (toOption_eq_some.1 ?_)⟩
  decide +kernel

/-- **A file's own directories are noticed** if they are of the wrong kind, although a variable replaces them. -/
theorem dirs_not_shadowed :
    ∃ env find₁ find₂ doc₁ doc₂, (environment? env .extensionDirs).isSome ∧ Document find₁ env doc₁ ∧
      Document find₂ env doc₂ ∧ (∀ key, key ≠ Field.extensionDirs.key → doc₁.get? key = doc₂.get? key) ∧
      load find₁ env = .ok { extensionDirs := ["/a"] } ∧ ∀ c, load find₂ env ≠ .ok c := by
  let env : Environment := [(fileVariable, "c.toml"), (dirsVariable, "/a")]
  have hpath : env.get? fileVariable = some "c.toml" := rfl
  obtain ⟨doc₁, h₁, hget₁⟩ := exists_document hpath "extension_dirs = []" ["extension_dirs"] (by decide +kernel)
  obtain ⟨doc₂, h₂, hget₂⟩ := exists_document hpath "extension_dirs = 5" ["extension_dirs"] (by decide +kernel)
  refine ⟨env, _, _, doc₁, doc₂, by decide +kernel, h₁, h₂, fun key hkey => ?_, toOption_eq_some.1 (by decide +kernel),
    fun c hc => ?_⟩
  · rw [hget₁ key (mt List.mem_singleton.1 hkey), hget₂ key (mt List.mem_singleton.1 hkey)]
  · have hnone : (load (onlyFile "extension_dirs = 5") env).toOption = none := by decide +kernel
    rw [toOption_eq_some.2 hc] at hnone
    cases hnone

end SchemaRelay.Config

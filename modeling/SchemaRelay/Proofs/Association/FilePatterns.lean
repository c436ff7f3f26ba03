import Mathlib.Data.List.TakeWhile
import SchemaRelay.Proofs.Association.Contributions
import SchemaRelay.Tool.Associations

/-!
# File patterns of associations

A pattern is rooted if it starts with a slash, a negation or a scheme (`Rooted`). A pattern that does not start with a
percent sign is rooted by what is put in front of it. One that does is left to its placeholders: it gets rooted just
when it starts with one that is replaced (`Opens`), and keeps its percent sign otherwise (`rooted_rootPattern_iff`).

Associations have the patterns of their contributions, so they are rooted as far as those are (`patterns_rooted`), and
an association has no pattern at all where a contribution lists none that is a string (`patterns_present`).
-/

namespace SchemaRelay.Association

variable {s t o n rest name : List Char}

/-! ## Rooted patterns -/

/-- A pattern that starts with a slash, a negation or a scheme. -/
inductive Rooted : List Char → Prop
  | slash (rest : List Char) : Rooted ('/' :: rest)
  | negation (rest : List Char) : Rooted ('!' :: rest)
  | scheme {word : List Char} (rest : List Char) (hne : word ≠ []) (hword : ∀ c ∈ word, Text.isWord c = true) :
    Rooted (word ++ ':' :: '/' :: '/' :: rest)

theorem isWord_colon : Text.isWord ':' = false := by decide +kernel

theorem isWord_percent : Text.isWord '%' = false := by decide +kernel

theorem hasScheme_iff : hasScheme s = true ↔
    ∃ word rest, word ≠ [] ∧ (∀ c ∈ word, Text.isWord c = true) ∧ s = word ++ ':' :: '/' :: '/' :: rest := by
  unfold hasScheme
  rw [Bool.and_eq_true, Bool.not_eq_true', List.isEmpty_eq_false_iff, List.isPrefixOf_iff_prefix]
  constructor
  · rintro ⟨hne, rest, hrest⟩
    refine ⟨s.takeWhile Text.isWord, rest, hne, fun c hc => List.mem_takeWhile_imp hc, ?_⟩
    have hsplit := List.takeWhile_append_dropWhile (p := Text.isWord) (l := s)
    rw [← hrest] at hsplit
    exact hsplit.symm
  · rintro ⟨word, rest, hne, hword, rfl⟩
    rw [List.takeWhile_append_of_pos hword, List.dropWhile_append_of_pos hword,
      List.takeWhile_cons_of_neg (by simp [isWord_colon]), List.dropWhile_cons_of_neg (by simp [isWord_colon])]
    exact ⟨by simpa using hne, rest, rfl⟩

theorem isRooted_iff : isRooted s = true ↔ Rooted s := by
  unfold isRooted
  split
  · exact ⟨fun _ => .slash _, fun _ => rfl⟩
  · exact ⟨fun _ => .negation _, fun _ => rfl⟩
  · next hslash hnegation =>
    rw [hasScheme_iff]
    constructor
    · rintro ⟨word, rest, hne, hword, rfl⟩
      exact .scheme rest hne hword
    · intro h
      cases h with
      | slash rest => exact absurd rfl (hslash rest)
      | negation rest => exact absurd rfl (hnegation rest)
      | scheme rest hne hword => exact ⟨_, rest, hne, hword, rfl⟩

theorem not_rooted_percent (rest : List Char) : ¬Rooted ('%' :: rest) := by
  rw [← isRooted_iff]
  simp [isRooted, hasScheme, isWord_percent]

/-! ## Placeholders -/

/-- A placeholder that a text starts with is replaced. -/
theorem replaceFirst_cons_found {old new : List Char} {c : Char} (h : old <+: c :: s) :
    replaceFirst old new (c :: s) = new ++ (c :: s).drop old.length := by
  rw [replaceFirst, if_pos (List.isPrefixOf_iff_prefix.2 h)]

theorem replaceFirst_cons_skipped {old : List Char} (new : List Char) {c : Char} (h : ¬old <+: c :: s) :
    replaceFirst old new (c :: s) = c :: replaceFirst old new s := by
  rw [replaceFirst, if_neg (mt List.isPrefixOf_iff_prefix.1 h)]

/-- Where a text has a name and a percent sign in front after a placeholder was replaced, it had them before, and that
percent sign did not open the placeholder. -/
theorem replaceFirst_eq_append_iff (hpercent : '%' ∉ name) (hslash : '/' ∉ name) :
    replaceFirst ('%' :: o) ('/' :: n) s = name ++ '%' :: t ↔
      ∃ rest, s = name ++ '%' :: rest ∧ ¬o <+: rest ∧ replaceFirst ('%' :: o) ('/' :: n) rest = t := by
  induction s generalizing name with
  | nil => simp [replaceFirst]
  | cons c s ih =>
    by_cases hold : ('%' :: o) <+: c :: s
    · -- The text starts with a slash now, and started with the placeholder before.
      obtain ⟨rfl, ho⟩ := List.cons_prefix_cons.1 hold
      rw [replaceFirst_cons_found hold, List.cons_append]
      cases name with
      | nil => simp +contextual [ho]
      | cons d name =>
        simp only [List.mem_cons, not_or] at hpercent hslash
        simp [hpercent.1, hslash.1]
    · rw [replaceFirst_cons_skipped _ hold]
      cases name with
      | nil =>
        simp only [List.nil_append, List.cons.injEq]
        constructor
        · rintro ⟨rfl, h⟩
          exact ⟨s, ⟨rfl, rfl⟩, fun ho => hold (List.cons_prefix_cons.2 ⟨rfl, ho⟩), h⟩
        · rintro ⟨rest, ⟨rfl, rfl⟩, -, h⟩
          exact ⟨rfl, h⟩
      | cons d name =>
        simp only [List.mem_cons, not_or] at hpercent hslash
        simp only [List.cons_append, List.cons.injEq, ih hpercent.2 hslash.2, and_assoc, exists_and_left]

theorem prefix_replaceFirst_iff (hpercent : '%' ∉ name) (hslash : '/' ∉ name) :
    name ++ ['%'] <+: replaceFirst ('%' :: o) ('/' :: n) s ↔ ∃ rest, s = name ++ '%' :: rest ∧ ¬o <+: rest := by
  constructor
  · rintro ⟨t, ht⟩
    rw [List.append_assoc, List.singleton_append] at ht
    obtain ⟨rest, hs, ho, -⟩ := (replaceFirst_eq_append_iff hpercent hslash).1 ht.symm
    exact ⟨rest, hs, ho⟩
  · rintro ⟨rest, hs, ho⟩
    refine ⟨replaceFirst ('%' :: o) ('/' :: n) rest, ?_⟩
    rw [List.append_assoc, List.singleton_append]
    exact ((replaceFirst_eq_append_iff hpercent hslash).2 ⟨rest, hs, ho, rfl⟩).symm

theorem replaceFirst_slash (o n s : List Char) :
    replaceFirst ('%' :: o) n ('/' :: s) = '/' :: replaceFirst ('%' :: o) n s := by
  refine replaceFirst_cons_skipped _ fun h => ?_
  exact absurd (List.cons_prefix_cons.1 h).1 (by decide)

/-- A text with a percent sign in front is rooted by the placeholder that it starts with, or by one that is replaced
afterwards. -/
theorem rooted_replaceFirst_iff (later : List Char → List Char) (hlater : ∀ s, later ('/' :: s) = '/' :: later s) :
    Rooted (later (replaceFirst ('%' :: o) ('/' :: n) ('%' :: s))) ↔
      o <+: s ∨ Rooted (later ('%' :: replaceFirst ('%' :: o) ('/' :: n) s)) := by
  by_cases ho : o <+: s
  · rw [replaceFirst_cons_found (List.cons_prefix_cons.2 ⟨rfl, ho⟩), List.cons_append, hlater]
    exact ⟨fun _ => .inl ho, fun _ => .slash _⟩
  · rw [replaceFirst_cons_skipped _ fun h => ho (List.cons_prefix_cons.1 h).2]
    exact ⟨.inr, fun h => h.resolve_left ho⟩

/-! ### The editor's directories -/

def settingsHome : List Char := "APP_SETTINGS_HOME".toList

def machineHome : List Char := "MACHINE_SETTINGS_HOME".toList

def workspacesHome : List Char := "APP_WORKSPACES_HOME".toList

/-- A pattern that starts with a placeholder which is replaced. The percent sign that closes a placeholder may open
another one, and is lost with that one if it is replaced before. -/
inductive Opens : List Char → Prop
  | settings (rest : List Char) : Opens ('%' :: settingsHome ++ '%' :: rest)
  | machine {rest : List Char} (h : ¬settingsHome ++ ['%'] <+: rest) : Opens ('%' :: machineHome ++ '%' :: rest)
  | workspaces {rest : List Char} (h : ¬settingsHome ++ ['%'] <+: rest)
    (h' : machineHome ++ ['%'] <+: rest → machineHome ++ '%' :: (settingsHome ++ ['%']) <+: rest) :
    Opens ('%' :: workspacesHome ++ '%' :: rest)

theorem opens_iff : Opens ('%' :: s) ↔
    settingsHome ++ ['%'] <+: s ∨
    (∃ rest, s = machineHome ++ '%' :: rest ∧ ¬settingsHome ++ ['%'] <+: rest) ∨
    ∃ rest, s = workspacesHome ++ '%' :: rest ∧ ¬settingsHome ++ ['%'] <+: rest ∧
      ¬∃ rest', rest = machineHome ++ '%' :: rest' ∧ ¬settingsHome ++ ['%'] <+: rest' := by
  have hnested : ∀ rest, (machineHome ++ ['%'] <+: rest → machineHome ++ '%' :: (settingsHome ++ ['%']) <+: rest) ↔
      ¬∃ rest', rest = machineHome ++ '%' :: rest' ∧ ¬settingsHome ++ ['%'] <+: rest' := by
    intro rest
    constructor
    · rintro h ⟨rest', rfl, hrest'⟩
      have hboth := h ⟨rest', (List.append_cons _ _ _).symm⟩
      exact hrest' (List.cons_prefix_cons.1 ((List.prefix_append_right_inj _).1 hboth)).2
    · rintro h ⟨rest', rfl⟩
      by_contra hboth
      refine h ⟨rest', (List.append_cons _ _ _).symm, fun hrest' => hboth ?_⟩
      rw [List.append_cons]
      exact (List.prefix_append_right_inj _).2 hrest'
  constructor
  · generalize hp : '%' :: s = p
    intro h
    cases h with
    | settings rest => exact .inl ⟨rest, by simp [(List.cons.inj hp).2]⟩
    | machine h => exact .inr (.inl ⟨_, (List.cons.inj hp).2, h⟩)
    | workspaces h h' => exact .inr (.inr ⟨_, (List.cons.inj hp).2, h, (hnested _).1 h'⟩)
  · rintro (⟨rest, rfl⟩ | ⟨rest, rfl, h⟩ | ⟨rest, rfl, h, h'⟩)
    · rw [List.append_assoc]
      exact .settings rest
    · exact .machine h
    · exact .workspaces h ((hnested _).2 h')

/-- The placeholders are replaced one after the other. -/
theorem foldl_placeholders (s : List Char) :
    placeholders.foldl (fun t p => replaceFirst p.1.toList p.2.toList t) s =
      replaceFirst ('%' :: (workspacesHome ++ ['%'])) ('/' :: "Workspaces".toList)
        (replaceFirst ('%' :: (machineHome ++ ['%'])) ('/' :: "Machine".toList)
          (replaceFirst ('%' :: (settingsHome ++ ['%'])) ('/' :: "User".toList) s)) := by
  have hsettings : "%APP_SETTINGS_HOME%".toList = '%' :: (settingsHome ++ ['%']) := by decide
  have hmachine : "%MACHINE_SETTINGS_HOME%".toList = '%' :: (machineHome ++ ['%']) := by decide
  have hworkspaces : "%APP_WORKSPACES_HOME%".toList = '%' :: (workspacesHome ++ ['%']) := by decide
  have hroots : "/User".toList = '/' :: "User".toList ∧ "/Machine".toList = '/' :: "Machine".toList ∧
      "/Workspaces".toList = '/' :: "Workspaces".toList := by decide
  simp only [placeholders, List.foldl_cons, List.foldl_nil, hsettings, hmachine, hworkspaces, hroots]

/-- Replacing placeholders roots a pattern that starts with a percent sign just when it starts with one that is
replaced. -/
theorem rooted_placeholders_iff :
    Rooted (placeholders.foldl (fun t p => replaceFirst p.1.toList p.2.toList t) ('%' :: s)) ↔ Opens ('%' :: s) := by
  let settings := replaceFirst ('%' :: (settingsHome ++ ['%'])) ('/' :: "User".toList)
  let machine := replaceFirst ('%' :: (machineHome ++ ['%'])) ('/' :: "Machine".toList)
  let workspaces := replaceFirst ('%' :: (workspacesHome ++ ['%'])) ('/' :: "Workspaces".toList)
  have hmachine : ∀ s, machineHome ++ ['%'] <+: settings s ↔
      ∃ rest, s = machineHome ++ '%' :: rest ∧ ¬settingsHome ++ ['%'] <+: rest :=
    fun s => prefix_replaceFirst_iff (by decide) (by decide)
  have hworkspaces : workspacesHome ++ ['%'] <+: machine (settings s) ↔
      ∃ rest, s = workspacesHome ++ '%' :: rest ∧ ¬settingsHome ++ ['%'] <+: rest ∧
        ¬machineHome ++ ['%'] <+: settings rest := by
    have hname : '%' ∉ workspacesHome ∧ '/' ∉ workspacesHome := by decide
    rw [prefix_replaceFirst_iff hname.1 hname.2]
    constructor
    · rintro ⟨_, hs, hrest⟩
      obtain ⟨rest, rfl, hsettings, rfl⟩ := (replaceFirst_eq_append_iff hname.1 hname.2).1 hs
      exact ⟨rest, rfl, hsettings, hrest⟩
    · rintro ⟨rest, rfl, hsettings, hrest⟩
      exact ⟨_, (replaceFirst_eq_append_iff hname.1 hname.2).2 ⟨rest, rfl, hsettings, rfl⟩, hrest⟩
  rw [foldl_placeholders]
  calc Rooted (workspaces (machine (settings ('%' :: s))))
    _ ↔ settingsHome ++ ['%'] <+: s ∨ Rooted (workspaces (machine ('%' :: settings s))) :=
      rooted_replaceFirst_iff (fun t => workspaces (machine t)) fun t => by
        simp only [machine, workspaces, replaceFirst_slash]
    _ ↔ settingsHome ++ ['%'] <+: s ∨ machineHome ++ ['%'] <+: settings s ∨
        Rooted (workspaces ('%' :: machine (settings s))) := by
      rw [rooted_replaceFirst_iff workspaces fun t => replaceFirst_slash _ _ t]
    _ ↔ settingsHome ++ ['%'] <+: s ∨ machineHome ++ ['%'] <+: settings s ∨
        workspacesHome ++ ['%'] <+: machine (settings s) := by
      have hlast := rooted_replaceFirst_iff (o := workspacesHome ++ ['%']) (n := "Workspaces".toList)
        (s := machine (settings s)) id fun _ => rfl
      rw [id, id, or_iff_left (not_rooted_percent _)] at hlast
      rw [hlast]
    _ ↔ Opens ('%' :: s) := by
      rw [opens_iff, hworkspaces, hmachine]
      simp only [hmachine]

/-! ## Roots of patterns -/

theorem rootPattern_percent {pattern : String} (h : pattern.toList = '%' :: s) :
    (rootPattern pattern).toList =
      placeholders.foldl (fun t p => replaceFirst p.1.toList p.2.toList t) ('%' :: s) := by
  simp only [rootPattern, h, String.toList_ofList]

theorem rooted_rootPattern {pattern : String} (h : ¬['%'] <+: pattern.toList) :
    Rooted (rootPattern pattern).toList := by
  simp only [rootPattern]
  split
  · next s hs => exact absurd ⟨s, hs.symm⟩ h
  · split
    · next hrooted => exact isRooted_iff.1 hrooted
    · rw [String.toList_ofList]
      exact .slash _

/-- Just those patterns stay without a root that start with a percent sign and not with a placeholder which is
replaced. -/
theorem rooted_rootPattern_iff (pattern : String) :
    Rooted (rootPattern pattern).toList ↔ (['%'] <+: pattern.toList → Opens pattern.toList) := by
  by_cases h : ['%'] <+: pattern.toList
  · obtain ⟨s, hs⟩ := h
    rw [rootPattern_percent hs.symm, rooted_placeholders_iff, ← hs]
    exact ⟨fun hopens _ => hopens, fun hopens => hopens ⟨s, rfl⟩⟩
  · exact ⟨fun _ hpercent => absurd hpercent h, fun _ => rooted_rootPattern h⟩

/-- A placeholder that is replaced leaves a percent sign or a slash in front of a text that starts with one. -/
theorem replaceFirst_starts (h : ['%'] <+: s ∨ ['/'] <+: s) :
    ['%'] <+: replaceFirst ('%' :: o) ('/' :: n) s ∨ ['/'] <+: replaceFirst ('%' :: o) ('/' :: n) s := by
  rcases h with ⟨s, rfl⟩ | ⟨s, rfl⟩
  · rw [List.singleton_append]
    by_cases ho : o <+: s
    · rw [replaceFirst_cons_found (List.cons_prefix_cons.2 ⟨rfl, ho⟩), List.cons_append]
      exact .inr ⟨_, rfl⟩
    · rw [replaceFirst_cons_skipped _ fun h => ho (List.cons_prefix_cons.1 h).2]
      exact .inl ⟨_, rfl⟩
  · rw [List.singleton_append, replaceFirst_slash]
    exact .inr ⟨_, rfl⟩

/-- What stays without a root starts with a percent sign. -/
theorem rooted_or_percent (pattern : String) :
    Rooted (rootPattern pattern).toList ∨ ['%'] <+: (rootPattern pattern).toList := by
  by_cases h : ['%'] <+: pattern.toList
  · obtain ⟨s, hs : '%' :: s = pattern.toList⟩ := h
    have hs' : ['%'] <+: '%' :: s := ⟨s, rfl⟩
    have hstarts := replaceFirst_starts (o := workspacesHome ++ ['%']) (n := "Workspaces".toList)
      (replaceFirst_starts (o := machineHome ++ ['%']) (n := "Machine".toList)
        (replaceFirst_starts (o := settingsHome ++ ['%']) (n := "User".toList) (.inl hs')))
    rw [← foldl_placeholders, ← rootPattern_percent hs.symm] at hstarts
    rcases hstarts with hpercent | ⟨rest, hslash⟩
    · exact .inr hpercent
    · rw [← hslash]
      exact .inl (.slash rest)
  · exact .inl (rooted_rootPattern h)

/-! ## Patterns of associations -/

/-- A contribution of the manifests has the pattern. -/
def Offers (ms : List Manifest) (pattern : String) : Prop :=
  ∃ m ∈ ms, ∃ vs, Lists m.package vs ∧ ∃ v ∈ vs, IsContribution m.directory v ∧
    ∃ p ss, v.get? "fileMatch" = some p ∧ Patterns p ss ∧ pattern ∈ ss

/-- Which patterns of associations have a root. -/
structure PatternsRooted (ms : List Manifest) : Prop where
  /-- A pattern of an association comes from one that is offered, and tells by that whether it has a root. -/
  each : ∀ a ∈ collect ms, ∀ t ∈ a.fileMatch, ∃ pattern, Offers ms pattern ∧ t = rootPattern pattern ∧
    (Rooted t.toList ↔ (['%'] <+: pattern.toList → Opens pattern.toList))
  /-- One without a root starts with a percent sign. -/
  others : ∀ a ∈ collect ms, ∀ t ∈ a.fileMatch, Rooted t.toList ∨ ['%'] <+: t.toList
  /-- All have roots just when every pattern that is offered and starts with a percent sign starts with a placeholder
  which is replaced. -/
  all : (∀ a ∈ collect ms, ∀ t ∈ a.fileMatch, Rooted t.toList) ↔
    ∀ pattern, Offers ms pattern → ['%'] <+: pattern.toList → Opens pattern.toList

variable {ms : List Manifest} {a : Association}

/-- The patterns of associations are those that are offered, rooted. -/
theorem fileMatch_iff {t : String} :
    (∃ a ∈ collect ms, t ∈ a.fileMatch) ↔ ∃ pattern, Offers ms pattern ∧ rootPattern pattern = t := by
  constructor
  · rintro ⟨a, ha, ht⟩
    obtain ⟨m, hm, vs, hvs, v, hv, hcontributes⟩ := mem_collect.1 ha
    have hcontribution := isContribution_iff.2 ⟨a, hcontributes⟩
    obtain ⟨hurl, huri, hp, hss⟩ := hcontributes
    obtain ⟨pattern, hpattern, rfl⟩ := List.mem_map.1 ht
    exact ⟨pattern, ⟨m, hm, vs, hvs, v, hv, hcontribution, _, _, hp, hss, hpattern⟩, rfl⟩
  · rintro ⟨pattern, ⟨m, hm, vs, hvs, v, hv, hcontribution, p, ss, hp, hss, hpattern⟩, rfl⟩
    obtain ⟨url, hurl, hlocated⟩ := hcontribution.url
    obtain ⟨uri, huri⟩ := exists_located.2 hlocated
    exact ⟨_, mem_collect.2 ⟨m, hm, vs, hvs, v, hv, .intro hurl huri hp hss⟩, List.mem_map_of_mem hpattern⟩

/-- **Patterns have roots** but for those that start with a percent sign and not with a placeholder which is
replaced. -/
theorem patterns_rooted (ms : List Manifest) : PatternsRooted ms where
  each a ha t ht := by
    obtain ⟨pattern, hoffers, rfl⟩ := fileMatch_iff.1 ⟨a, ha, ht⟩
    exact ⟨pattern, hoffers, rfl, rooted_rootPattern_iff pattern⟩
  others a ha t ht := by
    obtain ⟨pattern, -, rfl⟩ := fileMatch_iff.1 ⟨a, ha, ht⟩
    exact rooted_or_percent pattern
  all := by
    constructor
    · intro h pattern hoffers
      obtain ⟨a, ha, ht⟩ := fileMatch_iff.2 ⟨pattern, hoffers, rfl⟩
      exact (rooted_rootPattern_iff pattern).1 (h a ha _ ht)
    · intro h a ha t ht
      obtain ⟨pattern, hoffers, rfl⟩ := fileMatch_iff.1 ⟨a, ha, ht⟩
      exact (rooted_rootPattern_iff pattern).2 (h pattern hoffers)

/-- The manifest that lists one element. -/
def manifestOf (directory : String) (v : Json) : Manifest :=
  ⟨directory, .obj [("contributes", .obj [("yamlValidation", .arr [v])])]⟩

/-- **Not all patterns have roots**: an unknown placeholder has none, nor has a known one whose closing percent sign
opens another that is replaced before. -/
theorem placeholders_without_root :
    let m := manifestOf "/ext" (.obj [("fileMatch",
      .strings ["%UNKNOWN%/a.yaml", "%MACHINE_SETTINGS_HOME%APP_SETTINGS_HOME%/b.yaml"]),
      ("url", .str "https://example.org/s.json")])
    collect [m] = [⟨["%UNKNOWN%/a.yaml", "%MACHINE_SETTINGS_HOME/User/b.yaml"], "https://example.org/s.json"⟩] ∧
      ¬∀ a ∈ collect [m], ∀ t ∈ a.fileMatch, Rooted t.toList := by
  intro m
  have hcollect : collect [m] =
      [⟨["%UNKNOWN%/a.yaml", "%MACHINE_SETTINGS_HOME/User/b.yaml"], "https://example.org/s.json"⟩] := by
    decide +kernel
  refine ⟨hcollect, fun h => ?_⟩
  rw [hcollect] at h
  exact not_rooted_percent _ (h _ List.mem_cons_self _ List.mem_cons_self)

/-! ## Associations without patterns -/

/-- An element whose patterns are a list without strings. -/
def ListsNoPattern (v : Json) : Prop := ∃ ws, v.get? "fileMatch" = some (.arr ws) ∧ ∀ s, .str s ∉ ws

/-- Every contribution of the manifests has a pattern. -/
def OffersAll (ms : List Manifest) : Prop :=
  ∀ m ∈ ms, ∀ vs, Lists m.package vs → ∀ v ∈ vs, IsContribution m.directory v → ¬ListsNoPattern v

/-- Which associations have patterns. -/
structure PatternsPresent (ms : List Manifest) : Prop where
  /-- An association has none just when its element lists none. -/
  each : ∀ m ∈ ms, ∀ v a, Contributes m.directory v a → (a.fileMatch = [] ↔ ListsNoPattern v)
  all : (∀ a ∈ collect ms, a.fileMatch ≠ []) ↔ OffersAll ms
  /-- So it is with the associations that are listed for directories with these manifests. -/
  listed : ∀ read directories, Manifest.loadAll read directories = ms →
    ∃ (doc : Json) (items : List Json), Tool.associations read directories = doc.pretty ∧
      doc.get? "associations" = some (.arr items) ∧
        ((∀ item ∈ items, item.get? "fileMatch" ≠ some (.arr [])) ↔ OffersAll ms)

theorem strings_eq_nil_iff {vs : List Json} {ss : List String} (h : Strings vs ss) : ss = [] ↔ ∀ s, .str s ∉ vs := by
  induction h with
  | nil => simp
  | string s _ _ => simpa using ⟨s, fun h => absurd rfl h⟩
  | other hv _ ih => simp [ih, fun s => (hv s).symm]

theorem fileMatch_eq_nil_iff {directory : String} {v : Json} (h : Contributes directory v a) :
    a.fileMatch = [] ↔ ListsNoPattern v := by
  obtain ⟨-, -, hp, hss⟩ := h
  rw [List.map_eq_nil_iff, ListsNoPattern, hp]
  cases hss with
  | one s => simp
  | list h => simp [strings_eq_nil_iff h]

theorem fileMatch_ne_nil_iff : (∀ a ∈ collect ms, a.fileMatch ≠ []) ↔ OffersAll ms := by
  constructor
  · intro h m hm vs hvs v hv hcontribution hnone
    obtain ⟨a, ha⟩ := isContribution_iff.1 hcontribution
    exact h a (mem_collect.2 ⟨m, hm, vs, hvs, v, hv, ha⟩) ((fileMatch_eq_nil_iff ha).2 hnone)
  · intro h a ha hnil
    obtain ⟨m, hm, vs, hvs, v, hv, hcontributes⟩ := mem_collect.1 ha
    exact h m hm vs hvs v hv (isContribution_iff.2 ⟨a, hcontributes⟩) ((fileMatch_eq_nil_iff hcontributes).1 hnil)

/-- **An association has patterns** unless its element lists none that is a string. -/
theorem patterns_present (ms : List Manifest) : PatternsPresent ms where
  each _ _ _ _ := fileMatch_eq_nil_iff
  all := fileMatch_ne_nil_iff
  listed read directories h := by
    subst h
    refine ⟨_, _, rfl, rfl, ?_⟩
    rw [← fileMatch_ne_nil_iff, List.forall_mem_map]
    refine forall₂_congr fun a _ => not_congr ?_
    rw [Association.toJson]
    simp [Json.get?, Fields.get?, Json.strings]

/-- **Not all associations have patterns**: a contribution may list none. -/
theorem association_without_patterns :
    let m := manifestOf "/ext" (.obj [("fileMatch", .arr []), ("url", .str "https://example.org/s.json")])
    collect [m] = [⟨[], "https://example.org/s.json"⟩] ∧ ¬∀ a ∈ collect [m], a.fileMatch ≠ [] := by
  intro m
  have hcollect : collect [m] = [⟨[], "https://example.org/s.json"⟩] := by decide +kernel
  refine ⟨hcollect, fun h => ?_⟩
  rw [hcollect] at h
  exact h _ List.mem_cons_self rfl

end SchemaRelay.Association

import SchemaRelay.Association

/-!
# What manifests contribute

A manifest may list elements (`Lists`). An element is a contribution if it has a URL that can be located and a string or
a list for its patterns (`IsContribution`); it then gives one association (`Contributes`), and any other element gives
none. `CollectsAll` tells in these terms what comes of manifests: the associations of their contributions, in the order
of the manifests and of their elements. It has just one outcome, which is what `collect` gives (`collectsAll_iff`).

So an element or a manifest that contributes nothing might as well not be there (`contributions_collected`).
-/

namespace SchemaRelay.Association

variable {directory url uri : String} {v : Json} {vs ws : List Json} {ss : List String} {a b : Association}
  {as : List Association} {m m' : Manifest} {ms : List Manifest}

/-! ## Elements -/

/-- The strings among the elements of a list, in their order. -/
inductive Strings : List Json → List String → Prop
  | nil : Strings [] []
  | string {vs : List Json} {ss : List String} (s : String) (h : Strings vs ss) : Strings (.str s :: vs) (s :: ss)
  | other {v : Json} {vs : List Json} {ss : List String} (hv : ∀ s, v ≠ .str s) (h : Strings vs ss) :
    Strings (v :: vs) ss

/-- The patterns that a value has: itself, or the strings of a list. -/
inductive Patterns : Json → List String → Prop
  | one (s : String) : Patterns (.str s) [s]
  | list {vs : List Json} {ss : List String} (h : Strings vs ss) : Patterns (.arr vs) ss

/-- A URL that is looked up in the directory of its extension. -/
def IsRelative (url : String) : Prop := ['.', '/'] <+: url.toList

/-- Where the schema of a URL is, for an extension in `directory`. -/
inductive Located (directory url : String) : String → Prop
  | unchanged (h : ¬IsRelative url) : Located directory url url
  | resolved {names : List (List Char)} (h : IsRelative url) (hnames : Url.pathNames? directory = some names) :
    Located directory url (Url.ofRelative names url).text

/-- The association that an element contributes. -/
inductive Contributes (directory : String) (v : Json) : Association → Prop
  | intro {url uri : String} {p : Json} {ss : List String} (hurl : v.get? "url" = some (.str url))
    (huri : Located directory url uri) (hp : v.get? "fileMatch" = some p) (hss : Patterns p ss) :
    Contributes directory v ⟨ss.map rootPattern, uri⟩

/-- An element that contributes an association: its URL is a string, which is not relative or has an absolute directory,
and its patterns are a string or a list. -/
structure IsContribution (directory : String) (v : Json) : Prop where
  url : ∃ url, v.get? "url" = some (.str url) ∧ (IsRelative url → ['/'] <+: directory.toList)
  patterns : (∃ s, v.get? "fileMatch" = some (.str s)) ∨ ∃ vs, v.get? "fileMatch" = some (.arr vs)

theorem strings_iff : Strings vs ss ↔ vs.filterMap Json.str? = ss := by
  constructor
  · intro h
    induction h with
    | nil => rfl
    | string s _ ih =>
      have hsome : (Json.str s).str? = some s := rfl
      rw [List.filterMap_cons_some hsome, ih]
    | @other v _ _ hv _ ih =>
      have hnone : v.str? = none := by
        cases v with
        | str s => exact absurd rfl (hv s)
        | _ => rfl
      rw [List.filterMap_cons_none hnone, ih]
  · rintro rfl
    induction vs with
    | nil => exact .nil
    | cons v vs ih =>
      cases v with
      | str s => exact .string s ih
      | _ => exact .other nofun ih

theorem patterns?_eq_some {p : Option Json} : patterns? p = some ss ↔ ∃ v, p = some v ∧ Patterns v ss := by
  constructor
  · intro h
    cases p with
    | none => cases h
    | some v =>
      cases v with
      | str s =>
        cases h
        exact ⟨_, rfl, .one s⟩
      | arr vs => exact ⟨_, rfl, .list (strings_iff.2 (Option.some.inj h))⟩
      | _ => cases h
  · rintro ⟨v, rfl, h⟩
    cases h with
    | one s => rfl
    | list h => exact congrArg some (strings_iff.1 h)

/-- Just the absolute paths have names along them. -/
theorem isSome_pathNames? : (Url.pathNames? directory).isSome ↔ ['/'] <+: directory.toList := by
  unfold Url.pathNames?
  split
  · next rest hpath => simp [hpath]
  · next hpath =>
    refine ⟨nofun, fun ⟨rest, hrest⟩ => ?_⟩
    exact absurd hrest.symm (hpath rest)

theorem schemaUri?_eq_some : schemaUri? directory url = some uri ↔ Located directory url uri := by
  unfold schemaUri?
  by_cases hurl : IsRelative url
  · rw [if_pos (List.isPrefixOf_iff_prefix.2 hurl), Option.map_eq_some_iff]
    constructor
    · rintro ⟨names, hnames, rfl⟩
      exact .resolved hurl hnames
    · rintro (h | ⟨-, hnames⟩)
      · exact absurd hurl h
      · exact ⟨_, hnames, rfl⟩
  · rw [if_neg (mt List.isPrefixOf_iff_prefix.1 hurl), Option.some.injEq]
    constructor
    · rintro rfl
      exact .unchanged hurl
    · rintro (- | ⟨h, -⟩)
      · rfl
      · exact absurd h hurl

theorem str?_eq_some {s : String} : v.str? = some s ↔ v = .str s := by
  cases v <;> simp [Json.str?]

theorem ofContribution?_eq_some : ofContribution? directory v = some a ↔ Contributes directory v a := by
  simp only [ofContribution?, Option.bind_eq_bind, Option.bind_eq_some_iff, str?_eq_some, patterns?_eq_some,
    schemaUri?_eq_some, Option.pure_def, Option.some.injEq]
  constructor
  · rintro ⟨url, ⟨_, hurl, rfl⟩, ss, ⟨p, hp, hss⟩, uri, huri, rfl⟩
    exact .intro hurl huri hp hss
  · rintro ⟨hurl, huri, hp, hss⟩
    exact ⟨_, ⟨_, hurl, rfl⟩, _, ⟨_, hp, hss⟩, _, huri, rfl⟩

/-- An element contributes one association at most. -/
theorem Contributes.unique (ha : Contributes directory v a) (hb : Contributes directory v b) : a = b := by
  rw [← ofContribution?_eq_some] at ha hb
  exact Option.some.inj (ha.symm.trans hb)

theorem exists_located : (∃ uri, Located directory url uri) ↔ (IsRelative url → ['/'] <+: directory.toList) := by
  rw [← isSome_pathNames?, Option.isSome_iff_exists]
  constructor
  · rintro ⟨uri, h | ⟨-, hnames⟩⟩ hurl
    · exact absurd hurl h
    · exact ⟨_, hnames⟩
  · intro h
    by_cases hurl : IsRelative url
    · obtain ⟨names, hnames⟩ := h hurl
      exact ⟨_, .resolved hurl hnames⟩
    · exact ⟨_, .unchanged hurl⟩

/-- Just the contributions contribute. -/
theorem isContribution_iff : IsContribution directory v ↔ ∃ a, Contributes directory v a := by
  constructor
  · rintro ⟨⟨url, hurl, hlocated⟩, hpatterns⟩
    obtain ⟨uri, huri⟩ := exists_located.2 hlocated
    rcases hpatterns with ⟨s, hp⟩ | ⟨vs, hp⟩
    · exact ⟨_, .intro hurl huri hp (.one s)⟩
    · exact ⟨_, .intro hurl huri hp (.list (strings_iff.2 rfl))⟩
  · rintro ⟨_, hurl, huri, hp, hss⟩
    refine ⟨⟨_, hurl, exists_located.1 ⟨_, huri⟩⟩, ?_⟩
    cases hss with
    | one s => exact .inl ⟨s, hp⟩
    | list h => exact .inr ⟨_, hp⟩

/-! ## Manifests -/

/-- The elements that a manifest lists. -/
def Lists (package : Json) (vs : List Json) : Prop :=
  ∃ c, package.get? "contributes" = some c ∧ c.get? "yamlValidation" = some (.arr vs)

/-- What comes of a list of elements. -/
inductive Collects (directory : String) : List Json → List Association → Prop
  | nil : Collects directory [] []
  | contributed {v : Json} {a : Association} {vs : List Json} {as : List Association} (h : Contributes directory v a)
    (rest : Collects directory vs as) : Collects directory (v :: vs) (a :: as)
  | ignored {v : Json} {vs : List Json} {as : List Association} (h : ¬IsContribution directory v)
    (rest : Collects directory vs as) : Collects directory (v :: vs) as

/-- What comes of a list of manifests. -/
inductive CollectsAll : List Manifest → List Association → Prop
  | nil : CollectsAll [] []
  | listed {m : Manifest} {vs : List Json} {ms : List Manifest} {as bs : List Association} (hvs : Lists m.package vs)
    (h : Collects m.directory vs as) (rest : CollectsAll ms bs) : CollectsAll (m :: ms) (as ++ bs)
  | unlisted {m : Manifest} {ms : List Manifest} {bs : List Association} (h : ∀ vs, ¬Lists m.package vs)
    (rest : CollectsAll ms bs) : CollectsAll (m :: ms) bs

theorem at?_arr?_eq_some {package : Json} :
    (package.at? ["contributes", "yamlValidation"]).bind Json.arr? = some vs ↔ Lists package vs := by
  have harr : ∀ w : Json, w.arr? = some vs ↔ w = .arr vs := fun w => by cases w <;> simp [Json.arr?]
  simp only [Json.at?, List.foldlM_cons, List.foldlM_nil, Option.bind_eq_bind, Option.bind_eq_some_iff, harr,
    Option.pure_def, Option.some.injEq, Lists]
  constructor
  · rintro ⟨_, ⟨c, hc, _, hvs, rfl⟩, rfl⟩
    exact ⟨c, hc, hvs⟩
  · rintro ⟨c, hc, hvs⟩
    exact ⟨_, ⟨c, hc, _, hvs, rfl⟩, rfl⟩

theorem contributions_of_lists {package : Json} (h : Lists package vs) : contributions package = vs := by
  rw [contributions, at?_arr?_eq_some.2 h, Option.getD_some]

theorem contributions_of_unlisted {package : Json} (h : ∀ vs, ¬Lists package vs) : contributions package = [] := by
  rw [contributions, Option.eq_none_iff_forall_ne_some.2 fun vs hvs => h vs (at?_arr?_eq_some.1 hvs), Option.getD_none]

theorem mem_contributions {package : Json} : v ∈ contributions package ↔ ∃ vs, Lists package vs ∧ v ∈ vs := by
  constructor
  · intro hv
    by_cases h : ∃ vs, Lists package vs
    · obtain ⟨vs, hvs⟩ := h
      exact ⟨vs, hvs, contributions_of_lists hvs ▸ hv⟩
    · rw [contributions_of_unlisted (not_exists.1 h)] at hv
      cases hv
  · rintro ⟨vs, hvs, hv⟩
    exact (contributions_of_lists hvs).symm ▸ hv

theorem collects_iff : Collects directory vs as ↔ vs.filterMap (ofContribution? directory) = as := by
  constructor
  · intro h
    induction h with
    | nil => rfl
    | contributed h _ ih => rw [List.filterMap_cons_some (ofContribution?_eq_some.2 h), ih]
    | ignored h _ ih =>
      have hnone := Option.eq_none_iff_forall_ne_some.2 fun a ha =>
        h (isContribution_iff.2 ⟨a, ofContribution?_eq_some.1 ha⟩)
      rw [List.filterMap_cons_none hnone, ih]
  · rintro rfl
    induction vs with
    | nil => exact .nil
    | cons v vs ih =>
      cases ha : ofContribution? directory v with
      | some a =>
        rw [List.filterMap_cons_some ha]
        exact .contributed (ofContribution?_eq_some.1 ha) ih
      | none =>
        rw [List.filterMap_cons_none ha]
        refine .ignored (fun h => ?_) ih
        obtain ⟨a, hcontributes⟩ := isContribution_iff.1 h
        cases ha.symm.trans (ofContribution?_eq_some.2 hcontributes)

theorem ofManifest_of_lists (h : Lists m.package vs) :
    ofManifest m = vs.filterMap (ofContribution? m.directory) := by
  rw [ofManifest, contributions_of_lists h]

theorem ofManifest_of_unlisted (h : ∀ vs, ¬Lists m.package vs) : ofManifest m = [] := by
  rw [ofManifest, contributions_of_unlisted h, List.filterMap_nil]

/-- What comes of manifests is determined, and is what is collected. -/
theorem collectsAll_iff : CollectsAll ms as ↔ collect ms = as := by
  constructor
  · intro h
    induction h with
    | nil => rfl
    | listed hvs h _ ih => rw [collect, List.flatMap_cons, ofManifest_of_lists hvs, collects_iff.1 h, ← collect, ih]
    | unlisted h _ ih => rw [collect, List.flatMap_cons, ofManifest_of_unlisted h, List.nil_append, ← collect, ih]
  · rintro rfl
    induction ms with
    | nil => exact .nil
    | cons m ms ih =>
      rw [collect, List.flatMap_cons, ← collect]
      by_cases h : ∃ vs, Lists m.package vs
      · obtain ⟨vs, hvs⟩ := h
        exact .listed hvs (collects_iff.2 (ofManifest_of_lists hvs).symm) ih
      · rw [ofManifest_of_unlisted (not_exists.1 h), List.nil_append]
        exact .unlisted (not_exists.1 h) ih

theorem collect_append (ms ms' : List Manifest) : collect (ms ++ ms') = collect ms ++ collect ms' :=
  List.flatMap_append

theorem collect_cons (m : Manifest) (ms : List Manifest) : collect (m :: ms) = ofManifest m ++ collect ms :=
  List.flatMap_cons

theorem mem_collect : a ∈ collect ms ↔
    ∃ m ∈ ms, ∃ vs, Lists m.package vs ∧ ∃ v ∈ vs, Contributes m.directory v a := by
  simp only [collect, ofManifest, List.mem_flatMap, List.mem_filterMap, mem_contributions, ofContribution?_eq_some]
  constructor
  · rintro ⟨m, hm, v, ⟨vs, hvs, hv⟩, ha⟩
    exact ⟨m, hm, vs, hvs, v, hv, ha⟩
  · rintro ⟨m, hm, vs, hvs, v, hv, ha⟩
    exact ⟨m, hm, v, ⟨vs, hvs, hv⟩, ha⟩

/-! ## What contributes nothing -/

/-- What collecting comes to. -/
structure Collected : Prop where
  /-- The associations are those of the contributions, in the order of the manifests and of their elements. -/
  all : ∀ ms as, CollectsAll ms as ↔ collect ms = as
  /-- Of each contribution there is one, and of any other element none. -/
  one : ∀ directory v, (IsContribution directory v ↔ ∃ a, Contributes directory v a) ∧
    ∀ a b, Contributes directory v a → Contributes directory v b → a = b
  /-- A manifest gives what it gives alone, and so do those before and after it. -/
  apart : ∀ before m after, collect (before ++ m :: after) = collect before ++ collect [m] ++ collect after
  /-- A manifest without a list might as well not be there. -/
  unlisted : ∀ before m after, (∀ vs, ¬Lists m.package vs) → collect (before ++ m :: after) = collect (before ++ after)
  /-- Nor need an element be there that is no contribution. -/
  ignored : ∀ before m m' after vs v ws, m'.directory = m.directory → Lists m.package (vs ++ v :: ws) →
    Lists m'.package (vs ++ ws) → ¬IsContribution m.directory v →
      collect (before ++ m :: after) = collect (before ++ m' :: after)

/-- An element that is no contribution makes no difference to its manifest. -/
theorem ofManifest_ignored (hdirectory : m'.directory = m.directory) (hvs : Lists m.package (vs ++ v :: ws))
    (hvs' : Lists m'.package (vs ++ ws)) (hv : ¬IsContribution m.directory v) : ofManifest m = ofManifest m' := by
  have hnone : ofContribution? m.directory v = none :=
    Option.eq_none_iff_forall_ne_some.2 fun a ha => hv (isContribution_iff.2 ⟨a, ofContribution?_eq_some.1 ha⟩)
  rw [ofManifest_of_lists hvs, ofManifest_of_lists hvs', hdirectory, List.filterMap_append, List.filterMap_append,
    List.filterMap_cons_none hnone]

/-- **Contributions are collected** one by one in their order, and whatever is none is passed over. -/
theorem contributions_collected : Collected where
  all _ _ := collectsAll_iff
  one _ _ := ⟨isContribution_iff, fun _ _ => Contributes.unique⟩
  apart before m after := by
    rw [collect_append, collect_cons, collect_cons, List.append_assoc]
    simp [collect]
  unlisted before m after h := by
    rw [collect_append, collect_append, collect_cons, ofManifest_of_unlisted h, List.nil_append]
  ignored before m m' after vs v ws hdirectory hvs hvs' hv := by
    rw [collect_append, collect_append, collect_cons, collect_cons, ofManifest_ignored hdirectory hvs hvs' hv]

example :
    let contributing (vs : List Json) : Json := .obj [("contributes", .obj [("yamlValidation", .arr vs)])]
    let v : Json := .obj [("fileMatch", .arr [.str "a", .null, .str "!b"]), ("url", .str "./c.json")]
    collect [⟨"/ext", contributing [.null, v, .obj [("url", .str "./c.json")]]⟩, ⟨"/ext", .arr [v]⟩,
      ⟨"ext", contributing [v]⟩] = [⟨["/a", "!b"], "file:///ext/c.json"⟩] := by
  decide +kernel

end SchemaRelay.Association

import SchemaRelay.FilePath
import SchemaRelay.Proofs.Association.Contributions
import SchemaRelay.Proofs.Url.File

/-!
# Schemas beside their manifests

A schema that is named relative to its extension has the URI of a file. The names along that are those of the directory,
whatever characters they have, and then those of the reference (`plain_references_located`). So the URI tells both, and
schemas in different places have different URIs.
-/

namespace SchemaRelay

/-- A path leads along its pieces that are neither empty nor a single dot. -/
theorem FilePath.components_eq (path : String) : components path =
    ((Text.pieces (· == '/') path.toList).filter fun n => !(n.isEmpty || n == ['.'])).map String.ofList := by
  have hsame : (fun p : String => decide (p ≠ "") && decide (p ≠ ".")) ∘ String.ofList =
      fun n => !(n.isEmpty || n == ['.']) := by
    funext n
    have hdot : String.ofList n = "." ↔ n = ['.'] := by
      rw [← String.toList_inj, String.toList_ofList]
      rfl
    rw [Function.comp_apply, Bool.eq_iff_iff]
    simp [String.ofList_eq_empty_iff, hdot]
  rw [components, parts, List.filter_map, hsame]

namespace Association

variable {directory r : String}

/-- An absolute directory other than the root. -/
structure IsBelowRoot (directory : String) : Prop where
  absolute : FilePath.isAbsolute directory = true
  named : FilePath.components directory ≠ []

/-- The names along an absolute path are its components. -/
theorem pathNames?_of_absolute (h : FilePath.isAbsolute directory = true) :
    ∃ names, Url.pathNames? directory = some names ∧ names.map String.ofList = FilePath.components directory ∧
      ∀ name ∈ names, name ≠ [] := by
  obtain ⟨rest, hrest⟩ : ∃ rest, directory.toList = '/' :: rest := by
    rw [FilePath.isAbsolute, beq_iff_eq, List.head?_eq_some_iff] at h
    exact h
  refine ⟨(Text.pieces (· == '/') rest).filter fun n => !(n.isEmpty || n == ['.']), ?_, ?_, ?_⟩
  · simp only [Url.pathNames?, hrest]
  · rw [FilePath.components_eq, hrest, Text.pieces_cons_cut (by decide), List.filter_cons_of_neg (by simp)]
  · intro name hname
    have hkept := (List.mem_filter.1 hname).2
    rintro rfl
    simp at hkept

/-- The URI of a plain reference in a directory below the root. -/
theorem schemaUri?_plain (hd : IsBelowRoot directory) (hr : Url.IsPlain r.toList) :
    ∃ uri, schemaUri? directory ("./" ++ r) = some uri ∧
      Url.fileNames? uri = some (FilePath.components directory ++ FilePath.parts r) := by
  obtain ⟨names, hnames, hcomponents, hne⟩ := pathNames?_of_absolute hd.absolute
  have hrelative : IsRelative ("./" ++ r) := ⟨r.toList, by rw [String.toList_append]; rfl⟩
  have hsome : names ≠ [] := by
    rintro rfl
    exact hd.named hcomponents.symm
  refine ⟨_, schemaUri?_eq_some.2 (.resolved hrelative hnames), ?_⟩
  rw [Url.fileNames?_ofRelative hr hsome hne, hcomponents]
  rfl

/-- **Schemas beside their manifests have the URIs of their files.** A plain reference in a directory below the root has
one, along which are the names of the directory and then those of the reference. Associations have it, and no directory
and reference with other names do. -/
theorem plain_references_located (hd : IsBelowRoot directory) (hr : Url.IsPlain r.toList) :
    ∃ uri, schemaUri? directory ("./" ++ r) = some uri ∧
      Url.fileNames? uri = some (FilePath.components directory ++ FilePath.parts r) ∧
      (∀ v a, Contributes directory v a → v.get? "url" = some (.str ("./" ++ r)) → a.uri = uri) ∧
      ∀ directory' r', IsBelowRoot directory' → Url.IsPlain r'.toList → schemaUri? directory' ("./" ++ r') = some uri →
        FilePath.components directory' ++ FilePath.parts r' = FilePath.components directory ++ FilePath.parts r := by
  obtain ⟨uri, huri, hnames⟩ := schemaUri?_plain hd hr
  refine ⟨uri, huri, hnames, ?_, ?_⟩
  · rintro v a ⟨hurl, hlocated, -, -⟩ hv
    obtain rfl := Json.str.inj (Option.some.inj (hurl.symm.trans hv))
    exact Option.some.inj ((schemaUri?_eq_some.2 hlocated).symm.trans huri)
  · intro directory' r' hd' hr' huri'
    obtain ⟨uri', hsame, hnames'⟩ := schemaUri?_plain hd' hr'
    obtain rfl := Option.some.inj (hsame.symm.trans huri')
    exact Option.some.inj (hnames'.symm.trans hnames)

/-- Characters that mean something in a URL mean nothing in the name of a directory. -/
theorem plain_references_located_escaped :
    let directory := "/opt/./my ext#1/%41\\?é/"
    let r := "schemas/a b.json"
    IsBelowRoot directory ∧ Url.IsPlain r.toList ∧
      schemaUri? directory ("./" ++ r) = some "file:///opt/my%20ext%231/%2541%5C%3F%C3%A9/schemas/a%20b.json" ∧
      Url.fileNames? "file:///opt/my%20ext%231/%2541%5C%3F%C3%A9/schemas/a%20b.json" =
        some ["opt", "my ext#1", "%41\\?é", "schemas", "a b.json"] := by
  intro directory r
  have hd : IsBelowRoot directory := ⟨by decide +kernel, by decide +kernel⟩
  have hchars : r.toList.all (· ∉ ['%', '?', '#', '\\', '\t', '\r', '\n']) = true := by decide +kernel
  have hlast : r.toList.getLast? = some 'n' := by decide +kernel
  have hr : Url.IsPlain r.toList := by
    refine ⟨by decide +kernel, fun c hc => of_decide_eq_true (List.all_eq_true.1 hchars c hc), fun c hc => ?_⟩
    obtain rfl := Option.some.inj (hlast.symm.trans hc)
    decide
  have hcomponents : FilePath.components directory ++ FilePath.parts r =
      ["opt", "my ext#1", "%41\\?é", "schemas", "a b.json"] := by decide +kernel
  have huri : schemaUri? directory ("./" ++ r) =
      some "file:///opt/my%20ext%231/%2541%5C%3F%C3%A9/schemas/a%20b.json" := by decide +kernel
  obtain ⟨uri, hlocated, hnames, -⟩ := plain_references_located hd hr
  obtain rfl := Option.some.inj (hlocated.symm.trans huri)
  exact ⟨hd, hr, huri, hnames.trans (congrArg some hcomponents)⟩

end Association

end SchemaRelay

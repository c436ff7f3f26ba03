import SchemaRelay.Proofs.Cache.Integrity
import SchemaRelay.Proofs.Choice
import SchemaRelay.Proofs.Json.Documents
import SchemaRelay.Service.Basic
import SchemaRelay.Tool.Reading

/-!
# What is read from the documents of tools

The document of a tool is JSON text, and what its client reads from it is what the tool has computed (`ReadsAs`,
`documents_read`): the choices in order with their labels, the associations, the entry in the row of a URI. The strings
in it may have any characters.

Reading the text puts the members of every object into the order of their names. A reader of a record looks members up,
and finds the same ones in any order since no name comes twice (`member?_ofList`); this is so also where the members of
a choice stand among those of another record.
-/

namespace SchemaRelay

/-! ## Choices -/

section Choices

variable (c : SchemaChoice)

/-- The members of a choice beside its label. -/
def labelledMembers (c : SchemaChoice) : List (String × Json) := ("label", .str c.label) :: c.members

theorem labelledMembers_leaf : ∀ p ∈ labelledMembers c, p.2.IsLeaf := by
  obtain ⟨⟨name, description, uri⟩, used, fromStore⟩ := c
  cases name <;> cases description <;>
    simp [labelledMembers, SchemaChoice.members, SchemaInfo.members, Json.IsLeaf.str, Json.IsLeaf.bool]

theorem labelledMembers_nodup : ((labelledMembers c).map (·.1)).Nodup := by
  obtain ⟨⟨name, description, uri⟩, used, fromStore⟩ := c
  cases name <;> cases description <;> simp [labelledMembers, SchemaChoice.members, SchemaInfo.members]

theorem ordered_labelled : (Tool.labelled c).ordered = .object (labelledMembers c) :=
  Json.ordered_leaves (labelledMembers_leaf c)

theorem fits_labelled (depth : Nat) : (Tool.labelled c).Fits (depth + 1) :=
  Json.fits_leaves (labelledMembers_leaf c) depth

/-- The label is not seen by what reads a choice. -/
theorem choice_ofJson_labelled : SchemaChoice.ofJson (Tool.labelled c).ordered = .ok c := by
  have hfound {α : Type} := @Decoder.member?_ofList α _ (labelledMembers_nodup c)
  rw [ordered_labelled, Json.object]
  simp only [SchemaChoice.ofJson, SchemaInfo.ofFields, hfound]
  -- what is found of an absent name or description is nothing
  obtain ⟨⟨name, description, uri⟩, used, fromStore⟩ := c
  cases name <;> cases description <;> rfl

theorem labelled_ofJson : LabelledChoice.ofJson (Tool.labelled c).ordered = .ok ⟨c.label, c⟩ := by
  have hchoice := choice_ofJson_labelled c
  rw [ordered_labelled, Json.object] at hchoice ⊢
  have hlabel : Decoder.member? (Fields.ofList (labelledMembers c)) "label" .string = .ok (some c.label) := by
    rw [Decoder.member?_ofList (labelledMembers_nodup c)]
    rfl
  simp only [LabelledChoice.ofJson, hlabel, hchoice]
  rfl

end Choices

/-! ## Associations and entries -/

section Records

variable (a : Association) (e : CacheEntry)

/-- The members of an association. -/
def associationMembers : List (String × Json) := [("fileMatch", .strings a.fileMatch), ("uri", .str a.uri)]

theorem ordered_association : a.toJson.ordered = .object (associationMembers a) := by
  refine Json.ordered_obj fun p hp => ?_
  rcases List.mem_pair.1 hp with rfl | rfl
  · exact Json.ordered_strings a.fileMatch
  · rfl

theorem fits_association (depth : Nat) : a.toJson.Fits (depth + 2) := by
  refine .obj fun p hp => ?_
  rcases List.mem_pair.1 hp with rfl | rfl
  · exact Json.fits_arr .str
  · exact .str a.uri

theorem association_ofJson : Association.ofJson a.toJson.ordered = .ok a := by
  have hfound {α : Type} := @Decoder.member?_ofList α (associationMembers a) (by simp [associationMembers])
  have hpatterns : Decoder.member? (associationMembers a) "fileMatch" (.list .string) = .ok (some a.fileMatch) :=
    congrArg (Except.map some) (Decoder.list_strings a.fileMatch)
  rw [ordered_association, Json.object]
  simp only [Association.ofJson, hfound, hpatterns]
  rfl

/-- The members of an entry. -/
def entryMembers : List (String × Json) :=
  [("schema_uri", .str e.schemaUri), ("etag", .str e.etag), ("content", .str e.content),
    ("content_sha256", .str e.contentSha256), ("fetched_at", .str e.fetchedAt)]

theorem entryMembers_leaf : ∀ p ∈ entryMembers e, p.2.IsLeaf := by
  simp [entryMembers, Json.IsLeaf.str]

theorem ordered_entry : e.toJson.ordered = .object (entryMembers e) := Json.ordered_leaves (entryMembers_leaf e)

theorem fits_entry (depth : Nat) : e.toJson.Fits (depth + 1) := Json.fits_leaves (entryMembers_leaf e) depth

theorem entry_ofJson : CacheEntry.ofJson e.toJson.ordered = .ok e := by
  have hfound {α : Type} := @Decoder.member?_ofList α (entryMembers e) (by simp [entryMembers])
  rw [ordered_entry, Json.object]
  simp only [CacheEntry.ofJson, hfound]
  rfl

end Records

/-! ## Documents -/

/-- A record of one list is read from an object in which the list is found. -/
theorem oneList_eq_ok {α : Type} {record field : String} {read : Decoder α} {fallback : Option (List α)}
    {fs : Fields Json} {v : Json} {xs : List α} (hv : fs.get? field = some v) (h : Decoder.list read v = .ok xs) :
    Tool.oneList record field read fallback (.obj fs) = .ok xs := by
  simp only [Tool.oneList, Decoder.member?, hv, h]
  rfl

theorem parse?_choices (cs : List SchemaChoice) :
    Json.parse? (Tool.choices cs) = some (.arr ((sortChoices cs).map fun c => (Tool.labelled c).ordered)) := by
  have hfits : (Json.arr ((sortChoices cs).map Tool.labelled)).Fits Json.maxDepth :=
    Json.fits_arr fun c => fits_labelled c _
  rw [Tool.choices, Json.parse?_pretty hfits, Json.ordered_arr]

/-- The document of choices, given as the list of choices, is read as the choices in it. -/
theorem choicesOfJson_document {cs : List SchemaChoice} {v : Json} {args : Fields Json}
    (hv : Json.parse? (Tool.choices cs) = some v) (hargs : args.get? "choices" = some v) :
    Tool.choicesOfJson (.obj args) = .ok (sortChoices cs) := by
  obtain rfl := Option.some.inj ((parse?_choices cs).symm.trans hv)
  exact oneList_eq_ok hargs (Decoder.list_map_self choice_ofJson_labelled (sortChoices cs))

theorem readsAs_associations (as : List Association) :
    ReadsAs Tool.associationsOfJson (Tool.associationsJson as).pretty as := by
  refine readsAs_pretty (Json.fits_single (Json.fits_arr fun a => fits_association a _) _) ?_
  rw [Tool.associationsJson, Json.ordered_single, Json.ordered_arr]
  exact oneList_eq_ok rfl (Decoder.list_map_self association_ofJson as)

theorem readsAs_entry (e : CacheEntry) : ReadsAs Tool.entryOfJson (Tool.entryJson e).pretty e := by
  refine readsAs_pretty (Json.fits_single (fits_entry e _) _) ?_
  rw [Tool.entryJson, Json.ordered_single]
  simp only [Tool.entryOfJson, Decoder.member?, Fields.get?, if_true, entry_ofJson]
  rfl

/-! ## Entries that are shown -/

namespace Tool

variable {c : TableCache} {uri text : String} {e e' : CacheEntry}

/-- The document of an entry tells the entry. -/
theorem entryJson_pretty_injective (h : (entryJson e).pretty = (entryJson e').pretty) : e = e' := by
  have hread := readsAs_entry e'
  rw [← h] at hread
  exact (readsAs_entry e).unique hread

/-- What is shown of a URI, if anything is, is the document of its entry. -/
theorem cacheGet_cases (h : cacheGet c uri = .ok text) :
    ∃ e, c.entry uri = .ok (some e) ∧ text = (entryJson e).pretty := by
  obtain ⟨found, hfound, htext⟩ := bind_eq_ok.1 h
  cases found with
  | none => cases htext
  | some e => exact ⟨e, hfound, (Except.ok.inj htext).symm⟩

theorem cacheGet_eq_ok_iff : cacheGet c uri = .ok (entryJson e).pretty ↔ c.entry uri = .ok (some e) := by
  constructor
  · intro h
    obtain ⟨e', hentry, htext⟩ := cacheGet_cases h
    rw [hentry, entryJson_pretty_injective htext]
  · intro h
    rw [cacheGet, h]
    rfl

/-- An entry is read from what is shown of a URI just when the URI's row is the entry's. -/
theorem shown_iff : (∃ text, cacheGet c uri = .ok text ∧ ReadsAs entryOfJson text e) ↔
    c.db.row? uri = some (some e.row) := by
  rw [← TableCache.entryOfRow_eq_ok, ← TableCache.entry_eq]
  constructor
  · rintro ⟨text, htext, hread⟩
    obtain ⟨e', hentry, rfl⟩ := cacheGet_cases htext
    rw [hread.unique (readsAs_entry e'), hentry]
  · intro h
    exact ⟨(entryJson e).pretty, cacheGet_eq_ok_iff.2 h, readsAs_entry e⟩

end Tool

/-- What is read from the documents of tools, in a service over a network with states of type `ν`. -/
structure DocumentsRead (ν : Type) : Prop where
  /-- The choices are read in order, each with its label. -/
  choices : ∀ cs, ReadsAs Tool.labelledOfJson (Tool.choices cs) ((sortChoices cs).map fun c => ⟨c.label, c⟩)
  /-- No two members of a choice beside its label have one name. -/
  names : ∀ c fs, Tool.labelled c = .obj fs → (fs.map (·.1)).Nodup
  /-- The document of choices can be given as the choices, and then comes out as it is. -/
  again : ∀ (env : Surroundings ν) (s : Service ν) cs v (args : Fields Json), Json.parse? (Tool.choices cs) = some v →
    args.get? "choices" = some v → s.call env "schema_choices" args = (.ok (Tool.choices cs), s)
  /-- The associations of any manifests are read. -/
  associations : ∀ ms, ReadsAs Tool.associationsOfJson (Tool.associationsJson (Association.collect ms)).pretty
    (Association.collect ms)
  /-- So they are from what is answered for directories. -/
  listed : ∀ read directories, ReadsAs Tool.associationsOfJson (Tool.associations read directories)
    (Association.collect (Manifest.loadAll read directories))
  /-- An entry is read from what is answered for a URI just when it is in the URI's row. -/
  entry : ∀ (c : TableCache) uri e, (∃ text, Tool.cacheGet c uri = .ok text ∧ ReadsAs Tool.entryOfJson text e) ↔
    ∃ rows, c.db.rows = some rows ∧ Database.findRow uri rows = some e.row
  /-- Every row is answered for its URI, and is read from the answer. -/
  rows : ∀ (c : TableCache) rows (e : CacheEntry), c.db.Keyed → c.db.rows = some rows → e.row ∈ rows →
    ∃ text, Tool.cacheGet c e.schemaUri = .ok text ∧ ReadsAs Tool.entryOfJson text e

/-- **What a tool has computed is read from its document**, whatever characters the strings in it have. -/
theorem documents_read (ν : Type) : DocumentsRead ν where
  choices cs := ⟨_, parse?_choices cs, Decoder.list_map labelled_ofJson (sortChoices cs)⟩
  names c fs h := by
    cases h
    exact labelledMembers_nodup c
  again env s cs v args hv hargs := by
    have hparams : Tool.choicesOfJson (.obj args) = .ok (sortChoices cs) := choicesOfJson_document hv hargs
    have hsorted : sortChoices (sortChoices cs) = sortChoices cs :=
      SchemaChoice.sortChoices_eq_iff.2 fun c => SchemaChoice.filter_ties_sortChoices c cs
    have htext : Tool.choices (sortChoices cs) = Tool.choices cs := by simp only [Tool.choices, hsorted]
    have hcall : s.call env "schema_choices" args =
        (Service.withParams args Tool.choicesOfJson fun cs => .ok (Tool.choices cs), s) := rfl
    rw [hcall, Service.withParams, hparams, ← htext]
    rfl
  associations ms := readsAs_associations (Association.collect ms)
  listed read directories := readsAs_associations (Association.collect (Manifest.loadAll read directories))
  entry c uri e := by
    rw [Tool.shown_iff, Database.row?, Option.map_eq_some_iff]
  rows c rows e hkeyed hrows hmem := by
    have hfound : Database.findRow e.schemaUri rows = some e.row :=
      Database.findRow_of_mem (hkeyed rows hrows) hmem rfl
    rw [Tool.shown_iff, Database.row?, hrows, Option.map_some, hfound]

end SchemaRelay

import SchemaRelay.Proofs.Config.Layers
import SchemaRelay.Proofs.Text.Blank
import SchemaRelay.Proofs.Text.Split

/-!
# Lists written with commas

The extension directories are given in one text, with commas between them. An item of such a text is blank, or it is a
name with white space around it or without (`Written`). Cutting a text that is joined from two gives the names of the
first and then those of the second (`splitPaths_append_comma`), so each item is read as if it were alone
(`splitPaths_intercalate`), and the names of a text are those among its items, whichever way they are written
(`lists_read`).

A name may not be empty, have a comma or have white space at its ends (`IsItem`): exactly the lists of such names are
read back from their joined text.
-/

namespace SchemaRelay.Config

variable {item name text : String} {items names : List String}

/-- A name that can stand in a list. -/
structure IsItem (name : String) : Prop where
  nonempty : name ≠ ""
  noComma : ',' ∉ name.toList
  starts : ∀ c, name.toList.head? = some c → Text.isBlank c = false
  ends : ∀ c, name.toList.getLast? = some c → Text.isBlank c = false

/-- The items of a list as they are written, and the names that they are. -/
inductive Written : List String → List String → Prop
  | nil : Written [] []
  | blank {item : String} {items names : List String} (h : Text.Blank item) (rest : Written items names) :
    Written (item :: items) names
  | name {before name after : String} {items names : List String} (hb : Text.Blank before) (h : IsItem name)
    (ha : Text.Blank after) (rest : Written items names) : Written ((before ++ name ++ after) :: items) (name :: names)

/-! ## Items -/

theorem IsItem.trim (h : IsItem name) : Text.trim name = name := by
  rw [Text.trim, Text.trimChars_eq_self h.starts h.ends, String.ofList_toList]

/-- What is left of an item without commas, if anything is, is a name. -/
theorem isItem_trim (hc : ',' ∉ item.toList) (hne : Text.trim item ≠ "") : IsItem (Text.trim item) where
  nonempty := hne
  noComma := by
    obtain ⟨before, after, -, -, hitem⟩ := Text.exists_padding item
    intro hmem
    apply hc
    rw [hitem, String.toList_append, String.toList_append]
    exact List.mem_append_left _ (List.mem_append_right _ hmem)
  starts c h := Text.head?_trimChars (by rwa [Text.toList_trim] at h)
  ends c h := Text.getLast?_trimChars (by rwa [Text.toList_trim] at h)

/-- A comma is not white space. -/
theorem not_mem_of_blank (h : Text.Blank item) : ',' ∉ item.toList := by
  intro hc
  have hblank : Text.isBlank ',' = true := h ',' hc
  revert hblank
  decide

theorem Written.isItem (h : Written items names) : ∀ name ∈ names, IsItem name := by
  induction h with
  | nil => exact fun _ hm => absurd hm List.not_mem_nil
  | blank _ _ ih => exact ih
  | name _ h _ _ ih =>
    intro name hm
    rcases List.mem_cons.1 hm with rfl | hm
    · exact h
    · exact ih name hm

/-- Names are written as they are. -/
theorem written_self (h : ∀ name ∈ names, IsItem name) : Written names names := by
  have hempty : Text.Blank "" := fun _ hc => absurd hc List.not_mem_nil
  induction names with
  | nil => exact .nil
  | cons name names ih =>
    have hrest := ih fun n hn => h n (List.mem_cons_of_mem _ hn)
    simpa using Written.name hempty (h name List.mem_cons_self) hempty hrest

/-! ## Cutting a text at its commas -/

theorem splitPaths_append_comma (a b : String) : splitPaths (a ++ "," ++ b) = splitPaths a ++ splitPaths b := by
  have hpieces : Text.pieces (· == ',') (a ++ "," ++ b).toList =
      Text.pieces (· == ',') a.toList ++ Text.pieces (· == ',') b.toList := by
    rw [String.toList_append, String.toList_append, List.append_assoc]
    exact Text.pieces_append_cut rfl a.toList b.toList
  rw [splitPaths, hpieces, List.map_append, List.filter_append]
  rfl

/-- Each item is read as if it were alone, also where it has commas itself. -/
theorem splitPaths_intercalate (items : List String) :
    splitPaths (",".intercalate items) = items.flatMap splitPaths := by
  induction items with
  | nil => decide
  | cons item items ih =>
    cases items with
    | nil => simp
    | cons next items => rw [String.intercalate_cons_cons, splitPaths_append_comma, ih, ← List.flatMap_cons]

/-- A text without commas is one item. -/
theorem splitPaths_of_noComma (h : ',' ∉ item.toList) : splitPaths item = [Text.trim item].filter (· ≠ "") := by
  have huncut : ∀ c ∈ item.toList, (c == ',') = false := by
    intro c hc
    rw [beq_eq_false_iff_ne]
    rintro rfl
    exact h hc
  rw [splitPaths, Text.pieces_of_uncut huncut]
  rfl

theorem splitPaths_blank (h : Text.Blank item) : splitPaths item = [] := by
  rw [splitPaths_of_noComma (not_mem_of_blank h), Text.trim_eq_empty_iff.2 h]
  rfl

theorem splitPaths_padded {before after : String} (hb : Text.Blank before) (h : IsItem name) (ha : Text.Blank after) :
    splitPaths (before ++ name ++ after) = [name] := by
  have hc : ',' ∉ (before ++ name ++ after).toList := by
    simp only [String.toList_append, List.mem_append, not_or]
    exact ⟨⟨not_mem_of_blank hb, h.noComma⟩, not_mem_of_blank ha⟩
  rw [splitPaths_of_noComma hc, Text.trim_padded hb ha, h.trim, List.filter_cons_of_pos (by simp [h.nonempty])]
  rfl

/-! ## The names of a text -/

theorem Written.splitPaths_eq (h : Written items names) : splitPaths (",".intercalate items) = names := by
  rw [splitPaths_intercalate]
  induction h with
  | nil => rfl
  | blank h _ ih => rw [List.flatMap_cons, splitPaths_blank h, ih, List.nil_append]
  | name hb h ha _ ih => rw [List.flatMap_cons, splitPaths_padded hb h ha, ih, List.singleton_append]

/-- Items without commas are written names, with blank ones among them. -/
theorem written_of_noComma (h : ∀ item ∈ items, ',' ∉ item.toList) : Written items (items.flatMap splitPaths) := by
  induction items with
  | nil => exact .nil
  | cons item items ih =>
    have hrest := ih fun i hi => h i (List.mem_cons_of_mem _ hi)
    have hc := h item List.mem_cons_self
    rw [List.flatMap_cons]
    by_cases hblank : Text.trim item = ""
    · have hitem : Text.Blank item := Text.trim_eq_empty_iff.1 hblank
      rw [splitPaths_blank hitem]
      exact .blank hitem hrest
    · obtain ⟨before, after, hb, ha, hitem⟩ := Text.exists_padding item
      have hname : IsItem (Text.trim item) := isItem_trim hc hblank
      rw [hitem, splitPaths_padded hb hname ha]
      exact .name hb hname ha hrest

/-- The items between the commas of a text are its names, with blank ones among them. -/
theorem exists_written (text : String) : ∃ items, ",".intercalate items = text ∧ Written items (splitPaths text) := by
  let items := (Text.pieces (· == ',') text.toList).map String.ofList
  have hjoined : ",".intercalate items = text := by
    apply String.toList_injective
    rw [String.toList_intercalate, List.map_map]
    simpa [Function.comp_def] using Text.intercalate_pieces ',' text.toList
  have huncut : ∀ item ∈ items, ',' ∉ item.toList := by
    intro item hitem hc
    obtain ⟨p, hp, rfl⟩ := List.mem_map.1 hitem
    rw [String.toList_ofList] at hc
    exact absurd (Text.of_mem_pieces hp hc).1 (by simp)
  refine ⟨items, hjoined, ?_⟩
  rw [← hjoined, splitPaths_intercalate]
  exact written_of_noComma huncut

theorem isItem_of_mem (h : name ∈ splitPaths text) : IsItem name := by
  obtain ⟨_, -, hwritten⟩ := exists_written text
  exact hwritten.isItem name h

theorem splitPaths_joined (h : ∀ name ∈ names, IsItem name) : splitPaths (",".intercalate names) = names :=
  (written_self h).splitPaths_eq

/-- What reading lists written with commas comes to. -/
structure ListsRead : Prop where
  /-- A text gives the names among its items, in their order, and nothing else. -/
  written : ∀ text names, splitPaths text = names ↔ ∃ items, ",".intercalate items = text ∧ Written items names
  /-- Just the lists of names are read back from their joined text. -/
  carried : ∀ names, splitPaths (",".intercalate names) = names ↔ ∀ name ∈ names, IsItem name
  items : ∀ text, ∀ name ∈ splitPaths text, IsItem name
  again : ∀ text, splitPaths (",".intercalate (splitPaths text)) = splitPaths text
  append : ∀ a b, splitPaths (a ++ "," ++ b) = splitPaths a ++ splitPaths b
  /-- Names that the environment joins are the directories of the configuration that is loaded. -/
  loaded : ∀ find env c names, (∀ name ∈ names, IsItem name) → env.get? dirsVariable = some (",".intercalate names) →
    load find env = .ok c → c.extensionDirs = names

/-- **A list written with commas gives the names that are written in it**, with any white space around them and any
blank items between them. -/
theorem lists_read : ListsRead where
  written text names := by
    constructor
    · rintro rfl
      exact exists_written text
    · rintro ⟨items, rfl, hwritten⟩
      exact hwritten.splitPaths_eq
  carried names := by
    refine ⟨fun h name hn => ?_, splitPaths_joined⟩
    rw [← h] at hn
    exact isItem_of_mem hn
  items _ _ := isItem_of_mem
  again _ := splitPaths_joined fun _ => isItem_of_mem
  append := splitPaths_append_comma
  loaded find env c names hnames henv hload := by
    obtain ⟨_, _, -, -, rfl, -⟩ := load_eq_ok.1 hload
    simp only [withListedDirs, henv]
    exact splitPaths_joined hnames

example : splitPaths " /ext/a ,, /ext/b" = ["/ext/a", "/ext/b"] := by decide

end SchemaRelay.Config

import SchemaRelay.Proofs.Fields
import SchemaRelay.Settings

/-!
# Choosing schemas for files

A schema's value comes down to a list of elements (`Json.elements`): a pattern alone, or all that stands in a list.
Choosing a schema for a file takes the file out of every list and puts it at the end of the one that was chosen
(`elements_assign`). Where the value counts as set but can have no patterns (`Json.isOther`) it stays, and the file goes
nowhere.

So after any choices (`assigns`) a file stands where it was chosen last, once, and all that was never chosen stands
where it did, in its old order (`assigns_move_files`). A choice that is made again takes the file out and puts it back
in the same shape, whatever shape the value had before (`withFile_again`), so it changes nothing (`assign_again`).
-/

namespace SchemaRelay

/-- A value that counts as set and has no patterns: `true`, a number but zero, or an object. -/
def Json.isOther : Json → Bool
  | .bool b => b
  | .num n => !n.isZero
  | .obj _ => true
  | _ => false

/-- What a value associates with its schema: a pattern that is not empty, or all elements of a list. -/
def Json.elements : Json → List Json
  | .str s => if s = "" then [] else [.str s]
  | .arr xs => xs
  | _ => []

namespace Settings

theorem isFile_iff {file : String} {v : Json} : isFile file v = true ↔ v = .str file := by
  cases v <;> simp [isFile]

/-! ## Values -/

theorem withoutFile_eq_none_iff {file : String} {v : Json} : withoutFile file v = none ↔ v = .str file := by
  cases v <;> simp [withoutFile]

section Values

variable (file : String) (v : Option Json)

theorem elements_withoutFile :
    (v.bind (withoutFile file)).elim [] Json.elements =
      (v.elim [] Json.elements).filter fun x => !isFile file x := by
  cases v with
  | none => rfl
  | some v =>
    cases v with
    | str s =>
      by_cases hs : s = file
      · by_cases he : s = "" <;> simp [withoutFile, Json.elements, isFile, hs]
      · by_cases he : s = "" <;> simp_all [withoutFile, Json.elements, isFile]
    | arr xs => rfl
    | _ => rfl

/-- A file that is added comes last. -/
theorem elements_withFile {file : String} (hf : file ≠ "") (v : Option Json) :
    (withFile file v).elements = v.elim [] Json.elements ++ if v.any Json.isOther then [] else [.str file] := by
  cases v with
  | none => simp [withFile, Json.elements, hf]
  | some v =>
    cases v with
    | str s => by_cases hs : s = "" <;> simp [withFile, Json.elements, Json.isOther, hs, hf]
    | arr xs => simp [withFile, Json.elements, Json.isOther]
    | null => simp [withFile, Json.elements, Json.isOther, Json.isTruthy, hf]
    | bool b => cases b <;> simp [withFile, Json.elements, Json.isOther, Json.isTruthy, hf]
    | num n => cases hn : n.isZero <;> simp [withFile, Json.elements, Json.isOther, Json.isTruthy, hn, hf]
    | obj fs => simp [withFile, Json.elements, Json.isOther, Json.isTruthy]

theorem any_withoutFile : (v.bind (withoutFile file)).any Json.isOther = v.any Json.isOther := by
  cases v with
  | none => rfl
  | some v =>
    cases v with
    | str s => by_cases hs : s = file <;> simp [withoutFile, Json.isOther, hs]
    | _ => rfl

theorem isOther_withFile : (withFile file v).isOther = v.any Json.isOther := by
  cases v with
  | none => rfl
  | some v =>
    cases v with
    | str s => by_cases hs : s = "" <;> simp [withFile, Json.isOther, hs]
    | bool b => cases b <;> rfl
    | num n => cases hn : n.isZero <;> simp [withFile, Json.isOther, Json.isTruthy, hn]
    | _ => rfl

theorem withoutFile_of_isOther {v : Json} (h : v.isOther = true) : withoutFile file v = some v := by
  cases v with
  | str s => cases h
  | arr xs => cases h
  | _ => rfl

theorem withFile_of_isOther {v : Json} (h : v.isOther = true) : withFile file (some v) = v := by
  cases v with
  | bool b =>
    cases h
    rfl
  | num n => simp_all [withFile, Json.isOther, Json.isTruthy]
  | obj fs => rfl
  | _ => cases h

end Values

/-! ## One choice -/

theorem get?_removeFile {entries : Fields Json} (h : entries.Sorted) (file key : String) :
    (removeFile entries file).get? key = (entries.get? key).bind (withoutFile file) := by
  refine Option.ext fun w => ?_
  rw [(removeFile_sorted h file).get?_eq_some_iff, Option.bind_eq_some_iff]
  simp only [removeFile, List.mem_filterMap, Option.map_eq_some_iff, Prod.mk.injEq, h.get?_eq_some_iff]
  constructor
  · rintro ⟨⟨_, v⟩, hm, w, hw, rfl, rfl⟩
    exact ⟨v, hm, hw⟩
  · rintro ⟨v, hm, hw⟩
    exact ⟨(key, v), hm, w, hw, rfl, rfl⟩

/-- The value of a schema after a choice. -/
theorem get?_assign (s : Settings) (file schema key : String) :
    (s.assign file schema).entries.get? key =
      if schema = key then some (withFile file ((s.entries.get? key).bind (withoutFile file)))
      else (s.entries.get? key).bind (withoutFile file) := by
  simp only [assign, Fields.get?_insert, get?_removeFile s.sorted]
  split
  · next h => rw [h]
  · rfl

/-- What is associated with a schema. -/
def elements (s : Settings) (schema : String) : List Json := (s.entries.get? schema).elim [] Json.elements

/-- How often a file is associated with a schema. -/
def occurrences (s : Settings) (file schema : String) : Nat := (s.elements schema).countP (isFile file)

/-- A file is associated with a schema: it is the pattern there, or is in the list. -/
def Associated (s : Settings) (file schema : String) : Prop :=
  (s.entries.get? schema = some (.str file) ∧ file ≠ "") ∨
    ∃ xs, s.entries.get? schema = some (.arr xs) ∧ .str file ∈ xs

/-- A schema's value counts as set and has no patterns. -/
def holdsOther (s : Settings) (schema : String) : Bool := (s.entries.get? schema).any Json.isOther

theorem mem_elements {v : Json} {file : String} :
    .str file ∈ v.elements ↔ (v = .str file ∧ file ≠ "") ∨ ∃ xs, v = .arr xs ∧ .str file ∈ xs := by
  cases v with
  | str s =>
    by_cases hs : s = ""
    · subst hs
      simp +contextual [Json.elements, eq_comm]
    · simp +contextual [Json.elements, hs, eq_comm]
  | _ => simp [Json.elements]

theorem associated_iff {s : Settings} {file schema : String} :
    s.Associated file schema ↔ 0 < s.occurrences file schema := by
  simp only [occurrences, List.countP_pos_iff, isFile_iff, exists_eq_right, elements, Associated]
  cases s.entries.get? schema with
  | none => simp
  | some v => simp [mem_elements]

section Assign

variable (s : Settings) (schema key : String)

/-- **A choice** takes the file out of all lists and puts it at the end of one. -/
theorem elements_assign {file : String} (hf : file ≠ "") :
    (s.assign file schema).elements key =
      (s.elements key).filter (fun x => !isFile file x) ++
        if schema = key ∧ s.holdsOther key = false then [.str file] else [] := by
  simp only [elements, get?_assign, ← elements_withoutFile]
  by_cases hk : schema = key
  · rw [if_pos hk, Option.elim_some, elements_withFile hf, any_withoutFile]
    cases hother : s.holdsOther key <;> simp_all [holdsOther]
  · simp [hk]

theorem occurrences_assign {file : String} (hf : file ≠ "") (other : String) :
    (s.assign file schema).occurrences other key =
      if file = other then if schema = key ∧ s.holdsOther key = false then 1 else 0 else s.occurrences other key := by
  simp only [occurrences, elements_assign s schema key hf, List.countP_append, List.countP_filter]
  by_cases ho : file = other
  · subst ho
    have hnone : (s.elements key).countP (fun x => isFile file x && !isFile file x) = 0 := by simp
    rw [hnone, if_pos rfl, Nat.zero_add]
    split <;> simp [isFile]
  · have hsame : (s.elements key).countP (fun x => isFile other x && !isFile file x) =
        (s.elements key).countP (isFile other) := by
      refine List.countP_congr fun x _ => ?_
      rw [Bool.and_eq_true, and_iff_left_iff_imp]
      intro hx
      rw [isFile_iff.1 hx]
      simp [isFile, Ne.symm ho]
    rw [hsame, if_neg ho]
    split <;> simp [isFile, ho]

theorem holdsOther_assign (file : String) : (s.assign file schema).holdsOther key = s.holdsOther key := by
  simp only [holdsOther, get?_assign]
  split
  · rw [Option.any_some, isOther_withFile, any_withoutFile]
  · rw [any_withoutFile]

variable {s schema key}

theorem get?_assign_of_isOther (file : String) {v : Json} (h : s.entries.get? key = some v) (hv : v.isOther = true) :
    (s.assign file schema).entries.get? key = some v := by
  rw [get?_assign, h, Option.bind_some, withoutFile_of_isOther file hv, withFile_of_isOther file hv, ite_self]

/-- A schema goes only if its value was the file. -/
theorem eq_file_of_gone {file : String} {v : Json} (h : s.entries.get? key = some v)
    (hgone : (s.assign file schema).entries.get? key = none) : v = .str file := by
  rw [get?_assign, h] at hgone
  split at hgone
  · cases hgone
  · exact withoutFile_eq_none_iff.1 hgone

/-- A schema comes only if it was chosen. -/
theorem eq_schema_of_new {file : String} (h : s.entries.get? key = none)
    (hnew : (s.assign file schema).entries.get? key ≠ none) : key = schema := by
  rw [get?_assign, h] at hnew
  split at hnew
  · next heq => exact heq.symm
  · exact absurd rfl hnew

end Assign

/-! ## Choices one after the other -/

/-- Chooses a schema for one file after the other. -/
def assigns (s : Settings) (steps : List (String × String)) : Settings := steps.foldl (fun s p => s.assign p.1 p.2) s

/-- The schema that was chosen last for a file. -/
def lastChosen : List (String × String) → String → Option String
  | [], _ => none
  | p :: steps, file => (lastChosen steps file).or (if p.1 = file then some p.2 else none)

/-- An element is none of the files for which a schema was chosen. -/
def isUntouched (steps : List (String × String)) (x : Json) : Bool := steps.all fun p => !isFile p.1 x

section Assigns

variable {s : Settings} {steps : List (String × String)}

theorem assigns_concat (s : Settings) (steps : List (String × String)) (p : String × String) :
    s.assigns (steps ++ [p]) = (s.assigns steps).assign p.1 p.2 := by
  simp [assigns]

theorem assigns_cons (s : Settings) (p : String × String) (steps : List (String × String)) :
    s.assigns (p :: steps) = (s.assign p.1 p.2).assigns steps := rfl

theorem get?_assigns_of_isOther (steps : List (String × String)) {key : String} {v : Json}
    (h : s.entries.get? key = some v) (hv : v.isOther = true) : (s.assigns steps).entries.get? key = some v := by
  induction steps generalizing s with
  | nil => exact h
  | cons p steps ih => exact ih (get?_assign_of_isOther p.1 h hv)

/-- Where a file stands after choices is decided by the last one for it. -/
theorem occurrences_assigns (hs : ∀ p ∈ steps, p.1 ≠ "") (file key : String) :
    (s.assigns steps).occurrences file key =
      match lastChosen steps file with
      | some schema => if schema = key ∧ s.holdsOther key = false then 1 else 0
      | none => s.occurrences file key := by
  induction steps generalizing s with
  | nil => rfl
  | cons p steps ih =>
    rw [assigns_cons, ih fun q hq => hs q (List.mem_cons_of_mem _ hq), lastChosen]
    cases lastChosen steps file with
    | some schema => simp only [holdsOther_assign, Option.some_or]
    | none =>
      rw [Option.none_or, occurrences_assign _ _ _ (hs p List.mem_cons_self)]
      by_cases hf : p.1 = file <;> simp [hf]

/-- Elements that are none of the files stay in their order. -/
theorem filter_elements_assigns (hs : ∀ p ∈ steps, p.1 ≠ "") {kept : Json → Bool}
    (hk : ∀ p ∈ steps, kept (.str p.1) = false) (key : String) :
    ((s.assigns steps).elements key).filter kept = (s.elements key).filter kept := by
  induction steps generalizing s with
  | nil => rfl
  | cons p steps ih =>
    have hp : kept (.str p.1) = false := hk p List.mem_cons_self
    rw [assigns_cons, ih (fun q hq => hs q (List.mem_cons_of_mem _ hq)) fun q hq => hk q (List.mem_cons_of_mem _ hq),
      elements_assign _ _ _ (hs p List.mem_cons_self), List.filter_append, List.filter_filter]
    have hadded : (if p.2 = key ∧ s.holdsOther key = false then [Json.str p.1] else []).filter kept = [] := by
      split <;> simp [hp]
    rw [hadded, List.append_nil]
    refine List.filter_congr fun x _ => ?_
    rw [Bool.and_eq_left_iff_imp]
    intro hx
    have hne : isFile p.1 x ≠ true := fun hf => by simp [isFile_iff.1 hf, hp] at hx
    simp [hne]

theorem associated_assigns (hs : ∀ p ∈ steps, p.1 ≠ "") (file key : String) :
    (s.assigns steps).Associated file key ↔
      match lastChosen steps file with
      | some schema => key = schema ∧ s.holdsOther schema = false
      | none => s.Associated file key := by
  rw [associated_iff, occurrences_assigns hs]
  cases lastChosen steps file with
  | none => exact associated_iff.symm
  | some schema =>
    by_cases hk : schema = key
    · subst hk
      cases ho : s.holdsOther schema <;> simp [ho]
    · simp [hk, Ne.symm hk]

/-- A file has a last schema just when one was chosen for it. -/
theorem lastChosen_ne_none_iff {file : String} : lastChosen steps file ≠ none ↔ ∃ p ∈ steps, p.1 = file := by
  induction steps with
  | nil => simp [lastChosen]
  | cons p steps ih =>
    rw [lastChosen, Ne, Option.or_eq_none_iff, Decidable.not_and_iff_not_or_not, ← Ne, ih]
    simp [or_comm]

/-- What choices come to. -/
structure Moves (s : Settings) (steps : List (String × String)) : Prop where
  /-- A file is associated with the schema that was chosen last for it, once, and with no other; with none at all if
  that one's value has no patterns. -/
  chosen : ∀ file schema, lastChosen steps file = some schema →
    (∀ key, (s.assigns steps).Associated file key ↔ key = schema ∧ s.holdsOther schema = false) ∧
      (s.holdsOther schema = false → (s.assigns steps).occurrences file schema = 1)
  /-- A pattern for which no schema was chosen is associated with the same schemas as before, as often. -/
  unchosen : ∀ file, lastChosen steps file = none → ∀ key,
    ((s.assigns steps).Associated file key ↔ s.Associated file key) ∧
      (s.assigns steps).occurrences file key = s.occurrences file key
  /-- Such patterns, and elements that are no strings, keep their order. -/
  order : ∀ key, ((s.assigns steps).elements key).filter (isUntouched steps) =
    (s.elements key).filter (isUntouched steps)
  /-- Values that count as set and have no patterns stay. -/
  others : ∀ key v, s.entries.get? key = some v → v.isOther = true → (s.assigns steps).entries.get? key = some v
  /-- A choice takes away no schema but one whose value was the file. -/
  gone : ∀ before p after, steps = before ++ p :: after → ∀ key v, (s.assigns before).entries.get? key = some v →
    (s.assigns (before ++ [p])).entries.get? key = none → v = .str p.1
  /-- A choice brings no schema but the one that was chosen. -/
  new : ∀ before p after, steps = before ++ p :: after → ∀ key, (s.assigns before).entries.get? key = none →
    (s.assigns (before ++ [p])).entries.get? key ≠ none → key = p.2
  /-- Other choices with the same last one for each file have the same associations. -/
  last : ∀ steps', (∀ file, lastChosen steps' file = lastChosen steps file) → ∀ file key,
    (s.assigns steps').Associated file key ↔ (s.assigns steps).Associated file key

/-- **Choices move files** to where they were chosen last, and leave everything else where it is. -/
theorem assigns_move_files (s : Settings) (steps : List (String × String)) (hs : ∀ p ∈ steps, p.1 ≠ "") :
    s.Moves steps where
  chosen file schema hl := by
    refine ⟨fun key => ?_, fun ho => ?_⟩
    · rw [associated_assigns hs, hl]
    · rw [occurrences_assigns hs, hl]
      simp [ho]
  unchosen file hl key := by
    rw [associated_assigns hs, occurrences_assigns hs, hl]
    exact ⟨Iff.rfl, rfl⟩
  order := by
    refine filter_elements_assigns hs fun p hp => ?_
    rw [isUntouched, List.all_eq_false]
    exact ⟨p, hp, by simp [isFile]⟩
  others _ _ h hv := get?_assigns_of_isOther steps h hv
  gone before p after _ key v h hgone := by
    rw [assigns_concat] at hgone
    exact eq_file_of_gone h hgone
  new before p after _ key h hnew := by
    rw [assigns_concat] at hnew
    exact eq_schema_of_new h hnew
  last steps' hl file key := by
    have hs' : ∀ p ∈ steps', p.1 ≠ "" := by
      intro p hp
      have hne := lastChosen_ne_none_iff.2 ⟨p, hp, rfl⟩
      rw [hl] at hne
      obtain ⟨q, hq, hqp⟩ := lastChosen_ne_none_iff.1 hne
      exact hqp ▸ hs q hq
    rw [associated_assigns hs', associated_assigns hs, hl]

/-- A file that is moved to and fro, and one that cannot be added. -/
theorem assigns_move_files_mixed :
    let s := ofFields [("https://example.org/a.json", .arr [.str "/x.yaml", .null, .str "/f.yaml"]),
      ("https://example.org/b.json", .str "/y.yaml"), ("https://example.org/c.json", .bool true)]
    let steps := [("/f.yaml", "https://example.org/b.json"), ("/g.yaml", "https://example.org/c.json"),
      ("/f.yaml", "https://example.org/a.json")]
    (∀ p ∈ steps, p.1 ≠ "") ∧ s.Moves steps ∧ lastChosen steps "/f.yaml" = some "https://example.org/a.json" := by
  intro s steps
  have hs : ∀ p ∈ steps, p.1 ≠ "" := by decide
  exact ⟨hs, assigns_move_files s steps hs, by decide⟩

end Assigns

/-! ## The same choice again -/

section Again

variable {file : String} {v : Option Json}

/-- A file that was taken out is not there to be taken out again. -/
theorem withoutFile_again (file : String) (v : Option Json) :
    (v.bind (withoutFile file)).bind (withoutFile file) = v.bind (withoutFile file) := by
  cases v with
  | none => rfl
  | some v =>
    cases v with
    | str s =>
      by_cases hs : s = file
      · simp [withoutFile, hs]
      · simp [withoutFile, hs]
    | arr xs => simp [withoutFile, List.filter_filter]
    | _ => rfl

/-- A file that is added to a value without it and taken out again leaves that value, or one that counts no more than
none does. -/
theorem withFile_again (hv : v.bind (withoutFile file) = v) :
    withFile file (withoutFile file (withFile file v)) = withFile file v := by
  cases v with
  | none => simp [withFile, withoutFile]
  | some v =>
    rw [Option.bind_some] at hv
    cases v with
    | arr xs =>
      -- the list loses the file at its end and nothing else
      have hxs : xs.filter (fun x => !isFile file x) = xs := Json.arr.inj (Option.some.inj hv)
      have hfile : isFile file (.str file) = true := isFile_iff.2 rfl
      simp [withFile, withoutFile, hxs, hfile]
    | str s =>
      have hs : s ≠ file := fun heq => by simp [withoutFile, heq] at hv
      by_cases hempty : s = ""
      · simp [withFile, withoutFile, hempty]
      · simp [withFile, withoutFile, isFile, hempty, hs]
    | null => simp [withFile, withoutFile, Json.isTruthy]
    | bool b => cases b <;> simp [withFile, withoutFile, Json.isTruthy]
    | num n => cases hn : n.isZero <;> simp [withFile, withoutFile, Json.isTruthy, hn]
    | obj fs => simp [withFile, withoutFile, Json.isTruthy]

end Again

/-- **The same choice again changes nothing.** -/
theorem assign_again (s : Settings) (file schema : String) :
    (s.assign file schema).assign file schema = s.assign file schema := by
  rw [Settings.mk.injEq]
  refine Fields.Sorted.ext (Settings.sorted _) (Settings.sorted _) fun key => ?_
  simp only [get?_assign]
  split
  · rw [Option.bind_some, withFile_again (withoutFile_again file _)]
  · exact withoutFile_again file _

end Settings

end SchemaRelay

import SchemaRelay.Json.Decode
import SchemaRelay.Proofs.Fields
import SchemaRelay.Proofs.Json.Strings

/-!
# Documents read back from their text

The text of a value over several lines is read as that value with the members of every object in the order of their
names (`parse?_pretty`). This goes for values without numbers (`Fits`): the text of such a value tells where it ends, so
it is read whatever comes after it (`Fits.readBack`), by induction on the value and on its elements and members.

The reader goes down a bound with every value, element and member. Each of these has a character of its own in the text,
so the length of the text is bound enough.

A reader of a record looks its members up. Where no name comes twice it finds them in the order of the names as well
(`member?_ofList`).
-/

namespace SchemaRelay

namespace Json

open Reader

mutual

/-- The value with the members of every object in the order of their names, the last of a name being kept. -/
def ordered : Json → Json
  | .arr xs => .arr (orderedElements xs)
  | .obj fs => .object (orderedMembers fs)
  | v => v

@[inherit_doc ordered]
def orderedElements : List Json → List Json
  | [] => []
  | x :: xs => x.ordered :: orderedElements xs

@[inherit_doc ordered]
def orderedMembers : List (String × Json) → List (String × Json)
  | [] => []
  | (k, v) :: fs => (k, v.ordered) :: orderedMembers fs

end

theorem orderedElements_eq (xs : List Json) : orderedElements xs = xs.map ordered := by
  induction xs with
  | nil => rfl
  | cons x xs ih => rw [orderedElements, ih, List.map_cons]

theorem orderedMembers_eq (fs : List (String × Json)) : orderedMembers fs = Fields.mapValues ordered fs := by
  induction fs with
  | nil => rfl
  | cons p fs ih => rw [orderedMembers, ih]; rfl

/-- A value without numbers and with at most so many containers inside each other. -/
inductive Fits : Nat → Json → Prop
  | null {depth : Nat} : Fits depth .null
  | bool {depth : Nat} (b : Bool) : Fits depth (.bool b)
  | str {depth : Nat} (s : String) : Fits depth (.str s)
  | arr {depth : Nat} {xs : List Json} (h : ∀ x ∈ xs, Fits depth x) : Fits (depth + 1) (.arr xs)
  | obj {depth : Nat} {fs : List (String × Json)} (h : ∀ p ∈ fs, Fits depth p.2) : Fits (depth + 1) (.obj fs)

variable {depth : Nat} {v x : Json} {xs : List Json} {fs : List (String × Json)} {s rest : List Char}

/-! ## White space -/

theorem skipSpace_newline (level : Nat) (s : List Char) : skipSpace (newline level ++ s) = skipSpace s := by
  have hspace : ∀ c ∈ newline level, isSpace c = true := by
    intro c hc
    rcases List.mem_cons.1 hc with rfl | hc
    · rfl
    · rw [(List.mem_replicate.1 hc).2]
      rfl
  rw [skipSpace, List.dropWhile_append_of_pos hspace, skipSpace]

theorem skipSpace_cons {c : Char} (hc : isSpace c = false) (s : List Char) : skipSpace (c :: s) = c :: s := by
  rw [skipSpace, List.dropWhile_cons_of_neg (by simp [hc])]

theorem value?_congr {s t : List Char} (h : skipSpace s = skipSpace t) (fuel depth : Nat) :
    value? fuel depth s = value? fuel depth t := by
  cases fuel with
  | zero => rw [value?, value?]
  | succ fuel => rw [value?, value?, h]

theorem elements?_newline (fuel depth level : Nat) (s : List Char) :
    elements? fuel depth (newline level ++ s) = elements? fuel depth s := by
  cases fuel with
  | zero => rw [elements?, elements?]
  | succ fuel => rw [elements?, elements?, value?_congr (skipSpace_newline level s)]

theorem members?_newline (fuel depth level : Nat) (s : List Char) :
    members? fuel depth (newline level ++ s) = members? fuel depth s := by
  cases fuel with
  | zero => rw [members?, members?]
  | succ fuel => rw [members?, members?, skipSpace_newline]

/-- The text of a value starts with a character that is neither white space nor a closing bracket. -/
theorem Fits.head (h : Fits depth v) (level : Nat) :
    ∃ c cs, v.prettyChars level = c :: cs ∧ isSpace c = false ∧ c ≠ ']' := by
  cases h with
  | null => exact ⟨_, _, by rw [prettyChars, nullText], by decide, by decide⟩
  | bool b => cases b <;> exact ⟨_, _, by rw [prettyChars, boolText]; rfl, by decide, by decide⟩
  | str s => exact ⟨_, _, by rw [prettyChars, JsonString.write]; rfl, by decide, by decide⟩
  | arr h =>
    rw [prettyChars]
    split <;> exact ⟨_, _, rfl, by decide, by decide⟩
  | obj h =>
    rw [prettyChars]
    split <;> exact ⟨_, _, rfl, by decide, by decide⟩

theorem Fits.head_elements (h : Fits depth x) (level : Nat) (xs : List Json) :
    ∃ c t, prettyElements level (x :: xs) = c :: t ∧ isSpace c = false ∧ c ≠ ']' := by
  obtain ⟨c, cs, hx, hc⟩ := h.head (level + 1)
  cases xs with
  | nil => exact ⟨c, _, by rw [prettyElements, hx]; rfl, hc⟩
  | cons y ys =>
    refine ⟨c, cs ++ ',' :: (newline (level + 1) ++ prettyElements level (y :: ys)), ?_, hc⟩
    simp [prettyElements, hx]

theorem prettyMembers_head (level : Nat) (p : String × Json) (fs : List (String × Json)) :
    ∃ t, prettyMembers level (p :: fs) = '"' :: t := by
  cases fs <;> simp [prettyMembers, JsonString.write]

/-! ## Steps of the reader -/

section Steps

variable {fuel : Nat} {k : String} {r t : List Char} {ys : List Json} {gs : List (String × Json)}

theorem value?_arr {c : Char} (hs : skipSpace s = c :: t) (hc : c ≠ ']')
    (h : elements? fuel depth (c :: t) = some (xs, rest)) :
    value? (fuel + 1) (depth + 1) ('[' :: s) = some (.arr xs, rest) := by
  simp [value?, skipSpace_cons, isSpace, hs, hc, h]

theorem value?_obj (hs : skipSpace s = '"' :: t) (h : members? fuel depth ('"' :: t) = some (fs, rest)) :
    value? (fuel + 1) (depth + 1) ('\x7b' :: s) = some (.object fs, rest) := by
  simp [value?, skipSpace_cons, isSpace, hs, h]

theorem elements?_last (hx : value? fuel depth s = some (x, r)) (hr : skipSpace r = ']' :: rest) :
    elements? (fuel + 1) depth s = some ([x], rest) := by
  simp only [elements?, hx, hr]

theorem elements?_more (hx : value? fuel depth s = some (x, r)) (hr : skipSpace r = ',' :: t)
    (ht : elements? fuel depth t = some (ys, rest)) : elements? (fuel + 1) depth s = some (x :: ys, rest) := by
  simp only [elements?, hx, hr, ht, Option.map_some]

theorem members?_last (hv : value? fuel depth s = some (v, r)) (hr : skipSpace r = '\x7d' :: rest) :
    members? (fuel + 1) depth (JsonString.write k ++ ':' :: s) = some ([(k, v)], rest) := by
  rw [JsonString.write_append, members?, skipSpace_cons (by decide)]
  simp only [JsonString.stringChars_write, skipSpace_cons (c := ':') rfl, hv, hr, String.ofList_toList]

theorem members?_more (hv : value? fuel depth s = some (v, r)) (hr : skipSpace r = ',' :: t)
    (ht : members? fuel depth t = some (gs, rest)) :
    members? (fuel + 1) depth (JsonString.write k ++ ':' :: s) = some ((k, v) :: gs, rest) := by
  rw [JsonString.write_append, members?, skipSpace_cons (by decide)]
  simp only [JsonString.stringChars_write, skipSpace_cons (c := ':') rfl, hv, hr, ht, Option.map_some,
    String.ofList_toList]

end Steps

/-! ## Values read back -/

/-- The value is read back from its text, whatever level it stands at and whatever comes after it. -/
def ReadBack (depth : Nat) (v : Json) : Prop :=
  ∀ level fuel rest, (v.prettyChars level).length ≤ fuel →
    value? fuel depth (v.prettyChars level ++ rest) = some (v.ordered, rest)

theorem length_prettyElements (level : Nat) (xs : List Json) : 0 < (prettyElements level xs).length := by
  unfold prettyElements
  split <;> simp only [List.length_append, List.length_cons] <;> omega

theorem length_prettyMembers (level : Nat) (fs : List (String × Json)) : 0 < (prettyMembers level fs).length := by
  unfold prettyMembers
  split <;> simp only [List.length_append, List.length_cons] <;> omega

/-- A text is not empty, so a bound on its length is not zero. -/
theorem readBack_of_succ (hv : Fits depth v) (h : ∀ level fuel rest, (v.prettyChars level).length ≤ fuel + 1 →
    value? (fuel + 1) depth (v.prettyChars level ++ rest) = some (v.ordered, rest)) : ReadBack depth v := by
  intro level fuel rest hf
  obtain ⟨c, cs, hhead, -, -⟩ := hv.head level
  have hpos : 0 < fuel := by
    rw [hhead, List.length_cons] at hf
    omega
  obtain ⟨fuel, rfl⟩ := Nat.exists_eq_add_one.2 hpos
  exact h level fuel rest hf

theorem elements?_pretty (h : ∀ x ∈ xs, ReadBack depth x) (hne : xs ≠ []) {level fuel : Nat}
    (hf : (prettyElements level xs).length ≤ fuel) (rest : List Char) :
    elements? fuel depth (prettyElements level xs ++ rest) = some (xs.map ordered, rest) := by
  induction xs generalizing fuel with
  | nil => exact absurd rfl hne
  | cons x xs ih =>
    obtain ⟨fuel, rfl⟩ := Nat.exists_eq_add_one.2 (Nat.lt_of_lt_of_le (length_prettyElements level _) hf)
    have hx := h x List.mem_cons_self (level + 1) fuel
    cases xs with
    | nil =>
      simp only [prettyElements, List.length_append, List.length_cons, List.length_nil] at hf
      simp only [prettyElements, List.append_assoc]
      refine elements?_last (hx _ (by omega)) ?_
      rw [skipSpace_newline]
      exact skipSpace_cons (by decide) rest
    | cons y ys =>
      simp only [prettyElements, List.length_append, List.length_cons] at hf
      simp only [prettyElements, List.append_assoc, List.cons_append]
      refine elements?_more (hx _ (by omega)) (skipSpace_cons (by decide) _) ?_
      rw [elements?_newline]
      exact ih (fun z hz => h z (List.mem_cons_of_mem _ hz)) (by simp) (by omega)

theorem members?_pretty (h : ∀ p ∈ fs, ReadBack depth p.2) (hne : fs ≠ []) {level fuel : Nat}
    (hf : (prettyMembers level fs).length ≤ fuel) (rest : List Char) :
    members? fuel depth (prettyMembers level fs ++ rest) = some (Fields.mapValues ordered fs, rest) := by
  induction fs generalizing fuel with
  | nil => exact absurd rfl hne
  | cons p fs ih =>
    obtain ⟨k, v⟩ := p
    obtain ⟨fuel, rfl⟩ := Nat.exists_eq_add_one.2 (Nat.lt_of_lt_of_le (length_prettyMembers level _) hf)
    -- a space stands between the colon and the value
    have hv (rest : List Char) (hl : (v.prettyChars (level + 1)).length ≤ fuel) :
        value? fuel depth (' ' :: (v.prettyChars (level + 1) ++ rest)) = some (v.ordered, rest) := by
      rw [← h (k, v) List.mem_cons_self (level + 1) fuel rest hl]
      exact value?_congr (List.dropWhile_cons_of_pos (by decide)) fuel depth
    cases fs with
    | nil =>
      simp only [prettyMembers, List.length_append, List.length_cons, List.length_nil] at hf
      simp only [prettyMembers, List.append_assoc, List.cons_append]
      refine members?_last (hv _ (by omega)) ?_
      rw [skipSpace_newline]
      exact skipSpace_cons (by decide) rest
    | cons q fs =>
      simp only [prettyMembers, List.length_append, List.length_cons] at hf
      simp only [prettyMembers, List.append_assoc, List.cons_append]
      refine members?_more (hv _ (by omega)) (skipSpace_cons (by decide) _) ?_
      rw [members?_newline]
      exact ih (fun r hr => h r (List.mem_cons_of_mem _ hr)) (by simp) (by omega)

theorem ReadBack.str (s : String) : ReadBack depth (.str s) := by
  refine readBack_of_succ (.str s) fun level fuel rest _ => ?_
  rw [prettyChars, JsonString.write_append, value?, skipSpace_cons (by decide)]
  simp only [JsonString.stringChars_write, Option.map_some, String.ofList_toList, ordered]

theorem ReadBack.arr (hx : ∀ x ∈ xs, Fits depth x) (h : ∀ x ∈ xs, ReadBack depth x) :
    ReadBack (depth + 1) (.arr xs) := by
  refine readBack_of_succ (.arr hx) fun level fuel rest hf => ?_
  rw [ordered, orderedElements_eq]
  cases xs with
  | nil => rfl
  | cons x ys =>
    have htext : prettyChars level (.arr (x :: ys)) =
        '[' :: (newline (level + 1) ++ prettyElements level (x :: ys)) := by
      simp [prettyChars]
    obtain ⟨c, t, hhead, hspace, hc⟩ := (hx x List.mem_cons_self).head_elements level ys
    rw [htext, List.length_cons, List.length_append] at hf
    have hfuel : (prettyElements level (x :: ys)).length ≤ fuel := by omega
    have hread := elements?_pretty h (List.cons_ne_nil x ys) hfuel rest
    rw [htext, List.cons_append, List.append_assoc]
    rw [hhead, List.cons_append] at hread ⊢
    refine value?_arr ?_ hc hread
    rw [skipSpace_newline, skipSpace_cons hspace]

theorem ReadBack.obj (hv : ∀ p ∈ fs, Fits depth p.2) (h : ∀ p ∈ fs, ReadBack depth p.2) :
    ReadBack (depth + 1) (.obj fs) := by
  refine readBack_of_succ (.obj hv) fun level fuel rest hf => ?_
  rw [ordered, orderedMembers_eq]
  cases fs with
  | nil => rfl
  | cons p gs =>
    have htext : prettyChars level (.obj (p :: gs)) =
        '\x7b' :: (newline (level + 1) ++ prettyMembers level (p :: gs)) := by
      simp [prettyChars]
    obtain ⟨t, hhead⟩ := prettyMembers_head level p gs
    rw [htext, List.length_cons, List.length_append] at hf
    have hfuel : (prettyMembers level (p :: gs)).length ≤ fuel := by omega
    have hread := members?_pretty h (List.cons_ne_nil p gs) hfuel rest
    rw [htext, List.cons_append, List.append_assoc]
    rw [hhead, List.cons_append] at hread ⊢
    refine value?_obj ?_ hread
    rw [skipSpace_newline, skipSpace_cons (by decide)]

theorem Fits.readBack (h : Fits depth v) : ReadBack depth v := by
  induction h with
  | null => exact readBack_of_succ .null fun _ _ _ _ => rfl
  | bool b => exact readBack_of_succ (.bool b) fun _ _ _ _ => by cases b <;> rfl
  | str s => exact .str s
  | arr h ih => exact .arr h ih
  | obj h ih => exact .obj h ih

/-- **A document is read back from its text**, with the members of every object in the order of their names. -/
theorem parse?_pretty (h : Fits maxDepth v) : parse? v.pretty = some v.ordered := by
  have hread := h.readBack 0 (2 * (v.prettyChars 0).length + 2) [] (by omega)
  rw [List.append_nil] at hread
  simp only [parse?, pretty, String.toList_ofList, hread]
  rfl

/-! ## Values in order -/

/-- A string or a truth value. -/
inductive IsLeaf : Json → Prop
  | bool (b : Bool) : IsLeaf (.bool b)
  | str (s : String) : IsLeaf (.str s)

theorem IsLeaf.ordered_eq (h : v.IsLeaf) : v.ordered = v := by cases h <;> rfl

theorem IsLeaf.fits (h : v.IsLeaf) (depth : Nat) : v.Fits depth := by
  cases h with
  | bool b => exact .bool b
  | str s => exact .str s

section Containers

variable {β : Type} {f : β → Json} {bs : List β}

theorem ordered_arr (f : β → Json) (bs : List β) : (arr (bs.map f)).ordered = .arr (bs.map fun b => (f b).ordered) := by
  rw [ordered, orderedElements_eq, List.map_map]
  rfl

theorem ordered_strings (xs : List String) : (strings xs).ordered = strings xs := ordered_arr str xs

/-- Of an object whose values stay as they are only the members are put in order. -/
theorem ordered_obj (h : ∀ p ∈ fs, p.2.ordered = p.2) : (obj fs).ordered = .object fs := by
  have hsame : Fields.mapValues ordered fs = fs := by
    refine (List.map_congr_left fun p hp => ?_).trans (List.map_id' fs)
    rw [h p hp]
  rw [ordered, orderedMembers_eq, hsame]

/-- Strings and truth values of a record stay as they are. -/
theorem ordered_leaves (h : ∀ p ∈ fs, p.2.IsLeaf) : (obj fs).ordered = .object fs :=
  ordered_obj fun p hp => (h p hp).ordered_eq

theorem fits_leaves (h : ∀ p ∈ fs, p.2.IsLeaf) (depth : Nat) : (obj fs).Fits (depth + 1) :=
  .obj fun p hp => (h p hp).fits depth

/-- One member is in order. -/
theorem ordered_single (name : String) (v : Json) : (obj [(name, v)]).ordered = .obj [(name, v.ordered)] := rfl

theorem fits_arr (h : ∀ b, (f b).Fits depth) : (arr (bs.map f)).Fits (depth + 1) := by
  refine .arr fun x hx => ?_
  obtain ⟨b, -, rfl⟩ := List.mem_map.1 hx
  exact h b

theorem fits_single (h : v.Fits depth) (name : String) : (obj [(name, v)]).Fits (depth + 1) := by
  refine .obj fun p hp => ?_
  rw [List.mem_singleton.1 hp]
  exact h

end Containers

end Json

/-! ## Readers -/

section Readers

variable {α β : Type} {read : Decoder α}

namespace Decoder

/-- Members with distinct names are found also when they are put in order. -/
theorem member?_ofList {fs : List (String × Json)} (hd : (fs.map (·.1)).Nodup) (name : String) (read : Decoder α) :
    member? (Fields.ofList fs) name read = member? fs name read := by
  rw [member?, member?, Fields.get?_ofList hd]

theorem list_map {f : β → Json} {g : β → α} (h : ∀ b, read (f b) = .ok (g b)) (bs : List β) :
    list read (.arr (bs.map f)) = .ok (bs.map g) := by
  induction bs with
  | nil => rfl
  | cons b bs ih =>
    rw [list] at ih
    rw [list, List.map_cons, List.mapM_cons, h, ih]
    rfl

theorem list_map_self {f : α → Json} (h : ∀ a, read (f a) = .ok a) (as : List α) :
    list read (.arr (as.map f)) = .ok as := by
  have hread := list_map (g := id) h as
  rwa [List.map_id] at hread

theorem list_strings (xs : List String) : list string (Json.strings xs) = .ok xs :=
  list_map_self (f := .str) (fun _ => rfl) xs

end Decoder

/-- The text is a JSON document, and the value is read from it. -/
def ReadsAs (read : Decoder α) (text : String) (a : α) : Prop := ∃ v, Json.parse? text = some v ∧ read v = .ok a

theorem readsAs_pretty {v : Json} {a : α} (hv : v.Fits Json.maxDepth) (h : read v.ordered = .ok a) :
    ReadsAs read v.pretty a :=
  ⟨v.ordered, Json.parse?_pretty hv, h⟩

/-- One value is read from a text. -/
theorem ReadsAs.unique {text : String} {a b : α} (ha : ReadsAs read text a) (hb : ReadsAs read text b) : a = b := by
  obtain ⟨v, hv, hva⟩ := ha
  obtain ⟨w, hw, hwb⟩ := hb
  obtain rfl : v = w := Option.some.inj (hv.symm.trans hw)
  exact Except.ok.inj (hva.symm.trans hwb)

end Readers

end SchemaRelay

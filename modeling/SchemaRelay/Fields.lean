/-!
# Fields in key order

Lists of named values kept in strictly ascending order of their names. Names compare by code point, which is also
the order of their UTF-8 bytes. `insert` replaces the value of a name that is there already, so a list built from
pairs keeps the last value given for each name (`ofList`), and both operations keep the order (`Sorted`).
-/

namespace SchemaRelay

/-- Named values. -/
abbrev Fields (α : Type) := List (String × α)

namespace Fields

variable {α β : Type}

/-- The value of a name. -/
def get? (fs : Fields α) (name : String) : Option α :=
  match fs with
  | [] => none
  | (n, v) :: rest => if n = name then some v else get? rest name

/-- The fields with `name` set to `value`. -/
def insert (fs : Fields α) (name : String) (value : α) : Fields α :=
  match fs with
  | [] => [(name, value)]
  | (n, v) :: rest =>
    if name < n then (name, value) :: (n, v) :: rest
    else if n = name then (name, value) :: rest
    else (n, v) :: insert rest name value

/-- The fields without `name`. -/
def erase (fs : Fields α) (name : String) : Fields α := fs.filter (·.1 ≠ name)

/-- The fields of a list of pairs, later pairs replacing earlier ones of the same name. -/
def ofList (pairs : List (String × α)) : Fields α := pairs.foldl (fun fs p => insert fs p.1 p.2) []

/-- Names ascend strictly. -/
def Sorted (fs : Fields α) : Prop := fs.Pairwise (·.1 < ·.1)

theorem mem_insert {fs : Fields α} {name : String} {value : α} {p : String × α} (h : p ∈ fs.insert name value) :
    p = (name, value) ∨ p ∈ fs := by
  induction fs with
  | nil => simpa [insert] using h
  | cons q rest ih =>
    simp only [insert] at h
    split at h
    · simpa using h
    · split at h
      · rcases List.mem_cons.1 h with h | h
        · exact .inl h
        · exact .inr (List.mem_cons_of_mem _ h)
      · rcases List.mem_cons.1 h with h | h
        · exact .inr (h ▸ List.mem_cons_self)
        · exact (ih h).imp_right (List.mem_cons_of_mem _)

theorem Sorted.insert {fs : Fields α} (hs : fs.Sorted) (name : String) (value : α) :
    (fs.insert name value).Sorted := by
  induction fs with
  | nil => simp [Fields.insert, Sorted]
  | cons q rest ih =>
    obtain ⟨hq, hrest⟩ := List.pairwise_cons.1 hs
    simp only [Fields.insert]
    split
    · next hlt =>
      refine List.pairwise_cons.2 ⟨fun p hp => ?_, hs⟩
      rcases List.mem_cons.1 hp with rfl | hp
      · exact hlt
      · exact String.lt_trans hlt (hq p hp)
    · split
      · next heq => exact List.pairwise_cons.2 ⟨fun p hp => heq ▸ hq p hp, hrest⟩
      · next hlt hne =>
        refine List.pairwise_cons.2 ⟨fun p hp => ?_, ih hrest⟩
        rcases mem_insert hp with rfl | hp
        · exact String.not_le.1 fun hle => hne (String.le_antisymm (String.not_lt.1 hlt) hle)
        · exact hq p hp

theorem Sorted.erase {fs : Fields α} (hs : fs.Sorted) (name : String) : (fs.erase name).Sorted :=
  List.Pairwise.sublist List.filter_sublist hs

theorem Sorted.ofList (pairs : List (String × α)) : (Fields.ofList pairs).Sorted := by
  have go : ∀ (ps : List (String × α)) (fs : Fields α), fs.Sorted →
      (ps.foldl (fun fs p => fs.insert p.1 p.2) fs).Sorted := by
    intro ps
    induction ps with
    | nil => exact fun _ h => h
    | cons p ps ih => exact fun fs h => ih _ (h.insert _ _)
  exact go pairs [] List.Pairwise.nil

end Fields

end SchemaRelay

import SchemaRelay.Fields

/-!
# Looking up fields

What `get?` answers after each operation, and how a map over the values goes with them. An insertion is read back
(`get?_insert`) whether the fields are in order or not; of a list of pairs with distinct names all are found
(`get?_ofList`). Fields in order are known by what is found in them (`Sorted.ext`).
-/

namespace SchemaRelay.Fields

variable {α β : Type}

theorem get?_insert (fs : Fields α) (name : String) (value : α) (other : String) :
    (fs.insert name value).get? other = if name = other then some value else fs.get? other := by
  induction fs with
  | nil => simp [insert, get?]
  | cons p rest ih =>
    obtain ⟨n, v⟩ := p
    simp only [insert]
    split
    · simp [get?]
    · split
      · next heq =>
        subst heq
        simp only [get?]
        split <;> rfl
      · next hne =>
        simp only [get?, ih]
        by_cases hn : n = other
        · subst hn
          simp [Ne.symm hne]
        · simp [hn]

theorem get?_erase (fs : Fields α) (name other : String) :
    (fs.erase name).get? other = if name = other then none else fs.get? other := by
  induction fs with
  | nil => simp [erase, get?]
  | cons p rest ih =>
    obtain ⟨n, v⟩ := p
    simp only [erase] at ih
    by_cases hn : n = name
    · subst hn
      simp only [erase, ne_eq, decide_not, List.filter_cons, decide_true, Bool.not_true, Bool.false_eq_true, if_false,
        get?] at ih ⊢
      rw [ih]
      split <;> rfl
    · simp only [erase, ne_eq, decide_not, List.filter_cons, hn, decide_false, Bool.not_false, if_true, get?] at ih ⊢
      rw [ih]
      by_cases ho : n = other
      · subst ho
        simp [Ne.symm hn]
      · simp [ho]

theorem get?_eq_none_iff {fs : Fields α} {name : String} : fs.get? name = none ↔ name ∉ fs.map (·.1) := by
  induction fs with
  | nil => simp [get?]
  | cons p rest ih =>
    simp only [get?, List.map_cons, List.mem_cons, not_or]
    by_cases hn : p.1 = name
    · simp [hn]
    · simp [hn, ih, Ne.symm hn]

/-- Pairs with distinct names that are inserted one after the other are found, and else what was there before. -/
theorem get?_foldl_insert {pairs : List (String × α)} (hd : (pairs.map (·.1)).Nodup) (fs : Fields α) (name : String) :
    (pairs.foldl (fun fs p => fs.insert p.1 p.2) fs).get? name = (Fields.get? pairs name).or (fs.get? name) := by
  induction pairs generalizing fs with
  | nil => rfl
  | cons p ps ih =>
    obtain ⟨hp, hps⟩ := List.nodup_cons.1 hd
    rw [List.foldl_cons, ih hps, get?_insert]
    by_cases hn : p.1 = name
    · subst hn
      simp [get?, get?_eq_none_iff.2 hp]
    · simp [get?, hn]

/-- Every pair of a list with distinct names is found in the fields made of it. -/
theorem get?_ofList {pairs : List (String × α)} (hd : (pairs.map (·.1)).Nodup) (name : String) :
    (ofList pairs).get? name = Fields.get? pairs name := by
  rw [ofList, get?_foldl_insert hd]
  simp [get?]

/-! ## Fields in order -/

/-- Pairs with distinct first parts are distinct. -/
theorem nodup_of_fst {pairs : List (α × β)} (h : (pairs.map (·.1)).Nodup) : pairs.Nodup :=
  List.Pairwise.of_map (·.1) (fun _ _ hne heq => hne (congrArg (·.1) heq)) h

section Sorted

variable {fs gs : Fields α}

theorem Sorted.names_nodup (h : fs.Sorted) : (fs.map (·.1)).Nodup := by
  have hne : fs.Pairwise fun p q => p.1 ≠ q.1 := by
    refine h.imp ?_
    intro p q hlt heq
    rw [heq] at hlt
    exact String.lt_irrefl _ hlt
  exact List.nodup_iff_pairwise_ne.2 (List.pairwise_map.2 hne)

theorem Sorted.nodup (h : fs.Sorted) : fs.Nodup := nodup_of_fst h.names_nodup

/-- What is found under a name is what stands beside it. -/
theorem Sorted.get?_eq_some_iff (h : fs.Sorted) {name : String} {value : α} :
    fs.get? name = some value ↔ (name, value) ∈ fs := by
  induction fs with
  | nil => simp [get?]
  | cons p rest ih =>
    obtain ⟨hp, hrest⟩ := List.pairwise_cons.1 h
    obtain ⟨n, v⟩ := p
    simp only [get?, List.mem_cons, Prod.mk.injEq]
    by_cases hn : n = name
    · subst hn
      have hno : (n, value) ∉ rest := fun hm => String.lt_irrefl n (hp _ hm)
      simp [hno, eq_comm]
    · simp [hn, Ne.symm hn, ih hrest]

/-- Fields in order in which the same is found are the same. -/
theorem Sorted.ext (hf : fs.Sorted) (hg : gs.Sorted) (h : ∀ name, fs.get? name = gs.get? name) : fs = gs := by
  have hmem : ∀ p : String × α, p ∈ fs ↔ p ∈ gs := fun p => by
    rw [← hf.get?_eq_some_iff, ← hg.get?_eq_some_iff, h]
  have hperm : fs.Perm gs := (List.perm_ext_iff_of_nodup hf.nodup hg.nodup).2 hmem
  refine List.Perm.eq_of_pairwise (fun p q _ _ hpq hqp => ?_) hf hg hperm
  exact absurd hqp (String.lt_asymm hpq)

end Sorted

/-! ## Maps over the values -/

/-- The fields with a function applied to every value. -/
def mapValues (f : α → β) (fs : Fields α) : Fields β := fs.map fun p => (p.1, f p.2)

theorem length_mapValues (f : α → β) (fs : Fields α) : (fs.mapValues f).length = fs.length := List.length_map _

theorem get?_mapValues (f : α → β) (fs : Fields α) (name : String) :
    (fs.mapValues f).get? name = (fs.get? name).map f := by
  induction fs with
  | nil => rfl
  | cons p rest ih =>
    simp only [mapValues] at ih
    simp only [mapValues, List.map_cons, get?, ih]
    split <;> rfl

theorem insert_mapValues (f : α → β) (fs : Fields α) (name : String) (value : α) :
    (fs.mapValues f).insert name (f value) = (fs.insert name value).mapValues f := by
  induction fs with
  | nil => rfl
  | cons p rest ih =>
    simp only [mapValues] at ih
    simp only [mapValues, List.map_cons, insert, ih]
    split
    · rfl
    · split <;> rfl

end SchemaRelay.Fields

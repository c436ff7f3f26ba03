import SchemaRelay.Cache.Open

/-!
# Paths that stay

A path that leads somewhere still leads there when there are more directories (`resolve_mono`). So the directories of a
database file are made once: after that they are found (`isPrepared_of_prepareDirectory`,
`IsPrepared.prepareDirectory`), and the path leads to the same file whatever database is kept in it (`databaseAt_set`).
-/

namespace SchemaRelay

namespace Files

theorem node?_set (t : Files) (names : Names) (node : FileNode) (other : Names) :
    (t.set names node).node? other =
      if other = [] then some .directory else if names = other then some node else t.node? other := by
  unfold node?
  by_cases hroot : other = []
  · rw [if_pos hroot, if_pos hroot]
  · rw [if_neg hroot, if_neg hroot, if_neg hroot]
    by_cases hn : names = other
    · simp [set, hn]
    · have hfind : (t.set names node).nodes.find? (·.1 == other) = t.nodes.find? (·.1 == other) := by
        simp only [set, List.find?_cons, beq_eq_false_iff_ne.2 hn, List.find?_filter]
        refine congrArg (List.find? · t.nodes) (funext fun p => ?_)
        by_cases hp : p.1 = other
        · simp [hp, Ne.symm hn]
        · simp [hp]
      rw [if_neg hn, hfind]

/-- A node in the place of one that is no directory takes no directory away. -/
theorem isDirectory_set {t : Files} {names : Names} (hn : t.isDirectory names = false) (node : FileNode)
    {other : Names} (h : t.isDirectory other = true) : (t.set names node).isDirectory other = true := by
  have hne : names ≠ other := by
    rintro rfl
    rw [hn] at h
    cases h
  unfold isDirectory at h ⊢
  rw [node?_set]
  by_cases hroot : other = []
  · rw [if_pos hroot]
  · rwa [if_neg hroot, if_neg hne]

variable {t t' : Files} {cwd : Names}

/-- The way of a path leads through directories only. -/
theorem walk_mono (hd : ∀ ns, t.isDirectory ns = true → t'.isDirectory ns = true) {here names : Names}
    {parts : List String} (h : t.walk here parts = .ok names) : t'.walk here parts = .ok names := by
  induction parts generalizing here with
  | nil => exact h
  | cons part rest ih =>
    simp only [walk] at h ⊢
    cases hhere : t.isDirectory here with
    | false => simp [hhere] at h
    | true =>
      -- the same branch is taken in both trees, and none of them looks at more than the directory
      simp only [hhere, hd here hhere, Bool.not_true, Bool.false_eq_true, if_false] at h ⊢
      split at h
      · next hstay =>
        rw [if_pos hstay]
        exact ih h
      · next hstay =>
        rw [if_neg hstay]
        split at h
        · next hup =>
          rw [if_pos hup]
          exact ih h
        · next hup =>
          rw [if_neg hup]
          split at h
          · cases h
          · next hlong =>
            rw [if_neg hlong]
            exact ih h

theorem resolve_mono (hd : ∀ ns, t.isDirectory ns = true → t'.isDirectory ns = true) {path : String} {names : Names}
    (h : t.resolve cwd path = .ok names) : t'.resolve cwd path = .ok names := by
  simp only [resolve] at h ⊢
  split at h
  · cases h
  · next hempty =>
    rw [if_neg hempty]
    split at h
    · cases h
    · next hnul =>
      rw [if_neg hnul]
      exact walk_mono hd h

theorem makeDirectory_eq_ok {path : String} (h : t.makeDirectory cwd path = .ok t') :
    ∃ names, t.resolve cwd path = .ok names ∧ t.node? names = none ∧ t' = t.set names .directory := by
  unfold makeDirectory at h
  cases hr : t.resolve cwd path with
  | error fault =>
    rw [hr] at h
    cases h
  | ok names =>
    cases hn : t.node? names with
    | some node =>
      simp only [hr, bind, Except.bind, hn] at h
      cases h
    | none =>
      simp only [hr, bind, Except.bind, hn] at h
      exact ⟨names, rfl, hn, (Except.ok.inj h).symm⟩

/-- A path leads to a directory. -/
def HasDirectory (t : Files) (cwd : Names) (path : String) : Prop :=
  ∃ names, t.resolve cwd path = .ok names ∧ t.isDirectory names = true

theorem HasDirectory.mono {path : String} (h : t.HasDirectory cwd path)
    (hd : ∀ ns, t.isDirectory ns = true → t'.isDirectory ns = true) : t'.HasDirectory cwd path := by
  obtain ⟨names, hr, hn⟩ := h
  exact ⟨names, resolve_mono hd hr, hd names hn⟩

/-- A directory that was made is there. -/
theorem hasDirectory_of_makeDirectory {path : String} (h : t.makeDirectory cwd path = .ok t') :
    t'.HasDirectory cwd path := by
  obtain ⟨names, hr, hnone, rfl⟩ := makeDirectory_eq_ok h
  have hnot : t.isDirectory names = false := by
    unfold isDirectory
    rw [hnone]
  refine ⟨names, resolve_mono (fun _ => isDirectory_set hnot .directory) hr, ?_⟩
  unfold isDirectory
  rw [node?_set, if_pos rfl, ite_self]

/-- To make a directory that is there is not possible, for it is there. -/
theorem HasDirectory.makeDirectory {path : String} (h : t.HasDirectory cwd path) :
    t.makeDirectory cwd path = .error .exists := by
  obtain ⟨names, hr, hn⟩ := h
  unfold isDirectory at hn
  unfold Files.makeDirectory
  cases hnode : t.node? names with
  | none =>
    rw [hnode] at hn
    cases hn
  | some node =>
    simp only [hr, bind, Except.bind, hnode]
    rfl

/-- Directories that were made are there. -/
theorem hasDirectory_of_makeDirectories {path : String} {n : Nat} (h : t.makeDirectories cwd path (n + 1) = .ok t') :
    path = "" ∨ t'.HasDirectory cwd path := by
  unfold makeDirectories at h
  by_cases hempty : path = ""
  · exact .inl hempty
  · rw [if_neg hempty] at h
    refine .inr ?_
    split at h
    · next t₁ hmade =>
      cases h
      exact hasDirectory_of_makeDirectory hmade
    · split at h
      · cases h
      · split at h
        · cases h
        · exact hasDirectory_of_makeDirectory h
    · split at h
      · next names hr =>
        split at h
        · next hn =>
          cases h
          exact ⟨names, hr, hn⟩
        · cases h
      · cases h

/-- Where all directories are there none is made. -/
theorem HasDirectory.makeDirectories {path : String} (h : t.HasDirectory cwd path) (n : Nat) :
    t.makeDirectories cwd path (n + 1) = .ok t := by
  unfold Files.makeDirectories
  rw [h.makeDirectory]
  obtain ⟨names, hr, hn⟩ := h
  simp [hr, hn]

end Files

namespace TableCache

variable {t t' : Files} {cwd names : Names} {path : String} {db : SharedDatabase}

/-- The directory that a path names something in is there. -/
def IsPrepared (t : Files) (cwd : Names) (path : String) : Prop :=
  ∀ directory, FilePath.parent? path = some directory → directory = "" ∨ t.HasDirectory cwd directory

theorem isPrepared_of_prepareDirectory (h : prepareDirectory t cwd path = .ok t') : IsPrepared t' cwd path := by
  intro directory hparent
  unfold prepareDirectory at h
  rw [hparent] at h
  simp only at h
  split at h
  · next hmade =>
    cases h
    exact Files.hasDirectory_of_makeDirectories hmade
  · cases h

theorem IsPrepared.prepareDirectory (h : IsPrepared t cwd path) : TableCache.prepareDirectory t cwd path = .ok t := by
  unfold TableCache.prepareDirectory
  cases hparent : FilePath.parent? path with
  | none => rfl
  | some directory =>
    have hmade : t.makeDirectories cwd directory (directory.length + 1) = .ok t := by
      rcases h directory hparent with rfl | hd
      · rfl
      · exact hd.makeDirectories _
    simp only [hmade]

theorem databaseAt_eq_ok (h : databaseAt t cwd path = .ok (names, db)) :
    t.resolve cwd path = .ok names ∧ t.isDirectory names = false := by
  unfold databaseAt at h
  unfold Files.isDirectory
  cases hr : t.resolve cwd path with
  | error fault =>
    rw [hr] at h
    cases h
  | ok ns =>
    simp only [hr] at h
    split at h
    · cases h
    · next hn =>
      cases h
      exact ⟨rfl, by rw [hn]⟩
    · next hn =>
      split at h
      · cases h
        exact ⟨rfl, by rw [hn]⟩
      · cases h
    · next hn =>
      cases h
      exact ⟨rfl, by rw [hn]⟩

/-- A database that is kept in the file of a path is found there. -/
theorem databaseAt_set (h : databaseAt t cwd path = .ok (names, db)) (db' : SharedDatabase) :
    databaseAt (t.set names (.database db')) cwd path = .ok (names, db') := by
  obtain ⟨hr, hn⟩ := databaseAt_eq_ok h
  have hroot : names ≠ [] := by
    rintro rfl
    simp [Files.isDirectory, Files.node?] at hn
  have hnode : (t.set names (.database db')).node? names = some (.database db') := by
    rw [Files.node?_set, if_neg hroot, if_pos rfl]
  unfold databaseAt
  simp only [Files.resolve_mono (fun _ => Files.isDirectory_set hn (.database db')) hr, hnode]

theorem IsPrepared.set (h : IsPrepared t cwd path) (hn : t.isDirectory names = false) (node : FileNode) :
    IsPrepared (t.set names node) cwd path := fun directory hparent =>
  (h directory hparent).imp_right fun hd => hd.mono fun _ => Files.isDirectory_set hn node

/-- A path is opened: its directories are there, and the database in its file is the one that the cache is opened on. -/
theorem openFile_eq (hpath : isPrivate path = false) (hd : prepareDirectory t cwd path = .ok t')
    (h : databaseAt t' cwd path = .ok (names, db)) (name : String) :
    openFile t cwd path name = (t'.set names (.database (db.openAs name).1), (db.openAs name).2) := by
  simp only [openFile, hpath, Bool.false_eq_true, if_false, hd, h]

end TableCache

end SchemaRelay

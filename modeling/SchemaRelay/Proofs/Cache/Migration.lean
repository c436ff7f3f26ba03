import SchemaRelay.Cache.Migration

/-!
# Runs that stop

The statements of a run take effect one by one, and a run may stop after any of them (`stop`). Where a run has come to
(`InRun`) each step but the one in hand is either recorded or not yet begun, and the statements of the one in hand do
nothing where they have been carried out before. So to run again is to go on (`InRun.run`), and runs that stop make no
difference to the next one that is carried out to its end (`run_stop`).

`runs_crash_safe` says this of runs that stop any number of times, and what else holds wherever a run stops: rows stay,
and a step is recorded by a run that has applied it, and never twice. A run that is carried out leaves none to apply.
-/

namespace SchemaRelay.Migration

variable {db db' : Database} {l l' before rest : List Statement}

/-! ## What a statement does -/

theorem makeTable_eq_ok {v : Int} :
    (Statement.makeTable v).exec db = .ok db' ↔
      (db.rows = none → db.nameTaken = false) ∧ db' = { db with rows := some (db.rows.getD []) } := by
  unfold Statement.exec
  by_cases hb : db.rows = none ∧ db.nameTaken = true
  · simp [hb]
  · have hfree : db.rows = none → db.nameTaken = false := fun hr => Bool.eq_false_iff.2 fun ht => hb ⟨hr, ht⟩
    rw [if_neg (by simpa using hfree)]
    exact ⟨fun h => ⟨hfree, (Except.ok.inj h).symm⟩, fun h => by rw [h.2]⟩

theorem record_eq_ok {v : Int} :
    db.record v = .ok db' ↔
      ∃ vs, db.versions = some vs ∧ v ∉ vs ∧ db' = { db with versions := some (Database.insertVersion v vs) } := by
  unfold Database.record Database.recorded
  cases hv : db.versions with
  | none => simp [bind, Except.bind]
  | some vs =>
    by_cases hm : v ∈ vs
    · simp [bind, Except.bind, hm, throw, throwThe, MonadExceptOf.throw]
    · simp [bind, Except.bind, hm, pure, Except.pure, eq_comm]

/-- No statement changes or loses a row. -/
theorem exec_rows {s : Statement} {rows : List Row} (h : s.exec db = .ok db') (hr : db.rows = some rows) :
    db'.rows = some rows := by
  cases s with
  | makeRecords =>
    cases h
    exact hr
  | makeTable v =>
    obtain ⟨-, rfl⟩ := makeTable_eq_ok.1 h
    simp [hr]
  | record v =>
    obtain ⟨vs, -, -, rfl⟩ := record_eq_ok.1 h
    exact hr

/-! ## Lists of statements -/

theorem execAll_cons_of_ok {s : Statement} (h : s.exec db = .ok db') (l : List Statement) :
    execAll db (s :: l) = execAll db' l := by
  simp only [execAll, h]

theorem execAll_append_of_ok (h : execAll db l = (db', .ok ())) (l' : List Statement) :
    execAll db (l ++ l') = execAll db' l' := by
  induction l generalizing db with
  | nil =>
    cases h
    rfl
  | cons s l ih =>
    simp only [execAll] at h
    split at h
    · next d hs =>
      rw [List.cons_append, execAll_cons_of_ok hs]
      exact ih h
    · cases h

/-- Where a list of statements stops, so many of them have been carried out. -/
theorem execAll_take (db : Database) (l : List Statement) :
    ∃ n, execAll db (l.take n) = ((execAll db l).1, .ok ()) := by
  induction l generalizing db with
  | nil => exact ⟨0, rfl⟩
  | cons s l ih =>
    cases hs : s.exec db with
    | ok d =>
      obtain ⟨n, hn⟩ := ih d
      exact ⟨n + 1, by rw [List.take_succ_cons, execAll_cons_of_ok hs, execAll_cons_of_ok hs, hn]⟩
    | error fault => exact ⟨0, by simp only [List.take_zero, execAll, hs]⟩

theorem execAll_rows {rows : List Row} (hr : db.rows = some rows) (l : List Statement) :
    (execAll db l).1.rows = some rows := by
  induction l generalizing db with
  | nil => exact hr
  | cons s l ih =>
    simp only [execAll]
    split
    · next d hs => exact ih (exec_rows hs hr)
    · exact hr

/-! ## The highest recorded step -/

theorem current_eq (db : Database) : current db = ((db.versions.getD []).max?).getD 0 := by
  unfold current
  cases db.versions.getD [] with
  | nil => rfl
  | cons v vs => rw [List.max?_cons', Option.getD_some]

theorem le_current {v : Int} (h : v ∈ db.versions.getD []) : v ≤ current db := by
  rw [current_eq]
  cases hm : (db.versions.getD []).max? with
  | none => simp_all
  | some m => exact (List.max?_eq_some_iff.1 hm).2 v h

theorem mem_insertVersion {v w : Int} {vs : List Int} : w ∈ Database.insertVersion v vs ↔ w = v ∨ w ∈ vs := by
  induction vs with
  | nil => simp [Database.insertVersion]
  | cons x xs ih =>
    simp only [Database.insertVersion]
    split
    · simp
    · simp only [List.mem_cons, ih]
      exact or_left_comm

/-- A step above all recorded ones is the highest once it is recorded. -/
theorem current_insertVersion {v : Int} {vs : List Int} (hv : db.versions = some vs) (h : current db < v) :
    current { db with versions := some (Database.insertVersion v vs) } = v := by
  rw [current_eq, Option.getD_some, List.max?_eq_some_iff.2, Option.getD_some]
  refine ⟨mem_insertVersion.2 (.inl rfl), fun w hw => ?_⟩
  rcases mem_insertVersion.1 hw with rfl | hw
  · exact Int.le_refl _
  · exact Int.le_of_lt (Int.lt_of_le_of_lt (le_current (by simpa [hv] using hw)) h)

/-! ## Steps -/

/-- A statement is a part of a step: it makes something that may be there already. -/
def Builds (s : Statement) : Prop := ∃ v, s = .makeTable v

theorem not_builds_record (v : Int) : ¬Builds (.record v) := by simp [Builds]

/-- The statements of steps, each recorded at its end. -/
def script (ss : List (Int × List Statement)) : List Statement := ss.flatMap fun s => s.2 ++ [.record s.1]

theorem pending_eq (v : Int) : pending v = script (steps.filter (v < ·.1)) := rfl

theorem steps_ascend : steps.Pairwise (·.1 < ·.1) := by decide

theorem builds_of_mem_steps {s : Int × List Statement} (h : s ∈ steps) : s.2 ≠ [] ∧ ∀ q ∈ s.2, Builds q := by
  simp only [steps, List.mem_singleton] at h
  subst h
  exact ⟨by simp, by simp [Builds]⟩

/-- What is pending above a pending step comes after it. -/
theorem filter_steps {c : Int} {s : Int × List Statement} {ss : List (Int × List Statement)}
    (h : steps.filter (c < ·.1) = s :: ss) : c < s.1 ∧ s ∈ steps ∧ steps.filter (s.1 < ·.1) = ss := by
  have hs : s ∈ steps.filter (c < ·.1) := h ▸ List.mem_cons_self
  obtain ⟨hm, hc⟩ := List.mem_filter.1 hs
  have hc : c < s.1 := by simpa using hc
  refine ⟨hc, hm, ?_⟩
  have hasc : (s :: ss).Pairwise (·.1 < ·.1) := h ▸ steps_ascend.filter _
  have habove : steps.filter (s.1 < ·.1) = (steps.filter (c < ·.1)).filter (s.1 < ·.1) := by
    rw [List.filter_filter]
    refine List.filter_congr fun p _ => ?_
    by_cases hp : s.1 < p.1
    · simp [hp, Int.lt_trans hc hp]
    · simp [hp]
  rw [habove, h, List.filter_cons_of_neg (by simp), List.filter_eq_self]
  exact fun p hp => by simpa using (List.pairwise_cons.1 hasc).1 p hp

/-- All that is pending applies a step or records one. -/
theorem mem_pending {v : Int} {s : Statement} (h : s ∈ pending v) : Builds s ∨ ∃ w, s = .record w := by
  obtain ⟨p, hp, hs⟩ := List.mem_flatMap.1 h
  rcases List.mem_append.1 hs with hs | hs
  · exact .inl ((builds_of_mem_steps (List.mem_filter.1 hp).1).2 s hs)
  · exact .inr ⟨p.1, List.mem_singleton.1 hs⟩

/-- The first record in a script ends its first step. -/
theorem script_eq_record {ss : List (Int × List Statement)} (hss : ∀ s ∈ ss, ∀ q ∈ s.2, Builds q) {v : Int}
    (hl : ∀ q ∈ l, Builds q) (h : script ss = l ++ .record v :: rest) :
    ∃ ss', ss = (v, l) :: ss' ∧ rest = script ss' := by
  cases ss with
  | nil => simp [script] at h
  | cons s ss =>
    obtain ⟨w, sql⟩ := s
    have hsql : ∀ q ∈ sql, Builds q := hss _ List.mem_cons_self
    have h : sql ++ .record w :: script ss = l ++ .record v :: rest := by simpa [script] using h
    rcases List.append_eq_append_iff.1 h with ⟨m, rfl, hm⟩ | ⟨m, rfl, hm⟩
    · cases m with
      | nil =>
        obtain ⟨hv, hrest⟩ := List.cons.inj hm
        cases hv
        exact ⟨ss, by simp, hrest.symm⟩
      | cons q m =>
        obtain ⟨rfl, -⟩ := List.cons.inj hm
        exact absurd (hl (.record w) (by simp)) (not_builds_record w)
    · cases m with
      | nil =>
        obtain ⟨hv, hrest⟩ := List.cons.inj hm
        cases hv
        exact ⟨ss, by simp, hrest⟩
      | cons q m =>
        obtain ⟨rfl, -⟩ := List.cons.inj hm
        exact absurd (hsql (.record v) (by simp)) (not_builds_record v)

/-! ## Where a run has come to -/

/-- A run has carried out the statements `before` and has `rest` to go. Of the step in hand the statements `done` are
behind it, and the table that they make is there; every step before is recorded. -/
structure InRun (before : List Statement) (db : Database) (rest : List Statement) : Prop where
  recorded : ∃ vs, db.versions = some vs
  place : ∃ done, done <:+ before ∧ (∀ q ∈ done, Builds q) ∧ pending (current db) = done ++ rest ∧
    (done = [] ∨ ∃ rows, db.rows = some rows)

/-- The database with a table of recorded steps. -/
def withRecords (db : Database) : Database := { db with versions := some (db.versions.getD []) }

theorem withRecords_of_versions {vs : List Int} (h : db.versions = some vs) : withRecords db = db := by
  obtain ⟨rows, nameTaken, versions⟩ := db
  cases h
  rfl

/-- The table of recorded steps comes first. -/
theorem run_eq (db : Database) : run db = execAll (withRecords db) (pending (current db)) := rfl

/-- After the first statement all pending steps are to go. -/
theorem inRun_start (db : Database) : InRun [.makeRecords] (withRecords db) (pending (current db)) where
  recorded := ⟨_, rfl⟩
  place := ⟨[], List.nil_suffix, by simp, rfl, .inl rfl⟩

/-- Statements that make what is there change nothing. -/
theorem execAll_built {rows : List Row} (hr : db.rows = some rows) (hl : ∀ q ∈ l, Builds q) :
    execAll db l = (db, .ok ()) := by
  induction l with
  | nil => rfl
  | cons q l ih =>
    obtain ⟨v, rfl⟩ := hl q List.mem_cons_self
    have hq : (Statement.makeTable v).exec db = .ok db := by
      refine makeTable_eq_ok.2 ⟨by simp [hr], ?_⟩
      rw [hr, Option.getD_some, ← hr]
    rw [execAll_cons_of_ok hq, ih fun q hm => hl q (List.mem_cons_of_mem _ hm)]

namespace InRun

/-- **To run again is to go on.** -/
theorem run (h : InRun before db rest) : Migration.run db = execAll db rest := by
  obtain ⟨vs, hv⟩ := h.recorded
  obtain ⟨done, -, hd, hp, hrows⟩ := h.place
  rw [run_eq, withRecords_of_versions hv, hp]
  refine execAll_append_of_ok ?_ rest
  rcases hrows with rfl | ⟨rows, hr⟩
  · rfl
  · exact execAll_built hr hd

/-- A step that is recorded next has just been applied, and is above all recorded ones. -/
theorem record {v : Int} (h : InRun before db (.record v :: rest)) :
    ∃ sql, (v, sql) ∈ steps ∧ sql <:+ before ∧ current db < v ∧ pending v = rest := by
  obtain ⟨done, hb, hd, hp, -⟩ := h.place
  have hsteps : ∀ s ∈ steps.filter (current db < ·.1), ∀ q ∈ s.2, Builds q := fun s hs =>
    (builds_of_mem_steps (List.mem_filter.1 hs).1).2
  obtain ⟨ss, hss, hrest⟩ := script_eq_record hsteps hd hp
  obtain ⟨hc, hm, habove⟩ := filter_steps hss
  exact ⟨done, hm, hb, hc, by rw [pending_eq, habove, hrest]⟩

/-- What is to be recorded can be. -/
theorem exec_record {v : Int} (h : InRun before db (.record v :: rest)) : ∃ db', db.record v = .ok db' := by
  obtain ⟨vs, hv⟩ := h.recorded
  obtain ⟨sql, -, -, hc, -⟩ := h.record
  refine ⟨_, record_eq_ok.2 ⟨vs, hv, fun hm => ?_, rfl⟩⟩
  have hle : v ≤ current db := le_current (by rwa [hv])
  omega

/-- One statement further. -/
theorem step {s : Statement} (h : InRun before db (s :: rest)) (hs : s.exec db = .ok db') :
    InRun (before ++ [s]) db' rest := by
  obtain ⟨done, hb, hd, hp, -⟩ := h.place
  rcases mem_pending (hp ▸ List.mem_append_right done List.mem_cons_self) with ⟨v, rfl⟩ | ⟨v, rfl⟩
  · obtain ⟨-, rfl⟩ := makeTable_eq_ok.1 hs
    obtain ⟨t, rfl⟩ := hb
    refine ⟨h.recorded, done ++ [.makeTable v], ⟨t, by simp⟩, ?_, ?_, .inr ⟨_, rfl⟩⟩
    · simpa [or_imp, forall_and, Builds] using hd
    · rw [List.append_assoc]
      exact hp
  · obtain ⟨sql, -, -, hc, hrest⟩ := h.record
    obtain ⟨vs, hv, -, rfl⟩ := record_eq_ok.1 hs
    refine ⟨⟨_, rfl⟩, [], List.nil_suffix, by simp, ?_, .inl rfl⟩
    rw [current_insertVersion hv hc, hrest, List.nil_append]

theorem execAll (h : InRun before db (l ++ rest)) (hl : Migration.execAll db l = (db', .ok ())) :
    InRun (before ++ l) db' rest := by
  induction l generalizing before db with
  | nil =>
    cases hl
    simpa using h
  | cons s l ih =>
    cases hs : s.exec db with
    | ok d =>
      rw [execAll_cons_of_ok hs] at hl
      simpa using ih (h.step hs) hl
    | error fault =>
      simp only [Migration.execAll, hs] at hl
      cases hl

/-- Where the table is, nothing fails any more. -/
theorem execAll_isOk (h : InRun before db rest) {rows : List Row} (hr : db.rows = some rows) :
    (Migration.execAll db rest).2 = .ok () := by
  induction rest generalizing before db rows with
  | nil => rfl
  | cons s rest ih =>
    have hs : ∃ d, s.exec db = .ok d := by
      obtain ⟨done, -, -, hp, -⟩ := h.place
      rcases mem_pending (hp ▸ List.mem_append_right done List.mem_cons_self) with ⟨v, rfl⟩ | ⟨v, rfl⟩
      · exact ⟨_, makeTable_eq_ok.2 ⟨by simp [hr], rfl⟩⟩
      · exact h.exec_record
    obtain ⟨d, hs⟩ := hs
    rw [execAll_cons_of_ok hs]
    exact ih (h.step hs) (exec_rows hs hr)

/-- At the end of a run every step is recorded or below a recorded one. -/
theorem finished (h : InRun before db []) {s : Int × List Statement} (hs : s ∈ steps) : s.1 ≤ current db := by
  obtain ⟨done, -, hd, hp, -⟩ := h.place
  refine Int.not_lt.1 fun hlt => ?_
  have hm : .record s.1 ∈ pending (current db) :=
    List.mem_flatMap.2 ⟨s, List.mem_filter.2 ⟨hs, by simpa using hlt⟩, by simp⟩
  rw [hp, List.append_nil] at hm
  exact not_builds_record s.1 (hd _ hm)

end InRun

/-- What has been carried out of a run, and what is to go. -/
theorem inRun_of_plan (hplan : plan db = before ++ rest) (hne : before ≠ [])
    (h : execAll db before = (db', .ok ())) : InRun before db' rest := by
  obtain ⟨s, l, rfl⟩ := List.exists_cons_of_ne_nil hne
  obtain ⟨rfl, hp⟩ := List.cons.inj hplan
  have hstart := inRun_start db
  rw [hp] at hstart
  exact hstart.execAll h

/-! ## Runs that stop -/

/-- What a run leaves that stops after so many statements. -/
def stop (db : Database) (n : Nat) : Database := (execAll db ((plan db).take n)).1

/-- A run that stops makes no difference to the next one. -/
theorem run_stop (db : Database) (n : Nat) : run (stop db n) = run db := by
  obtain ⟨m, hm⟩ := execAll_take db ((plan db).take n)
  rw [List.take_take] at hm
  generalize min m n = k at hm
  cases k with
  | zero =>
    have hdb : stop db n = db := congrArg Prod.fst hm.symm
    rw [hdb]
  | succ k =>
    have hplan := (List.take_append_drop (k + 1) (plan db)).symm
    have hin : InRun ((plan db).take (k + 1)) (stop db n) ((plan db).drop (k + 1)) :=
      inRun_of_plan hplan (by simp [plan]) hm
    calc run (stop db n) = execAll (stop db n) ((plan db).drop (k + 1)) := hin.run
      _ = execAll db ((plan db).take (k + 1) ++ (plan db).drop (k + 1)) := (execAll_append_of_ok hm _).symm
      _ = run db := by rw [← hplan, run]

theorem run_stops (db : Database) (stops : List Nat) : run (stops.foldl stop db) = run db := by
  induction stops generalizing db with
  | nil => rfl
  | cons n stops ih => rw [List.foldl_cons, ih, run_stop]

theorem stops_rows {rows : List Row} (hr : db.rows = some rows) (stops : List Nat) :
    (stops.foldl stop db).rows = some rows := by
  induction stops generalizing db with
  | nil => exact hr
  | cons n stops ih => exact ih (execAll_rows hr _)

/-- A run that is carried out stops after its last statement. -/
theorem stop_length (db : Database) : stop db (plan db).length = (run db).1 := by
  rw [stop, List.take_length, run]

/-! ## What is recorded -/

/-- Only its own record makes a step recorded. -/
theorem eq_record_of_exec {s : Statement} {v : Int} (h : s.exec db = .ok db') (hv : v ∈ db'.versions.getD [])
    (hno : v ∉ db.versions.getD []) : s = .record v := by
  cases s with
  | makeRecords =>
    cases h
    exact absurd hv hno
  | makeTable w =>
    obtain ⟨-, rfl⟩ := makeTable_eq_ok.1 h
    exact absurd hv hno
  | record w =>
    obtain ⟨vs, hvs, -, rfl⟩ := record_eq_ok.1 h
    rw [Option.getD_some, mem_insertVersion] at hv
    rw [hvs, Option.getD_some] at hno
    rw [hv.resolve_right hno]

/-- A step that has become recorded was recorded after the statements before its record were carried out. -/
theorem record_of_execAll {v : Int} (hv : v ∈ (execAll db l).1.versions.getD [])
    (hno : v ∉ db.versions.getD []) :
    ∃ before rest d, l = before ++ .record v :: rest ∧ execAll db before = (d, .ok ()) := by
  induction l generalizing db with
  | nil => exact absurd hv hno
  | cons s l ih =>
    cases hs : s.exec db with
    | error fault =>
      simp only [execAll, hs] at hv
      exact absurd hv hno
    | ok d =>
      rw [execAll_cons_of_ok hs] at hv
      by_cases hd : v ∈ d.versions.getD []
      · exact ⟨[], l, db, by rw [eq_record_of_exec hs hd hno, List.nil_append], rfl⟩
      · obtain ⟨before, rest, d', rfl, hb⟩ := ih hv hd
        exact ⟨s :: before, rest, d', rfl, by rw [execAll_cons_of_ok hs, hb]⟩

/-- The first statement is no record. -/
theorem ne_nil_of_plan {v : Int} (h : plan db = before ++ .record v :: rest) : before ≠ [] := by
  rintro rfl
  exact nomatch (List.cons.inj h).1

/-- A run that stops has applied the steps that it recorded. -/
theorem applied_of_recorded {v : Int} {n : Nat} (hv : v ∈ (stop db n).versions.getD [])
    (hno : v ∉ db.versions.getD []) :
    ∃ before sql rest, (v, sql) ∈ steps ∧ (plan db).take n = before ++ sql ++ .record v :: rest ∧
      (execAll db (before ++ sql)).2 = .ok () := by
  obtain ⟨before, rest, d, htake, hb⟩ := record_of_execAll hv hno
  have hplan : plan db = before ++ .record v :: (rest ++ (plan db).drop n) := by
    have hsplit := List.take_append_drop n (plan db)
    rw [htake] at hsplit
    simpa using hsplit.symm
  obtain ⟨sql, hm, ⟨first, rfl⟩, -, -⟩ := (inRun_of_plan hplan (ne_nil_of_plan hplan) hb).record
  exact ⟨first, sql, rest, hm, htake, by rw [hb]⟩

/-! ## Runs that fail -/

/-- Something is made before anything is recorded. -/
theorem builds_of_pending {s : Statement} (h : pending (current db) = s :: rest) : Builds s := by
  rcases mem_pending (h ▸ List.mem_cons_self) with hs | ⟨v, rfl⟩
  · exact hs
  · have hin := inRun_start db
    rw [h] at hin
    obtain ⟨sql, hm, hsql, -⟩ := hin.record
    obtain ⟨hne, hb⟩ := builds_of_mem_steps hm
    obtain ⟨q, hq⟩ := List.exists_mem_of_ne_nil sql hne
    obtain rfl := List.mem_singleton.1 (hsql.subset hq)
    exact nomatch hb _ hq

/-- A run that fails cannot make the table. It has recorded nothing. -/
theorem run_of_failed {e : Error} (h : (run db).2 = .error e) :
    (∃ text, e = .migrationFailed text) ∧ (run db).1 = withRecords db := by
  rw [run_eq] at h ⊢
  cases hp : pending (current db) with
  | nil =>
    rw [hp] at h
    cases h
  | cons s l =>
    rw [hp] at h
    obtain ⟨v, rfl⟩ := builds_of_pending hp
    cases hs : (Statement.makeTable v).exec (withRecords db) with
    | ok d =>
      -- the table is made now, and nothing fails after that
      have hin := inRun_start db
      rw [hp] at hin
      have hin := hin.step hs
      obtain ⟨-, rfl⟩ := makeTable_eq_ok.1 hs
      have hok := hin.execAll_isOk rfl
      rw [execAll_cons_of_ok hs, hok] at h
      cases h
    | error fault =>
      simp only [execAll, hs] at h ⊢
      cases h
      exact ⟨⟨_, rfl⟩, trivial⟩

/-- What a run does to a database, wherever it stops. -/
structure CrashSafe (db : Database) : Prop where
  /-- No row is changed or lost. -/
  rows : ∀ rows, db.rows = some rows →
    (∀ stops : List Nat, (stops.foldl stop db).rows = some rows) ∧ (run db).1.rows = some rows
  /-- A step that a run recorded was applied by that run before. -/
  applied : ∀ n v, v ∈ (stop db n).versions.getD [] → v ∉ db.versions.getD [] →
    ∃ before sql rest, (v, sql) ∈ steps ∧ (plan db).take n = before ++ sql ++ .record v :: rest ∧
      (execAll db (before ++ sql)).2 = .ok ()
  /-- After runs that stop, however often, a run that is carried out gives what it would have given at once. -/
  completed : ∀ stops : List Nat, run (stops.foldl stop db) = run db
  /-- Then no step is left to apply. -/
  finished : (run db).2 = .ok () → ∀ s ∈ steps, s.1 ≤ current (run db).1
  /-- A further run changes nothing. -/
  settled : run (run db).1 = run db
  /-- What is recorded was not recorded before. -/
  recorded : ∀ before v rest d, plan db = before ++ .record v :: rest → execAll db before = (d, .ok ()) →
    ∃ d', d.record v = .ok d'
  /-- A run fails only at a step that cannot be applied, and then has recorded nothing. -/
  failed : ∀ e, (run db).2 = .error e →
    (∃ text, e = .migrationFailed text) ∧ (run db).1.versions.getD [] = db.versions.getD []

/-- **Runs may stop anywhere.** -/
theorem runs_crash_safe (db : Database) : CrashSafe db where
  rows rows hr := ⟨fun stops => stops_rows hr stops, execAll_rows hr _⟩
  applied _ _ hv hno := applied_of_recorded hv hno
  completed := run_stops db
  finished hok s hs := by
    have hend : InRun (plan db) (run db).1 [] :=
      inRun_of_plan (List.append_nil _).symm (by simp [plan]) (Prod.ext rfl hok)
    exact hend.finished hs
  settled := by
    rw [← stop_length]
    exact run_stop db _
  recorded before v rest d hplan hb := (inRun_of_plan hplan (ne_nil_of_plan hplan) hb).exec_record
  failed e h := by
    obtain ⟨htext, hrun⟩ := run_of_failed h
    rw [hrun]
    exact ⟨htext, rfl⟩

end SchemaRelay.Migration

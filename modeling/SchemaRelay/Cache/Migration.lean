import SchemaRelay.Cache.Database

/-!
# Steps of the database's schema

The schema is built by numbered steps, and each is recorded once it is applied. Opening a database applies the steps
above the highest recorded one. A run is a list of statements that take effect one by one (`plan`), so a run that stops
anywhere leaves a database that the next run can complete.
-/

namespace SchemaRelay

/-- A statement of a run. -/
inductive Statement where
  /-- Makes the table of recorded steps unless it is there. -/
  | makeRecords
  /-- Makes the cache's table unless it is there; a part of the step with this number. -/
  | makeTable (version : Int)
  /-- Records a step. -/
  | record (version : Int)
  deriving DecidableEq, Repr

namespace Statement

/-- Carries out a statement. -/
def exec (db : Database) : Statement → Except StatementFault Database
  | .makeRecords => .ok { db with versions := some (db.versions.getD []) }
  | .makeTable _ =>
    if db.rows.isNone && db.nameTaken then .error (.nameTaken Database.tableName)
    else .ok { db with rows := some (db.rows.getD []) }
  | .record v => db.record v

/-- The failure of a run at a statement. -/
def failure (fault : StatementFault) : Statement → Error
  | .makeTable version => .migrationFailed s!"version {version}: {fault.message}"
  | _ => .ofFault fault

end Statement

namespace Migration

/-- The steps of the schema. -/
def steps : List (Int × List Statement) := [(1, [.makeTable 1])]

/-- The highest recorded step, zero when nothing is recorded. -/
def current (db : Database) : Int :=
  match db.versions.getD [] with
  | [] => 0
  | v :: vs => vs.foldl max v

/-- The statements of the steps above a version. -/
def pending (version : Int) : List Statement :=
  (steps.filter (version < ·.1)).flatMap fun s => s.2 ++ [.record s.1]

/-- The statements of a run. -/
def plan (db : Database) : List Statement := .makeRecords :: pending (current db)

/-- Carries out statements until one fails; what was done before stays. -/
def execAll (db : Database) : List Statement → Database × Except Error Unit
  | [] => (db, .ok ())
  | s :: rest =>
    match s.exec db with
    | .ok db => execAll db rest
    | .error fault => (db, .error (s.failure fault))

/-- Brings the schema up to date. -/
def run (db : Database) : Database × Except Error Unit := execAll db (plan db)

end Migration

end SchemaRelay

/-!
# Failures

What can go wrong while serving schemas, with the code and the words that a client sees. `Error.display` names the
kind of failure in front; `Error.message` is the same text without it.
-/

namespace SchemaRelay

/-- Why a database refused a statement. -/
inductive StatementFault where
  | noRows
  | noColumn (name : String)
  | noTable (name : String)
  | nameTaken (name : String)
  | notADatabase
  | cannotOpen (path : String)
  | blobColumn (index : Nat) (name : String)
  | duplicate (column : String)
  deriving DecidableEq, Repr

/-- The text of a fault. -/
def StatementFault.message : StatementFault → String
  | .noRows => "Query returned no rows"
  | .noColumn name => s!"Invalid column name: {name}"
  | .noTable name => s!"no such table: {name}"
  | .nameTaken name => s!"there is already an index named {name}"
  | .notADatabase => "file is not a database"
  | .cannotOpen path => s!"unable to open database file: {path}"
  | .blobColumn index name => s!"Invalid column type Blob at index: {index}, name: {name}"
  | .duplicate column => s!"UNIQUE constraint failed: {column}"

/-- Why a call on the database failed. -/
inductive DatabaseError where
  | closed
  | statement (fault : StatementFault)
  deriving DecidableEq, Repr

/-- The text of a failed call; a fault stands in quotes as it is. -/
def DatabaseError.message : DatabaseError → String
  | .closed => "ConnectionClosed"
  | .statement fault => s!"Error(\"{fault.message}\")"

/-- A failure of the service. -/
inductive Error where
  /-- A parameter of a request cannot be used. -/
  | invalidInput (text : String)
  /-- A schema URI or an extension path is no URL. -/
  | invalidUrl (text : String)
  /-- Neither the network nor the cache has the content. -/
  | fetchFailed (text : String)
  /-- The cache has no entry for the URI. -/
  | cacheMiss (uri : String)
  /-- The database behind the cache failed. -/
  | database (cause : DatabaseError)
  /-- A step of the database's schema could not be applied. -/
  | migrationFailed (text : String)
  /-- An extension's manifest could not be read. -/
  | manifest (text : String)
  deriving DecidableEq, Repr

namespace Error

/-- The code of the failure in a reply. -/
def code : Error → Int
  | .invalidInput _ => -32602
  | .invalidUrl _ => -32003
  | .fetchFailed _ => -32008
  | .cacheMiss _ => -32001
  | .database _ => -32002
  | .migrationFailed _ => -32002
  | .manifest _ => -32013

/-- The message of the failure in a reply. -/
def message : Error → String
  | .invalidInput text => text
  | .invalidUrl text => text
  | .fetchFailed text => text
  | .cacheMiss uri => uri
  | .database cause => cause.message
  | .migrationFailed text => text
  | .manifest text => text

/-- What stands before the message where the kind is shown. -/
def label : Error → String
  | .invalidInput _ => "INVALID_INPUT: "
  | .invalidUrl _ => "INVALID_URL: "
  | .fetchFailed _ => "FETCH_FAILED: "
  | .cacheMiss _ => "CACHE_MISS: "
  | .database _ => "CACHE_ERROR: "
  | .migrationFailed _ => "CACHE_ERROR: migration failed: "
  | .manifest _ => "MANIFEST_ERROR: "

/-- The failure with its kind. -/
def display (e : Error) : String := e.label ++ e.message

/-- The failure of a statement. -/
def ofFault (fault : StatementFault) : Error := .database (.statement fault)

end Error

end SchemaRelay

import SchemaRelay.Service.Session

/-!
# The command line

The program talks to its client over standard input and output and takes its settings from the environment. It has no
network of its own, so contents come from the cache, and it keeps the cache for as long as it runs.
-/

open SchemaRelay

namespace CommandLine

/-- The variables that the bytes of an environment block set. -/
def environment (block : ByteArray) : Environment :=
  (Text.pieces (· == '\x00') ((String.fromUTF8? block).getD "").toList).filterMap fun entry =>
    match entry.dropWhile (· != '=') with
    | '=' :: value => some (.ofList (entry.takeWhile (· != '=')), .ofList value)
    | _ => none

/-- The bytes of a file, if they can be read. -/
def bytes? (path : String) : IO (Option ByteArray) :=
  try return some (← IO.FS.readBinFile path)
  catch _ => return none

/-- The files at some paths, as far as they can be read. -/
def filesAt (paths : List String) : IO Files :=
  paths.foldlM (fun t path => do
    match ← bytes? path with
    | some bytes =>
      let names := FilePath.components path
      return (t.makePath names.dropLast).set names (.file bytes)
    | none => return t) ⟨[]⟩

/-- The paths at which the configuration file may be. -/
def configPaths (cwd : Names) (env : Environment) : List String :=
  match env.get? Config.fileVariable with
  | some path => (Config.upwards cwd).map fun dir => FilePath.join (Config.directoryPath dir) path
  | none => []

/-- Answers the lines of the client until none comes, and gives back the session. The manifests of extensions are read
anew for each line. -/
partial def talk (cwd : Names) (s : Session Unit) : IO (Session Unit) := do
  let line ← (← IO.getStdin).getLine
  if line.isEmpty then return s.close
  let dirs := s.service.config.extensionDirs
  let manifests ← filesAt (dirs.map fun d => FilePath.join (Config.directoryPath cwd) (Manifest.path d))
  let (reply, s) := s.line ⟨Http.Wire.unreachable, manifests.read cwd, ""⟩ line
  if let some v := reply then
    IO.println v.compact
    (← IO.getStdout).flush
  match s.stage with
  | .ended _ => return s
  | _ => talk cwd s

/-- Tells a failure. -/
def fail (message : String) : IO UInt32 := do
  IO.eprintln s!"Error: {message}"
  return 1

end CommandLine

open CommandLine in
/-- Starts the service and talks to one client. -/
def main : IO UInt32 := do
  let env := environment ((← bytes? "/proc/self/environ").getD .empty)
  let cwd := FilePath.components (← IO.currentDir).toString
  let files ← filesAt (configPaths cwd env)
  match (Service.start (files.makePath cwd) cwd env ()).2 with
  | .error fault => fail fault.message
  | .ok service =>
    match (← talk cwd (.new service)).fault? with
    | some fault => fail fault.message
    | none => return 0

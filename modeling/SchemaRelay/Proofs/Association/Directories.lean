import Mathlib.Data.List.Basic
import SchemaRelay.Proofs.Association.Contributions
import SchemaRelay.Proofs.Text.Utf8
import SchemaRelay.Service.Session

/-!
# Associations of directories

What a directory yields is told by its manifest alone (`Yields`): nothing unless that can be read, is UTF-8 and is JSON,
and else the associations of its contributions. The associations that are listed for directories are what they yield,
one directory after the other (`yieldsAll_iff`).

So a directory makes no difference to what the others yield, whatever its manifest is like, and the tool's call never
fails (`directories_listed`).
-/

namespace SchemaRelay

namespace Manifest

variable {read : FileReader} {directory : String}

theorem load_unreadable {fault : FileFault} (h : read (path directory) = .error fault) :
    load read directory = .error (.unreadable fault) := by
  rw [load, h]

theorem load_notUtf8 {bytes : ByteArray} (h : read (path directory) = .ok bytes) (hbytes : ¬bytes.IsValidUTF8) :
    load read directory = .error .notUtf8 := by
  simp only [load, h, Text.fromUTF8?_eq_none_iff.2 hbytes]

theorem load_notJson {text : String} (h : read (path directory) = .ok text.toUTF8) (htext : Json.parse? text = none) :
    load read directory = .error .notJson := by
  simp only [load, h, Text.fromUTF8?_toUTF8, htext]

theorem load_json {text : String} {package : Json} (h : read (path directory) = .ok text.toUTF8)
    (htext : Json.parse? text = some package) : load read directory = .ok ⟨directory, package⟩ := by
  simp only [load, h, Text.fromUTF8?_toUTF8, htext]

end Manifest

namespace Association

variable {read read' : FileReader} {directory : String} {directories : List String} {as bs : List Association}

/-- What a directory yields. -/
inductive Yields (read : FileReader) (directory : String) : List Association → Prop
  | unreadable {fault : FileFault} (h : read (Manifest.path directory) = .error fault) : Yields read directory []
  | notUtf8 {bytes : ByteArray} (h : read (Manifest.path directory) = .ok bytes) (hbytes : ¬bytes.IsValidUTF8) :
    Yields read directory []
  | notJson {text : String} (h : read (Manifest.path directory) = .ok text.toUTF8) (htext : Json.parse? text = none) :
    Yields read directory []
  | manifest {text : String} {package : Json} {as : List Association}
    (h : read (Manifest.path directory) = .ok text.toUTF8) (htext : Json.parse? text = some package)
    (has : CollectsAll [⟨directory, package⟩] as) : Yields read directory as

/-- What directories yield, one after the other. -/
inductive YieldsAll (read : FileReader) : List String → List Association → Prop
  | nil : YieldsAll read [] []
  | cons {directory : String} {directories : List String} {as bs : List Association} (h : Yields read directory as)
    (rest : YieldsAll read directories bs) : YieldsAll read (directory :: directories) (as ++ bs)

/-- The associations that are listed for directories. -/
def listed (read : FileReader) (directories : List String) : List Association :=
  collect (Manifest.loadAll read directories)

theorem listed_append (read : FileReader) (ds es : List String) :
    listed read (ds ++ es) = listed read ds ++ listed read es := by
  rw [listed, Manifest.loadAll, List.filterMap_append, collect_append]
  rfl

theorem listed_cons (read : FileReader) (directory : String) (ds : List String) :
    listed read (directory :: ds) = listed read [directory] ++ listed read ds :=
  listed_append read [directory] ds

theorem listed_of_error {fault : ManifestFault} (h : Manifest.load read directory = .error fault) :
    listed read [directory] = [] := by
  simp [listed, Manifest.loadAll, h, Except.toOption, collect]

/-- A directory lists what is collected from its manifest, if that can be loaded. -/
theorem listed_of_ok {m : Manifest} (h : Manifest.load read directory = .ok m) :
    listed read [directory] = collect [m] := by
  simp [listed, Manifest.loadAll, h, Except.toOption]

/-- What is listed for a directory is what it yields. -/
theorem Yields.listed_eq (h : Yields read directory as) : listed read [directory] = as := by
  cases h with
  | unreadable h => exact listed_of_error (Manifest.load_unreadable h)
  | notUtf8 h hbytes => exact listed_of_error (Manifest.load_notUtf8 h hbytes)
  | notJson h htext => exact listed_of_error (Manifest.load_notJson h htext)
  | manifest h htext has => rw [listed_of_ok (Manifest.load_json h htext), collectsAll_iff.1 has]

theorem yields_listed (read : FileReader) (directory : String) : Yields read directory (listed read [directory]) := by
  cases h : read (Manifest.path directory) with
  | error fault =>
    rw [listed_of_error (Manifest.load_unreadable h)]
    exact .unreadable h
  | ok bytes =>
    by_cases hbytes : bytes.IsValidUTF8
    · obtain ⟨text, rfl⟩ : ∃ text : String, bytes = text.toUTF8 := ⟨String.fromUTF8 bytes hbytes, rfl⟩
      cases htext : Json.parse? text with
      | none =>
        rw [listed_of_error (Manifest.load_notJson h htext)]
        exact .notJson h htext
      | some package =>
        rw [listed_of_ok (Manifest.load_json h htext)]
        exact .manifest h htext (collectsAll_iff.2 rfl)
    · rw [listed_of_error (Manifest.load_notUtf8 h hbytes)]
      exact .notUtf8 h hbytes

/-- What directories yield is determined, and is what is listed for them. -/
theorem yieldsAll_iff : YieldsAll read directories as ↔ listed read directories = as := by
  constructor
  · intro h
    induction h with
    | nil => rfl
    | cons h _ ih => rw [listed_cons, h.listed_eq, ih]
  · rintro rfl
    induction directories with
    | nil => exact .nil
    | cons directory directories ih =>
      rw [listed_cons]
      exact .cons (yields_listed read directory) ih

/-- Only the manifests of the directories are read. -/
theorem listed_congr (h : ∀ d ∈ directories, read' (Manifest.path d) = read (Manifest.path d)) :
    listed read' directories = listed read directories := by
  have hload : ∀ d ∈ directories, Manifest.load read' d = Manifest.load read d := by
    intro d hd
    rw [Manifest.load, Manifest.load, h d hd]
  rw [listed, listed, Manifest.loadAll, Manifest.loadAll]
  exact congrArg collect (List.filterMap_congr fun d hd => by rw [hload d hd])

/-- What listing the associations of directories comes to, in a service over a network with states of type `ν`. -/
structure DirectoriesListed (ν : Type) : Prop where
  /-- The tool's call has a result in every session: the associations that the directories yield. -/
  answered : ∀ (env : Surroundings ν) (s : Service ν) args, ∃ as, YieldsAll env.read s.config.extensionDirs as ∧
    Session.answer env s (.callTool "schema_associations" args) =
      (.ok (Session.toolResult (Tool.associationsJson as).pretty), s)
  /-- There is one list that they yield. -/
  all : ∀ read directories as, YieldsAll read directories as ↔ listed read directories = as
  /-- A directory adds what it yields in its place, whatever is listed before and after it. -/
  apart : ∀ read before directory after,
    listed read (before ++ directory :: after) = listed read before ++ listed read [directory] ++ listed read after ∧
      listed read (before ++ after) = listed read before ++ listed read after
  /-- Whatever else becomes of its manifest, the others yield what they did. -/
  changed : ∀ read read' before directory after,
    (∀ d ∈ before ++ after, read' (Manifest.path d) = read (Manifest.path d)) →
      listed read' (before ++ directory :: after) =
        listed read before ++ listed read' [directory] ++ listed read after
  /-- A directory that is listed twice yields twice. -/
  twice : ∀ read before directory between after,
    listed read (before ++ directory :: between ++ directory :: after) =
      listed read before ++ listed read [directory] ++ listed read between ++ listed read [directory] ++
        listed read after

/-- **Directories are listed** one after the other, each as if it were the only one. -/
theorem directories_listed (ν : Type) : DirectoriesListed ν where
  answered env s _ := ⟨listed env.read s.config.extensionDirs, yieldsAll_iff.2 rfl, rfl⟩
  all _ _ _ := yieldsAll_iff
  apart read before directory after := by
    rw [listed_append, listed_cons, List.append_assoc]
    exact ⟨rfl, listed_append read before after⟩
  changed read read' before directory after h := by
    have hbefore : listed read' before = listed read before :=
      listed_congr fun d hd => h d (List.mem_append_left _ hd)
    have hafter : listed read' after = listed read after :=
      listed_congr fun d hd => h d (List.mem_append_right _ hd)
    rw [listed_append, listed_cons, hbefore, hafter, List.append_assoc]
  twice read before directory between after := by
    rw [listed_append, listed_append, listed_cons read directory between, listed_cons read directory after]
    simp only [List.append_assoc]

end Association

end SchemaRelay

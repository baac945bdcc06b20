import DeviceFlow.Log
import DeviceFlow.Store.Basic
import DeviceFlow.Workflow.Text

/-!
# A store in a directory

Each workflow is a file whose stem is its id. Three extensions are known, in any case, and one
that stands earlier in the list wins where several files have the same id. Workflows are saved
in files with the first extension.
-/

namespace DeviceFlow

open Document (Format)

/-- A store in a directory, with the way its files are written and read. -/
structure DirectoryStore where
  root : String
  /-- The text of a saved workflow. -/
  write : Workflow → String
  /-- The workflow of a text. -/
  read? : Format → String → Option Workflow

namespace DirectoryStore

/-- The store in a directory. -/
def new (root : String) : DirectoryStore := ⟨root, Workflow.toText .yaml, Workflow.ofText?⟩

variable (store : DirectoryStore)

/-- The extensions of files with workflows, the preferred ones first. -/
def extensions : List String := ["yaml", "yml", "json"]

/-- How far an extension is from being the preferred one; none when it is not one of those for
    workflows. -/
def rank? (name : String) : Option Nat :=
  (Files.splitName name).2.bind fun e => extensions.idxOf? (Files.lowered e)

/-- The id of the workflow in a file, by the name of the file. -/
def idOf? (name : String) : Option String :=
  (rank? name).map fun _ => (Files.splitName name).1

/-- Whether one file comes before another: by its id, then by its extension. -/
def comesBefore (a b : String) : Bool :=
  let ida := (idOf? a).getD ""
  let idb := (idOf? b).getD ""
  if ida = idb then (rank? a).getD 0 ≤ (rank? b).getD 0 else ida ≤ idb

/-- An error about a path. -/
def failure {α : Type} (path : String) (e : Files.FileError) : Except StoreError α :=
  .error (.io path e)

/-- The names of all files with workflows in order. A missing directory has none. -/
def files (fs : FileSystem) : Except StoreError (List String) :=
  match fs.list store.root with
  | .ok names => .ok ((names.filter fun name => (idOf? name).isSome).mergeSort comesBefore)
  | .error .notFound => .ok []
  | .error e => failure store.root e

/-- The names of the files of one workflow, the preferred one first. -/
def filesOf (fs : FileSystem) (id : String) : Except StoreError (List String) :=
  (store.files fs).map fun names => names.filter fun name => idOf? name = some id

/-- The path of a file in the directory. -/
def path (name : String) : String := Files.join store.root name

/-- The path of the file in which a workflow is saved. -/
def savePath (id : String) : String := store.path (id ++ ".yaml")

/-- Reads the workflow in a file. -/
def readFile (fs : FileSystem) (id path : String) : Except StoreError Workflow :=
  let format := Workflow.formatOf path
  match fs.read path with
  | .error e => failure path e
  | .ok text =>
    match store.read? format text with
    | some w => .ok w
    | none => .error (.parse id (Workflow.parseFailure format))

/-- Loads the workflow with an id, if there is one. -/
def load (fs : FileSystem) (id : String) : Except StoreError (Option Workflow) := do
  match ← store.filesOf fs id with
  | [] => return none
  | name :: _ => return some (← store.readFile fs id (store.path name))

/-- What is reported about loading the workflow with an id. -/
def loadLog (fs : FileSystem) (id : String) : List LogRecord :=
  match store.filesOf fs id, store.load fs id with
  | .ok [], _ => [.debug .store s!"No workflow file for '{id}' in {store.root}"]
  | .ok (name :: _), .ok _ => [.debug .store s!"Loaded workflow '{id}' from {store.path name}"]
  | _, _ => []

/-- Keeps the first of equal neighbours. -/
def dropRepeats : List String → List String
  | a :: b :: rest => if a = b then dropRepeats (b :: rest) else a :: dropRepeats (b :: rest)
  | ids => ids

/-- The ids of all workflows, sorted. -/
def list (fs : FileSystem) : Except StoreError (List String) :=
  (store.files fs).map fun names => dropRepeats (names.filterMap idOf?)

/-- Writes a workflow into its file. The directory is made first, and what has been made of it
    stays also when the file cannot be written. -/
def writeFile (fs : FileSystem) (w : Workflow) : FileSystem × Except StoreError Unit :=
  match fs.buildDirectory store.root with
  | (fs, .error e) => (fs, failure store.root e)
  | (fs, .ok _) =>
    let path := store.savePath w.id
    match fs.write path (.text (store.write w)) with
    | .error e => (fs, failure path e)
    | .ok fs => (fs, .ok ())

/-- The workflow that is to be written when a workflow is saved now. -/
def prepare (fs : FileSystem) (now : Timestamp) (w : Workflow) : Except StoreError Workflow := do
  (w.inheritCreation (← store.load fs w.id)).stamped? now

/-- Saves a workflow in its file. -/
def save (fs : FileSystem) (now : Timestamp) (w : Workflow) :
    FileSystem × Except StoreError Workflow :=
  match store.prepare fs now w with
  | .error e => (fs, .error e)
  | .ok saved =>
    let (fs, result) := store.writeFile fs saved
    (fs, result.map fun _ => saved)

/-- What is reported about saving a workflow. -/
def saveLog (fs : FileSystem) (now : Timestamp) (w : Workflow) : List LogRecord :=
  store.loadLog fs w.id ++
  match store.load fs w.id with
  | .error _ => []
  | .ok existing =>
    (w.inheritCreation existing).validationLog ++
    match (store.save fs now w).2 with
    | .ok _ => [.info .store s!"Workflow '{w.id}' saved to {store.savePath w.id}"]
    | .error _ => []

/-- Removes files one after the other, up to the first that cannot be removed. -/
def removeAll (fs : FileSystem) : List String → FileSystem × Except StoreError Unit
  | [] => (fs, .ok ())
  | name :: rest =>
    match fs.remove (store.path name) with
    | .error e => (fs, failure (store.path name) e)
    | .ok fs => removeAll fs rest

/-- Removes all files of a workflow; whether there were any. -/
def delete (fs : FileSystem) (id : String) : FileSystem × Except StoreError Bool :=
  match store.filesOf fs id with
  | .error e => (fs, .error e)
  | .ok names =>
    let (fs, result) := store.removeAll fs names
    (fs, result.map fun _ => !names.isEmpty)

/-!
### Amid troubles

The same operations when the system does not do all that the tree of files allows. Without troubles
they are those above.
-/

/-- The names of all files with workflows in order, amid troubles. -/
def filesAmid (troubles : Files.Troubles) (fs : FileSystem) : Except StoreError (List String) :=
  match troubles.listing store.root with
  | none => store.files fs
  | some cause => failure store.root (.trouble cause)

/-- The names of the files of one workflow amid troubles, the preferred one first. -/
def filesOfAmid (troubles : Files.Troubles) (fs : FileSystem) (id : String) :
    Except StoreError (List String) :=
  (store.filesAmid troubles fs).map fun names => names.filter fun name => idOf? name = some id

/-- Reads the workflow in a file amid troubles. -/
def readFileAmid (troubles : Files.Troubles) (fs : FileSystem) (id path : String) :
    Except StoreError Workflow :=
  match troubles.reading path with
  | none => store.readFile fs id path
  | some cause => failure path (.trouble cause)

/-- Loads the workflow with an id amid troubles, if there is one. -/
def loadAmid (troubles : Files.Troubles) (fs : FileSystem) (id : String) :
    Except StoreError (Option Workflow) := do
  match ← store.filesOfAmid troubles fs id with
  | [] => return none
  | name :: _ => return some (← store.readFileAmid troubles fs id (store.path name))

/-- The ids of all workflows amid troubles, sorted. -/
def listAmid (troubles : Files.Troubles) (fs : FileSystem) : Except StoreError (List String) :=
  (store.filesAmid troubles fs).map fun names => dropRepeats (names.filterMap idOf?)

/-- Writes a workflow into its file amid troubles. -/
def writeFileAmid (troubles : Files.Troubles) (fs : FileSystem) (w : Workflow) :
    FileSystem × Except StoreError Unit :=
  match fs.buildDirectoryAmid troubles store.root with
  | (fs, .error e) => (fs, failure store.root e)
  | (fs, .ok _) =>
    let path := store.savePath w.id
    match fs.writeAmid troubles path (store.write w) with
    | (fs, .error e) => (fs, failure path e)
    | (fs, .ok _) => (fs, .ok ())

/-- The workflow that is to be written when a workflow is saved now amid troubles. -/
def prepareAmid (troubles : Files.Troubles) (fs : FileSystem) (now : Timestamp) (w : Workflow) :
    Except StoreError Workflow := do
  (w.inheritCreation (← store.loadAmid troubles fs w.id)).stamped? now

/-- Saves a workflow in its file amid troubles. -/
def saveAmid (troubles : Files.Troubles) (fs : FileSystem) (now : Timestamp) (w : Workflow) :
    FileSystem × Except StoreError Workflow :=
  match store.prepareAmid troubles fs now w with
  | .error e => (fs, .error e)
  | .ok saved =>
    let (fs, result) := store.writeFileAmid troubles fs saved
    (fs, result.map fun _ => saved)

/-- Removes files amid troubles, up to the first that cannot be removed. -/
def removeAllAmid (troubles : Files.Troubles) (fs : FileSystem) :
    List String → FileSystem × Except StoreError Unit
  | [] => (fs, .ok ())
  | name :: rest =>
    match fs.removeAmid troubles (store.path name) with
    | .error e => (fs, failure (store.path name) e)
    | .ok fs => removeAllAmid troubles fs rest

/-- Removes all files of a workflow amid troubles; whether there were any. -/
def deleteAmid (troubles : Files.Troubles) (fs : FileSystem) (id : String) :
    FileSystem × Except StoreError Bool :=
  match store.filesOfAmid troubles fs id with
  | .error e => (fs, .error e)
  | .ok names =>
    let (fs, result) := store.removeAllAmid troubles fs names
    (fs, result.map fun _ => !names.isEmpty)

end DirectoryStore

end DeviceFlow

import DeviceFlow.Dict
import DeviceFlow.Files.Path

/-!
# File systems

A tree of directories and files as a value: every place is a list of names from the root on,
and holds a file or is a directory. Paths are followed from the working directory, or from the
root, and every name on the way has to be a directory. The order in which the entries of a
directory are listed is not fixed by anything.

It is assumed that no entry is a link to another place, and that what the tree allows is done. What
else can keep an operation from being done, or stop it when it is done in part only, is said apart
from the tree, as `Troubles`.
-/

namespace DeviceFlow.Files

/-- Why the system refuses what the tree allows. -/
inductive Trouble where
  | permissionDenied
  | readOnly
  | noSpace
  | inputOutput
  /-- Any other reason, by its text. -/
  | other (text : String)
  deriving DecidableEq, Repr

/-- The text of a reason. -/
def Trouble.message : Trouble → String
  | .permissionDenied => "Permission denied (os error 13)"
  | .readOnly => "Read-only file system (os error 30)"
  | .noSpace => "No space left on device (os error 28)"
  | .inputOutput => "Input/output error (os error 5)"
  | .other text => text

/-- Why something cannot be done with a file. -/
inductive FileError where
  | notFound
  | exists
  | notDirectory
  | isDirectory
  | nameTooLong
  /-- The path holds the character with code zero. -/
  | zeroInPath
  /-- The content of the file is no text. -/
  | notText
  | trouble (cause : Trouble)
  deriving DecidableEq, Repr

/-- The text of an error. -/
def FileError.message : FileError → String
  | .notFound => "No such file or directory (os error 2)"
  | .exists => "File exists (os error 17)"
  | .notDirectory => "Not a directory (os error 20)"
  | .isDirectory => "Is a directory (os error 21)"
  | .nameTooLong => "File name too long (os error 36)"
  | .zeroInPath => "file name contained an unexpected NUL byte"
  | .notText => "stream did not contain valid UTF-8"
  | .trouble cause => cause.message

/-- What a file holds. -/
inductive Content where
  | text (s : String)
  /-- Bytes that are no text. -/
  | bytes
  deriving DecidableEq, Repr

/-- The characters that fill the first bytes, or none when these end within a character. -/
def firstChars? : Nat → List Char → Option (List Char)
  | 0, _ => some []
  | _, [] => some []
  | size, c :: rest =>
    if c.utf8Size ≤ size then (firstChars? (size - c.utf8Size) rest).map (c :: ·) else none

/-- What a file holds when only the first bytes of a text have been written to it. -/
def Content.start (size : Nat) (s : String) : Content :=
  match firstChars? size s.toList with
  | some chars => .text (String.ofList chars)
  | none => .bytes

/-- How a file is not written. A file that is opened for writing is emptied at once, so what has
    been begun leaves the first bytes of the new content only. -/
inductive WriteTrouble where
  | unbegun (cause : Trouble)
  | midway (size : Nat) (cause : Trouble)
  deriving DecidableEq, Repr

/-- What keeps operations on files from being done, by the paths that they are given. -/
structure Troubles where
  listing : String → Option Trouble
  reading : String → Option Trouble
  /-- The directories for the first parts of the path are made all the same. -/
  making : String → Option (Nat × Trouble)
  writing : String → Option WriteTrouble
  removing : String → Option Trouble

/-- Everything is done that the tree allows. -/
def Troubles.none : Troubles :=
  ⟨fun _ => .none, fun _ => .none, fun _ => .none, fun _ => .none, fun _ => .none⟩

/-- What stands at a place. -/
inductive Entry where
  | directory
  | file (content : Content)
  deriving DecidableEq, Repr

/-- A place: the names from the root on. -/
abbrev Place := List String

end Files

/-- A tree of directories and files, and the directory that paths start from. -/
structure FileSystem where
  entries : Dict Files.Place Files.Entry
  workingDirectory : Files.Place
  deriving DecidableEq

namespace FileSystem

open Files

/-- A file system with nothing in it but the working directory. -/
def empty : FileSystem := ⟨Dict.empty.insert ["work"] .directory, ["work"]⟩

instance : Inhabited FileSystem := ⟨empty⟩

variable (fs : FileSystem)

/-- What stands at a place. The root is a directory. -/
def entry? (place : Place) : Option Entry :=
  if place.isEmpty then some .directory else fs.entries.get? place

/-- Puts an entry at a place. -/
def put (place : Place) (entry : Entry) : FileSystem :=
  { fs with entries := fs.entries.insert place entry }

/-- The longest name in bytes. -/
def maxNameSize : Nat := 255

/-- Follows the parts of a path from a place. Whatever has a part after it has to be a
    directory; the place that is reached may be vacant. -/
def follow (place : Place) : List String → Except FileError Place
  | [] => .ok place
  | name :: rest =>
    match fs.entry? place with
    | none => .error .notFound
    | some (.file _) => .error .notDirectory
    | some .directory =>
      if name = "" ∨ name = "." then follow place rest
      else if name = ".." then follow place.dropLast rest
      else if maxNameSize < name.utf8ByteSize then .error .nameTooLong
      else follow (place ++ [name]) rest

/-- The place that a path starts from. -/
def start (path : String) : Except FileError Place :=
  if path.isEmpty then .error .notFound
  else if path.toList.contains '\x00' then .error .zeroInPath
  else if 4096 ≤ path.utf8ByteSize then .error .nameTooLong
  else .ok (if isAbsolute path then [] else fs.workingDirectory)

/-- The place that a path leads to. -/
def locate (path : String) : Except FileError Place := do
  fs.follow (← fs.start path) (parts path)

/-- What a path leads to. -/
def open? (path : String) : Except FileError Entry := do
  match fs.entry? (← fs.locate path) with
  | some entry => return entry
  | none => throw .notFound

/-- Whether a path leads to anything. -/
def contains (path : String) : Bool :=
  (fs.open? path).toOption.isSome

/-- The text of a file. -/
def read (path : String) : Except FileError String := do
  match ← fs.open? path with
  | .directory => throw .isDirectory
  | .file .bytes => throw .notText
  | .file (.text s) => return s

/-- The place of a file to be written. What stands before the last name has to be a directory.
    A slash after the last name asks for a directory, which is not made by writing. -/
def locateNew (path : String) : Except FileError Place := do
  let place ← fs.start path
  match (parts path).reverse.dropWhile (· = "") with
  | [] => return place
  | name :: before =>
    let place ← fs.follow place (before.reverse ++ ["."])
    if path.toList.getLast? = some '/' ∧ name ≠ "." ∧ name ≠ ".." then throw .isDirectory
    fs.follow place [name]

/-- Writes a file, which is created when there is none. -/
def write (path : String) (content : Content) : Except FileError FileSystem := do
  let place ← fs.locateNew path
  match fs.entry? place with
  | some .directory => throw .isDirectory
  | _ => return fs.put place (.file content)

/-- Removes a file. -/
def remove (path : String) : Except FileError FileSystem := do
  let place ← fs.locate path
  match fs.entry? place with
  | none => throw .notFound
  | some .directory => throw .isDirectory
  | some (.file _) => return { fs with entries := fs.entries.erase place }

/-- The name under which a place stands in a directory, if it is right in it. -/
def nameIn? : Place → Place → Option String
  | [], [name] => some name
  | a :: directory, b :: place => if a = b then nameIn? directory place else none
  | _, _ => none

/-- The names in the directory at a place. -/
def namesAt (place : Place) : List String :=
  fs.entries.keys.filterMap (nameIn? place)

/-- The names in a directory. -/
def list (path : String) : Except FileError (List String) := do
  let place ← fs.locate path
  match fs.entry? place with
  | none => throw .notFound
  | some (.file _) => throw .notDirectory
  | some .directory => return fs.namesAt place

/-- Makes the directories that the parts of a path name below a place, up to the first one that
    cannot be made. Those that have been made before stay. -/
def makeDirectories (fs : FileSystem) (place : Place) :
    List String → FileSystem × Except FileError Unit
  | [] => (fs, .ok ())
  | name :: rest =>
    if name = "" ∨ name = "." then makeDirectories fs place rest
    else if name = ".." then makeDirectories fs place.dropLast rest
    else if maxNameSize < name.utf8ByteSize then (fs, .error .nameTooLong)
    else
      let place := place ++ [name]
      match fs.entry? place with
      | some .directory => makeDirectories fs place rest
      | some (.file _) => (fs, .error (if rest.isEmpty then .exists else .notDirectory))
      | none => makeDirectories (fs.put place .directory) place rest

/-- Makes a directory and those above it, as far as they are missing and can be made. -/
def buildDirectory (path : String) : FileSystem × Except FileError Unit :=
  if path.isEmpty then (fs, .ok ())
  else if path.toList.contains '\x00' then (fs, .error .zeroInPath)
  else makeDirectories fs (if isAbsolute path then [] else fs.workingDirectory) (parts path)

/-- Makes a directory and those above it, as far as they are missing. -/
def makeDirectory (path : String) : Except FileError FileSystem :=
  match fs.buildDirectory path with
  | (made, .ok _) => .ok made
  | (_, .error e) => .error e

/-! ## Operations amid troubles -/

/-- Makes a directory and those above it amid troubles. -/
def buildDirectoryAmid (troubles : Troubles) (path : String) :
    FileSystem × Except FileError Unit :=
  match troubles.making path with
  | none => fs.buildDirectory path
  | some (count, cause) =>
    let base := if isAbsolute path then [] else fs.workingDirectory
    ((makeDirectories fs base ((parts path).take count)).1, .error (.trouble cause))

/-- Writes a text to a file amid troubles. -/
def writeAmid (troubles : Troubles) (path text : String) : FileSystem × Except FileError Unit :=
  let written : Content → Except FileError Unit → FileSystem × Except FileError Unit :=
    fun content result =>
      match fs.write path content with
      | .ok fs => (fs, result)
      | .error e => (fs, .error e)
  match troubles.writing path with
  | none => written (.text text) (.ok ())
  | some (.unbegun cause) => (fs, .error (.trouble cause))
  | some (.midway size cause) => written (.start size text) (.error (.trouble cause))

/-- Removes a file amid troubles. -/
def removeAmid (troubles : Troubles) (path : String) : Except FileError FileSystem :=
  match troubles.removing path with
  | none => fs.remove path
  | some cause => .error (.trouble cause)

/-! ## Trees with given files -/

/-- Adds a file with the directories above it. A path that no file can have is passed over. -/
def addFile (path : String) (content : Content) : FileSystem :=
  let prepared :=
    match (parent? path).map fs.makeDirectory with
    | some (.ok fs) => fs
    | _ => fs
  match prepared.write path content with
  | .ok fs => fs
  | .error _ => prepared

/-- A file system with the given files. -/
def ofFiles (files : List (String × Content)) : FileSystem :=
  files.foldl (fun fs file => fs.addFile file.1 file.2) empty

end FileSystem

end DeviceFlow

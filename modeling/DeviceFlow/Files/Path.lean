/-!
# Names of files

A path is a text of names with slashes between them. Its last name is made of a stem and an
extension: what follows the last dot, unless the dot is at the start.
-/

namespace DeviceFlow.Files

/-- The parts of a path between its slashes. -/
def parts (path : String) : List String :=
  (path.toList.splitOn '/').map String.ofList

/-- Whether a path starts at the root. -/
def isAbsolute (path : String) : Bool :=
  path.toList.head? = some '/'

/-- The last name of a path; none when the path ends by going up, or has no name at all. -/
def fileName? (path : String) : Option String :=
  ((parts path).filter fun p => p ≠ "" ∧ p ≠ ".").getLast?.filter (· ≠ "..")

/-- The stem and the extension of a name. -/
def splitName (name : String) : String × Option String :=
  let reversed := name.toList.reverse
  match reversed.dropWhile (· ≠ '.') with
  | [] | [_] => (name, none)
  | _ :: stem =>
    (String.ofList stem.reverse, some (String.ofList (reversed.takeWhile (· ≠ '.')).reverse))

/-- The extension of the last name of a path. -/
def extension? (path : String) : Option String :=
  (fileName? path).bind fun name => (splitName name).2

/-- A text with the ASCII letters made small. -/
def lowered (s : String) : String :=
  String.ofList (s.toList.map Char.toLower)

/-- The path of a name below a path. A name that starts at the root stands for itself. -/
def join (path name : String) : String :=
  if isAbsolute name || path.isEmpty then name
  else if path.toList.getLast? = some '/' then path ++ name
  else path ++ "/" ++ name

/-- Drops slashes and dots that say nothing from the end of a path, which is given in
    reverse. -/
def dropIdleEnd : List Char → List Char
  | '/' :: c :: rest => dropIdleEnd (c :: rest)
  | '.' :: '/' :: rest => dropIdleEnd ('/' :: rest)
  | cs => cs

/-- The path without its last name; empty when there is nothing before the name, and none when
    there is no name to drop. -/
def parent? (path : String) : Option String :=
  match dropIdleEnd path.toList.reverse with
  | [] | ['/'] => none
  | reversed =>
    some (String.ofList (dropIdleEnd (reversed.dropWhile (· ≠ '/'))).reverse)

end DeviceFlow.Files

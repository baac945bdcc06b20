import DeviceFlow.Device.Adb
import DeviceFlow.Text.Digits

/-!
# Stand-ins for programs

A rehearsal can have a short shell script stand in for the program that drives a device. A
script is a sequence of simple commands, which may print something, wait, interrupt the program
that has started it, or end with an exit code.
-/

namespace DeviceFlow.Rehearsal

/-- A shell script. -/
structure Script where
  text : String
  deriving DecidableEq, Repr

/-- What a script has done so far. -/
structure ScriptState where
  output : String
  errors : String
  /-- The exit code of the last command. -/
  code : Nat
  /-- Whether the program that has started the script has been interrupted. -/
  interrupts : Bool
  deriving DecidableEq, Repr

namespace Script

/-- How the next character of a script is read. -/
inductive Mode where
  | plain
  | single
  | double
  | comment
  deriving DecidableEq, Repr

/-- The words that have been read. Lists have the latest first. -/
structure Reading where
  mode : Mode
  /-- The word that is being read. -/
  word : Option (List Char)
  words : List String
  commands : List (List String)

/-- Adds characters to the word that is being read. -/
def Reading.grow (r : Reading) (cs : List Char) : Reading :=
  { r with word := some (cs.reverse ++ r.word.getD []) }

/-- Ends the word that is being read. -/
def Reading.endWord (r : Reading) : Reading :=
  match r.word with
  | none => r
  | some cs => { r with word := none, words := String.ofList cs.reverse :: r.words }

/-- Ends the command that is being read. -/
def Reading.endCommand (r : Reading) : Reading :=
  let r := r.endWord
  if r.words.isEmpty then r
  else { r with words := [], commands := r.words.reverse :: r.commands }

/-- The name by which a script knows the program that has started it. -/
def parentName : String := "parent"

/-- The name by which a script knows itself. -/
def ownName : String := "self"

/-- The characters that mean something between double quotes. -/
def isMark (c : Char) : Bool := c = '$' || c = '\x60' || c = '"' || c = '\\'

/-- Reads the commands of a script, given the arguments that it is started with. -/
def scan (arguments : List String) : List Char → Reading → Reading
  | [], r => r.endCommand
  | c :: rest, r =>
    match r.mode with
    | .comment =>
      if c = '\n' then scan arguments rest ({ r with mode := .plain }.endCommand)
      else scan arguments rest r
    | .single =>
      if c = '\'' then scan arguments rest { r with mode := .plain }
      else scan arguments rest (r.grow [c])
    | mode =>
      match c, rest with
      | '\\', '\n' :: rest => scan arguments rest r
      | '\\', d :: rest =>
        scan arguments rest (r.grow (if mode = .double ∧ !isMark d then ['\\', d] else [d]))
      | '$', '@' :: rest | '$', '*' :: rest =>
        scan arguments rest (r.grow (String.intercalate " " arguments).toList)
      | '$', 'P' :: 'P' :: 'I' :: 'D' :: rest => scan arguments rest (r.grow parentName.toList)
      | '$', '$' :: rest => scan arguments rest (r.grow ownName.toList)
      | '$', '#' :: rest => scan arguments rest (r.grow (toString arguments.length).toList)
      | '$', d :: rest =>
        if d.isDigit then
          let argument := arguments[Text.digitsValue [d] - 1]?
          scan arguments rest (r.grow (argument.getD "").toList)
        else scan arguments (d :: rest) (r.grow ['$'])
      | '"', rest =>
        scan arguments rest { r.grow [] with mode := if mode = .double then .plain else .double }
      | c, rest =>
        if mode = .double then scan arguments rest (r.grow [c])
        else if c = '\'' then scan arguments rest { r.grow [] with mode := .single }
        else if c = '\n' ∨ c = ';' then scan arguments rest r.endCommand
        else if c = ' ' ∨ c = '\t' then scan arguments rest r.endWord
        else if c = '#' ∧ r.word.isNone then scan arguments rest { r with mode := .comment }
        else if c = '>' ∧ !(r.word.getD []).all (fun d => d.isDigit || d = '>') then
          scan arguments rest (r.endWord.grow [c])
        else scan arguments rest (r.grow [c])

/-- The commands of a script that is started with some arguments. -/
def commands (s : Script) (arguments : List String) : List (List String) :=
  (scan arguments s.text.toList ⟨.plain, none, [], []⟩).commands.reverse

/-- Where a command prints to. -/
inductive Channel where
  | output
  | errors
  | nowhere
  deriving DecidableEq, Repr

/-- What a redirection names: the stream that is redirected, and where it goes to. A name that is
    not there follows as a word of its own. -/
def redirection? (word : String) : Option (Nat × String) :=
  let chars := word.toList
  match chars.dropWhile Char.isDigit with
  | '>' :: rest =>
    let number := chars.takeWhile Char.isDigit
    let target := if rest.head? = some '>' then rest.drop 1 else rest
    some (if number.isEmpty then 1 else Text.digitsValue number, String.ofList target)
  | _ => none

/-- Follows the redirections among words, given where the two streams go to. What is left are the
    other words, and where the first stream goes to. -/
def redirect (out err : Channel) : List String → Channel × List String
  | [] => (out, [])
  | word :: rest =>
    let channel (target : String) : Channel :=
      if target = "&1" ∨ target = "/dev/stdout" then out
      else if target = "&2" ∨ target = "/dev/stderr" then err
      else .nowhere
    match redirection? word, rest with
    | none, rest =>
      let (channel, words) := redirect out err rest
      (channel, word :: words)
    | some (1, ""), target :: rest => redirect (channel target) err rest
    | some (1, target), rest => redirect (channel target) err rest
    | some (_, ""), target :: rest => redirect out (channel target) rest
    | some (_, target), rest => redirect out (channel target) rest

/-- Prints a text. -/
def print (channel : Channel) (text : String) (s : ScriptState) : ScriptState :=
  match channel with
  | .output => { s with output := s.output ++ text }
  | .errors => { s with errors := s.errors ++ text }
  | .nowhere => s

/-- A text in which marks stand for characters and for words, with the words that are left. A
    mark without a word stands for nothing. -/
def formatted : List Char → List String → List Char × List String
  | '\\' :: 'n' :: cs, words => (formatted cs words).map ('\n' :: ·) id
  | '\\' :: 't' :: cs, words => (formatted cs words).map ('\t' :: ·) id
  | '\\' :: '\\' :: cs, words => (formatted cs words).map ('\\' :: ·) id
  | '%' :: '%' :: cs, words => (formatted cs words).map ('%' :: ·) id
  | '%' :: 's' :: cs, words =>
    (formatted cs words.tail).map ((words.head?.getD "").toList ++ ·) id
  | c :: cs, words => (formatted cs words).map (c :: ·) id
  | [], words => ([], words)

/-- A text in which marks stand for words, again and again as long as there are words left, but
    no more often than a number of times. -/
def formattedAll (format : List Char) : Nat → List String → List Char
  | 0, _ => []
  | limit + 1, words =>
    let (chars, rest) := formatted format words
    if rest.isEmpty ∨ rest.length = words.length then chars
    else chars ++ formattedAll format limit rest

/-- Carries out the commands of a script, up to the one that ends it. A script that is killed
    has no exit code. -/
def carryOut : List (List String) → ScriptState → Option Nat × ScriptState
  | [], s => (some s.code, s)
  | command :: rest, s =>
    let (channel, words) := redirect .output .errors command
    let s := { s with code := 0 }
    match words with
    | ["exit"] => (some s.code, s)
    | "exit" :: code :: _ => (some ((code.toNat?.getD 2) % 256), s)
    | "echo" :: "-n" :: words =>
      carryOut rest (print channel (String.intercalate " " words) s)
    | "echo" :: words =>
      carryOut rest (print channel (String.intercalate " " words ++ "\n") s)
    | "printf" :: format :: words =>
      let text := String.ofList (formattedAll format.toList (words.length + 1) words)
      carryOut rest (print channel text s)
    | "kill" :: arguments =>
      let target := arguments.getLast?
      if target = some parentName then carryOut rest { s with interrupts := true }
      else if target = some ownName then (none, s)
      else carryOut rest { s with code := 1 }
    | "false" :: _ => carryOut rest { s with code := 1 }
    | "sleep" :: _ | "true" :: _ | ":" :: _ | ["cat"] | [] => carryOut rest s
    | _ => carryOut rest { s with code := 127 }

/-- Runs a script with some arguments: how it ends, and whether it interrupts the program that
    has started it. -/
def run (s : Script) (arguments : List String) : Adb.Completed × Bool :=
  let (code, done) := carryOut (s.commands arguments) ⟨"", "", 0, false⟩
  (⟨code.map fun code => Int32.ofNat code, done.output, done.errors⟩, done.interrupts)

end Script

end DeviceFlow.Rehearsal

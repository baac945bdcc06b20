import DeviceFlow.Text.Blank
import DeviceFlow.Text.Search
import DeviceFlow.Variables

/-!
# Options

What can be said on the command line. An option is a word with a dash; some options take the
next word as their value, whatever it looks like. A word that is no option and no value names
the workflow, and there is at most one. The words are read from left to right; the first one
that is wrong, or that asks for help or for the version, ends the reading.
-/

namespace DeviceFlow.CommandLine

/-- What the program is to do. -/
structure Options where
  /-- The file of the workflow. -/
  workflow : String
  device : Option String
  isDryRun : Bool
  /-- The file of the settings. -/
  config : Option String
  /-- The directory of the workflows that are called. -/
  workflows : Option String
  /-- The file of the screen. -/
  snapshot : Option String
  /-- The program that drives the device. -/
  adb : Option String
  vars : Variables
  showsTimeline : Bool
  isVerbose : Bool
  deriving DecidableEq

/-- The options when nothing is said. -/
def Options.default : Options where
  workflow := "workflow.yaml"
  device := none
  isDryRun := false
  config := none
  workflows := none
  snapshot := none
  adb := none
  vars := Dict.empty
  showsTimeline := false
  isVerbose := false

instance : Inhabited Options := ⟨Options.default⟩

/-- An option without a value. -/
inductive Flag where
  | dryRun
  | verbose
  | timeline
  deriving DecidableEq, Repr

/-- An option with a value. -/
inductive Setting where
  | device
  | config
  | workflows
  | snapshot
  | adb
  | variable
  deriving DecidableEq, Repr

/-- What a word with a dash stands for. -/
inductive Keyword where
  | help
  | version
  | flag (flag : Flag)
  | setting (setting : Setting)
  deriving DecidableEq, Repr

/-- What the words of a flag are, the longest first. -/
def Flag.spellings : Flag → List String
  | .dryRun => ["--dry-run"]
  | .verbose => ["--verbose", "-v"]
  | .timeline => ["--timeline"]

/-- What the words of a setting are, the longest first. -/
def Setting.spellings : Setting → List String
  | .device => ["--device", "-s"]
  | .config => ["--config"]
  | .workflows => ["--workflows"]
  | .snapshot => ["--snapshot"]
  | .adb => ["--adb"]
  | .variable => ["--var"]

/-- The name of a setting in messages. -/
def Setting.name : Setting → String
  | .device => "--device"
  | .config => "--config"
  | .workflows => "--workflows"
  | .snapshot => "--snapshot"
  | .adb => "--adb"
  | .variable => "--var"

/-- What a word stands for, if it is one of the options. -/
def Keyword.ofWord? : String → Option Keyword
  | "--help" | "-h" => some .help
  | "--version" | "-V" => some .version
  | "--dry-run" => some (.flag .dryRun)
  | "--verbose" | "-v" => some (.flag .verbose)
  | "--timeline" => some (.flag .timeline)
  | "--device" | "-s" => some (.setting .device)
  | "--config" => some (.setting .config)
  | "--workflows" => some (.setting .workflows)
  | "--snapshot" => some (.setting .snapshot)
  | "--adb" => some (.setting .adb)
  | "--var" => some (.setting .variable)
  | _ => none

/-- What is wrong with a command line. -/
inductive UsageError where
  | unknownOption (word : String)
  /-- There is a workflow already. -/
  | unexpectedWord (word : String)
  | missingValue (setting : Setting)
  /-- The definition of a variable has no equals sign. -/
  | noDefinition (text : String)
  | emptyName (text : String)
  deriving DecidableEq, Repr

/-- The text of an error. -/
def UsageError.message : UsageError → String
  | .unknownOption word => s!"Unknown option: {word}"
  | .unexpectedWord word => s!"Unexpected argument: {word}"
  | .missingValue setting => s!"{setting.name} requires an argument"
  | .noDefinition text => s!"Invalid variable '{text}', expected NAME=VALUE"
  | .emptyName text => s!"Invalid variable '{text}': empty name"

/-- Sets a flag. -/
def Options.raise (o : Options) : Flag → Options
  | .dryRun => { o with isDryRun := true }
  | .verbose => { o with isVerbose := true }
  | .timeline => { o with showsTimeline := true }

/-- The name and the value of a variable: what stands before the first equals sign, without
    the blanks around it, and what stands after it. -/
def readVariable (text : String) : Except UsageError (String × String) :=
  match Text.splitAt? '=' text with
  | none => .error (.noDefinition text)
  | some (name, value) =>
    if Text.isBlankText name then .error (.emptyName text) else .ok (Text.trimmed name, value)

/-- Gives a setting a value. -/
def Options.assign (o : Options) (value : String) : Setting → Except UsageError Options
  | .device => .ok { o with device := some value }
  | .config => .ok { o with config := some value }
  | .workflows => .ok { o with workflows := some value }
  | .snapshot => .ok { o with snapshot := some value }
  | .adb => .ok { o with adb := some value }
  | .variable => do
    let (name, value) ← readVariable value
    return { o with vars := o.vars.insert name value }

/-- What is asked for. -/
inductive Command where
  | help
  | version
  | run (options : Options)
  deriving DecidableEq

/-- Whether a word looks like an option. -/
def isOption (word : String) : Bool := word.toList.head? = some '-'

/-- Reads words, given the options so far and whether the workflow has been named. -/
def Command.ofWordsFrom (o : Options) (named : Bool) : List String → Except UsageError Command
  | [] => .ok (.run o)
  | word :: rest =>
    match Keyword.ofWord? word with
    | some .help => .ok .help
    | some .version => .ok .version
    | some (.flag flag) => ofWordsFrom (o.raise flag) named rest
    | some (.setting setting) =>
      match rest with
      | [] => .error (.missingValue setting)
      | value :: rest =>
        match o.assign value setting with
        | .ok o => ofWordsFrom o named rest
        | .error e => .error e
    | none =>
      if isOption word then .error (.unknownOption word)
      else if named then .error (.unexpectedWord word)
      else ofWordsFrom { o with workflow := word } true rest

/-- Reads the words of a command line. -/
def Command.ofWords (words : List String) : Except UsageError Command :=
  ofWordsFrom Options.default false words

end DeviceFlow.CommandLine

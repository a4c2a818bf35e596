/-
# Command-line arguments

Arguments are taken from left to right and the first problem wins. Short flags can
stand together behind one hyphen, the value of a flag can be attached to it or follow
as the next argument, and two hyphens end the flags.

A directory flag whose value is not attached is *open*. What is wrong with it (no
value, an empty value, a second occurrence) is noticed only when the next known flag
is taken or the arguments end; an argument that is not known at all is reported first.
-/

import AvailabilityAnnotations.FileSystem.Path
import AvailabilityAnnotations.Text.Terminal

namespace AvailabilityAnnotations

namespace CommandLine

/-- The flags without a value that shape a run. -/
inductive Switch where
  | attributes
  | dryRun
  | json
  | verbose
  deriving DecidableEq, Repr

/-- The texts that are printed instead of a run. -/
inductive Page where
  | help
  /-- The help in short. -/
  | briefHelp
  | version
  deriving DecidableEq, Repr

inductive Flag where
  | switch (switch : Switch)
  | page (page : Page)
  | directory
  deriving DecidableEq, Repr

namespace Flag

def longNames : List (String × Flag) :=
  [("attributes", switch .attributes), ("directory", directory), ("dry-run", switch .dryRun),
   ("json", switch .json), ("verbose", switch .verbose), ("help", page .help),
   ("version", page .version)]

def shortNames : List (Char × Flag) :=
  [('C', directory), ('v', switch .verbose), ('h', page .briefHelp), ('V', page .version)]

/-- The flag as a message shows it: with its long name, and with its value if it has
one. -/
def shownName : Flag → String
  | switch .attributes => "--attributes"
  | switch .dryRun => "--dry-run"
  | switch .json => "--json"
  | switch .verbose => "--verbose"
  | page .help => "--help"
  | page .briefHelp => "--help"
  | page .version => "--version"
  | directory => "--directory <DIRECTORY>"

end Flag

/-- What is wrong with the arguments. -/
inductive UsageError where
  /-- An argument is not known, or there is no place for it. -/
  | unexpectedArgument (argument : Text)
  /-- A flag without a value was given one. -/
  | unexpectedValue (flag : Flag) (value : Text)
  /-- A flag has no value, or an empty one. -/
  | missingValue (flag : Flag)
  /-- A flag was given twice. -/
  | repeated (flag : Flag)
  deriving DecidableEq, Repr

namespace UsageError

/-- The message for the user. An argument is shown in it as a terminal would. -/
def message : UsageError → String
  | unexpectedArgument argument =>
      "error: unexpected argument '" ++ String.ofList argument.plain ++ "' found"
  | unexpectedValue flag value =>
      "error: unexpected value '" ++ String.ofList value.plain ++ "' for '" ++
        flag.shownName ++ "' found; no more were expected"
  | missingValue flag =>
      "error: a value is required for '" ++ flag.shownName ++ "' but none was supplied"
  | repeated flag => "error: the argument '" ++ flag.shownName ++ "' cannot be used multiple times"

end UsageError

/-- Why taking arguments stops before a run. -/
inductive Stop where
  | usage (problem : UsageError)
  | page (page : Page)
  deriving DecidableEq, Repr

/-- What the arguments said so far. -/
structure Arguments where
  switches : List Switch := []
  directory? : Option Text := none
  /-- Whether the directory flag is open, and the value that has come for it. -/
  open? : Option (Option Text) := none
  deriving DecidableEq, Repr

namespace Arguments

def has (arguments : Arguments) (switch : Switch) : Bool :=
  arguments.switches.contains switch

def directory (arguments : Arguments) : Path :=
  ⟨arguments.directory?.getD ['.']⟩

def giveDirectory (arguments : Arguments) (value : Text) : Except Stop Arguments :=
  if arguments.directory?.isSome then .error (.usage (.repeated .directory))
  else if value = [] then .error (.usage (.missingValue .directory))
  else .ok { arguments with directory? := value }

/-- Take the value that has come for an open flag. -/
def settle (arguments : Arguments) : Except Stop Arguments :=
  match arguments.open? with
  | none => .ok arguments
  | some none => .error (.usage (.missingValue .directory))
  | some (some value) => { arguments with open? := none }.giveDirectory value

/-- Take a flag to which no value is attached. -/
def takeFlag (arguments : Arguments) (flag : Flag) : Except Stop Arguments := do
  let arguments ← arguments.settle
  match flag with
  | .page page => .error (.page page)
  | .directory => return { arguments with open? := some none }
  | .switch switch =>
      if arguments.has switch then .error (.usage (.repeated flag))
      else return { arguments with switches := switch :: arguments.switches }

/-- Take a flag with the value that is attached to it. -/
def takeAttached (arguments : Arguments) (flag : Flag) (value : Text) :
    Except Stop Arguments := do
  match flag with
  | .directory => (← arguments.settle).giveDirectory value
  | _ => .error (.usage (.unexpectedValue flag value))

/-- Take an argument behind its two hyphens. -/
def takeLong (arguments : Arguments) (text : Text) : Except Stop Arguments :=
  let name := text.takeWhile (· ≠ '=')
  match Flag.longNames.lookup (String.ofList name), text.dropWhile (· ≠ '=') with
  | none, _ => .error (.usage (.unexpectedArgument ('-' :: '-' :: name)))
  | some flag, [] => arguments.takeFlag flag
  | some flag, _ :: value => arguments.takeAttached flag value

/-- Take the short flags behind a hyphen. The directory flag takes the rest of the
argument as its value, with or without an equals sign. -/
def takeShort (arguments : Arguments) : Text → Except Stop Arguments
  | [] => .ok arguments
  | char :: rest =>
      match Flag.shortNames.lookup char, rest with
      | none, _ => .error (.usage (.unexpectedArgument ['-', char]))
      | some .directory, '=' :: value => arguments.takeAttached .directory value
      | some .directory, first :: value => arguments.takeAttached .directory (first :: value)
      | some flag, _ => do (← arguments.takeFlag flag).takeShort rest

def takeAll (arguments : Arguments) : List Text → Except Stop Arguments
  | [] => arguments.settle
  | ['-', '-'] :: [] => arguments.settle
  | ['-', '-'] :: argument :: _ => .error (.usage (.unexpectedArgument argument))
  | ('-' :: '-' :: text) :: others => do (← arguments.takeLong text).takeAll others
  | ('-' :: char :: text) :: others => do (← arguments.takeShort (char :: text)).takeAll others
  | argument :: others =>
      -- Only an open flag has a place for an argument that is no flag.
      if arguments.open? = some none then
        { arguments with open? := some (some argument) }.takeAll others
      else .error (.usage (.unexpectedArgument argument))

/-- Read the arguments of the command line. -/
def ofList (arguments : List Text) : Except Stop Arguments :=
  takeAll {} arguments

end Arguments

end CommandLine

end AvailabilityAnnotations

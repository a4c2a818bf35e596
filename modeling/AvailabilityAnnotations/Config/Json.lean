/-
# Configurations as JSON texts

A configuration is read from an object, whose members may stand in any order, or from
an array, whose items stand in the order of the fields. A field that is not given has
its default. Members with other keys are passed over, whatever their values are, but a
field may not be given twice.
-/

import AvailabilityAnnotations.Config
import AvailabilityAnnotations.Json.Collection
import AvailabilityAnnotations.Json.Value

namespace AvailabilityAnnotations

namespace Config

open Json (Problem skipBlank)

/-- The fields of a configuration. -/
inductive Field where
  | root
  | sourceDirectories
  | extension
  | keyword
  | placeholder
  | mode
  | dryRun
  deriving DecidableEq, Repr

namespace Field

/-- The fields in the order in which an array gives them. -/
def all : List Field :=
  [root, sourceDirectories, extension, keyword, placeholder, mode, dryRun]

def key : Field → String
  | root => "root"
  | sourceDirectories => "source_dirs"
  | extension => "extension"
  | keyword => "attribute"
  | placeholder => "placeholder_platform"
  | mode => "mode"
  | dryRun => "dry_run"

def ofKey? (key : Text) : Option Field :=
  all.find? fun field => field.key.toList = key

end Field

/-- The fields that were given so far. -/
structure Given where
  root? : Option Path := none
  sourceDirectories? : Option (List Path) := none
  extension? : Option Text := none
  keyword? : Option Text := none
  placeholder? : Option Text := none
  mode? : Option Mode := none
  dryRun? : Option Bool := none
  deriving DecidableEq, Repr

namespace Given

def has (given : Given) : Field → Bool
  | .root => given.root?.isSome
  | .sourceDirectories => given.sourceDirectories?.isSome
  | .extension => given.extension?.isSome
  | .keyword => given.keyword?.isSome
  | .placeholder => given.placeholder?.isSome
  | .mode => given.mode?.isSome
  | .dryRun => given.dryRun?.isSome

/-- The configuration with defaults for what was not given. -/
def complete (given : Given) : Config :=
  let default : Config := {}
  { root := given.root?.getD default.root
    sourceDirectories := given.sourceDirectories?.getD default.sourceDirectories
    extension := given.extension?.getD default.extension
    keyword := given.keyword?.getD default.keyword
    placeholder := given.placeholder?.getD default.placeholder
    mode := given.mode?.getD default.mode
    dryRun := given.dryRun?.getD default.dryRun }

end Given

def readText (text : Text) : Except Problem (Text × Text) :=
  match skipBlank text with
  | '"' :: rest => Json.readString rest
  | other => .error (Json.mismatch other)

def readPath (text : Text) : Except Problem (Path × Text) :=
  (readText text).map fun (path, rest) => (⟨path⟩, rest)

def readPaths (text : Text) : Except Problem (List Path × Text) :=
  match skipBlank text with
  | '[' :: rest => Json.readItems readPath rest
  | other => .error (Json.mismatch other)

def readFlag (text : Text) : Except Problem (Bool × Text) :=
  match skipBlank text with
  | 't' :: rest => (Json.readWord "rue".toList rest).map (true, ·)
  | 'f' :: rest => (Json.readWord "alse".toList rest).map (false, ·)
  | other => .error (Json.mismatch other)

/-- Read the word for a mode, after its opening quote. -/
def readModeWord (text : Text) : Except Problem (Mode × Text) := do
  let (word, rest) ← Json.readString text
  match Mode.ofWord? word with
  | none => .error .mismatched
  | some mode => return (mode, rest)

def readNull (text : Text) : Except Problem Text :=
  match skipBlank text with
  | 'n' :: rest => Json.readWord "ull".toList rest
  | other => .error (Json.mismatch other)

def readObjectEnd (text : Text) : Except Problem Text :=
  match skipBlank text with
  | [] => .error .truncated
  | char :: rest => if char = '\x7d' then .ok rest else .error .malformed

/-- Read a mode: its word, or an object whose one member has the word as its key and
null as its value. -/
def readMode (text : Text) : Except Problem (Mode × Text) :=
  match skipBlank text with
  | [] => .error .truncated
  | char :: rest =>
      if char = '"' then readModeWord rest
      else if char = '\x7b' then
        match skipBlank rest with
        | [] => .error .truncated
        | char :: rest =>
            if char = '"' then do
              let (mode, rest) ← readModeWord rest
              let rest ← readNull (← Json.readColon rest)
              return (mode, ← readObjectEnd rest)
            else .error .malformed
      else .error .malformed

/-- Read the value of a field. -/
def readField (given : Given) (text : Text) : Field → Except Problem (Given × Text)
  | .root => (readPath text).map fun (value, rest) => ({ given with root? := value }, rest)
  | .sourceDirectories =>
      (readPaths text).map fun (value, rest) =>
        ({ given with sourceDirectories? := value }, rest)
  | .extension =>
      (readText text).map fun (value, rest) => ({ given with extension? := value }, rest)
  | .keyword =>
      (readText text).map fun (value, rest) => ({ given with keyword? := value }, rest)
  | .placeholder =>
      (readText text).map fun (value, rest) => ({ given with placeholder? := value }, rest)
  | .mode => (readMode text).map fun (value, rest) => ({ given with mode? := value }, rest)
  | .dryRun => (readFlag text).map fun (value, rest) => ({ given with dryRun? := value }, rest)

/-- Read a member of an object, after the opening quote of its key. That a field was
given before is noticed as soon as its key is read. -/
def readMember (given : Given) (text : Text) : Except Problem (Given × Text) := do
  let (key, rest) ← Json.readString text
  match Field.ofKey? key with
  | none => return (given, ← Json.skipValue (← Json.readColon rest))
  | some field =>
      if given.has field then .error .mismatched
      else readField given (← Json.readColon rest) field

/-- Read the items of an array for the given fields, `isFirst` if none was read yet,
and the closing bracket. There may be fewer items than fields, but not more. -/
def readFields (isFirst : Bool) : List Field → Given → Text → Except Problem (Given × Text)
  | fields, given, text =>
      match skipBlank text with
      | [] => .error .truncated
      | char :: rest =>
          if char = ']' then .ok (given, rest)
          else
            match fields with
            | [] => .error .malformed
            | field :: fields =>
                if isFirst then do
                  let (given, rest) ← readField given text field
                  readFields false fields given rest
                else if char = ',' then do
                  let (given, rest) ← readField given rest field
                  readFields false fields given rest
                else .error .malformed

/-- Read a configuration, with nothing but blanks around it. -/
def ofJson (text : Text) : Except Problem Config := do
  let (given, rest) ←
    match skipBlank text with
    | [] => .error .truncated
    | char :: rest =>
        if char = '\x7b' then Json.readMembers readMember {} rest
        else if char = '[' then readFields true Field.all {} rest
        else .error (Json.mismatch (char :: rest))
  if skipBlank rest = [] then return given.complete else .error .malformed

/-- The configuration as an object of all its fields. -/
def toJson (config : Config) : Json :=
  .object
    [(Field.root.key, .string config.root.text),
     (Field.sourceDirectories.key,
       .array (config.sourceDirectories.map fun path => .string path.text)),
     (Field.extension.key, .string config.extension),
     (Field.keyword.key, .string config.keyword),
     (Field.placeholder.key, .string config.placeholder),
     (Field.mode.key, .string config.mode.word.toList),
     (Field.dryRun.key, .bool config.dryRun)]

end Config

end AvailabilityAnnotations

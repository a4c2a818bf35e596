/-
# Log filters

A filter is a list of directives, written with commas between them. A directive sets
the least important level that is still shown, for everything or for the parts of the
program whose name begins with a given target:

    info
    availability::scan=debug

A target may be followed by a scope in brackets, which asks for a span around the event
or for a field of it:

    availability[update]=debug
    [{message}]=debug

No event of this program stands in a span, and the one field of each is its message, so
a directive that asks for anything else decides about nothing.

For an event the directive with the longest target that fits decides, one with a field
before one without, and of those the last one. An event for which no directive fits is
not shown.
-/

import AvailabilityAnnotations.Log
import AvailabilityAnnotations.Log.Field

namespace AvailabilityAnnotations

namespace Log

/-- What a directive asks for besides a target. -/
structure Scope where
  span? : Option Text := none
  field? : Option Field := none
  deriving DecidableEq, Repr

namespace Scope

/-- Whether the events of this program are in the scope. -/
def holds (scope : Scope) : Bool :=
  scope.span?.isNone && scope.field?.all Field.isMessage

/-- Read a scope after its opening bracket: the name of a span, or a field in braces
with the name of a span in front of it that may be left out.

The directive without the blanks in front of it decides where the field stands. It is
cut from the whole text at that place, so blanks in front shift the field by their
bytes. -/
def read? (whole directive text : Text) : Option (Scope × Text) :=
  let span := text.takeWhile fun char => char ≠ ']' && char ≠ '\x7b'
  match text.dropWhile fun char => char ≠ ']' && char ≠ '\x7b' with
  | [] => none
  | ']' :: rest => some (⟨some span, none⟩, rest)
  | _ :: inside =>
      let width := Text.width (inside.takeWhile (· ≠ '\x7d'))
      match inside.dropWhile (· ≠ '\x7d') with
      | _ :: ']' :: rest => do
          let front ← whole.dropWidth? (directive.width - Text.width inside)
          let field ← Field.ofText? (← front.takeWidth? width)
          if width = 0 then none
          else return (⟨if span = [] then none else some span, some field⟩, rest)
      | _ => none

end Scope

/-- One directive of a filter. -/
structure Directive where
  /-- What the names of the parts begin with that the directive is about; `none` if it
  is about all of them. -/
  target? : Option Text := none
  scope : Scope := {}
  /-- The least important level that is shown; `none` if nothing is. -/
  limit? : Option Level
  deriving DecidableEq, Repr

namespace Directive

/-- The levels from the one that shows nothing to the one that shows everything. A
level can be given by its place among them. -/
def limits : List (Option Level) :=
  [none, some .error, some .warn, some .info, some .debug, some .trace]

/-- The levels by name. -/
def namedLimits : List (String × Option Level) :=
  [("off", none), ("error", some .error), ("warn", some .warn), ("info", some .info),
   ("debug", some .debug), ("trace", some .trace)]

/-- Read a number in decimal digits, with or without a plus sign. -/
def readNumber? (word : Text) : Option Nat :=
  let digits := match word with | '+' :: digits => digits | _ => word
  if digits ≠ [] ∧ digits.all Char.isDigit then some (Text.digitsValue digits) else none

/-- Read a level: its name in letters of either case, or its number. -/
def readLimit? (word : Text) : Option (Option Level) :=
  match readNumber? word with
  | some number => limits[number]?
  | none => namedLimits.lookup (String.ofList (word.map Char.toLower))

/-- Read a level behind an equals sign. One that is left out shows everything. -/
def readSetLimit? (word : Text) : Option (Option Level) :=
  if word = [] then some (some .trace) else readLimit? word

/-- Whether a directive can begin with the character. -/
def canBegin (char : Char) : Bool :=
  char = '[' || char = '-' || char = ':' || char = '_' || Text.isAlphanumeric char

/-- Read a directive: a level alone, or a target, a scope and a level, each of which may
be left out. Blanks in front belong to the target, though no level can be set behind
them then. -/
def ofText? (text : Text) : Option Directive :=
  let directive := text.dropWhile Text.isBlank
  match directive with
  | [] => none
  | first :: _ =>
      let target := text.takeWhile fun char => char ≠ '=' && char ≠ '['
      let target? := if target = [] then none else some target
      let isIndented := text.head?.any Text.isBlank
      if !canBegin first then none
      else
        match text.dropWhile fun char => char ≠ '=' && char ≠ '[' with
        | [] =>
            match readLimit? text with
            | some limit? => some { limit? }
            | none => some { target?, limit? := some .trace }
        | '=' :: word =>
            if isIndented then none
            else (readSetLimit? word).map fun limit? => { target?, limit? }
        | _ :: inside => do
            let (scope, rest) ← Scope.read? text directive inside
            match rest with
            | '=' :: word =>
                if isIndented then none
                else (readSetLimit? word).map fun limit? => { target?, scope, limit? }
            | _ =>
                if rest.all Text.isBlank then
                  some { target?, scope, limit? := some .trace }
                else none

/-- Whether the directive is about the events of a part. -/
def fits (directive : Directive) (part : Part) : Bool :=
  directive.target?.all (·.isPrefixOf part.name.toList) && directive.scope.holds

/-- How narrow a directive is: first by its target, of which any is narrower than none,
then by its field. -/
def narrowness (directive : Directive) : Nat :=
  2 * (match directive.target? with | none => 0 | some target => target.length + 1) +
    if directive.scope.field?.isSome then 1 else 0

end Directive

/-- The directives that decide which events are shown. -/
abbrev Filter := List Directive

namespace Filter

/-- The filter that shows everything up to a level. -/
def upTo (level : Level) : Filter :=
  [{ limit? := some level }]

/-- Read a filter. Empty directives are left out, a filter of no directives shows
errors only, and one directive that cannot be read spoils the whole filter. -/
def ofText? (text : Text) : Option Filter := do
  let directives ←
    ((Text.pieces ',' text).filter (· ≠ [])).mapM Directive.ofText?
  return if directives = [] then upTo .error else directives

/-- The directive that decides about a part. -/
def directive? (filter : Filter) (part : Part) : Option Directive :=
  (filter.filter (·.fits part)).foldl
    (fun best? directive =>
      match best? with
      | none => some directive
      | some best => if best.narrowness ≤ directive.narrowness then some directive else some best)
    none

/-- Whether an event is shown. -/
def shows (filter : Filter) (event : Event) : Bool :=
  match (filter.directive? event.part).bind Directive.limit? with
  | none => false
  | some limit => event.level.rank ≤ limit.rank

end Filter

end Log

end AvailabilityAnnotations

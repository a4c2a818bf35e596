/-
# Log events

A run leaves a trail of events. An event has a level and comes from one part of the
program; both decide, by a filter, whether it is shown.
-/

import AvailabilityAnnotations.FileSystem.Cause
import AvailabilityAnnotations.FileSystem.Path
import AvailabilityAnnotations.Text.Blank
import AvailabilityAnnotations.Text.Terminal

namespace AvailabilityAnnotations

namespace Log

/-- How important an event is. -/
inductive Level where
  | error
  | warn
  | info
  | debug
  | trace
  deriving DecidableEq, Repr

namespace Level

/-- The place of a level in the order from the most important to the least. -/
def rank : Level → Nat
  | error => 1
  | warn => 2
  | info => 3
  | debug => 4
  | trace => 5

def name : Level → String
  | error => "ERROR"
  | warn => "WARN"
  | info => "INFO"
  | debug => "DEBUG"
  | trace => "TRACE"

end Level

/-- The parts of the program that log events. -/
inductive Part where
  /-- The search for sources. -/
  | search
  /-- The update of files. -/
  | files
  /-- The update of lines. -/
  | lines
  deriving DecidableEq, Repr

namespace Part

def name : Part → String
  | search => "availability::scan"
  | files => "availability::rewrite"
  | lines => "availability::expand"

end Part

/-- What can happen in a run. -/
inductive Event where
  | missingRoot (root : Path)
  | directorySkipped (path : Path) (cause : Cause)
  | sourcesFound (count : Nat)
  | lineChanged (path : Path) (line : Nat) (body : Text)
  | fileUpdated (path : Path)
  | finished (annotations files changed : Nat)
  deriving DecidableEq, Repr

namespace Event

def level : Event → Level
  | missingRoot _ => .debug
  | directorySkipped .. => .debug
  | sourcesFound _ => .debug
  | lineChanged .. => .debug
  | fileUpdated _ => .debug
  | finished .. => .info

/-- Where the event comes from. -/
def part : Event → Part
  | missingRoot _ => .search
  | directorySkipped .. => .search
  | sourcesFound _ => .files
  | lineChanged .. => .lines
  | fileUpdated _ => .files
  | finished .. => .files

/-- The text of the event. A changed line is shown without the blanks at its ends. -/
def message : Event → String
  | missingRoot root => "Skipping missing source root " ++ toString root
  | directorySkipped path cause =>
      "Skipping unreadable entry: IO error for operation on " ++ toString path ++ ": " ++
        cause.message
  | sourcesFound count => "Found " ++ toString count ++ " source files"
  | lineChanged path line body =>
      toString path ++ ":" ++ toString line ++ ": " ++ String.ofList (Text.trim body)
  | fileUpdated path => "Updated " ++ toString path
  | finished annotations files changed =>
      toString annotations ++ " annotations in " ++ toString files ++ " files; " ++
        toString changed ++ " files changed"

/-- The event as it is shown, behind its level and with the characters of terminal
sequences escaped. -/
def line (event : Event) : String :=
  event.level.name ++ " " ++ String.ofList (Text.escapeControls event.message.toList)

end Event

end Log

end AvailabilityAnnotations

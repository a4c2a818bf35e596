/-
# Executing a command line

What the program does with its arguments: the exit code, what it prints, the events
that it logs, and the files as they are afterwards. The exit code is 0 after a run or
a page, 1 after a failure and 2 after wrong arguments.
-/

import AvailabilityAnnotations.CommandLine.Page
import AvailabilityAnnotations.Log.Filter
import AvailabilityAnnotations.Run.Summary

namespace AvailabilityAnnotations

namespace CommandLine

/-- What the program leaves behind. -/
structure Outcome where
  code : Nat
  output : String := ""
  /-- What is printed on the standard error, apart from the log. -/
  errors : String := ""
  log : List Log.Event := []
  files : FileSystem

namespace Arguments

def config (arguments : Arguments) : Config :=
  { Config.ofRoot arguments.directory with
    mode := Mode.ofAttributes (arguments.has .attributes)
    dryRun := arguments.has .dryRun }

/-- The log filter. One that was set from outside counts if it can be read; otherwise
warnings are shown, or everything up to debugging if more is to be printed. -/
def filter (arguments : Arguments) (wanted? : Option Text) : Log.Filter :=
  (wanted?.bind Log.Filter.ofText?).getD
    (Log.Filter.upTo (if arguments.has .verbose then .debug else .warn))

/-- What is printed on the standard output after a run: the summary as JSON, or the
diffs if there are any, or nothing. -/
def outputOf (arguments : Arguments) (summary : Summary) : String :=
  if arguments.has .json then String.ofList (summary.toJson.pretty ++ ['\n'])
  else String.ofList (summary.changes.flatMap fun change => change.diff?.getD [])

def changeLine (change : ChangedFile) : String :=
  "  " ++ toString change.path ++ " (" ++ toString change.changedLines.length ++ " lines)\n"

def totalsLine (summary : Summary) : String :=
  "✓ " ++ (if summary.dryRun then "Would update " else "Updated ") ++
    toString summary.changedLineCount ++ " annotations in " ++ toString summary.changedFileCount ++
    " of " ++ toString summary.filesVisited ++ " files (" ++ summary.mode.word ++ " mode)\n"

/-- What is printed on the standard error after a run. -/
def errorsOf (arguments : Arguments) (summary : Summary) : String :=
  if arguments.has .json then ""
  else
    String.join
      ((if arguments.has .verbose then summary.changes.map changeLine else []) ++
        [totalsLine summary])

end Arguments

/-- Update the sources of the package as the arguments say. -/
def runWith (arguments : Arguments) (wantedFilter? : Option Text) (files : FileSystem) :
    Outcome :=
  let updater : Updater := ⟨arguments.config, PlatformTable.system⟩
  let progress := updater.updateSources files
  let log := progress.events.filter (arguments.filter wantedFilter?).shows
  match progress.summary arguments.config with
  | .error failure =>
      { code := 1
        errors := "✗ " ++ failure.report ++ "\n"
        log := log
        files := progress.files }
  | .ok summary =>
      { code := 0
        output := arguments.outputOf summary
        errors := arguments.errorsOf summary
        log := log
        files := progress.files }

/-- The directories that are searched if the command line asks for a run. -/
def searchRoots (arguments : List Text) : List Path :=
  match Arguments.ofList arguments with
  | .error _ => []
  | .ok arguments => arguments.config.searchRoots

/-- Do what the command line asks for. -/
def execute (arguments : List Text) (wantedFilter? : Option Text) (files : FileSystem) :
    Outcome :=
  match Arguments.ofList arguments with
  | .error (.usage problem) =>
      { code := 2
        errors := problem.message ++ "\n"
        files := files }
  | .error (.page page) =>
      { code := 0
        output := page.text
        files := files }
  | .ok arguments => runWith arguments wantedFilter? files

end CommandLine

end AvailabilityAnnotations

/-
# Runs over files

A run takes files one after the other. Each file is read, updated as a whole in
memory and, if that changed it, written back, so a file that cannot be updated keeps
its bytes. The first failure ends the run; files that were written before it stay
written. In a dry run nothing is written, and a diff stands for the file that would
have been.

A visit gives back the files that it leaves on both outcomes, and the run goes on, or
ends, with those.
-/

import AvailabilityAnnotations.Diff.Unified
import AvailabilityAnnotations.Log
import AvailabilityAnnotations.Update
import AvailabilityAnnotations.Sources

namespace AvailabilityAnnotations

/-- What a run did to one file. -/
structure ChangedFile where
  /-- The path by which the file was visited. -/
  path : Path
  annotations : Nat
  changedLines : List Nat
  /-- The change as a diff, in a dry run. -/
  diff? : Option Text
  deriving DecidableEq, Repr

/-- What came out of visiting one file. -/
structure Visit where
  /-- The new text of the file. -/
  update : Update
  /-- The change, if the content is different now. -/
  change? : Option ChangedFile
  deriving DecidableEq, Repr

/-- The totals of a run. -/
structure Summary where
  mode : Mode
  dryRun : Bool
  filesVisited : Nat
  annotations : Nat
  /-- The changed files, in the order in which they were visited. -/
  changes : List ChangedFile
  deriving DecidableEq, Repr

namespace Summary

def changedFileCount (summary : Summary) : Nat :=
  summary.changes.length

def changedLineCount (summary : Summary) : Nat :=
  summary.changes.foldr (fun change total => change.changedLines.length + total) 0

/-- The totals of the visits of a run. -/
def ofVisits (config : Config) (visits : List Visit) : Summary where
  mode := config.mode
  dryRun := config.dryRun
  filesVisited := visits.length
  annotations := visits.foldr (fun visit total => visit.update.annotations + total) 0
  changes := visits.filterMap Visit.change?

end Summary

/-- How far a run came. -/
structure Progress where
  /-- The visits that succeeded, in order. -/
  visits : List Visit
  /-- The failure that ended the run, if one did. -/
  failure? : Option Failure
  files : FileSystem
  /-- What happened, in order. -/
  events : List Log.Event

namespace Progress

/-- The totals of the run, or the failure that ended it. -/
def summary (progress : Progress) (config : Config) : Except Failure Summary :=
  match progress.failure? with
  | some failure => .error failure
  | none => .ok (.ofVisits config progress.visits)

end Progress

/-- The settings of a run and the known versions. -/
structure Updater where
  config : Config
  table : PlatformTable

namespace Updater

def rules (updater : Updater) : Rules :=
  updater.config.rules updater.table

/-- Visit a file: read it, update its text and write it back if it changed and the
run is not a dry one. -/
def visit (updater : Updater) (files : FileSystem) (path : Path) :
    Except Failure Visit × FileSystem :=
  match files.readText path with
  | .error cause => (.error (.file path cause), files)
  | .ok text =>
      match updater.rules.updateText path text with
      | .error failure => (.error failure, files)
      | .ok update =>
          let change (diff? : Option Text) : ChangedFile :=
            ⟨path, update.annotations, update.changedLines, diff?⟩
          if !update.hasChanges then (.ok ⟨update, none⟩, files)
          else if updater.config.dryRun then
            (.ok ⟨update, some (change (some (Diff.unified path text update.content)))⟩, files)
          else
            match files.writeText path update.content with
            | .error cause => (.error (.file path cause), files)
            | .ok written => (.ok ⟨update, some (change none)⟩, written)

/-- The visit of a file and the files that it leaves, if it succeeds. -/
def updateFile (updater : Updater) (files : FileSystem) (path : Path) :
    Except Failure (Visit × FileSystem) :=
  match updater.visit files path with
  | (.error failure, _) => .error failure
  | (.ok visit, left) => .ok (visit, left)

/-- What happens while a file is visited. -/
def visitEvents (updater : Updater) (files : FileSystem) (path : Path) : List Log.Event :=
  match files.readText path with
  | .error _ => []
  | .ok text =>
      -- Lines are logged as they change, so they count even if a later line fails.
      let changed := (updater.rules.changes path 1 (Line.split text)).map
        fun (line, body) => Log.Event.lineChanged path line body
      match (updater.visit files path).1 with
      | .ok ⟨_, some ⟨_, _, _, none⟩⟩ => changed ++ [.fileUpdated path]
      | _ => changed

/-- Visit files one after the other until one of them fails. -/
def visitAll (updater : Updater) : FileSystem → List Path → Progress
  | files, [] => ⟨[], none, files, []⟩
  | files, path :: paths =>
      let events := updater.visitEvents files path
      match updater.visit files path with
      | (.error failure, left) => ⟨[], some failure, left, events⟩
      | (.ok visit, left) =>
          let later := updater.visitAll left paths
          { later with visits := visit :: later.visits, events := events ++ later.events }

/-- Update the files with the given paths. -/
def updateFiles (updater : Updater) (files : FileSystem) (paths : List Path) : Progress :=
  let progress := updater.visitAll files paths
  match progress.summary updater.config with
  | .error _ => progress
  | .ok summary =>
      { progress with
        events := progress.events ++
          [.finished summary.annotations summary.filesVisited summary.changedFileCount] }

/-- Update all sources. -/
def updateSources (updater : Updater) (files : FileSystem) : Progress :=
  let sources := updater.config.sources files
  let progress := updater.updateFiles files sources
  { progress with
    events := updater.config.searchEvents files ++
      .sourcesFound sources.length :: progress.events }

end Updater

end AvailabilityAnnotations

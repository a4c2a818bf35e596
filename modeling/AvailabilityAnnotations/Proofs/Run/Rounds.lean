/-
# The rounds of a run

A run is a sequence of rounds, one for each path. A round reads a text, updates it and,
if the content is another text and the run is not a dry one, writes it back. `Completes`
and `Fails` say when a round succeeds and when it does not, without a word about how it is
carried out; exactly one of the two happens (`visit_eq_ok_iff`, `visit_eq_error_iff`). A
visit gives back the files on both outcomes, and where it fails they are those from before.

From one round follows the run: either all paths have their rounds, or the run ends at one
path with the failure of its round, in the files that the rounds before it have left. No
trace of the failed round stays behind, and what would have come after it never happens.
-/

import Mathlib.Algebra.Ring.Nat
import AvailabilityAnnotations.Proofs.Update.Changes
import AvailabilityAnnotations.Run

namespace AvailabilityAnnotations

/-- What one visit read and made of it. -/
structure Round where
  path : Path
  /-- The text that was read. -/
  text : Text
  update : Update

/-- The report of a round, if the content is another text than the one that was read. In a
dry run it shows the difference. -/
def Round.change? (updater : Updater) (round : Round) : Option ChangedFile :=
  if round.update.content = round.text then none
  else some
    { path := round.path
      annotations := round.update.annotations
      changedLines := round.update.changedLines
      diff? :=
        if updater.config.dryRun then
          some (Diff.unified round.path round.text round.update.content)
        else none }

namespace Updater

variable {updater : Updater} {files next last : FileSystem} {path : Path}
  {round : Round} {rounds : List Round} {visit : Visit} {failure : Failure}

/-- The round succeeds: its text is read and updated, and the files are left as they are
unless there is another text to write. -/
structure Completes (updater : Updater) (files : FileSystem) (round : Round)
    (next : FileSystem) : Prop where
  read : files.readText round.path = .ok round.text
  updated : updater.rules.updateText round.path round.text = .ok round.update
  kept : round.update.content = round.text ∨ updater.config.dryRun = true → next = files
  written : round.update.content ≠ round.text → updater.config.dryRun = false →
    files.writeText round.path round.update.content = .ok next

/-- The round of a path fails: there is no text to read, the text cannot be updated, or
the content cannot be written. -/
inductive Fails (updater : Updater) (files : FileSystem) (path : Path) : Failure → Prop
  | unreadable {cause : Cause} (unread : files.readText path = .error cause) :
      Fails updater files path (.file path cause)
  | notUpdated {text : Text} {failure : Failure} (read : files.readText path = .ok text)
      (refused : updater.rules.updateText path text = .error failure) :
      Fails updater files path failure
  | unwritable {text : Text} {update : Update} {cause : Cause}
      (read : files.readText path = .ok text)
      (updated : updater.rules.updateText path text = .ok update)
      (different : update.content ≠ text) (real : updater.config.dryRun = false)
      (unwritten : files.writeText path update.content = .error cause) :
      Fails updater files path (.file path cause)

/-- What becomes of a text that was read and updated. -/
theorem visit_of_updated {text : Text} {update : Update}
    (read : files.readText path = .ok text)
    (updated : updater.rules.updateText path text = .ok update) :
    updater.visit files path =
      if update.content = text ∨ updater.config.dryRun = true then
        (.ok ⟨update, Round.change? updater ⟨path, text, update⟩⟩, files)
      else
        match files.writeText path update.content with
        | .error cause => (.error (.file path cause), files)
        | .ok written => (.ok ⟨update, Round.change? updater ⟨path, text, update⟩⟩, written) := by
  have changes := Rules.hasChanges_iff updated
  unfold visit
  simp only [read, updated]
  by_cases same : update.content = text
  · have unchanged : update.hasChanges = false := by simpa [same] using changes
    simp [unchanged, same, Round.change?]
  · cases dry : updater.config.dryRun with
    | true => simp [changes.2 same, Round.change?, same, dry]
    | false =>
        cases files.writeText path update.content <;>
          simp [changes.2 same, Round.change?, same, dry]

/-- A visit succeeds exactly as a round does, and it answers what the round has made. -/
theorem visit_eq_ok_iff : updater.visit files path = (.ok visit, next) ↔
    ∃ round, round.path = path ∧ updater.Completes files round next ∧
      visit = ⟨round.update, round.change? updater⟩ := by
  constructor
  · intro visited
    cases read : files.readText path with
    | error cause => simp [Updater.visit, read] at visited
    | ok text =>
        cases updated : updater.rules.updateText path text with
        | error failure => simp [Updater.visit, read, updated] at visited
        | ok update =>
            rw [visit_of_updated read updated] at visited
            refine ⟨⟨path, text, update⟩, rfl, ?_⟩
            split at visited
            · next settled =>
                cases visited
                exact ⟨⟨read, updated, fun _ => rfl, fun different real => by
                  simp [different, real] at settled⟩, rfl⟩
            · next unsettled =>
                split at visited
                · cases visited
                · next written wrote =>
                    cases visited
                    exact ⟨⟨read, updated, fun settled => absurd settled unsettled,
                      fun _ _ => wrote⟩, rfl⟩
  · rintro ⟨⟨path, text, update⟩, rfl, completes, rfl⟩
    rw [visit_of_updated completes.read completes.updated]
    split
    · next settled => rw [completes.kept settled]
    · next unsettled =>
        simp only [not_or, Bool.not_eq_true] at unsettled
        simp only [completes.written unsettled.1 unsettled.2]

/-- A visit fails exactly as a round does, and then it leaves the files as they were. -/
theorem visit_eq_error_iff : updater.visit files path = (.error failure, next) ↔
    updater.Fails files path failure ∧ next = files := by
  constructor
  · intro failed
    cases read : files.readText path with
    | error cause =>
        simp only [Updater.visit, read] at failed
        cases failed
        exact ⟨.unreadable read, rfl⟩
    | ok text =>
        cases updated : updater.rules.updateText path text with
        | error refusal =>
            simp only [Updater.visit, read, updated] at failed
            cases failed
            exact ⟨.notUpdated read updated, rfl⟩
        | ok update =>
            rw [visit_of_updated read updated] at failed
            split at failed
            · cases failed
            · next unsettled =>
                simp only [not_or, Bool.not_eq_true] at unsettled
                split at failed
                · next cause unwritten =>
                    cases failed
                    exact ⟨.unwritable read updated unsettled.1 unsettled.2 unwritten, rfl⟩
                · cases failed
  · rintro ⟨fails, rfl⟩
    cases fails with
    | unreadable unread => simp [Updater.visit, unread]
    | notUpdated read refused => simp [Updater.visit, read, refused]
    | unwritable read updated different real unwritten =>
        simp [visit_of_updated read updated, different, real, unwritten]

/-- A file is updated exactly if its visit succeeds. -/
theorem updateFile_eq_ok_iff : updater.updateFile files path = .ok (visit, next) ↔
    updater.visit files path = (.ok visit, next) := by
  unfold updateFile
  rcases updater.visit files path with ⟨failure | answer, left⟩ <;> simp

/-- Rounds one after the other, each in the files that the one before has left. -/
inductive Rounds (updater : Updater) : FileSystem → List Round → FileSystem → Prop
  | nil {files : FileSystem} : Rounds updater files [] files
  | cons {files next last : FileSystem} {round : Round} {rounds : List Round}
      (first : updater.Completes files round next) (others : Rounds updater next rounds last) :
      Rounds updater files (round :: rounds) last

/-- How a run over paths goes: rounds for a first part of the paths, and the failure of
the next one if there is one. -/
theorem exists_rounds_visitAll (updater : Updater) (files : FileSystem) (paths : List Path) :
    ∃ rounds, updater.Rounds files rounds (updater.visitAll files paths).files ∧
      (updater.visitAll files paths).visits =
        rounds.map (fun round => ⟨round.update, round.change? updater⟩) ∧
      (rounds.map Round.path = paths ∧ (updater.visitAll files paths).failure? = none ∨
        ∃ path later failure, paths = rounds.map Round.path ++ path :: later ∧
          updater.visit (updater.visitAll files paths).files path =
            (.error failure, (updater.visitAll files paths).files) ∧
          (updater.visitAll files paths).failure? = some failure) := by
  induction paths generalizing files with
  | nil => exact ⟨[], .nil, rfl, .inl ⟨rfl, rfl⟩⟩
  | cons path paths ih =>
      rw [visitAll]
      rcases visited : updater.visit files path with ⟨failure | visit, next⟩
      · obtain ⟨-, rfl⟩ := visit_eq_error_iff.1 visited
        exact ⟨[], .nil, rfl, .inr ⟨path, paths, failure, rfl, visited, rfl⟩⟩
      · obtain ⟨round, rfl, completes, rfl⟩ := visit_eq_ok_iff.1 visited
        obtain ⟨rounds, others, visits, done | ⟨other, later, failure, cut, failed, ended⟩⟩ :=
          ih next
        · exact ⟨round :: rounds, .cons completes others, by simp [visits],
            .inl ⟨by simp [done.1], done.2⟩⟩
        · exact ⟨round :: rounds, .cons completes others, by simp [visits],
            .inr ⟨other, later, failure, by simp [cut], failed, ended⟩⟩

/-- Where all paths have their rounds, the run is made of them and does not fail. -/
theorem Rounds.visitAll_eq (run : updater.Rounds files rounds last) :
    let progress := updater.visitAll files (rounds.map Round.path)
    progress.files = last ∧ progress.failure? = none ∧
      progress.visits = rounds.map (fun round => ⟨round.update, round.change? updater⟩) := by
  induction run with
  | nil => exact ⟨rfl, rfl, rfl⟩
  | @cons files next last round rounds first _ ih =>
      obtain ⟨reached, noFailure, visits⟩ := ih
      have visited := visit_eq_ok_iff.2 ⟨round, rfl, first, rfl⟩
      simp only [List.map_cons, visitAll, visited]
      exact ⟨reached, noFailure, by rw [visits]⟩

@[simp] theorem updateFiles_files (updater : Updater) (files : FileSystem) (paths : List Path) :
    (updater.updateFiles files paths).files = (updater.visitAll files paths).files := by
  simp only [updateFiles]
  split <;> rfl

@[simp] theorem updateFiles_summary (updater : Updater) (files : FileSystem) (paths : List Path) :
    (updater.updateFiles files paths).summary updater.config =
      (updater.visitAll files paths).summary updater.config := by
  simp only [updateFiles]
  split <;> rfl

/-- The totals of the rounds of a run. -/
def summaryOf (updater : Updater) (rounds : List Round) : Summary where
  mode := updater.config.mode
  dryRun := updater.config.dryRun
  filesVisited := rounds.length
  annotations := (rounds.map (·.update.annotations)).sum
  changes := rounds.filterMap (Round.change? updater)

/-- The totals of visits are those of their rounds. -/
theorem ofVisits_eq (updater : Updater) (rounds : List Round) :
    Summary.ofVisits updater.config
        (rounds.map fun round => ⟨round.update, round.change? updater⟩) =
      updater.summaryOf rounds := by
  have total : (rounds.map fun round => (⟨round.update, round.change? updater⟩ : Visit)).foldr
      (fun visit total => visit.update.annotations + total) 0 =
        (rounds.map (·.update.annotations)).sum := by
    rw [List.sum_eq_foldr, List.foldr_map, List.foldr_map]
  simp only [Summary.ofVisits, total, List.length_map, List.filterMap_map, summaryOf]
  rfl

/-- **A run stops at the first failure and leaves nothing of it.** Either all paths have
their rounds and the summary counts them, or some path `k` fails in the files that the
rounds of the paths before it have left, and these files and this failure are the outcome
of its visit and of the run. -/
theorem updateFiles_outcome (updater : Updater) (files : FileSystem) (paths : List Path) :
    let progress := updater.updateFiles files paths
    (∃ rounds, updater.Rounds files rounds progress.files ∧ rounds.map Round.path = paths ∧
      progress.summary updater.config = .ok
        { mode := updater.config.mode
          dryRun := updater.config.dryRun
          filesVisited := paths.length
          annotations := (rounds.map (·.update.annotations)).sum
          changes := rounds.filterMap (Round.change? updater) }) ∨
    ∃ (k : Nat) (inside : k < paths.length) (rounds : List Round) (failure : Failure),
      updater.Rounds files rounds progress.files ∧ rounds.map Round.path = paths.take k ∧
      updater.visit progress.files paths[k] = (.error failure, progress.files) ∧
      updater.Fails progress.files paths[k] failure ∧
      progress.summary updater.config = .error failure := by
  intro progress
  obtain ⟨rounds, run, visits, ⟨done, noFailure⟩ | ⟨path, later, failure, cut, failed, ended⟩⟩ :=
    exists_rounds_visitAll updater files paths
  · refine .inl ⟨rounds, by simpa [progress] using run, done, ?_⟩
    rw [updateFiles_summary, Progress.summary, noFailure, visits, ofVisits_eq, summaryOf, ← done,
      List.length_map]
  · have inside : rounds.length < paths.length := by simp [cut]
    have here : paths[rounds.length] = path := by simp [cut]
    refine .inr ⟨rounds.length, inside, rounds, failure, by simpa [progress] using run, ?_⟩
    rw [here, updateFiles_summary, updateFiles_files, Progress.summary, ended]
    exact ⟨by simp [cut], failed, (visit_eq_error_iff.1 failed).1, rfl⟩

end Updater

end AvailabilityAnnotations

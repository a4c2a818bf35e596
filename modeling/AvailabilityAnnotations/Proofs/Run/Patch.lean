/-
# The diff of a dry run is a patch

Where a dry run reports a change, it writes nothing and shows a diff. What can be read from
this diff are the hunks of a patch from the text that was read to the text that would have been
written: applied to the one, they give the other, and a real run leaves exactly that behind.

Which hunks these are is left to the search for a script, and a patch would come of any script.
That the search does not give up early is a result of its own: it finds a proper split point
wherever lines are left on both sides (`Diff.exists_splitPoint?`), and so goes on with smaller
halves down to the lines that one side does not have (`Diff.exists_script_halves`).
-/

import AvailabilityAnnotations.Proofs.Diff.Search
import AvailabilityAnnotations.Proofs.Diff.Unified
import AvailabilityAnnotations.Proofs.Run.Report

namespace AvailabilityAnnotations

namespace Updater

variable {files : FileSystem} {path : Path} {text : Text} {update : Update}

/-- In a dry run, a change is reported with its diff, and the files stay as they are. -/
theorem updateFile_dryRun (updater : Updater) (read : files.readText path = .ok text)
    (updated : updater.rules.updateText path text = .ok update)
    (changed : update.hasChanges = true) :
    (updater.withDryRun true).updateFile files path =
      .ok (⟨update, some ⟨path, update.annotations, update.changedLines,
        some (Diff.unified path text update.content)⟩⟩, files) := by
  have updatedDry : (updater.withDryRun true).rules.updateText path text = .ok update := updated
  have different := (Rules.hasChanges_iff updated).1 changed
  rw [updateFile_eq_ok_iff, visit_of_updated read updatedDry]
  simp [withDryRun, Round.change?, different]

/-- In a real run, a change is reported without a diff, and then the new content is read. Where
the system refuses to write, the visit fails. -/
theorem exists_updateFile_real (updater : Updater) (read : files.readText path = .ok text)
    (updated : updater.rules.updateText path text = .ok update)
    (changed : update.hasChanges = true) :
    (∃ cause, files.Refuses .write path cause ∧
      (updater.withDryRun false).visit files path = (.error (.file path cause), files)) ∨
    ∃ written, (updater.withDryRun false).updateFile files path =
        .ok (⟨update, some ⟨path, update.annotations, update.changedLines, none⟩⟩, written) ∧
      written.readText path = .ok update.content := by
  have updatedReal : (updater.withDryRun false).rules.updateText path text = .ok update := updated
  have different := (Rules.hasChanges_iff updated).1 changed
  rcases exists_visit read updatedReal with
    ⟨cause, refuses, -, failed⟩ | ⟨written, visited, -, rewritten⟩
  · exact .inl ⟨cause, refuses, failed⟩
  · refine .inr ⟨written, ?_, rewritten (by simp [withDryRun, different])⟩
    rw [updateFile_eq_ok_iff]
    simpa [withDryRun, Round.change?, different] using visited

/-- **The diff of a dry run is a patch.** Where an update changes a text, the dry run shows a
diff. From its text hunks are read that lead from the lines of the text to those of the new
content. Applied to the text they give what a real run writes, unless the system refuses to
write the file. -/
theorem updateFile_diff (updater : Updater) (read : files.readText path = .ok text)
    (updated : updater.rules.updateText path text = .ok update)
    (changed : update.hasChanges = true) :
    ∃ diff hunks,
      (updater.withDryRun true).updateFile files path =
        .ok (⟨update, some ⟨path, update.annotations, update.changedLines, some diff⟩⟩, files) ∧
      Diff.readDiff? path diff = some hunks ∧ hunks ≠ [] ∧
      Diff.IsPatch hunks (Diff.lines text) (Diff.lines update.content) ∧
      Diff.patchText hunks text = update.content ∧
      ((∃ cause, files.Refuses .write path cause ∧
        (updater.withDryRun false).visit files path = (.error (.file path cause), files)) ∨
      ∃ written, (updater.withDryRun false).updateFile files path =
          .ok (⟨update, some ⟨path, update.annotations, update.changedLines, none⟩⟩, written) ∧
        written.readText path = .ok (Diff.patchText hunks text)) := by
  have isPatch := Diff.isPatch_hunks_between text update.content
  have patched := isPatch.patchText_eq
  have nonempty : Diff.hunks (Diff.between text update.content) ≠ [] := by
    intro empty
    rw [empty, Diff.patchText_nil] at patched
    exact (Rules.hasChanges_iff updated).1 changed patched.symm
  refine ⟨_, _, updateFile_dryRun updater read updated changed, Diff.readDiff?_unified ..,
    nonempty, isPatch, patched, ?_⟩
  rw [patched]
  exact exists_updateFile_real updater read updated changed

/-- A line that a carriage return ends is kept, and the line behind it, which has no ending,
is replaced. -/
theorem updateFile_diff_no_ending :
    let updater : Updater := ⟨{}, .system⟩
    let text : Text := "let a = 1\r/*System 0.0.2*/".toList
    let files := linkedSources text
    let path := Path.ofString "Sources/A.swift"
    ∃ update, updater.rules.updateText path text = .ok update ∧ update.hasChanges = true ∧
      ∃ diff hunks,
        (updater.withDryRun true).updateFile files path =
          .ok (⟨update, some ⟨path, update.annotations, update.changedLines, some diff⟩⟩, files) ∧
        Diff.readDiff? path diff = some hunks ∧ hunks ≠ [] ∧
        Diff.IsPatch hunks (Diff.lines text) (Diff.lines update.content) ∧
        Diff.patchText hunks text = update.content ∧
        ∃ written, (updater.withDryRun false).updateFile files path =
            .ok (⟨update, some ⟨path, update.annotations, update.changedLines, none⟩⟩, written) ∧
          written.readText path = .ok (Diff.patchText hunks text) := by
  intro updater text files path
  have read : files.readText path = .ok text := by
    decide +kernel
  have shown : (updater.rules.updateText path text).toOption.map Update.hasChanges =
      some true := by
    decide +kernel
  cases updated : updater.rules.updateText path text with
  | error failure => simp [updated, Except.toOption] at shown
  | ok update =>
      have changed : update.hasChanges = true := by simpa [updated, Except.toOption] using shown
      obtain ⟨diff, hunks, dry, shownHunks, nonempty, isPatch, patched,
        ⟨cause, ⟨_, _, refused⟩, -⟩ | real⟩ := updateFile_diff updater read updated changed
      · cases refused
      · exact ⟨update, rfl, changed, diff, hunks, dry, shownHunks, nonempty, isPatch, patched,
          real⟩

end Updater

end AvailabilityAnnotations

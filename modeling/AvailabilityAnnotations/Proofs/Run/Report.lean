/-
# What a visit reports and writes

A visit decides by the flag of the update whether a file is written and a change is reported,
and the flag is exact. So a file whose text can be updated is reported as changed exactly if its
content would be another one, and then it is written, unless the run is a dry one. A file that
is up to date is not touched, and so only a file with another content to write can be one whose
visit fails, where the system refuses to write it.
-/

import AvailabilityAnnotations.Proofs.Run.DryRun
import AvailabilityAnnotations.Proofs.Update.Report

namespace AvailabilityAnnotations

namespace Updater

variable {updater : Updater} {files next : FileSystem} {path : Path} {text : Text}
  {update : Update}

/-- The visit of a file whose text can be updated fails where there is another text to write
and the system refuses this. Otherwise the files stay as they are, or the new content is read
from them. -/
theorem exists_visit (read : files.readText path = .ok text)
    (updated : updater.rules.updateText path text = .ok update) :
    (∃ cause, files.Refuses .write path cause ∧
      ¬(update.content = text ∨ updater.config.dryRun = true) ∧
      updater.visit files path = (.error (.file path cause), files)) ∨
    ∃ next, updater.visit files path =
        (.ok ⟨update, Round.change? updater ⟨path, text, update⟩⟩, next) ∧
      (update.content = text ∨ updater.config.dryRun = true → next = files) ∧
      (¬(update.content = text ∨ updater.config.dryRun = true) →
        next.readText path = .ok update.content) := by
  rw [visit_of_updated read updated]
  split
  · next settled =>
      exact .inr ⟨files, rfl, fun _ => rfl, fun unsettled => absurd settled unsettled⟩
  · next unsettled =>
      obtain ⟨location, resolved, here, readable⟩ := FileSystem.readText_eq_ok_iff.1 read
      cases access : files.refusal? .write location with
      | some cause =>
          rw [FileSystem.writeText_of_refused resolved here access]
          exact .inl ⟨cause, ⟨location, resolved, access⟩, unsettled, rfl⟩
      | none =>
          rw [FileSystem.writeText_of_file resolved here access]
          exact .inr ⟨_, rfl, fun settled => absurd settled unsettled,
            fun _ => FileSystem.readText_putAt resolved here readable update.content⟩

/-- A change is reported exactly if the content is another text. -/
theorem isSome_change?_iff : (Round.change? updater ⟨path, text, update⟩).isSome = true ↔
    update.content ≠ text := by
  by_cases same : update.content = text <;> simp [Round.change?, same]

/-- The writing of a file is logged exactly if there is another text to write, and the run
is a real one. -/
theorem fileUpdated_mem_visitEvents_iff (read : files.readText path = .ok text)
    (visited : updater.visit files path =
      (.ok ⟨update, Round.change? updater ⟨path, text, update⟩⟩, next)) :
    Log.Event.fileUpdated path ∈ updater.visitEvents files path ↔
      update.content ≠ text ∧ updater.config.dryRun = false := by
  unfold visitEvents
  simp only [read, visited]
  by_cases same : update.content = text
  · simp [Round.change?, same]
  · cases dry : updater.config.dryRun <;> simp [Round.change?, same, dry]

/-- **The report of a visit is exact.** The flag of an update tells whether its content is
another text, and the reported lines are the annotated ones with another body. So the visit of
a file with this text reports a change exactly if the content is another one, and writes it
exactly if the run is, besides, a real one. Where the system refuses to write it, the visit
fails and changes nothing. -/
theorem updateFile_reports_exactly (updater : Updater)
    (updated : updater.rules.updateText path text = .ok update) :
    updater.rules.IsExactReport path text update ∧
      ∀ files : FileSystem, files.readText path = .ok text →
        (∃ cause, files.Refuses .write path cause ∧ update.content ≠ text ∧
          updater.config.dryRun = false ∧
          updater.visit files path = (.error (.file path cause), files)) ∨
        ∃ visit next, updater.updateFile files path = .ok (visit, next) ∧
          visit.update = update ∧
          (visit.change?.isSome = true ↔ update.content ≠ text) ∧
          (Log.Event.fileUpdated path ∈ updater.visitEvents files path ↔
            update.content ≠ text ∧ updater.config.dryRun = false) ∧
          (next ≠ files ↔ update.content ≠ text ∧ updater.config.dryRun = false) ∧
          (next ≠ files → next.readText path = .ok update.content) := by
  refine ⟨Rules.isExactReport_of_updateText updated, fun files read => ?_⟩
  rcases exists_visit read updated with
    ⟨cause, refuses, unsettled, failed⟩ | ⟨next, visited, kept, written⟩
  · obtain ⟨different, real⟩ := not_or.1 unsettled
    exact .inl ⟨cause, refuses, different, by simpa using real, failed⟩
  · have moved : next ≠ files ↔ update.content ≠ text ∧ updater.config.dryRun = false := by
      constructor
      · intro different
        simpa using mt kept different
      · rintro ⟨different, real⟩ rfl
        -- The new content would have been read from the old files.
        have again := written (by simp [different, real])
        rw [read] at again
        exact different (Except.ok.inj again).symm
    refine .inr ⟨_, next, updateFile_eq_ok_iff.2 visited, rfl, isSome_change?_iff,
      fileUpdated_mem_visitEvents_iff read visited, moved, fun different => written ?_⟩
    simpa using moved.1 different

/-- The list of the table holds a line feed. Two lines are different, and the text that is
written has two more. -/
theorem updateFile_reports_exactly_two_lines :
    let table : PlatformTable :=
      .ofEntries "System".toList [("System 1".toList, "iOS 9,\nmacOS 11".toList)]
    let updater : Updater := ⟨{}, table⟩
    let text : Text := "/*System 1*/\nlet x = 1\n/*System 1*/".toList
    let files := linkedSources text
    let path := Path.ofString "Sources/A.swift"
    ∃ update, updater.rules.updateText path text = .ok update ∧
      updater.rules.IsExactReport path text update ∧ update.changedLines = [1, 3] ∧
      files.readText path = .ok text ∧
      ∃ visit next, updater.updateFile files path = .ok (visit, next) ∧
        visit.change?.isSome = true ∧ next ≠ files ∧ next.readText path = .ok update.content := by
  intro table updater text files path
  have read : files.readText path = .ok text := by
    decide +kernel
  have shown : (updater.rules.updateText path text).toOption.map
      (fun update => (update.changedLines, decide (update.content = text))) =
        some ([1, 3], false) := by
    decide +kernel
  cases updated : updater.rules.updateText path text with
  | error failure => simp [updated, Except.toOption] at shown
  | ok update =>
      simp only [updated, Except.toOption, Option.map_some, Option.some.injEq, Prod.mk.injEq,
        decide_eq_false_iff_not] at shown
      obtain ⟨exact, visits⟩ := updateFile_reports_exactly updater updated
      rcases visits files read with ⟨cause, ⟨_, _, refused⟩, -⟩ |
        ⟨visit, next, visited, -, changed, -, moved, written⟩
      · cases refused
      · have different := moved.2 ⟨shown.2, rfl⟩
        exact ⟨update, rfl, exact, shown.1, read, visit, next, visited, changed.2 shown.2,
          different, written different⟩

/-- The source can be read and cannot be written, so its visit fails when there is another text
to write, and only in a real run. -/
example :
    let updater : Updater := ⟨{}, .system⟩
    let files := (linkedSources "/*System 0.0.2*/".toList).refuse .write
      [⟨"Sources".toList, by decide⟩, ⟨"A.swift".toList, by decide⟩] .permissionDenied
    let path := Path.ofString "Sources/A.swift"
    (updater.visit files path).1 = .error (.file path .permissionDenied) ∧
      (((updater.withDryRun true).visit files path).1.toOption.isSome = true) := by
  decide +kernel

end Updater

end AvailabilityAnnotations

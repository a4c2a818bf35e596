/-
# What a run leaves alone

A run writes to paths, and a path may lead to its file over links. So what a run leaves
alone is said of locations. One round changes the bytes of one file at most, the one that
its path leads to; entries, links and directories stay, and therefore every path leads
where it led before the run. After any rounds a file has been updated as often as their
paths lead to it (`FilesAfter`), whichever names it was visited by. A round that changes
nothing counts as well, because its update has given the same text.

A failed run has rounds for a first part of its paths only, and a dry run leaves all
files as they were.
-/

import AvailabilityAnnotations.Proofs.Run.Rounds
import AvailabilityAnnotations.Proofs.Update.Repetition

namespace AvailabilityAnnotations

/-- The files after rounds for these paths have the shape that they had before, and the
bytes of each file come from its old bytes by one update for each path that leads to it. -/
structure FilesAfter (rules : Rules) (files now : FileSystem) (paths : List Path) : Prop where
  shape : now.SameShape files
  content : ∀ location old, files.root.at? location = some (.file old) →
    ∃ new, now.root.at? location = some (.file new) ∧
      rules.Updates (paths.countP (files.leadsTo location)) old new

/-- Without any rounds the files are as they were. -/
theorem FilesAfter.nil (rules : Rules) (files : FileSystem) : FilesAfter rules files files [] :=
  ⟨.refl files, fun _ old here => ⟨old, here, .none⟩⟩

namespace FilesAfter

variable {rules : Rules} {files now : FileSystem} {paths : List Path} {location : Location}
  {old new : ByteArray}

/-- A file that no path leads to keeps its bytes. -/
theorem file_kept (after : FilesAfter rules files now paths)
    (here : files.root.at? location = some (.file old))
    (unvisited : ∀ path ∈ paths, files.resolve path ≠ .ok (.existing location)) :
    now.root.at? location = some (.file old) := by
  obtain ⟨new, there, updates⟩ := after.content location old here
  have none : paths.countP (files.leadsTo location) = 0 :=
    List.countP_eq_zero.2 fun path member led =>
      unvisited path member (FileSystem.leadsTo_iff.1 led)
  rw [none] at updates
  cases updates
  exact there

/-- A file with other bytes has been updated at least once. -/
theorem updates_of_ne (after : FilesAfter rules files now paths)
    (here : files.root.at? location = some (.file old))
    (there : now.root.at? location = some (.file new)) (different : new ≠ old) :
    0 < paths.countP (files.leadsTo location) ∧
      rules.Updates (paths.countP (files.leadsTo location)) old new := by
  obtain ⟨bytes, nowThere, updates⟩ := after.content location old here
  obtain rfl : new = bytes := Node.file.inj (Option.some.inj (there.symm.trans nowThere))
  refine ⟨Nat.pos_of_ne_zero fun none => ?_, updates⟩
  rw [none] at updates
  cases updates
  exact different rfl

end FilesAfter

namespace Updater

variable {updater : Updater} {files now next last : FileSystem} {round : Round}
  {rounds : List Round} {paths : List Path}

/-- A round that is not dry leaves the new text in the file that its path leads to, and
leaves all other files alone. -/
theorem Completes.exists_location (completes : updater.Completes files round next)
    (real : updater.config.dryRun = false) :
    ∃ location, files.resolve round.path = .ok (.existing location) ∧
      files.root.at? location = some (.file round.text.bytes) ∧ next.SameShape files ∧
      next.root.at? location = some (.file round.update.content.bytes) ∧
      ∀ other bytes, other ≠ location → files.root.at? other = some (.file bytes) →
        next.root.at? other = some (.file bytes) := by
  obtain ⟨location, resolved, here, -⟩ := FileSystem.readText_eq_ok_iff.1 completes.read
  refine ⟨location, resolved, here, ?_⟩
  by_cases same : round.update.content = round.text
  · obtain rfl := completes.kept (.inl same)
    exact ⟨.refl _, same ▸ here, fun _ _ _ there => there⟩
  · have wrote := completes.written same real
    cases access : files.refusal? .write location with
    | some cause =>
        rw [FileSystem.writeText_of_refused resolved here access] at wrote
        cases wrote
    | none =>
        rw [FileSystem.writeText_of_file resolved here access, Except.ok.injEq] at wrote
        subst wrote
        exact ⟨FileSystem.sameShape_putAt here _, Listing.at?_putAt_self _ here,
          fun _ _ different => (Listing.file_at?_putAt_iff _ here different).2⟩

/-- A round that is not dry adds one update to the file that its path leads to. -/
theorem Completes.filesAfter (completes : updater.Completes now round next)
    (real : updater.config.dryRun = false) (after : FilesAfter updater.rules files now paths) :
    FilesAfter updater.rules files next (paths ++ [round.path]) := by
  obtain ⟨location, resolved, here, shape, written, others⟩ := completes.exists_location real
  have led : files.resolve round.path = .ok (.existing location) := by
    rw [← after.shape.resolve_eq, resolved]
  refine ⟨shape.trans after.shape, ?_⟩
  intro other old there
  obtain ⟨bytes, nowThere, updates⟩ := after.content other old there
  by_cases same : other = location
  · subst same
    obtain rfl : round.text.bytes = bytes :=
      Node.file.inj (Option.some.inj (here.symm.trans nowThere))
    refine ⟨_, written, ?_⟩
    have count : (paths ++ [round.path]).countP (files.leadsTo other) =
        paths.countP (files.leadsTo other) + 1 := by
      simp [led]
    rw [count]
    exact updates.more completes.updated
  · refine ⟨bytes, others other bytes same nowThere, ?_⟩
    have count : (paths ++ [round.path]).countP (files.leadsTo other) =
        paths.countP (files.leadsTo other) := by
      simp [led, Ne.symm same]
    rwa [count]

/-- Rounds that are not dry update each file as often as their paths lead to it. -/
theorem Rounds.filesAfter (run : updater.Rounds now rounds last)
    (real : updater.config.dryRun = false) (after : FilesAfter updater.rules files now paths) :
    FilesAfter updater.rules files last (paths ++ rounds.map Round.path) := by
  induction run generalizing paths with
  | nil => simpa using after
  | cons first _ ih => simpa using ih (first.filesAfter real after)

/-- Dry rounds leave the files as they were. -/
theorem Rounds.eq_of_dryRun (run : updater.Rounds files rounds last)
    (dry : updater.config.dryRun = true) : last = files := by
  induction run with
  | nil => rfl
  | cons first _ ih => rw [ih, first.kept (.inr dry)]

/-- The rounds of a run, whether it succeeded or failed, are for a first part of the
sources. -/
theorem exists_rounds_updateSources (updater : Updater) (files : FileSystem) :
    ∃ rounds, updater.Rounds files rounds (updater.updateSources files).files ∧
      rounds.map Round.path <+: updater.config.sources files := by
  obtain ⟨rounds, run, -, ⟨done, -⟩ | ⟨path, later, failure, cut, -⟩⟩ :=
    exists_rounds_visitAll updater files (updater.config.sources files)
  · exact ⟨rounds, by simpa [updateSources] using run, done ▸ List.prefix_refl _⟩
  · exact ⟨rounds, by simpa [updateSources] using run, cut ▸ List.prefix_append ..⟩

/-- A dry run leaves the files as they were. -/
theorem updateSources_files_of_dryRun (updater : Updater) (files : FileSystem)
    (dry : updater.config.dryRun = true) : (updater.updateSources files).files = files := by
  obtain ⟨_, run, -⟩ := exists_rounds_updateSources updater files
  exact run.eq_of_dryRun dry

/-- The files after any run are those after rounds for a first part of the sources; after a
dry run they are those after no round. -/
theorem exists_filesAfter_updateSources (updater : Updater) (files : FileSystem) :
    ∃ paths, paths <+: updater.config.sources files ∧
      FilesAfter updater.rules files (updater.updateSources files).files paths := by
  obtain ⟨rounds, run, part⟩ := exists_rounds_updateSources updater files
  cases dry : updater.config.dryRun with
  | true =>
      rw [updateSources_files_of_dryRun updater files dry]
      exact ⟨[], List.nil_prefix, .nil updater.rules files⟩
  | false =>
      exact ⟨_, part, by simpa using run.filesAfter dry (.nil updater.rules files)⟩

/-- **A run changes nothing but the bytes of its sources.** Entries, their kinds and the
targets of links stay, a file that no source leads to keeps its bytes, and other bytes come
from the old ones by updates, at most one for each source that leads to the file. A dry run
changes nothing. -/
theorem updateSources_frame (updater : Updater) (files : FileSystem) :
    let last := (updater.updateSources files).files
    let sources := updater.config.sources files
    last.SameShape files ∧
      (∀ location old, files.root.at? location = some (.file old) →
        (∀ path ∈ sources, files.resolve path ≠ .ok (.existing location)) →
          last.root.at? location = some (.file old)) ∧
      (∀ location old new, files.root.at? location = some (.file old) →
        last.root.at? location = some (.file new) → new ≠ old →
          ∃ count, 0 < count ∧ count ≤ sources.countP (files.leadsTo location) ∧
            updater.rules.Updates count old new) ∧
      (updater.config.dryRun = true → last = files) := by
  intro last sources
  obtain ⟨paths, part, after⟩ := exists_filesAfter_updateSources updater files
  refine ⟨after.shape, ?_, ?_, updateSources_files_of_dryRun updater files⟩
  · intro location old here unvisited
    exact after.file_kept here fun path member => unvisited path (part.subset member)
  · intro location old new here there different
    obtain ⟨once, updates⟩ := after.updates_of_ne here there different
    exact ⟨_, once, part.sublist.countP_le, updates⟩

end Updater

end AvailabilityAnnotations

/-
# What a dry run predicts

A dry run reads every file as it is, a real run reads it as the rounds before have left
it. As long as no two sources lead to the same file, there is no difference, and a dry run
reports what the real one does. If a file is visited again, the real run reads a text that
has been updated already, as often as sources before lead to the file, and the dry run
reads the first text once more.

So a real run that succeeds has a dry run that succeeds, over the same files; and the two
report the same exactly if every text that is visited again is reported as it was at first
(`IsSteadyAt`). A text without changes always is. A text with changes is only if the later
update changes the same lines again.
-/

import AvailabilityAnnotations.Proofs.Run.Agreement
import AvailabilityAnnotations.Proofs.Run.Frame

namespace AvailabilityAnnotations

/-- What holds wherever a list is cut holds at its front and wherever the rest is cut. -/
private theorem forall_cut_cons_iff {α : Type} {head : α} {tail : List α}
    {holds : List α → α → Prop} :
    (∀ earlier item later, head :: tail = earlier ++ item :: later → holds earlier item) ↔
      holds [] head ∧
        ∀ earlier item later, tail = earlier ++ item :: later → holds (head :: earlier) item := by
  constructor
  · intro all
    exact ⟨all [] head tail rfl, fun earlier item later cut =>
      all (head :: earlier) item later (by rw [cut, List.cons_append])⟩
  · rintro ⟨front, rest⟩ earlier item later cut
    cases earlier with
    | nil =>
        obtain ⟨rfl, -⟩ := List.cons.inj cut
        exact front
    | cons first earlier =>
        rw [List.cons_append] at cut
        obtain ⟨rfl, behind⟩ := List.cons.inj cut
        exact rest earlier item later behind

namespace Updater

variable {updater : Updater} {files now next last : FileSystem} {round : Round}
  {rounds : List Round} {paths : List Path}

/-- The same updater, for a dry run or for a real one. -/
def withDryRun (updater : Updater) (dryRun : Bool) : Updater :=
  { updater with config := { updater.config with dryRun } }

/-- The summary of a run over all sources, or its failure. -/
def outcome (updater : Updater) (files : FileSystem) : Except Failure Summary :=
  (updater.updateSources files).summary updater.config

/-- The file that the path leads to is reported after rounds for the given paths as it is
at first. -/
def IsSteadyAt (updater : Updater) (files : FileSystem) (earlier : List Path) (path : Path) :
    Prop :=
  ∀ location text, files.resolve path = .ok (.existing location) →
    files.root.at? location = some (.file (Text.bytes text)) →
      updater.rules.ReportsAlike (earlier.countP (files.leadsTo location)) text

/-- A path leads to one file only, so steadiness is a matter of its text. -/
theorem isSteadyAt_iff {location : Location} {text : Text} {earlier : List Path} {path : Path}
    (resolved : files.resolve path = .ok (.existing location))
    (here : files.root.at? location = some (.file text.bytes)) :
    updater.IsSteadyAt files earlier path ↔
      updater.rules.ReportsAlike (earlier.countP (files.leadsTo location)) text := by
  constructor
  · intro steady
    exact steady location text resolved here
  · intro alike location' text' resolved' here'
    obtain rfl : location = location' := by simpa using resolved.symm.trans resolved'
    obtain rfl : text = text' :=
      Text.bytes_injective (Node.file.inj (Option.some.inj (here.symm.trans here')))
    exact alike

/-- If none of the earlier paths leads to the same place, nothing is different yet. -/
theorem isSteadyAt_of_apart {earlier : List Path} {path : Path}
    (apart : ∀ other ∈ earlier, files.resolve other ≠ files.resolve path) :
    updater.IsSteadyAt files earlier path := by
  intro location text resolved _
  have none : earlier.countP (files.leadsTo location) = 0 :=
    List.countP_eq_zero.2 fun other member led =>
      apart other member ((FileSystem.leadsTo_iff.1 led).trans resolved.symm)
  rw [none]
  exact updater.rules.reportsAlike_zero text

/-- A run over the sources succeeds exactly if all of them have their rounds. -/
theorem outcome_eq_ok_iff {summary : Summary} : updater.outcome files = .ok summary ↔
    ∃ rounds last, updater.Rounds files rounds last ∧
      rounds.map Round.path = updater.config.sources files ∧
      summary = updater.summaryOf rounds := by
  rw [outcome, updateSources]
  have counted := updateFiles_summary updater files (updater.config.sources files)
  constructor
  · intro succeeded
    obtain ⟨rounds, run, visits, ⟨done, noFailure⟩ | ⟨_, _, failure, -, -, ended⟩⟩ :=
      exists_rounds_visitAll updater files (updater.config.sources files)
    · refine ⟨rounds, _, run, done, ?_⟩
      have total := counted.symm.trans succeeded
      rw [Progress.summary, noFailure, visits, ofVisits_eq] at total
      exact (Except.ok.inj total).symm
    · have total := counted.symm.trans succeeded
      rw [Progress.summary, ended] at total
      cases total
  · rintro ⟨rounds, last, run, done, rfl⟩
    obtain ⟨-, noFailure, visits⟩ := run.visitAll_eq
    refine counted.trans ?_
    rw [← done, Progress.summary, noFailure, visits, ofVisits_eq]

/-- The first round for a path predicts a later one. -/
theorem Completes.exists_predicted
    (completes : (updater.withDryRun false).Completes now round next)
    (after : FilesAfter updater.rules files now paths) :
    ∃ predicted, (updater.withDryRun true).Completes files predicted files ∧
      round.FollowsFrom updater.rules predicted ∧
      (round.IsAlike predicted ↔ updater.IsSteadyAt files paths round.path) := by
  obtain ⟨location, resolved, here, readable⟩ := FileSystem.readText_eq_ok_iff.1 completes.read
  rw [after.shape.resolve_eq] at resolved
  rw [after.shape.refusal?_eq] at readable
  obtain ⟨old, there⟩ := after.shape.exists_file here
  obtain ⟨bytes, same, updates⟩ := after.content location old there
  obtain rfl : round.text.bytes = bytes :=
    Node.file.inj (Option.some.inj (here.symm.trans same))
  obtain ⟨start, first, rfl, updated⟩ := updates.exists_first completes.updated
  have read := FileSystem.readText_eq_ok_iff.2 ⟨location, resolved, there, readable⟩
  refine ⟨⟨round.path, start, first⟩, ⟨read, updated, fun _ => rfl, fun _ real => by cases real⟩,
    ⟨rfl, completes.updated, updated, _, updates⟩, ?_⟩
  rw [isSteadyAt_iff resolved there]
  exact (Rules.reportsAlike_iff updates updated completes.updated).symm

/-- Rounds of a real run have their predictions. -/
theorem Rounds.exists_predicted (run : (updater.withDryRun false).Rounds now rounds last)
    (after : FilesAfter updater.rules files now paths) :
    ∃ predicted, (updater.withDryRun true).Rounds files predicted files ∧
      List.Forall₂ (Round.FollowsFrom updater.rules) rounds predicted ∧
      (List.Forall₂ Round.IsAlike rounds predicted ↔
        ∀ earlier path later, rounds.map Round.path = earlier ++ path :: later →
          updater.IsSteadyAt files (paths ++ earlier) path) := by
  induction run generalizing paths with
  | nil => exact ⟨[], .nil, .nil, by simp⟩
  | @cons now next last round rounds completes _ ih =>
      obtain ⟨first, firstRun, follows, steady⟩ := completes.exists_predicted after
      obtain ⟨others, othersRun, follow, steadyOthers⟩ := ih (completes.filesAfter rfl after)
      refine ⟨first :: others, .cons firstRun othersRun, .cons follows follow, ?_⟩
      rw [List.forall₂_cons, steady, steadyOthers, List.map_cons, forall_cut_cons_iff,
        List.append_nil]
      simp only [List.append_assoc, List.singleton_append]

/-- **What a dry run predicts.** Where a real run succeeds, the dry run succeeds over the
same sources, and they count the same annotations if what is written can be read again. They
report the same exactly if every source is reported after the ones before it as it is at
first, and so they do where no two sources lead to the same place. -/
theorem exists_outcome_dryRun {summary : Summary}
    (succeeded : (updater.withDryRun false).outcome files = .ok summary) :
    ∃ predicted, (updater.withDryRun true).outcome files = .ok predicted ∧
      predicted.mode = summary.mode ∧ predicted.filesVisited = summary.filesVisited ∧
      (updater.rules.IsLineFree → updater.rules.IsPlain →
        predicted.annotations = summary.annotations) ∧
      (predicted.Agrees summary ↔ ∀ earlier path later,
        updater.config.sources files = earlier ++ path :: later →
          updater.IsSteadyAt files earlier path) ∧
      ((updater.config.sources files).Pairwise
          (fun first second => files.resolve first ≠ files.resolve second) →
        predicted.Agrees summary) := by
  obtain ⟨rounds, last, run, (visited : rounds.map Round.path = updater.config.sources files),
    rfl⟩ := outcome_eq_ok_iff.1 succeeded
  obtain ⟨predicted, dryRun, follow, steady⟩ := run.exists_predicted (.nil updater.rules files)
  have paths : rounds.map Round.path = predicted.map Round.path :=
    map_eq_of_forall₂ (follow.imp fun _ _ follows => follows.path_eq)
  have agrees := (Round.agrees_iff (updater.withDryRun false) (updater.withDryRun true)
    follow).trans steady
  simp only [visited, List.nil_append] at agrees
  refine ⟨_, outcome_eq_ok_iff.2 ⟨predicted, files, dryRun, paths.symm.trans visited, rfl⟩, rfl,
    follow.length_eq.symm, ?_, agrees, fun apart => agrees.2 ?_⟩
  · intro lineFree plain
    have counts := map_eq_of_forall₂ (follow.imp fun _ _ follows =>
      follows.annotations_eq lineFree plain)
    simp only [summaryOf, counts]
  · intro earlier path later cut
    rw [cut] at apart
    exact isSteadyAt_of_apart fun other member =>
      (List.pairwise_append.1 apart).2.2 other member path List.mem_cons_self

/-- A directory with one source and a link to it. -/
def linkedSources (text : Text) : FileSystem where
  root := .directory ⟨"Sources".toList, by decide⟩
    (.file ⟨"A.swift".toList, by decide⟩ text.bytes
      (.link ⟨"B.swift".toList, by decide⟩ (.ofString "A.swift") .nil)) .nil
  ordered := by simp [Listing.Ordered, Listing.names]; decide
  workingDirectory := []

/-- The dry run of a package with one source, and a link to it, reports two changes. The
real run reports one. -/
private theorem changes_linkedSources (dryRun : Bool) :
    ((withDryRun ⟨{}, .system⟩ dryRun).outcome
        (linkedSources "/*System 0.0.2*/\n".toList)).toOption.map (·.changes.length) =
      some (if dryRun then 2 else 1) := by
  cases dryRun <;> decide +kernel

/-- The source and the link to it are both visited, and the run succeeds. -/
theorem exists_outcome_dryRun_linked :
    let updater : Updater := ⟨{}, .system⟩
    let files := linkedSources "/*System 0.0.2*/\n".toList
    ∃ summary, (updater.withDryRun false).outcome files = .ok summary ∧
      ∃ predicted, (updater.withDryRun true).outcome files = .ok predicted ∧
        predicted.mode = summary.mode ∧ predicted.filesVisited = summary.filesVisited ∧
        (updater.rules.IsLineFree → updater.rules.IsPlain →
          predicted.annotations = summary.annotations) ∧
        (predicted.Agrees summary ↔ ∀ earlier path later,
          updater.config.sources files = earlier ++ path :: later →
            updater.IsSteadyAt files earlier path) ∧
        ((updater.config.sources files).Pairwise
            (fun first second => files.resolve first ≠ files.resolve second) →
          predicted.Agrees summary) := by
  intro updater files
  have counted : ((updater.withDryRun false).outcome files).toOption.map (·.changes.length) =
      some 1 := changes_linkedSources false
  cases real : (updater.withDryRun false).outcome files with
  | error failure => simp [real, Except.toOption] at counted
  | ok summary => exact ⟨summary, rfl, exists_outcome_dryRun real⟩

/-- The dry run reports a change at the source and at the link. The real run reports one at
the source only, because the file is up to date when it comes to the link. -/
theorem not_forall_outcome_agrees :
    ¬ ∀ (updater : Updater) (files : FileSystem) (summary : Summary),
      (updater.withDryRun false).outcome files = .ok summary →
        ∃ predicted, (updater.withDryRun true).outcome files = .ok predicted ∧
          predicted.mode = summary.mode ∧ predicted.filesVisited = summary.filesVisited ∧
          predicted.Agrees summary := by
  intro all
  let updater : Updater := ⟨{}, .system⟩
  let files := linkedSources "/*System 0.0.2*/\n".toList
  have counted : ((updater.withDryRun false).outcome files).toOption.map (·.changes.length) =
      some 1 := changes_linkedSources false
  have predictedCount : ((updater.withDryRun true).outcome files).toOption.map
      (·.changes.length) = some 2 := changes_linkedSources true
  cases real : (updater.withDryRun false).outcome files with
  | error failure => simp [real, Except.toOption] at counted
  | ok summary =>
      obtain ⟨predicted, dry, -, -, agrees⟩ := all updater files summary real
      have lengths := congrArg List.length agrees.changes_eq
      simp only [real, dry, Except.toOption, Option.map_some, Option.some.injEq]
        at counted predictedCount
      simp only [List.length_map, counted, predictedCount] at lengths
      omega

end Updater

end AvailabilityAnnotations

/-
# Comparing two runs

Two runs over the same paths can be compared round by round. Where one of them reads what
updates have made of the text that the other one reads (`FollowsFrom`), it reports nothing
where nothing was reported, because a text without changes stays as it is. So the lists of
reports are equal only if no report is missing, and then they are equal at every round
(`agrees_iff`).
-/

import Mathlib.Data.List.Forall2
import AvailabilityAnnotations.Proofs.Run.Rounds
import AvailabilityAnnotations.Proofs.Update.Repetition

namespace AvailabilityAnnotations

section Lists

variable {α β γ : Type} {f : α → Option γ} {g : β → Option γ} {first : List α} {second : List β}

/-- Two lists are mapped alike if their items are. -/
theorem map_eq_of_forall₂ {p : α → γ} {q : β → γ}
    (same : List.Forall₂ (fun a b => p a = q b) first second) : first.map p = second.map q := by
  rwa [← List.forall₂_eq_eq_eq, List.forall₂_map_left_iff, List.forall₂_map_right_iff]

/-- If nothing is left of one list where nothing is left of the other, no more is left of
it altogether. -/
private theorem length_filterMap_le
    (fewer : List.Forall₂ (fun a b => g b = none → f a = none) first second) :
    (first.filterMap f).length ≤ (second.filterMap g).length := by
  induction fewer with
  | nil => exact Nat.le_refl _
  | @cons a b first second weaker _ ih =>
      cases right : g b with
      | none => simpa [weaker right, right] using ih
      | some y => cases left : f a <;> simp [left, right] <;> omega

/-- If nothing is left of one list where nothing is left of the other, the same is left of
both exactly if it is at every place. -/
private theorem filterMap_eq_filterMap_iff
    (fewer : List.Forall₂ (fun a b => g b = none → f a = none) first second) :
    first.filterMap f = second.filterMap g ↔ List.Forall₂ (fun a b => f a = g b) first second := by
  induction fewer with
  | nil => simp
  | @cons a b first second weaker others ih =>
      have short := length_filterMap_le others
      cases right : g b with
      | none => simp [weaker right, right, ih]
      | some y =>
          cases left : f a with
          | none =>
              simp only [List.filterMap_cons, left, right, List.forall₂_cons, reduceCtorEq,
                false_and, iff_false]
              intro same
              have lengths := congrArg List.length same
              simp only [List.length_cons] at lengths
              omega
          | some x => simp [left, right, ih]

end Lists

/-- The report of a changed file without the difference that a dry run shows. -/
def ChangedFile.withoutDiff (change : ChangedFile) : ChangedFile :=
  { change with diff? := none }

/-- The summaries report the same annotations and the same changed lines of the same
files. -/
structure Summary.Agrees (predicted summary : Summary) : Prop where
  annotations_eq : predicted.annotations = summary.annotations
  changes_eq : predicted.changes.map ChangedFile.withoutDiff =
    summary.changes.map ChangedFile.withoutDiff

namespace Round

/-- What a round reports, without the difference that a dry run shows. -/
def report? (round : Round) : Option ChangedFile :=
  if round.update.content = round.text then none
  else some ⟨round.path, round.update.annotations, round.update.changedLines, none⟩

theorem map_withoutDiff_change? (updater : Updater) (round : Round) :
    (round.change? updater).map ChangedFile.withoutDiff = round.report? := by
  unfold change? report?
  split <;> rfl

/-- The rounds report the same number of annotations and the same lines. -/
def IsAlike (round predicted : Round) : Prop :=
  round.update.annotations = predicted.update.annotations ∧
    round.update.changedLines = predicted.update.changedLines

/-- The rounds are for the same path, and the one reads what updates have made of the text
that the predicted one reads. -/
structure FollowsFrom (rules : Rules) (round predicted : Round) : Prop where
  path_eq : round.path = predicted.path
  updated : rules.updateText round.path round.text = .ok round.update
  predictedUpdated : rules.updateText predicted.path predicted.text = .ok predicted.update
  updates : ∃ count, rules.Updates count predicted.text.bytes round.text.bytes

namespace FollowsFrom

variable {rules : Rules} {round predicted : Round}

/-- Where the predicted round changes nothing, the other one reads the same text. -/
theorem text_eq (follows : round.FollowsFrom rules predicted)
    (same : predicted.update.content = predicted.text) : round.text = predicted.text := by
  obtain ⟨count, updates⟩ := follows.updates
  exact Text.bytes_injective (updates.eq_of_unchanged follows.predictedUpdated same)

/-- Where the predicted round changes nothing, the updates are the same. -/
theorem update_eq (follows : round.FollowsFrom rules predicted)
    (same : predicted.update.content = predicted.text) : round.update = predicted.update := by
  have updated := follows.updated
  rw [follows.path_eq, follows.text_eq same, follows.predictedUpdated] at updated
  exact (Except.ok.inj updated).symm

/-- Both rounds find the same number of annotations. -/
theorem annotations_eq (follows : round.FollowsFrom rules predicted) (lineFree : rules.IsLineFree)
    (plain : rules.IsPlain) : round.update.annotations = predicted.update.annotations := by
  obtain ⟨count, updates⟩ := follows.updates
  rw [Rules.updateLines_annotations follows.updated,
    Rules.updateLines_annotations follows.predictedUpdated,
    updates.annotationCount_eq lineFree plain]

/-- Nothing is reported where nothing was predicted. -/
theorem report?_eq_none (follows : round.FollowsFrom rules predicted)
    (none : predicted.report? = none) : round.report? = Option.none := by
  have same : predicted.update.content = predicted.text := by simpa [report?] using none
  simp [report?, follows.update_eq same, same, follows.text_eq same]

/-- Two rounds report the same exactly if they are alike. -/
theorem report?_eq_iff (follows : round.FollowsFrom rules predicted) :
    round.report? = predicted.report? ↔ round.IsAlike predicted := by
  by_cases same : predicted.update.content = predicted.text
  · have update := follows.update_eq same
    simp [report?, IsAlike, update, same, follows.text_eq same]
  · have changed := (Rules.hasChanges_iff follows.predictedUpdated).2 same
    constructor
    · intro equal
      by_cases unchanged : round.update.content = round.text
      · simp [report?, same, unchanged] at equal
      · simp only [report?, same, unchanged, if_false, Option.some.injEq,
          ChangedFile.mk.injEq] at equal
        exact ⟨equal.2.1, equal.2.2.1⟩
    · rintro ⟨annotations, lines⟩
      have different : round.update.content ≠ round.text := by
        rw [← Rules.hasChanges_iff follows.updated, Update.hasChanges, lines]
        exact changed
      simp [report?, same, different, follows.path_eq, annotations, lines]

end FollowsFrom

/-- The changes of a run are the reports of its rounds. -/
theorem changes_summaryOf (updater : Updater) (rounds : List Round) :
    (updater.summaryOf rounds).changes.map ChangedFile.withoutDiff = rounds.filterMap report? := by
  simp only [Updater.summaryOf, List.map_filterMap, map_withoutDiff_change?]

variable {rules : Rules} {rounds predicted : List Round}

/-- Rounds report the same one by one exactly if they are alike one by one. -/
theorem forall₂_report?_iff (follow : List.Forall₂ (FollowsFrom rules) rounds predicted) :
    List.Forall₂ (fun round predicted => round.report? = predicted.report?) rounds predicted ↔
      List.Forall₂ IsAlike rounds predicted := by
  induction follow with
  | nil => simp
  | cons follows _ ih => rw [List.forall₂_cons, List.forall₂_cons, follows.report?_eq_iff, ih]

/-- The totals of rounds agree exactly if the rounds are alike one by one. -/
theorem agrees_iff (updater dryUpdater : Updater)
    (follow : List.Forall₂ (FollowsFrom rules) rounds predicted) :
    (dryUpdater.summaryOf predicted).Agrees (updater.summaryOf rounds) ↔
      List.Forall₂ IsAlike rounds predicted := by
  have reports := filterMap_eq_filterMap_iff
    (follow.imp fun _ _ follows => follows.report?_eq_none)
  rw [← forall₂_report?_iff follow, ← reports]
  constructor
  · rintro ⟨-, changes⟩
    rw [changes_summaryOf, changes_summaryOf] at changes
    exact changes.symm
  · intro same
    have alike := (forall₂_report?_iff follow).1 (reports.1 same)
    refine ⟨?_, ?_⟩
    · simp only [Updater.summaryOf, map_eq_of_forall₂ (alike.imp fun _ _ same => same.1)]
    · rw [changes_summaryOf, changes_summaryOf, same]

end Round

end AvailabilityAnnotations

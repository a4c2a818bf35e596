/-
# Updating again and again

The same file can be updated several times, each time from the text that the update before
has left in it. The path under which that happens does not matter, so the number of
updates alone settles what the file holds in the end (`Updates.unique`), and a text without
changes is left as it is however often it is updated.

What an update reports may still be different each time, because it reports changes to the
text that it has read. `ReportsAlike` says that after so many updates it does not matter.
The number of annotations is always the same if what the rules write can be read again.
-/

import AvailabilityAnnotations.Proofs.FileSystem.Access
import AvailabilityAnnotations.Proofs.Update.Retention

namespace AvailabilityAnnotations

namespace Rules

/-- So many successful updates, each of the text that the one before has left, lead from
the old content of a file to the new one. -/
inductive Updates (rules : Rules) : Nat → ByteArray → ByteArray → Prop
  | none {content : ByteArray} : Updates rules 0 content content
  | more {count : Nat} {content : ByteArray} {text : Text} {path : Path} {update : Update}
      (before : Updates rules count content text.bytes)
      (updated : rules.updateText path text = .ok update) :
      Updates rules (count + 1) content update.content.bytes

variable {rules : Rules} {count : Nat} {path : Path} {text : Text} {update : Update}
  {content one two : ByteArray}

/-- So many updates lead to one content only. -/
theorem Updates.unique (first : rules.Updates count content one)
    (second : rules.Updates count content two) : one = two := by
  induction first generalizing two with
  | none =>
      cases second
      rfl
  | more _ updated ih =>
      cases second with
      | more before again =>
          have same := Text.bytes_injective (ih before)
          subst same
          have equal := (updateText_path _ updated).symm.trans again
          rw [Except.ok.inj equal]

/-- What can be updated after so many updates could be updated at first. -/
theorem Updates.exists_first (updates : rules.Updates count content text.bytes)
    (updated : rules.updateText path text = .ok update) :
    ∃ start first, content = Text.bytes start ∧ rules.updateText path start = .ok first := by
  generalize reached : text.bytes = bytes at updates
  induction updates generalizing text path update with
  | none => exact ⟨text, update, reached.symm, updated⟩
  | more _ before ih =>
      obtain ⟨start, first, begins, known⟩ := ih before rfl
      exact ⟨start, first, begins, updateText_path path known⟩

/-- A text without changes is not changed by further updates. -/
theorem Updates.eq_of_unchanged (updates : rules.Updates count text.bytes content)
    (updated : rules.updateText path text = .ok update) (same : update.content = text) :
    content = text.bytes := by
  generalize begins : text.bytes = start at updates
  induction updates with
  | none => rfl
  | more _ again ih =>
      obtain rfl := Text.bytes_injective (begins.trans (ih begins).symm)
      have equal := (updateText_path _ updated).symm.trans again
      rw [← Except.ok.inj equal, same, begins]

/-- Updates keep the number of annotations. -/
theorem Updates.annotationCount_eq (lineFree : rules.IsLineFree) (plain : rules.IsPlain)
    {start now : Text} (updates : rules.Updates count start.bytes (Text.bytes now)) :
    rules.annotationCount (Line.split now) = rules.annotationCount (Line.split start) := by
  generalize begins : start.bytes = first at updates
  generalize ends : Text.bytes now = last at updates
  induction updates generalizing now with
  | none =>
      obtain rfl := Text.bytes_injective (begins.trans ends.symm)
      rfl
  | more _ updated ih =>
      obtain rfl := Text.bytes_injective ends
      rw [Rules.annotationCount_eq (forall₂_sameLine lineFree plain updated), ih begins rfl]

/-- After so many updates the text is reported as it is at first: with as many annotations
and with the same lines changed. -/
def ReportsAlike (rules : Rules) (count : Nat) (text : Text) : Prop :=
  ∀ path now first again, rules.Updates count text.bytes (Text.bytes now) →
    rules.updateText path text = .ok first → rules.updateText path now = .ok again →
      again.annotations = first.annotations ∧ again.changedLines = first.changedLines

/-- A single run of updates shows whether the text is reported alike. -/
theorem reportsAlike_iff {other : Path} {now : Text} {first again : Update}
    (updates : rules.Updates count text.bytes (Text.bytes now))
    (updated : rules.updateText path text = .ok first)
    (updatedAgain : rules.updateText other now = .ok again) :
    rules.ReportsAlike count text ↔
      again.annotations = first.annotations ∧ again.changedLines = first.changedLines := by
  constructor
  · intro alike
    exact alike path now first again updates updated (updateText_path path updatedAgain)
  · intro alike path' now' first' again' updates' updated' updatedAgain'
    obtain rfl : now = now' := Text.bytes_injective (updates.unique updates')
    obtain rfl : first = first' :=
      Except.ok.inj ((updateText_path path' updated).symm.trans updated')
    obtain rfl : again = again' :=
      Except.ok.inj ((updateText_path path' updatedAgain).symm.trans updatedAgain')
    exact alike

theorem reportsAlike_zero (rules : Rules) (text : Text) : rules.ReportsAlike 0 text := by
  intro path now first again updates updated updatedAgain
  generalize reached : Text.bytes now = bytes at updates
  cases updates
  obtain rfl := Text.bytes_injective reached
  cases updated.symm.trans updatedAgain
  exact ⟨rfl, rfl⟩

end Rules

end AvailabilityAnnotations

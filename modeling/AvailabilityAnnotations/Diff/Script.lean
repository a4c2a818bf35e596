/-
# Edit scripts

The script from one list of lines to another keeps what the two have in common at
the front and at the back, splits what lies between at a split point, and goes on
with the two halves. Where one side is used up, the rest of the other is deleted or
inserted as a whole.

Whatever point the split is made at, the script reads the old lines and writes the
new ones; the choice of the point only makes it short.
-/

import AvailabilityAnnotations.Diff.Edit
import AvailabilityAnnotations.Diff.Split

namespace AvailabilityAnnotations

namespace Diff

/-- The lines at the front that two lists have in common. -/
def sharedFront : List Text → List Text → List Text
  | first :: old, second :: new =>
      if first = second then first :: sharedFront old new else []
  | _, _ => []

/-- Two lists of lines with what they have in common at their ends set apart. -/
structure Trimmed where
  /-- The common lines at the front. -/
  front : List Text
  /-- The old lines between. -/
  old : List Text
  /-- The new lines between. -/
  new : List Text
  /-- The common lines at the back. -/
  back : List Text

/-- Set apart the common lines at the front and then those at the back. -/
def trim (old new : List Text) : Trimmed :=
  let front := sharedFront old new
  let oldReversed := (old.drop front.length).reverse
  let newReversed := (new.drop front.length).reverse
  let back := sharedFront oldReversed newReversed
  { front := front
    old := (oldReversed.drop back.length).reverse
    new := (newReversed.drop back.length).reverse
    back := back.reverse }

private theorem sharedFront_append_drop_old (old new : List Text) :
    sharedFront old new ++ old.drop (sharedFront old new).length = old := by
  fun_induction sharedFront old new with
  | case1 first old new ih => simp [ih]
  | case2 | case3 => simp

private theorem sharedFront_append_drop_new (old new : List Text) :
    sharedFront old new ++ new.drop (sharedFront old new).length = new := by
  fun_induction sharedFront old new with
  | case1 first old new ih => simp [ih]
  | case2 | case3 => simp

private theorem append_reverse_drop_reverse {rest back : List Text}
    (joined : back ++ rest.reverse.drop back.length = rest.reverse) :
    (rest.reverse.drop back.length).reverse ++ back.reverse = rest := by
  rw [← List.reverse_append, joined, List.reverse_reverse]

/-- Setting common lines apart loses no old line. -/
theorem trim_old (old new : List Text) :
    (trim old new).front ++ (trim old new).old ++ (trim old new).back = old := by
  simp only [trim, List.append_assoc]
  rw [append_reverse_drop_reverse (sharedFront_append_drop_old _ _),
    sharedFront_append_drop_old]

/-- Setting common lines apart loses no new line. -/
theorem trim_new (old new : List Text) :
    (trim old new).front ++ (trim old new).new ++ (trim old new).back = new := by
  simp only [trim, List.append_assoc]
  rw [append_reverse_drop_reverse (sharedFront_append_drop_new _ _),
    sharedFront_append_drop_new]

/-- What is left between common lines is no longer than the whole. -/
theorem length_trim_le (old new : List Text) :
    (trim old new).old.length ≤ old.length ∧ (trim old new).new.length ≤ new.length := by
  have oldLength := congrArg List.length (trim_old old new)
  have newLength := congrArg List.length (trim_new old new)
  simp only [List.length_append] at oldLength newLength
  omega

/-- Delete all old lines and insert all new ones. -/
def replaceAll (old new : List Text) : List Edit :=
  old.map .delete ++ new.map .insert

/-- Whether a point splits two lists of lines into halves that are both smaller. -/
def SplitPoint.IsProper (point : SplitPoint) (old new : List Text) : Prop :=
  0 < point.old + point.new ∧ point.old ≤ old.length ∧ point.new ≤ new.length ∧
    point.old + point.new < old.length + new.length

instance (point : SplitPoint) (old new : List Text) : Decidable (point.IsProper old new) := by
  unfold SplitPoint.IsProper
  infer_instance

/-- The edits from `old` to `new`. -/
def script (old new : List Text) : List Edit :=
  let trimmed := trim old new
  let between :=
    if trimmed.old = [] ∨ trimmed.new = [] then replaceAll trimmed.old trimmed.new
    else
      match splitPoint? trimmed.old trimmed.new with
      | none => replaceAll trimmed.old trimmed.new
      | some point =>
          -- A point in a corner would leave one half as long as the whole. The search never
          -- answers with one, but the recursion has to know it.
          if point.IsProper trimmed.old trimmed.new then
            script (trimmed.old.take point.old) (trimmed.new.take point.new) ++
              script (trimmed.old.drop point.old) (trimmed.new.drop point.new)
          else replaceAll trimmed.old trimmed.new
  trimmed.front.map .keep ++ between ++ trimmed.back.map .keep
termination_by old.length + new.length
decreasing_by
  all_goals
    next proper =>
      obtain ⟨oldShorter, newShorter⟩ := length_trim_le old new
      obtain ⟨some, oldInside, newInside, notAll⟩ := proper
      simp only [trimmed] at some oldInside newInside notAll
      simp only [List.length_take, List.length_drop]
      omega

end Diff

end AvailabilityAnnotations

/-
# What a script reads and writes

A list of edits is a script from one list of lines to another if its kept and deleted lines
are the old ones and its kept and inserted lines the new ones, in their order. Scripts can be
put one behind the other, and so the recursive search for a script is correct wherever it
splits the lines: the choice of the split point has no part in it.

Moving deletions in front of insertions does not change what a script reads and writes.
-/

import AvailabilityAnnotations.Diff.Script

namespace AvailabilityAnnotations

namespace Diff

@[simp] theorem oldLines_append (first second : List Edit) :
    oldLines (first ++ second) = oldLines first ++ oldLines second :=
  List.filterMap_append

@[simp] theorem newLines_append (first second : List Edit) :
    newLines (first ++ second) = newLines first ++ newLines second :=
  List.filterMap_append

/-- The edits lead from the old lines to the new ones. -/
structure IsScript (old new : List Text) (edits : List Edit) : Prop where
  reads : oldLines edits = old
  writes : newLines edits = new

namespace IsScript

variable {old new otherOld otherNew : List Text} {edits others : List Edit}

/-- Any edits lead from what they read to what they write. -/
theorem views (edits : List Edit) : IsScript (oldLines edits) (newLines edits) edits :=
  ⟨rfl, rfl⟩

/-- One script behind another one. -/
theorem append (first : IsScript old new edits) (second : IsScript otherOld otherNew others) :
    IsScript (old ++ otherOld) (new ++ otherNew) (edits ++ others) where
  reads := by rw [oldLines_append, first.reads, second.reads]
  writes := by rw [newLines_append, first.writes, second.writes]

/-- Kept lines are old and new. -/
theorem keep (lines : List Text) : IsScript lines lines (lines.map .keep) := by
  induction lines with
  | nil => exact views []
  | cons line lines ih => exact (views [.keep line]).append ih

/-- Deleted lines are old. -/
theorem delete (lines : List Text) : IsScript lines [] (lines.map .delete) := by
  induction lines with
  | nil => exact views []
  | cons line lines ih => exact (views [.delete line]).append ih

/-- Inserted lines are new. -/
theorem insert (lines : List Text) : IsScript [] lines (lines.map .insert) := by
  induction lines with
  | nil => exact views []
  | cons line lines ih => exact (views [.insert line]).append ih

/-- All old lines can be replaced by all new ones. -/
theorem replaceAll (old new : List Text) : IsScript old new (replaceAll old new) := by
  have replaced := (delete old).append (insert new)
  rwa [List.append_nil, List.nil_append] at replaced

/-- Where both lists are cut in two, scripts for the parts make up a script for the whole. -/
theorem of_parts (oldAt newAt : Nat)
    (first : IsScript (old.take oldAt) (new.take newAt) edits)
    (second : IsScript (old.drop oldAt) (new.drop newAt) others) :
    IsScript old new (edits ++ others) := by
  have whole := first.append second
  rwa [List.take_append_drop, List.take_append_drop] at whole

end IsScript

/-- The search answers with a script, whatever points it splits the lines at. -/
theorem isScript_script (old new : List Text) : IsScript old new (script old new) := by
  induction old, new using script.induct with
  | case1 old new trimmed first second =>
      have framed {between : List Edit} (isScript : IsScript trimmed.old trimmed.new between) :
          IsScript old new
            (trimmed.front.map .keep ++ between ++ trimmed.back.map .keep) := by
        have whole := ((IsScript.keep trimmed.front).append isScript).append (.keep trimmed.back)
        rwa [trim_old, trim_new] at whole
      rw [script]
      apply framed
      split
      · exact .replaceAll ..
      · split
        · exact .replaceAll ..
        · next point _ =>
            split
            · next proper => exact .of_parts _ _ (first point proper) (second point proper)
            · exact .replaceAll ..

/-- Moving deletions to the front keeps a script a script. The lines of the run that is being
read stand in front of the lines to come. -/
theorem isScript_arrangeFrom (deleted inserted : List Text) (edits : List Edit) :
    IsScript (deleted ++ oldLines edits) (inserted ++ newLines edits)
      (arrangeFrom deleted inserted edits) := by
  induction edits generalizing deleted inserted with
  | nil =>
      show IsScript (deleted ++ []) (inserted ++ []) (replaceAll deleted inserted)
      rw [List.append_nil, List.append_nil]
      exact .replaceAll ..
  | cons edit edits ih =>
      cases edit with
      | keep line =>
          have kept := (IsScript.views [.keep line]).append (ih [] [])
          exact (IsScript.replaceAll deleted inserted).append kept
      | delete line =>
          have moved := ih (deleted ++ [line]) inserted
          rwa [List.append_assoc] at moved
      | insert line =>
          have moved := ih deleted (inserted ++ [line])
          rwa [List.append_assoc] at moved

/-- Moving deletions to the front keeps a script a script. -/
theorem IsScript.arrange {old new : List Text} {edits : List Edit}
    (isScript : IsScript old new edits) : IsScript old new (arrange edits) := by
  have arranged := isScript_arrangeFrom [] [] edits
  rwa [List.nil_append, List.nil_append, isScript.reads, isScript.writes] at arranged

end Diff

end AvailabilityAnnotations

/-
# Unified diffs are patches

The unified diff of two texts shows the hunks of a script between their lines, so it is a patch
(`isPatch_hunks_between`), and the hunks can be read from its text (`readDiff?_unified`).
Whoever applies what is read to the old text gets the new one, with every line ending and with
a last line that has none (`IsPatch.patchText_eq`).
-/

import AvailabilityAnnotations.Proofs.Diff.Hunks
import AvailabilityAnnotations.Proofs.Diff.Reading

namespace AvailabilityAnnotations

namespace Diff

/-- The line of an edit is read or written. -/
theorem Edit.line_mem {edit : Edit} {edits : List Edit} (member : edit ∈ edits) :
    edit.line ∈ oldLines edits ∨ edit.line ∈ newLines edits := by
  cases edit with
  | keep line => exact .inl (List.mem_filterMap.2 ⟨_, member, rfl⟩)
  | delete line => exact .inl (List.mem_filterMap.2 ⟨_, member, rfl⟩)
  | insert line => exact .inr (List.mem_filterMap.2 ⟨_, member, rfl⟩)

/-- The script between two texts leads from the lines of the one to those of the other. -/
theorem isScript_between (old new : Text) : IsScript (lines old) (lines new) (between old new) :=
  (isScript_script ..).arrange

/-- The hunks between two texts are a patch. -/
theorem isPatch_hunks_between (old new : Text) :
    IsPatch (hunks (between old new)) (lines old) (lines new) :=
  (isScript_between old new).isPatch_hunks

/-- The hunks between two texts can be read from their unified diff. -/
theorem readDiff?_unified (path : Path) (old new : Text) :
    readDiff? path (unified path old new) = some (hunks (between old new)) := by
  apply readDiff?_render
  intro hunk there edit inside
  have walk := (isScript_between old new).patches
  obtain ⟨oldFront, newFront, oldRest, newRest, oldCut, newCut, -⟩ := walk.ranges there
  rcases Edit.line_mem inside with read | written
  · apply forall_isLine_lines old
    rw [oldCut]
    exact List.mem_append_right _ (List.mem_append_left _ read)
  · apply forall_isLine_lines new
    rw [newCut]
    exact List.mem_append_right _ (List.mem_append_left _ written)

/-- A text with all hunks applied to its lines. -/
def patchText (hunks : List Hunk) (text : Text) : Text :=
  (patch hunks (lines text)).flatten

/-- Hunks between the lines of two texts lead from the one text to the other. -/
theorem IsPatch.patchText_eq {hunks : List Hunk} {old new : Text}
    (isPatch : IsPatch hunks (lines old) (lines new)) : patchText hunks old = new := by
  rw [patchText, isPatch.patched, flatten_lines]

/-- Without hunks a text stays as it is. -/
theorem patchText_nil (text : Text) : patchText [] text = text :=
  flatten_lines text

end Diff

end AvailabilityAnnotations

/-
# The report of an update

An update reports whether anything is different, which lines are, and how many annotations
there are. The flag is put together from single lines, while what it stands for is a whole
text; `Rules.hasChanges_iff` says that the two agree. Here the numbers of the lines are
settled: they are the numbers of exactly those lines that have an annotation and another body
now, in their order. So no number is out of range or stands twice, and there are no more of
them than annotations, of which there are no more than lines.

Nothing is assumed of the rules. Attribute, placeholder and lists may hold line feeds, and then
the numbers are those of the lines of the old text.
-/

import AvailabilityAnnotations.Proofs.Update.Changes

namespace AvailabilityAnnotations

namespace Rules

variable {rules : Rules} {path : Path} {number : Nat} {text : Text} {lines : List Line}
  {update : Update}

/-- What an update of the text reports is exact. -/
structure IsExactReport (rules : Rules) (path : Path) (text : Text) (update : Update) : Prop where
  hasChanges_iff : update.hasChanges = true ↔ update.content ≠ text
  rising : update.changedLines.Pairwise (· < ·)
  inside : ∀ number ∈ update.changedLines, 1 ≤ number ∧ number ≤ (Line.split text).length
  /-- Lines are counted from one, so the line with this number has the index before it. -/
  mem_iff : ∀ number, number ∈ update.changedLines ↔
    1 ≤ number ∧ ∃ line body, (Line.split text)[number - 1]? = some line ∧
      rules.updateLine path number line.body = .ok (some body) ∧ body ≠ line.body
  length_changedLines_le : update.changedLines.length ≤ update.annotations
  annotations_le : update.annotations ≤ (Line.split text).length

/-- A line that is different when it is renewed has an annotation. -/
theorem isSome_findAnnotation?_of_isRenewed {line : Line} (renewed : rules.isRenewed line = true) :
    (rules.findAnnotation? line.body).isSome = true := by
  cases found : rules.findAnnotation? line.body with
  | some occurrence => rfl
  | none => simp [isRenewed, renew, found] at renewed

/-- The numbers that are reported stand among those of all lines, in the same order. -/
theorem changedLines_sublist (updated : rules.updateLines path number lines = .ok update) :
    update.changedLines.Sublist (List.range' number lines.length) := by
  rw [(updateLines_eq_ok updated).2, ← List.zipIdx_map_snd]
  exact List.filter_sublist.map Prod.snd

/-- A number is reported exactly if its line is updated to another body. -/
theorem mem_changedLines_iff (updated : rules.updateLines path number lines = .ok update)
    {found : Nat} : found ∈ update.changedLines ↔
      number ≤ found ∧ ∃ line body, lines[found - number]? = some line ∧
        rules.updateLine path found line.body = .ok (some body) ∧ body ≠ line.body := by
  have becomes {line : Line} (member : line ∈ lines) : rules.isRenewed line = true ↔
      ∃ body, rules.updateLine path found line.body = .ok (some body) ∧ body ≠ line.body := by
    obtain ⟨body?, passed, renewed⟩ := exists_updateLine_of_mem updated member found
    rw [passed, isRenewed, ← renewed]
    cases body? <;> simp
  rw [(updateLines_eq_ok updated).2, List.mem_map]
  constructor
  · rintro ⟨⟨line, found⟩, member, rfl⟩
    obtain ⟨numbered, renewed⟩ := List.mem_filter.1 member
    obtain ⟨later, here⟩ := List.mk_mem_zipIdx_iff_le_and_getElem?_sub.1 numbered
    obtain ⟨body, passed, different⟩ := (becomes (List.mem_of_getElem? here)).1 renewed
    exact ⟨later, line, body, here, passed, different⟩
  · rintro ⟨later, line, body, here, passed, different⟩
    have numbered := List.mk_mem_zipIdx_iff_le_and_getElem?_sub.2 ⟨later, here⟩
    have renewed := (becomes (List.mem_of_getElem? here)).2 ⟨body, passed, different⟩
    exact ⟨(line, found), List.mem_filter.2 ⟨numbered, renewed⟩, rfl⟩

/-- What an update reports is exact, whatever the rules are. -/
theorem isExactReport_of_updateText (updated : rules.updateText path text = .ok update) :
    rules.IsExactReport path text update where
  hasChanges_iff := hasChanges_iff updated
  rising := by
    have order : (List.range' 1 (Line.split text).length).Pairwise (· < ·) :=
      List.pairwise_lt_range' 1
    exact order.sublist (changedLines_sublist updated)
  inside number member := by
    obtain ⟨first, last⟩ := List.mem_range'_1.1 ((changedLines_sublist updated).subset member)
    omega
  mem_iff number := mem_changedLines_iff updated
  length_changedLines_le := by
    rw [length_changedLines updated, updateLines_annotations updated]
    exact List.countP_mono_left fun line _ => isSome_findAnnotation?_of_isRenewed
  annotations_le := by
    rw [updateLines_annotations updated]
    exact List.countP_le_length

end Rules

end AvailabilityAnnotations

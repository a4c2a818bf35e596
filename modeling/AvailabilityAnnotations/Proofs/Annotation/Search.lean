/-
# What a search finds

An annotation that a search finds is a written form of its dialect, and it stands in the
line with its front and its rest around it. Of the two dialects the new one decides:
what it finds counts, and the old one is asked only where it finds nothing.
-/

import AvailabilityAnnotations.Annotation.Search
import AvailabilityAnnotations.Proofs.Annotation.NewForm
import AvailabilityAnnotations.Proofs.Annotation.OldForm
import AvailabilityAnnotations.Proofs.Annotation.Occurrence

namespace AvailabilityAnnotations

variable {keyword package line : Text} {occurrence : Occurrence}

/-- An annotation of the new dialect is a form that was written in the line, and no
earlier place of the line can be read. -/
theorem Dialect.find?_new_sound (found : Dialect.new.find? keyword package line = some occurrence) :
    ∃ form : NewForm, form.IsWellFormed ∧ occurrence.annotation = form.annotation package ∧
      occurrence.written = form.write keyword package ∧ line = occurrence.line ∧
      ∀ back, back <:+ occurrence.before → back ≠ [] →
        NewForm.reading? package (NewForm.opening keyword package)
          (back ++ (occurrence.written ++ occurrence.after)) = none := by
  obtain ⟨tail, rfl, here, earlier⟩ := firstOccurrence_eq_some_iff.1 found
  obtain ⟨form, wellFormed, meaning, written, rfl⟩ := NewForm.reading?_sound here
  exact ⟨form, wellFormed, meaning, written, by simp [Occurrence.line], earlier⟩

/-- A search for the new dialect finds annotations of the new dialect. -/
theorem Dialect.find?_new_dialect
    (found : Dialect.new.find? keyword package line = some occurrence) :
    occurrence.annotation.dialect = .new := by
  obtain ⟨form, -, meaning, -⟩ := Dialect.find?_new_sound found
  rw [meaning]
  rfl

/-- An annotation of the old dialect is a form that was written in the line, and no
earlier place of the line can be read. -/
theorem Dialect.find?_old_sound (found : Dialect.old.find? keyword package line = some occurrence) :
    ∃ form : OldForm, form.IsWellFormed ∧
      occurrence.annotation = form.annotation keyword package ∧
      occurrence.written = form.write keyword package ∧ line = occurrence.line ∧
      ∀ back, back <:+ occurrence.before → back ≠ [] →
        OldForm.reading? keyword package (OldForm.opening package)
          (back ++ (occurrence.written ++ occurrence.after)) = none := by
  obtain ⟨tail, rfl, here, earlier⟩ := firstOccurrence_eq_some_iff.1 found
  obtain ⟨form, wellFormed, meaning, written, rfl⟩ := OldForm.reading?_sound here
  exact ⟨form, wellFormed, meaning, written, by simp [Occurrence.line], earlier⟩

/-- Where a form of the new dialect stands, one is found there or before. -/
theorem Dialect.exists_find?_new (keyword package front : Text) {tail : Text}
    (readable : NewForm.IsReadable tail) :
    ∃ occurrence, Dialect.new.find? keyword package
        (front ++ (NewForm.opening keyword package ++ tail)) = some occurrence ∧
      occurrence.before <+: front := by
  obtain ⟨reading, here⟩ := Option.isSome_iff_exists.1
    (NewForm.isSome_reading?_iff.2 ⟨tail, rfl, readable⟩)
  exact exists_firstOccurrence here

/-- Where a form of the old dialect stands, one is found there or before. -/
theorem Dialect.exists_find?_old (package front : Text) {tail : Text}
    (readable : OldForm.IsReadable keyword tail) :
    ∃ occurrence, Dialect.old.find? keyword package
        (front ++ (OldForm.opening package ++ tail)) = some occurrence ∧
      occurrence.before <+: front := by
  obtain ⟨reading, here⟩ := Option.isSome_iff_exists.1
    (OldForm.isSome_reading?_iff.2 ⟨tail, rfl, readable⟩)
  exact exists_firstOccurrence here

/-- What counts as the annotation of a line. -/
theorem findAnnotation?_eq_some_iff :
    findAnnotation? keyword package line = some occurrence ↔
      Dialect.new.find? keyword package line = some occurrence ∨
        Dialect.new.find? keyword package line = none ∧
          Dialect.old.find? keyword package line = some occurrence := by
  cases new : Dialect.new.find? keyword package line <;>
    simp [findAnnotation?, Dialect.searchOrder, new]

/-- Where an annotation of the new dialect is found, it counts. -/
theorem findAnnotation?_of_new (found : Dialect.new.find? keyword package line = some occurrence) :
    findAnnotation? keyword package line = some occurrence :=
  findAnnotation?_eq_some_iff.2 (.inl found)

/-- An annotation of the old dialect counts if it can be read behind its front, nothing of
the old dialect can be read before, and nothing of the new one anywhere. -/
theorem findAnnotation?_of_old {before tail : Text} {reading : Reading}
    (nothing : ∀ other, other <:+ before ++ tail →
      NewForm.reading? package (NewForm.opening keyword package) other = none)
    (here : OldForm.reading? keyword package (OldForm.opening package) tail = some reading)
    (earlier : ∀ back, back <:+ before → back ≠ [] →
      OldForm.reading? keyword package (OldForm.opening package) (back ++ tail) = none) :
    findAnnotation? keyword package (before ++ tail) = some ⟨reading, before⟩ :=
  findAnnotation?_eq_some_iff.2 (.inr ⟨firstOccurrence_eq_none_iff.2 nothing,
    firstOccurrence_eq_some_iff.2 ⟨tail, rfl, here, earlier⟩⟩)

/-- An annotation that counts in a line stands in it, and its token stands in its
characters. -/
theorem findAnnotation?_line (found : findAnnotation? keyword package line = some occurrence) :
    line = occurrence.line ∧ occurrence.annotation.token <:+: occurrence.written := by
  rcases findAnnotation?_eq_some_iff.1 found with new | ⟨-, old⟩
  · obtain ⟨form, -, meaning, written, cut, -⟩ := Dialect.find?_new_sound new
    refine ⟨cut, keyword ++ "(/*".toList,
      form.note ++ "*/".toList ++ form.arguments ++ "*)".toList, ?_⟩
    simp [meaning, written, NewForm.annotation, NewForm.token, NewForm.write, NewForm.opening,
      NewForm.writeParts]
  · obtain ⟨form, -, meaning, written, cut, -⟩ := Dialect.find?_old_sound old
    refine ⟨cut, "/*".toList, OldForm.writeInside keyword form.inside? ++ "*/".toList ++
      OldForm.writeBehind keyword form.behind?, ?_⟩
    simp [meaning, written, OldForm.annotation, OldForm.token, OldForm.write, OldForm.opening,
      OldForm.writeParts]

/-- The dialect of an annotation tells which search found it. -/
theorem findAnnotation?_dialect (found : findAnnotation? keyword package line = some occurrence) :
    occurrence.annotation.dialect = .new ∧
        Dialect.new.find? keyword package line = some occurrence ∨
      occurrence.annotation.dialect = .old ∧
        Dialect.new.find? keyword package line = none ∧
          Dialect.old.find? keyword package line = some occurrence := by
  rcases findAnnotation?_eq_some_iff.1 found with new | ⟨none, old⟩
  · exact .inl ⟨Dialect.find?_new_dialect new, new⟩
  · obtain ⟨form, -, meaning, -⟩ := Dialect.find?_old_sound old
    exact .inr ⟨by rw [meaning]; rfl, none, old⟩

end AvailabilityAnnotations

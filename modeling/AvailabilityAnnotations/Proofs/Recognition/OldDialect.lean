/-
# What the search for the old dialect accepts

A line holds an annotation of the old dialect exactly if it is a written form of that
dialect with some text on either side. Such a cut of the line need not be the only one.
The search takes the one with the shortest front, and behind that front nothing is left to
choose but the clause behind the comment, which is taken wherever one stands: version and
inner clause are the same in every cut, although the version may hold commas and so the
place where it ends is only known from what follows.

Attribute and package are arbitrary texts here, the empty one included.
-/

import AvailabilityAnnotations.Proofs.Annotation.Search
import AvailabilityAnnotations.Proofs.Text.Edge

namespace AvailabilityAnnotations

namespace OldForm

variable {keyword package line : Text} {occurrence : Occurrence}

/-- The line is a form of the dialect with one text before it and another one after it. -/
structure IsCut (keyword package line before : Text) (form : OldForm) (after : Text) : Prop where
  wellFormed : form.IsWellFormed
  line_eq : line = before ++ form.write keyword package ++ after

/-- The clause inside the comment, with its comma, or else the one behind it. -/
theorem existing?_eq (keyword : Text) (form : OldForm) : form.existing? keyword =
    (form.inside?.map fun arguments => ", ".toList ++ clause keyword arguments).or
      (form.behind?.map (clause keyword)) := by
  obtain ⟨version, inside?, behind?⟩ := form
  cases inside? <;> cases behind? <;> rfl

/-- Behind an opening any form is read up to its comment, and completed by what stands
there. -/
theorem readParts?_append {form : OldForm} (wellFormed : form.IsWellFormed) (after : Text) :
    readParts? keyword (form.writeParts keyword ++ after) =
      some (readBehind keyword form.version form.inside?
        (writeBehind keyword form.behind? ++ after)) := by
  rw [writeParts, List.append_assoc]
  exact readParts?_comment wellFormed.version_ne_nil wellFormed.version_chars
    wellFormed.inside_chars _

/-- One text behind an opening has one version and one inner clause, and a clause behind the
comment is taken wherever one stands. -/
theorem parts_unique {form other : OldForm} {after otherAfter : Text}
    (read : readParts? keyword (other.writeParts keyword ++ otherAfter) = some (form, after))
    (wellFormed : other.IsWellFormed) :
    other.version = form.version ∧ other.inside? = form.inside? ∧
      (other.behind? ≠ none → other = form ∧ otherAfter = after) := by
  rw [readParts?_append wellFormed, Option.some.injEq] at read
  obtain ⟨version, inside, -, -⟩ := readBehind_sound read
  refine ⟨version.symm, inside.symm, fun taken => ?_⟩
  obtain ⟨arguments, behind⟩ := Option.ne_none_iff_exists'.1 taken
  have claimed : clause? keyword (clause keyword arguments ++ otherAfter) =
      some (arguments, otherAfter) :=
    clause?_eq_some_iff.2 ⟨rfl, wellFormed.behind_chars arguments behind⟩
  rw [behind, writeBehind, readBehind, claimed, Prod.mk.injEq] at read
  obtain ⟨rfl, rfl⟩ := read
  exact ⟨by rw [← behind], rfl⟩

/-- A form that stands in the line is found there or before. -/
theorem IsCut.exists_find? {before after : Text} {form : OldForm}
    (cut : IsCut keyword package line before form after) :
    ∃ occurrence, Dialect.old.find? keyword package line = some occurrence ∧
      occurrence.before <+: before := by
  have readable : IsReadable keyword (form.writeParts keyword ++ after) :=
    ⟨form, after, cut.wellFormed, rfl⟩
  have line : line = before ++ (opening package ++ (form.writeParts keyword ++ after)) := by
    rw [cut.line_eq, write, List.append_assoc, List.append_assoc]
  rw [line]
  exact Dialect.exists_find?_old package before readable

/-- What was read behind the front of an occurrence. -/
theorem exists_parts_of_find? (found : Dialect.old.find? keyword package line = some occurrence) :
    ∃ form parts, line = occurrence.before ++ (opening package ++ parts) ∧
      readParts? keyword parts = some (form, occurrence.after) ∧
      occurrence.annotation = form.annotation keyword package ∧
      occurrence.written = form.write keyword package := by
  obtain ⟨tail, rfl, here, -⟩ := firstOccurrence_eq_some_iff.1 found
  obtain ⟨⟨form, rest⟩, read, reading⟩ := Option.map_eq_some_iff.1 here
  obtain ⟨parts, opened, partsRead⟩ := Option.bind_eq_some_iff.1 read
  obtain ⟨⟨meaning, written, after⟩, before⟩ := occurrence
  simp only [Reading.mk.injEq] at reading
  obtain ⟨rfl, rfl, rfl⟩ := reading
  exact ⟨form, parts, by rw [Text.after?_eq_some_iff.1 opened], partsRead, rfl, rfl⟩

/-- **The old dialect is recognized exactly.** Something is found in a line exactly if the
line is a form of the dialect with texts around it. What is found has the shortest text
before it, its token and its clause are those of the form, and its byte offsets cut the line
between characters. Any other cut behind the same front has the same version and the same
inner clause, and is the same altogether if it has a clause behind its comment. -/
theorem old_find?_exact (keyword package line : Text) :
    ((∃ occurrence, Dialect.old.find? keyword package line = some occurrence) ↔
      ∃ before form after, IsCut keyword package line before form after) ∧
    ∀ occurrence, Dialect.old.find? keyword package line = some occurrence →
      ∃ form : OldForm,
        IsCut keyword package line occurrence.before form occurrence.after ∧
        occurrence.annotation =
          { dialect := .old
            token := package ++ ' ' :: form.version
            existing? :=
              (form.inside?.map fun arguments => ", ".toList ++ clause keyword arguments).or
                (form.behind?.map (clause keyword)) } ∧
        line.takeWidth? occurrence.start = some occurrence.before ∧
        line.dropWidth? occurrence.stop = some occurrence.after ∧
        ∀ before other after, IsCut keyword package line before other after →
          occurrence.before <+: before ∧
          (before = occurrence.before →
            other.version = form.version ∧ other.inside? = form.inside? ∧
              (other.behind? ≠ none → other = form ∧ after = occurrence.after)) := by
  constructor
  · constructor
    · rintro ⟨occurrence, found⟩
      obtain ⟨form, wellFormed, -, written, line, -⟩ := Dialect.find?_old_sound found
      rw [Occurrence.line, written] at line
      exact ⟨occurrence.before, form, occurrence.after, wellFormed, line⟩
    · rintro ⟨before, form, after, cut⟩
      obtain ⟨occurrence, found, -⟩ := cut.exists_find?
      exact ⟨occurrence, found⟩
  · intro occurrence found
    obtain ⟨form, parts, line_eq, read, meaning, written⟩ := exists_parts_of_find? found
    obtain ⟨parts_eq, wellFormed⟩ := readParts?_sound read
    have cut : line = occurrence.before ++ form.write keyword package ++ occurrence.after := by
      rw [line_eq, parts_eq, write, List.append_assoc, List.append_assoc]
    refine ⟨form, ⟨wellFormed, cut⟩, ?_, ?_, ?_, ?_⟩
    · rw [meaning, annotation, existing?_eq, token]
    · rw [cut, List.append_assoc]
      exact Text.takeWidth?_width_append ..
    · rw [cut, Occurrence.stop, written, ← Text.width_append]
      exact Text.dropWidth?_width_append ..
    · intro before other after otherCut
      obtain ⟨first, foundFirst, earlier⟩ := otherCut.exists_find?
      obtain rfl : first = occurrence := Option.some.inj (foundFirst.symm.trans found)
      refine ⟨earlier, fun same => ?_⟩
      have samePlace : parts = other.writeParts keyword ++ after := by
        have lines := line_eq.symm.trans otherCut.line_eq
        rw [same, write, List.append_assoc, List.append_assoc] at lines
        exact List.append_cancel_left (List.append_cancel_left lines)
      exact parts_unique (samePlace ▸ read) otherCut.wellFormed

/-- Behind an unfinished comment and a letter of two bytes, a version that ends in a comma is
told from the clause that a comma introduces, and the clause behind the comment is taken. -/
theorem old_find?_exact_comma :
    let line : Text := "é/*System 1 /*System 0.0.2,, @available(iOS 8)*/@available(swift 5)x".toList
    ∃ occurrence, Dialect.old.find? "@available".toList "System".toList line = some occurrence ∧
      ∃ form : OldForm,
        IsCut "@available".toList "System".toList line occurrence.before form occurrence.after ∧
        form = ⟨"0.0.2,".toList, some "iOS 8".toList, some "swift 5".toList⟩ ∧
        occurrence.start = 13 ∧ line.takeWidth? 13 = some "é/*System 1 ".toList := by
  intro line
  have found : Dialect.old.find? "@available".toList "System".toList line =
      some ⟨⟨⟨.old, "System 0.0.2,".toList, some ", @available(iOS 8)".toList⟩,
        "/*System 0.0.2,, @available(iOS 8)*/@available(swift 5)".toList, "x".toList⟩,
        "é/*System 1 ".toList⟩ := by decide +kernel
  obtain ⟨form, cut, -, front, -, unique⟩ :=
    (old_find?_exact "@available".toList "System".toList line).2 _ found
  let own : OldForm := ⟨"0.0.2,".toList, some "iOS 8".toList, some "swift 5".toList⟩
  have ownCut : IsCut "@available".toList "System".toList line "é/*System 1 ".toList own
      "x".toList :=
    ⟨⟨by decide, by simp [own, isVersionChar], by simp [own, isArgumentChar],
      by simp [own, isArgumentChar]⟩, by decide⟩
  have same : own = form := (((unique _ own _ ownCut).2 rfl).2.2 (by decide)).1
  exact ⟨_, found, form, cut, same.symm, by decide, front⟩

end OldForm

end AvailabilityAnnotations

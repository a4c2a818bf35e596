/-
# What the search for the new dialect accepts

A line holds an annotation of the new dialect exactly if it is a written form of that
dialect with some text on either side. Such a cut of the line need not be the only one,
because a character such as a letter can belong to the version as well as to the note
behind it. The search takes the cut with the shortest front, and behind that front the one
with the longest version; the arguments and what follows them are the same in every cut.

The arguments show a list, which is what is left of them without blanks and commas at the
edges. Attribute and package are arbitrary texts here, the empty one included.
-/

import AvailabilityAnnotations.Proofs.Annotation.Search
import AvailabilityAnnotations.Proofs.Text.Edge

namespace AvailabilityAnnotations

namespace NewForm

variable {keyword package line : Text} {occurrence : Occurrence}

/-- The line is a form of the dialect with one text before it and another one after it. -/
structure IsCut (keyword package line before : Text) (form : NewForm) (after : Text) : Prop where
  wellFormed : form.IsWellFormed
  line_eq : line = before ++ form.write keyword package ++ after

/-- The list in the arguments is what is left of them when the blanks at both ends are taken
away, then the commas at the end, and then the blanks at the end once more. -/
def ShowsList (arguments list : Text) : Prop :=
  ∃ trimmed bare, Text.IsTrimmed arguments trimmed ∧ Text.IsLeft (· == ',') trimmed bare ∧
    Text.IsLeft Text.isBlank bare list

/-- Arguments that show nothing but an empty list count as arguments without one. -/
theorem existing?_eq_iff {form : NewForm} {shown? : Option Text} :
    form.existing? = shown? ↔
      ∃ list, ShowsList form.arguments list ∧ shown? = if list = [] then none else some list := by
  have shows (list : Text) : ShowsList form.arguments list ↔
      Text.trimEnd (Text.dropEndWhile (· == ',') (Text.trim form.arguments)) = list := by
    simp only [ShowsList, ← Text.trim_eq_iff, ← Text.dropEndWhile_eq_iff, Text.trimEnd,
      exists_and_left, exists_eq_left']
  simp only [shows, exists_eq_left', existing?]
  cases Text.trimEnd (Text.dropEndWhile (· == ',') (Text.trim form.arguments)) with
  | nil => exact eq_comm
  | cons char list => exact eq_comm

/-- Forms that are written in the same way, with texts behind them, have the same arguments
and the same text behind them. The one that is read has the longest version. -/
theorem parts_unique {form other : NewForm} {after otherAfter : Text}
    (read : readParts? (other.writeParts ++ otherAfter) = some (form, after))
    (wellFormed : other.IsWellFormed) :
    other.arguments = form.arguments ∧ otherAfter = after ∧ other.version <+: form.version := by
  rw [readParts?_widened wellFormed, Option.some.injEq, Prod.mk.injEq] at read
  obtain ⟨rfl, rfl⟩ := read
  exact ⟨rfl, rfl, List.prefix_append ..⟩

/-- A form that stands in the line is found there or before. -/
theorem IsCut.exists_find? {before after : Text} {form : NewForm}
    (cut : IsCut keyword package line before form after) :
    ∃ occurrence, Dialect.new.find? keyword package line = some occurrence ∧
      occurrence.before <+: before := by
  have readable : IsReadable (form.writeParts ++ after) := ⟨form, after, cut.wellFormed, rfl⟩
  have line : line = before ++ (opening keyword package ++ (form.writeParts ++ after)) := by
    rw [cut.line_eq, write, List.append_assoc, List.append_assoc]
  rw [line]
  exact Dialect.exists_find?_new keyword package before readable

/-- What was read behind the front of an occurrence. -/
theorem exists_parts_of_find? (found : Dialect.new.find? keyword package line = some occurrence) :
    ∃ form parts, line = occurrence.before ++ (opening keyword package ++ parts) ∧
      readParts? parts = some (form, occurrence.after) ∧
      occurrence.annotation = form.annotation package ∧
      occurrence.written = form.write keyword package := by
  obtain ⟨tail, rfl, here, -⟩ := firstOccurrence_eq_some_iff.1 found
  obtain ⟨⟨form, rest⟩, read, reading⟩ := Option.map_eq_some_iff.1 here
  obtain ⟨parts, opened, partsRead⟩ := Option.bind_eq_some_iff.1 read
  obtain ⟨⟨meaning, written, after⟩, before⟩ := occurrence
  simp only [Reading.mk.injEq] at reading
  obtain ⟨rfl, rfl, rfl⟩ := reading
  exact ⟨form, parts, by rw [Text.after?_eq_some_iff.1 opened], partsRead, rfl, rfl⟩

/-- **The new dialect is recognized exactly.** Something is found in a line exactly if the
line is a form of the dialect with texts around it. What is found has the shortest text
before it, its version is the whole run of version characters behind the opening, its list is
the one that the arguments show, and its byte offsets cut the line between characters. Any
other cut behind the same front has the same arguments and the same text behind them, and no
longer version. -/
theorem new_find?_exact (keyword package line : Text) :
    ((∃ occurrence, Dialect.new.find? keyword package line = some occurrence) ↔
      ∃ before form after, IsCut keyword package line before form after) ∧
    ∀ occurrence, Dialect.new.find? keyword package line = some occurrence →
      ∃ (form : NewForm) (list : Text),
        IsCut keyword package line occurrence.before form occurrence.after ∧
        form.version = (form.writeParts ++ occurrence.after).takeWhile isVersionChar ∧
        ShowsList form.arguments list ∧
        occurrence.annotation =
          { dialect := .new
            token := package ++ ' ' :: form.version
            existing? := if list = [] then none else some list } ∧
        line.takeWidth? occurrence.start = some occurrence.before ∧
        line.dropWidth? occurrence.stop = some occurrence.after ∧
        ∀ before other after, IsCut keyword package line before other after →
          occurrence.before <+: before ∧
          (before = occurrence.before →
            other.arguments = form.arguments ∧ after = occurrence.after ∧
              other.version <+: form.version) := by
  constructor
  · constructor
    · rintro ⟨occurrence, found⟩
      obtain ⟨form, wellFormed, -, written, line, -⟩ := Dialect.find?_new_sound found
      rw [Occurrence.line, written] at line
      exact ⟨occurrence.before, form, occurrence.after, wellFormed, line⟩
    · rintro ⟨before, form, after, cut⟩
      obtain ⟨occurrence, found, -⟩ := cut.exists_find?
      exact ⟨occurrence, found⟩
  · intro occurrence found
    obtain ⟨form, parts, line_eq, read, meaning, written⟩ := exists_parts_of_find? found
    obtain ⟨parts_eq, wellFormed⟩ := readParts?_sound read
    have cut : line = occurrence.before ++ form.write keyword package ++ occurrence.after := by
      rw [line_eq, parts_eq, write, List.append_assoc, List.append_assoc]
    obtain ⟨list, shown, existing⟩ := existing?_eq_iff.1 (rfl : form.existing? = _)
    refine ⟨form, list, ⟨wellFormed, cut⟩, ?_, shown, ?_, ?_, ?_, ?_⟩
    · rw [← parts_eq]
      exact version_eq_of_readParts? read
    · rw [meaning, annotation, existing, token]
    · rw [cut, List.append_assoc]
      exact Text.takeWidth?_width_append ..
    · rw [cut, Occurrence.stop, written, ← Text.width_append]
      exact Text.dropWidth?_width_append ..
    · intro before other after otherCut
      obtain ⟨first, foundFirst, earlier⟩ := otherCut.exists_find?
      obtain rfl : first = occurrence := Option.some.inj (foundFirst.symm.trans found)
      refine ⟨earlier, fun same => ?_⟩
      -- Behind the same front and the same opening both cuts have the same characters.
      have samePlace : parts = other.writeParts ++ after := by
        have lines := line_eq.symm.trans otherCut.line_eq
        rw [same, write, List.append_assoc, List.append_assoc] at lines
        exact List.append_cancel_left (List.append_cancel_left lines)
      exact parts_unique (samePlace ▸ read) otherCut.wellFormed

/-- Behind an opening without a star at the end of its arguments and a letter of two bytes,
the version takes the letters that could belong to the note, and all the commas behind the
list are dropped. -/
theorem new_find?_exact_longest_version :
    let line : Text :=
      "é@available(/*System 1*/a)@available(/*System 0.0.2beta: x*/ iOS 8,, *)q*)".toList
    ∃ occurrence, Dialect.new.find? "@available".toList "System".toList line = some occurrence ∧
      ∃ (form : NewForm) (list : Text),
        IsCut "@available".toList "System".toList line occurrence.before form occurrence.after ∧
        ShowsList form.arguments list ∧ list = "iOS 8".toList ∧
        "0.0.2".toList <+: form.version ∧ form.arguments = " iOS 8,, ".toList ∧
        occurrence.annotation.token = "System 0.0.2beta".toList ∧
        line.takeWidth? 27 = some "é@available(/*System 1*/a)".toList := by
  intro line
  have found : Dialect.new.find? "@available".toList "System".toList line =
      some ⟨⟨⟨.new, "System 0.0.2beta".toList, some "iOS 8".toList⟩,
        "@available(/*System 0.0.2beta: x*/ iOS 8,, *)".toList, "q*)".toList⟩,
        "é@available(/*System 1*/a)".toList⟩ := by decide +kernel
  obtain ⟨form, list, cut, -, shown, meaning, front, -, unique⟩ :=
    (new_find?_exact "@available".toList "System".toList line).2 _ found
  let narrow : NewForm := ⟨"0.0.2".toList, "beta: x".toList, " iOS 8,, ".toList⟩
  have narrowCut : IsCut "@available".toList "System".toList line
      "é@available(/*System 1*/a)".toList narrow "q*)".toList :=
    ⟨⟨by decide, by simp [narrow, isVersionChar], by simp [narrow, isNoteChar],
      by simp [narrow, isArgumentChar]⟩, by decide⟩
  obtain ⟨arguments, -, shorter⟩ := (unique _ narrow _ narrowCut).2 rfl
  have nonempty : list ≠ [] := by
    rintro rfl
    simp at meaning
  rw [if_neg nonempty, Annotation.mk.injEq, Option.some.injEq] at meaning
  exact ⟨_, found, form, list, cut, shown, meaning.2.2.symm, shorter, arguments.symm, rfl, front⟩

end NewForm

end AvailabilityAnnotations

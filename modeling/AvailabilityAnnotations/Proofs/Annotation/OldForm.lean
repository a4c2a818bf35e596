/-
# The grammar of the old dialect

Reading and writing of the old dialect undo each other, with one reservation: a clause
that happens to stand behind a comment is always taken as part of the annotation. So a
form that was written without such a clause is read again only if no clause follows it,
and otherwise it is read with that clause.
-/

import AvailabilityAnnotations.Annotation.OldForm
import AvailabilityAnnotations.Proofs.Text.Literal

namespace AvailabilityAnnotations

namespace OldForm

variable {keyword package : Text}

/-- Behind an opening the text goes on with the parts of some form. -/
def IsReadable (keyword text : Text) : Prop :=
  ∃ (form : OldForm) (rest : Text), form.IsWellFormed ∧ text = form.writeParts keyword ++ rest

/-- A clause is read exactly where one is written. -/
theorem clause?_eq_some_iff {text arguments rest : Text} :
    clause? keyword text = some (arguments, rest) ↔
      text = clause keyword arguments ++ rest ∧
        ∀ char ∈ arguments, isArgumentChar char = true := by
  constructor
  · exact clause?_sound
  · rintro ⟨rfl, chars⟩
    have written : clause keyword arguments ++ rest =
        (keyword ++ ['(']) ++ (arguments ++ ')' :: rest) := by
      simp [clause]
    have parenthesis : isArgumentChar ')' = false := rfl
    simp only [clause?, written, Text.after?_append,
      Text.takeWhile_append_stop chars parenthesis, Text.dropWhile_append_stop chars parenthesis]

/-- A clause inside a comment is read as it was written. -/
theorem readInside?_clause (keyword : Text) {arguments : Text}
    (chars : ∀ char ∈ arguments, isArgumentChar char = true) (rest : Text) :
    readInside? keyword (' ' :: (clause keyword arguments ++ '*' :: '/' :: rest)) =
      some (arguments, rest) := by
  have clauseRead : clause? keyword (clause keyword arguments ++ '*' :: '/' :: rest) =
      some (arguments, '*' :: '/' :: rest) := clause?_eq_some_iff.2 ⟨rfl, chars⟩
  simp [readInside?, Text.after?, clauseRead]

/-- A comment is read as it was written, and then completed by what stands behind it. -/
theorem readParts?_comment {version : Text} {inside? : Option Text}
    (nonempty : version ≠ []) (chars : ∀ char ∈ version, isVersionChar char = true)
    (insideChars : ∀ arguments ∈ inside?, ∀ char ∈ arguments, isArgumentChar char = true)
    (rest : Text) :
    readParts? keyword (version ++ writeInside keyword inside? ++ "*/".toList ++ rest) =
      some (readBehind keyword version inside? rest) := by
  cases inside? with
  | none =>
      have written : version ++ writeInside keyword none ++ "*/".toList ++ rest =
          version ++ '*' :: '/' :: rest := by
        simp [writeInside]
      have star : isVersionChar '*' = false := rfl
      simp only [readParts?, written, Text.takeWhile_append_stop chars star,
        Text.dropWhile_append_stop chars star]
      simp [nonempty, Text.after?]
  | some arguments =>
      have written : version ++ writeInside keyword (some arguments) ++ "*/".toList ++ rest =
          (version ++ [',']) ++ ' ' :: (clause keyword arguments ++ '*' :: '/' :: rest) := by
        simp [writeInside]
      have runChars : ∀ char ∈ version ++ [','], isVersionChar char = true := by
        intro char member
        rcases List.mem_append.1 member with inVersion | comma
        · exact chars char inVersion
        · obtain rfl := List.mem_singleton.1 comma
          rfl
      have blank : isVersionChar ' ' = false := rfl
      have inside := readInside?_clause keyword (insideChars arguments rfl) rest
      simp only [readParts?, written, Text.takeWhile_append_stop runChars blank,
        Text.dropWhile_append_stop runChars blank]
      simp [nonempty, Text.after?, inside]

/-- A clause behind the comment does not change the clause inside. -/
@[simp] theorem readBehind_inside? (version : Text) (inside? : Option Text) (text : Text) :
    (readBehind keyword version inside? text).1.inside? = inside? := by
  unfold readBehind
  split <;> rfl

/-- What is written tells the clause inside the comment. -/
theorem inside?_unique {first second : OldForm} (firstFormed : first.IsWellFormed)
    (secondFormed : second.IsWellFormed)
    (same : first.writeParts keyword = second.writeParts keyword) :
    first.inside? = second.inside? := by
  have read (form : OldForm) (formed : form.IsWellFormed) :
      (readParts? keyword (form.writeParts keyword)).map (·.1.inside?) = some form.inside? := by
    rw [writeParts, readParts?_comment formed.version_ne_nil formed.version_chars
      formed.inside_chars]
    simp
  have both := read first firstFormed
  rw [same, read second secondFormed] at both
  exact (Option.some.inj both).symm

/-- Parts that were written are read again, unless a clause follows parts that were
written without one. -/
theorem readParts?_writeParts {form : OldForm} (wellFormed : form.IsWellFormed) {rest : Text}
    (complete : form.behind? = none → clause? keyword rest = none) :
    readParts? keyword (form.writeParts keyword ++ rest) = some (form, rest) := by
  rw [writeParts, List.append_assoc, readParts?_comment wellFormed.version_ne_nil
    wellFormed.version_chars wellFormed.inside_chars]
  obtain ⟨version, inside?, behind?⟩ := form
  cases behind? with
  | none => simp [readBehind, writeBehind, complete rfl]
  | some arguments =>
      have clauseRead : clause? keyword (clause keyword arguments ++ rest) =
          some (arguments, rest) :=
        clause?_eq_some_iff.2 ⟨rfl, wellFormed.behind_chars arguments rfl⟩
      simp [readBehind, writeBehind, clauseRead]

/-- Something can be read exactly where a form has been written. -/
theorem isSome_readParts?_iff {text : Text} :
    (readParts? keyword text).isSome = true ↔ IsReadable keyword text := by
  constructor
  · intro read
    obtain ⟨⟨form, rest⟩, found⟩ := Option.isSome_iff_exists.1 read
    obtain ⟨cut, wellFormed⟩ := readParts?_sound found
    exact ⟨form, rest, wellFormed, cut⟩
  · rintro ⟨form, rest, wellFormed, rfl⟩
    rw [writeParts, List.append_assoc, readParts?_comment wellFormed.version_ne_nil
      wellFormed.version_chars wellFormed.inside_chars]
    rfl

/-- What is read stands at the front of the text, and a form of the dialect is written
there. -/
theorem reading?_sound {opening text : Text} {reading : Reading}
    (read : reading? keyword package opening text = some reading) :
    ∃ form : OldForm, form.IsWellFormed ∧
      reading.annotation = form.annotation keyword package ∧
      reading.written = opening ++ form.writeParts keyword ∧
      text = reading.written ++ reading.after := by
  obtain ⟨⟨form, rest⟩, found, rfl⟩ := Option.map_eq_some_iff.1 read
  obtain ⟨tail, opened, parts⟩ := Option.bind_eq_some_iff.1 found
  obtain ⟨cut, wellFormed⟩ := readParts?_sound parts
  refine ⟨form, wellFormed, rfl, rfl, ?_⟩
  rw [Text.after?_eq_some_iff.1 opened, cut]
  simp

/-- An annotation can be read exactly where an opening stands and a form behind it. -/
theorem isSome_reading?_iff {opening text : Text} :
    (reading? keyword package opening text).isSome = true ↔
      ∃ tail, text = opening ++ tail ∧ IsReadable keyword tail := by
  simp only [reading?, read?, Option.isSome_map]
  constructor
  · intro read
    obtain ⟨found, bound⟩ := Option.isSome_iff_exists.1 read
    obtain ⟨tail, opened, parts⟩ := Option.bind_eq_some_iff.1 bound
    exact ⟨tail, Text.after?_eq_some_iff.1 opened, isSome_readParts?_iff.1 (by simp [parts])⟩
  · rintro ⟨tail, rfl, readable⟩
    simpa using isSome_readParts?_iff.2 readable

/-- A form that was written behind its opening is read again, unless a clause follows
that it was written without. -/
theorem reading?_write {form : OldForm} (wellFormed : form.IsWellFormed) {rest : Text}
    (complete : form.behind? = none → clause? keyword rest = none) :
    reading? keyword package (opening package) (form.write keyword package ++ rest) =
      some { annotation := form.annotation keyword package
             written := form.write keyword package
             after := rest } := by
  simp [reading?, read?, write, readParts?_writeParts wellFormed complete]

/-- A clause behind a form that was written without one is read as part of it. -/
theorem reading?_write_clause {form : OldForm} (wellFormed : form.IsWellFormed)
    (without : form.behind? = none) {arguments : Text}
    (chars : ∀ char ∈ arguments, isArgumentChar char = true) (rest : Text) :
    reading? keyword package (opening package)
        (form.write keyword package ++ (clause keyword arguments ++ rest)) =
      some { annotation := annotation keyword package { form with behind? := some arguments }
             written := form.write keyword package ++ clause keyword arguments
             after := rest } := by
  have taken : ({ form with behind? := some arguments } : OldForm).IsWellFormed :=
    ⟨wellFormed.version_ne_nil, wellFormed.version_chars, wellFormed.inside_chars, by
      rintro _ ⟨rfl⟩
      exact chars⟩
  have same : ({ form with behind? := some arguments } : OldForm).write keyword package =
      form.write keyword package ++ clause keyword arguments := by
    simp [write, writeParts, writeBehind, without]
  rw [← List.append_assoc, ← same]
  exact reading?_write taken (by simp)

end OldForm

end AvailabilityAnnotations

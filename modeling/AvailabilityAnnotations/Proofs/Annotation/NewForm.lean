/-
# The grammar of the new dialect

Reading and writing of the new dialect undo each other. A form that was written is
read again with the same parts, as long as its version takes all the characters that
it can; and something can be read exactly where some form has been written, however
its characters are distributed over version and note.
-/

import AvailabilityAnnotations.Annotation.NewForm
import AvailabilityAnnotations.Proofs.Text.Literal

namespace AvailabilityAnnotations

namespace NewForm

/-- Behind an opening the text goes on with the parts of some form. -/
def IsReadable (text : Text) : Prop :=
  ∃ (form : NewForm) (rest : Text), form.IsWellFormed ∧ text = form.writeParts ++ rest

/-- The version takes all the characters that it can: the note behind it does not begin
with another one. -/
def HasWholeVersion (form : NewForm) : Prop :=
  ∀ char ∈ form.note.head?, isVersionChar char = false

/-- The version is the run of version characters, because the note, or else the star
behind it, begins with no such character. -/
private theorem version_run {form : NewForm} (wellFormed : form.IsWellFormed)
    (whole : form.HasWholeVersion) (rest : Text) :
    (form.version ++ (form.note ++ '*' :: rest)).takeWhile isVersionChar = form.version ∧
      (form.version ++ (form.note ++ '*' :: rest)).dropWhile isVersionChar =
        form.note ++ '*' :: rest := by
  cases shape : form.note with
  | nil =>
      exact ⟨Text.takeWhile_append_stop wellFormed.version_chars rfl rest,
        Text.dropWhile_append_stop wellFormed.version_chars rfl rest⟩
  | cons char note =>
      have stops : isVersionChar char = false := whole char (by simp [shape])
      exact ⟨Text.takeWhile_append_stop wellFormed.version_chars stops _,
        Text.dropWhile_append_stop wellFormed.version_chars stops _⟩

/-- A form that was written is read again, whatever follows it. -/
theorem readParts?_writeParts {form : NewForm} (wellFormed : form.IsWellFormed)
    (whole : form.HasWholeVersion) (rest : Text) :
    readParts? (form.writeParts ++ rest) = some (form, rest) := by
  have written : form.writeParts ++ rest = form.version ++ (form.note ++
      '*' :: '/' :: ((form.arguments ++ ['*']) ++ ')' :: rest)) := by
    simp [writeParts]
  have starred : ∀ char ∈ form.arguments ++ ['*'], isArgumentChar char = true := by
    intro char member
    rcases List.mem_append.1 member with inside | star
    · exact wellFormed.arguments_chars char inside
    · obtain rfl := List.mem_singleton.1 star
      rfl
  have star : isNoteChar '*' = false := rfl
  have parenthesis : isArgumentChar ')' = false := rfl
  obtain ⟨versionRun, versionRest⟩ := version_run wellFormed whole
    ('/' :: ((form.arguments ++ ['*']) ++ ')' :: rest))
  have noteRun := Text.takeWhile_append_stop wellFormed.note_chars star
    ('/' :: ((form.arguments ++ ['*']) ++ ')' :: rest))
  have noteRest := Text.dropWhile_append_stop wellFormed.note_chars star
    ('/' :: ((form.arguments ++ ['*']) ++ ')' :: rest))
  have argumentRun := Text.takeWhile_append_stop starred parenthesis rest
  have argumentRest := Text.dropWhile_append_stop starred parenthesis rest
  simp only [readParts?, written, versionRun, versionRest, noteRun, noteRest,
    if_neg wellFormed.version_ne_nil]
  simp only [show "*/".toList = ['*', '/'] from rfl, Text.after?, if_true, argumentRun,
    argumentRest, List.getLast?_concat, List.dropLast_concat]

/-- The same characters as another form: the version characters at the front of the note
belong to the version. -/
def widened (form : NewForm) : NewForm :=
  { form with
    version := form.version ++ form.note.takeWhile isVersionChar
    note := form.note.dropWhile isVersionChar }

theorem widened_writeParts (form : NewForm) : form.widened.writeParts = form.writeParts := by
  have note := Text.eq_takeWhile_append_dropWhile isVersionChar form.note
  rw [writeParts, writeParts, widened, List.append_assoc form.version, ← note]

/-- A widened version takes all the characters that it can. -/
theorem hasWholeVersion_widened (form : NewForm) : form.widened.HasWholeVersion := by
  intro char first
  obtain ⟨rest, shape⟩ := List.head?_eq_some_iff.1 (Option.mem_def.1 first)
  exact Text.not_of_dropWhile_eq_cons shape

theorem IsWellFormed.widened {form : NewForm} (wellFormed : form.IsWellFormed) :
    form.widened.IsWellFormed where
  version_ne_nil := by simp [NewForm.widened, wellFormed.version_ne_nil]
  version_chars := by
    intro char member
    rcases List.mem_append.1 member with inside | moved
    · exact wellFormed.version_chars char inside
    · exact Text.of_mem_takeWhile moved
  note_chars char member :=
    wellFormed.note_chars char ((List.dropWhile_sublist _).subset member)
  arguments_chars := wellFormed.arguments_chars

/-- However the characters of a form are distributed over version and note, the widest
version is read. -/
theorem readParts?_widened {form : NewForm} (wellFormed : form.IsWellFormed) (rest : Text) :
    readParts? (form.writeParts ++ rest) = some (form.widened, rest) := by
  rw [← form.widened_writeParts]
  exact readParts?_writeParts wellFormed.widened form.hasWholeVersion_widened rest

/-- The version that is read is the whole run of version characters. -/
theorem version_eq_of_readParts? {text rest : Text} {form : NewForm}
    (read : readParts? text = some (form, rest)) :
    form.version = text.takeWhile isVersionChar := by
  simp only [readParts?, Option.ite_none_left_eq_some] at read
  obtain ⟨-, read⟩ := read
  split at read
  · cases read
  · split at read
    · cases read
    · obtain ⟨-, ⟨rfl⟩⟩ := Option.ite_none_right_eq_some.1 read
      rfl

/-- Something can be read exactly where a form has been written. -/
theorem isSome_readParts?_iff {text : Text} :
    (readParts? text).isSome = true ↔ IsReadable text := by
  constructor
  · intro read
    obtain ⟨⟨form, rest⟩, found⟩ := Option.isSome_iff_exists.1 read
    obtain ⟨cut, wellFormed⟩ := readParts?_sound found
    exact ⟨form, rest, wellFormed, cut⟩
  · rintro ⟨form, rest, wellFormed, rfl⟩
    rw [readParts?_widened wellFormed]
    rfl

/-- What is read stands at the front of the text, and a form of the dialect is written
there. -/
theorem reading?_sound {package opening text : Text} {reading : Reading}
    (read : reading? package opening text = some reading) :
    ∃ form : NewForm, form.IsWellFormed ∧ reading.annotation = form.annotation package ∧
      reading.written = opening ++ form.writeParts ∧
      text = reading.written ++ reading.after := by
  obtain ⟨⟨form, rest⟩, found, rfl⟩ := Option.map_eq_some_iff.1 read
  obtain ⟨tail, opened, parts⟩ := Option.bind_eq_some_iff.1 found
  obtain ⟨cut, wellFormed⟩ := readParts?_sound parts
  refine ⟨form, wellFormed, rfl, rfl, ?_⟩
  rw [Text.after?_eq_some_iff.1 opened, cut]
  simp

/-- An annotation can be read exactly where an opening stands and a form behind it. -/
theorem isSome_reading?_iff {package opening text : Text} :
    (reading? package opening text).isSome = true ↔
      ∃ tail, text = opening ++ tail ∧ IsReadable tail := by
  simp only [reading?, read?, Option.isSome_map]
  constructor
  · intro read
    obtain ⟨found, bound⟩ := Option.isSome_iff_exists.1 read
    obtain ⟨tail, opened, parts⟩ := Option.bind_eq_some_iff.1 bound
    exact ⟨tail, Text.after?_eq_some_iff.1 opened, isSome_readParts?_iff.1 (by simp [parts])⟩
  · rintro ⟨tail, rfl, readable⟩
    simpa using isSome_readParts?_iff.2 readable

/-- A form that was written behind its opening is read again. -/
theorem reading?_write {package keyword : Text} {form : NewForm}
    (wellFormed : form.IsWellFormed) (whole : form.HasWholeVersion) (rest : Text) :
    reading? package (opening keyword package) (form.write keyword package ++ rest) =
      some { annotation := form.annotation package
             written := form.write keyword package
             after := rest } := by
  simp [reading?, read?, write, readParts?_writeParts wellFormed whole]

end NewForm

end AvailabilityAnnotations

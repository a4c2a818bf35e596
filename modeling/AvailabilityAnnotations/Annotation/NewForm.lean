/-
# The written form of the new dialect

An annotation of the new dialect is an attribute whose argument list begins with
a marker comment and ends in a star:

    @available(/*System 0.0.2: macOS 12.0*/iOS 8, *)

Between the version and the end of the comment stands a note, between the
comment and the star stand the arguments. `NewForm.write` says how the three
parts are written, `NewForm.read?` reads them from the front of a text. The parts
are delimited by classes of characters only, so at most one form can be read at
one place, and reading never has to go back.
-/

import AvailabilityAnnotations.Annotation
import AvailabilityAnnotations.Text.Blank

namespace AvailabilityAnnotations

/-- The parts of an annotation of the new dialect. -/
structure NewForm where
  /-- The version, without the package. -/
  version : Text
  /-- The rest of the marker comment. -/
  note : Text
  /-- The arguments after the marker comment, without the closing star. -/
  arguments : Text
  deriving DecidableEq, Repr

namespace NewForm

/-- The characters of a version: neither space nor star nor colon. -/
def isVersionChar (char : Char) : Bool :=
  char ≠ ' ' && char ≠ '*' && char ≠ ':'

/-- The characters of a note: neither star nor slash nor closing parenthesis. -/
def isNoteChar (char : Char) : Bool :=
  char ≠ '*' && char ≠ '/' && char ≠ ')'

/-- What every annotation of the new dialect begins with. -/
def opening (keyword package : Text) : Text :=
  keyword ++ "(/*".toList ++ package ++ [' ']

/-- The form as it is written after the opening. -/
def writeParts (form : NewForm) : Text :=
  form.version ++ form.note ++ "*/".toList ++ form.arguments ++ "*)".toList

/-- The form as it is written. -/
def write (keyword package : Text) (form : NewForm) : Text :=
  opening keyword package ++ form.writeParts

/-- The parts that can be written: each holds characters of its class only, and
the version is not empty. -/
structure IsWellFormed (form : NewForm) : Prop where
  version_ne_nil : form.version ≠ []
  version_chars : ∀ char ∈ form.version, isVersionChar char = true
  note_chars : ∀ char ∈ form.note, isNoteChar char = true
  arguments_chars : ∀ char ∈ form.arguments, isArgumentChar char = true

/-- Read a form after its opening. The version reaches as far as its class does,
and the argument list reaches to the first closing parenthesis. -/
def readParts? (text : Text) : Option (NewForm × Text) :=
  let version := text.takeWhile isVersionChar
  let afterVersion := text.dropWhile isVersionChar
  let note := afterVersion.takeWhile isNoteChar
  if version = [] then none
  else
    match Text.after? "*/".toList (afterVersion.dropWhile isNoteChar) with
    | none => none
    | some list =>
        let arguments := list.takeWhile isArgumentChar
        match list.dropWhile isArgumentChar with
        | [] => none
        | _ :: rest =>
            -- The star before the parenthesis closes the list and is no argument.
            if arguments.getLast? = some '*' then
              some (⟨version, note, arguments.dropLast⟩, rest)
            else none

/-- What is read is written in the text, and well formed. -/
theorem readParts?_sound {text rest : Text} {form : NewForm}
    (read : readParts? text = some (form, rest)) :
    text = form.writeParts ++ rest ∧ form.IsWellFormed := by
  simp only [readParts?] at read
  split at read
  · cases read
  · next nonempty =>
    split at read
    · cases read
    · next list closed =>
      split at read
      · cases read
      · next stop after ended =>
        split at read
        · next starred =>
          cases read
          obtain rfl := eq_of_not_isArgumentChar (Text.not_of_dropWhile_eq_cons ended)
          have joined : text.takeWhile isVersionChar ++
              ((text.dropWhile isVersionChar).takeWhile isNoteChar ++
                ("*/".toList ++ (list.takeWhile isArgumentChar ++ ')' :: rest))) = text := by
            rw [← ended, List.takeWhile_append_dropWhile, ← Text.after?_eq_some_iff.1 closed,
              List.takeWhile_append_dropWhile, List.takeWhile_append_dropWhile]
          refine ⟨?_, nonempty, fun _ => Text.of_mem_takeWhile, fun _ => Text.of_mem_takeWhile,
            fun _ member => Text.of_mem_takeWhile (List.dropLast_subset _ member)⟩
          rw [← Text.dropLast_append_of_getLast? starred] at joined
          simpa [writeParts] using joined.symm
        · cases read

/-- Read a form, with its opening, from the front of a text. -/
def read? (opening text : Text) : Option (NewForm × Text) :=
  (Text.after? opening text).bind readParts?

/-- The symbolic version that the form names. -/
def token (package : Text) (form : NewForm) : Text :=
  package ++ ' ' :: form.version

/-- The platform list in the arguments: what is left when blanks at both ends and
then all commas at the end, with the blanks before them, are taken away. -/
def existing? (form : NewForm) : Option Text :=
  match Text.trimEnd (Text.dropEndWhile (· == ',') (Text.trim form.arguments)) with
  | [] => none
  | list => some list

def annotation (package : Text) (form : NewForm) : Annotation where
  dialect := .new
  token := form.token package
  existing? := form.existing?

/-- Read an annotation of the new dialect from the front of a text. -/
def reading? (package opening text : Text) : Option Reading :=
  (read? opening text).map fun (form, rest) =>
    { annotation := form.annotation package
      written := opening ++ form.writeParts
      after := rest }

end NewForm

end AvailabilityAnnotations

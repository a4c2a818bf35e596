/-
# The written form of the old dialect

An annotation of the old dialect is a bare marker comment. An attribute clause may
stand inside the comment or behind it:

    /*System 0.0.2*/
    /*System 0.0.2, @available(macOS 12.0, *)*/
    /*System 0.0.2*/@available(macOS 12.0, *)

`OldForm.write` says how the parts are written, `OldForm.read?` reads them from
the front of a text. A version may hold commas. A comma at its end is the one
place where the reader has a choice: it belongs to the version if the comment ends
there, and it introduces a clause if one follows.
-/

import AvailabilityAnnotations.Annotation

namespace AvailabilityAnnotations

/-- The parts of an annotation of the old dialect. -/
structure OldForm where
  /-- The version, without the package. -/
  version : Text
  /-- The arguments of a clause inside the comment. -/
  inside? : Option Text
  /-- The arguments of a clause behind the comment. -/
  behind? : Option Text
  deriving DecidableEq, Repr

namespace OldForm

/-- The characters of a version: neither space nor star. -/
def isVersionChar (char : Char) : Bool :=
  char ≠ ' ' && char ≠ '*'

/-- An attribute clause with its arguments. -/
def clause (keyword arguments : Text) : Text :=
  keyword ++ '(' :: arguments ++ [')']

/-- Read the arguments of a clause from the front of a text. -/
def clause? (keyword text : Text) : Option (Text × Text) :=
  match Text.after? (keyword ++ ['(']) text with
  | none => none
  | some list =>
      match list.dropWhile isArgumentChar with
      | [] => none
      | _ :: rest => some (list.takeWhile isArgumentChar, rest)

/-- What every annotation of the old dialect begins with. -/
def opening (package : Text) : Text :=
  "/*".toList ++ package ++ [' ']

/-- The clause inside the comment, with the comma that introduces it. -/
def writeInside (keyword : Text) : Option Text → Text
  | none => []
  | some arguments => ", ".toList ++ clause keyword arguments

/-- The clause behind the comment. -/
def writeBehind (keyword : Text) : Option Text → Text
  | none => []
  | some arguments => clause keyword arguments

/-- The form as it is written after the opening. -/
def writeParts (keyword : Text) (form : OldForm) : Text :=
  form.version ++ writeInside keyword form.inside? ++ "*/".toList ++
    writeBehind keyword form.behind?

/-- The form as it is written. -/
def write (keyword package : Text) (form : OldForm) : Text :=
  opening package ++ form.writeParts keyword

/-- The parts that can be written: each holds characters of its class only, and
the version is not empty. -/
structure IsWellFormed (form : OldForm) : Prop where
  version_ne_nil : form.version ≠ []
  version_chars : ∀ char ∈ form.version, isVersionChar char = true
  inside_chars : ∀ arguments ∈ form.inside?, ∀ char ∈ arguments, isArgumentChar char = true
  behind_chars : ∀ arguments ∈ form.behind?, ∀ char ∈ arguments, isArgumentChar char = true

/-- Complete a form behind its comment: a clause that stands there is part of it. -/
def readBehind (keyword version : Text) (inside? : Option Text) (text : Text) :
    OldForm × Text :=
  match clause? keyword text with
  | none => (⟨version, inside?, none⟩, text)
  | some (arguments, rest) => (⟨version, inside?, some arguments⟩, rest)

/-- Read the clause inside the comment and the end of the comment. -/
def readInside? (keyword text : Text) : Option (Text × Text) :=
  match Text.after? [' '] text with
  | none => none
  | some text =>
      match clause? keyword text with
      | none => none
      | some (arguments, text) =>
          match Text.after? "*/".toList text with
          | none => none
          | some rest => some (arguments, rest)

/-- Read a form after its opening. The run of version characters is the version if
the comment ends behind it. Otherwise its last character must be a comma, and a
clause and the end of the comment must follow. -/
def readParts? (keyword text : Text) : Option (OldForm × Text) :=
  let run := text.takeWhile isVersionChar
  let next := text.dropWhile isVersionChar
  if run = [] then none
  else
    match Text.after? "*/".toList next with
    | some rest => some (readBehind keyword run none rest)
    | none =>
        -- A comma is a version character, so the run takes the clause's comma with it.
        if run.dropLast ≠ [] ∧ run.getLast? = some ',' then
          (readInside? keyword next).map fun (arguments, rest) =>
            readBehind keyword run.dropLast (some arguments) rest
        else none

/-- A clause that is read stands in the text. -/
theorem clause?_sound {keyword text arguments rest : Text}
    (read : clause? keyword text = some (arguments, rest)) :
    text = clause keyword arguments ++ rest ∧ ∀ char ∈ arguments, isArgumentChar char = true := by
  simp only [clause?] at read
  split at read
  · cases read
  · next list opened =>
    split at read
    · cases read
    · next stop after ended =>
      cases read
      obtain rfl := eq_of_not_isArgumentChar (Text.not_of_dropWhile_eq_cons ended)
      refine ⟨?_, fun _ => Text.of_mem_takeWhile⟩
      have cut := Text.eq_takeWhile_append_dropWhile isArgumentChar list
      rw [ended] at cut
      rw [Text.after?_eq_some_iff.1 opened]
      simpa [clause] using cut

/-- A clause inside the comment stands there with its comma, and the comment ends
behind it. -/
theorem readInside?_sound {keyword text arguments rest : Text}
    (read : readInside? keyword text = some (arguments, rest)) :
    ',' :: text = writeInside keyword (some arguments) ++ "*/".toList ++ rest ∧
      ∀ char ∈ arguments, isArgumentChar char = true := by
  simp only [readInside?] at read
  split at read
  · cases read
  · next next blank =>
    split at read
    · cases read
    · next found next clauseRead =>
      split at read
      · cases read
      · next after closed =>
        cases read
        obtain ⟨written, chars⟩ := clause?_sound clauseRead
        refine ⟨?_, chars⟩
        rw [Text.after?_eq_some_iff.1 blank, written, Text.after?_eq_some_iff.1 closed]
        simp [writeInside]

/-- Completing a form keeps what was read before, and what it adds stands in the
text. -/
theorem readBehind_sound {keyword version text rest : Text} {inside? : Option Text}
    {form : OldForm} (read : readBehind keyword version inside? text = (form, rest)) :
    form.version = version ∧ form.inside? = inside? ∧
      text = writeBehind keyword form.behind? ++ rest ∧
      ∀ arguments ∈ form.behind?, ∀ char ∈ arguments, isArgumentChar char = true := by
  simp only [readBehind] at read
  split at read
  · cases read
    simp [writeBehind]
  · next clauseRead =>
    cases read
    obtain ⟨written, chars⟩ := clause?_sound clauseRead
    exact ⟨rfl, rfl, written, fun _ same => by cases same; exact chars⟩

/-- What is read is written in the text, and well formed. -/
theorem readParts?_sound {keyword text rest : Text} {form : OldForm}
    (read : readParts? keyword text = some (form, rest)) :
    text = form.writeParts keyword ++ rest ∧ form.IsWellFormed := by
  simp only [readParts?] at read
  have cut := Text.eq_takeWhile_append_dropWhile isVersionChar text
  split at read
  · cases read
  · next nonempty =>
    split at read
    · next after closed =>
      obtain ⟨versionSame, insideSame, written, chars⟩ :=
        readBehind_sound (Option.some.inj read)
      refine ⟨?_, ?_, ?_, ?_, chars⟩
      · rw [Text.after?_eq_some_iff.1 closed, written] at cut
        rw [cut]
        simp [writeParts, versionSame, insideSame, writeInside]
      · rw [versionSame]; exact nonempty
      · rw [versionSame]; exact fun _ => Text.of_mem_takeWhile
      · rw [insideSame]; simp
    · split at read
      · next comma =>
        obtain ⟨⟨arguments, after⟩, insideRead, behindRead⟩ := Option.map_eq_some_iff.1 read
        obtain ⟨insideWritten, insideChars⟩ := readInside?_sound insideRead
        obtain ⟨versionSame, insideSame, written, chars⟩ := readBehind_sound behindRead
        simp only at insideSame written
        refine ⟨?_, ?_, ?_, ?_, chars⟩
        · rw [← Text.dropLast_append_of_getLast? comma.2, List.append_assoc,
            List.singleton_append, insideWritten, written] at cut
          rw [cut]
          simp [writeParts, versionSame, insideSame]
        · rw [versionSame]; exact comma.1
        · rw [versionSame]
          exact fun _ member => Text.of_mem_takeWhile (List.dropLast_subset _ member)
        · rw [insideSame]
          exact fun _ same => by cases same; exact insideChars
      · cases read

/-- Read a form, with its opening, from the front of a text. -/
def read? (keyword opening text : Text) : Option (OldForm × Text) :=
  (Text.after? opening text).bind (readParts? keyword)

/-- The symbolic version that the form names. -/
def token (package : Text) (form : OldForm) : Text :=
  package ++ ' ' :: form.version

/-- The clause that the form carries: the one inside the comment, with its comma,
or else the one behind it. -/
def existing? (keyword : Text) (form : OldForm) : Option Text :=
  match form.inside?, form.behind? with
  | some arguments, _ => some (writeInside keyword (some arguments))
  | none, some arguments => some (writeBehind keyword (some arguments))
  | none, none => none

def annotation (keyword package : Text) (form : OldForm) : Annotation where
  dialect := .old
  token := form.token package
  existing? := form.existing? keyword

/-- Read an annotation of the old dialect from the front of a text. -/
def reading? (keyword package opening text : Text) : Option Reading :=
  (read? keyword opening text).map fun (form, rest) =>
    { annotation := form.annotation keyword package
      written := opening ++ form.writeParts keyword
      after := rest }

end OldForm

end AvailabilityAnnotations

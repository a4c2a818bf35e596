/-
# Annotations

A source line can carry an annotation that names a symbolic version of a package.
Two dialects exist. The new dialect writes the version in a marker comment inside
the argument list of an attribute, the old dialect writes a bare marker comment
that an attribute may follow:

    @available(/*System 0.0.2: macOS 12.0*/iOS 8, *)
    /*System 0.0.2*/@available(macOS 12.0, *)

This module holds what the two dialects have in common: the annotation itself,
the place where it stands in a line, and the search for the first such place.
-/

import AvailabilityAnnotations.Text

namespace AvailabilityAnnotations

/-- The two ways to write an annotation. -/
inductive Dialect where
  /-- A marker comment inside the argument list of an attribute. -/
  | new
  /-- A bare marker comment, with or without an attribute. -/
  | old
  deriving DecidableEq, Repr

namespace Dialect

def name : Dialect → String
  | new => "new"
  | old => "old"

/-- The order in which a line is searched: an annotation of the new dialect
counts before any of the old one. -/
def searchOrder : List Dialect :=
  [new, old]

end Dialect

/-- The characters of the arguments of an attribute, which reach to the first closing
parenthesis. -/
def isArgumentChar (char : Char) : Bool :=
  char ≠ ')'

/-- Only a closing parenthesis ends arguments. -/
theorem eq_of_not_isArgumentChar {char : Char} (outside : isArgumentChar char = false) :
    char = ')' := by
  simpa [isArgumentChar] using outside

/-- What an annotation says. -/
structure Annotation where
  /-- The dialect in which it is written. -/
  dialect : Dialect
  /-- The symbolic version: the package, a space and the version. -/
  token : Text
  /-- The platform list that the annotation carries already, if it has one. It is
  never read again: a new list is always made from the platform table. -/
  existing? : Option Text
  deriving DecidableEq, Repr

/-- An annotation together with the characters it is written in. -/
structure Reading where
  /-- What the annotation says. -/
  annotation : Annotation
  /-- The characters of the annotation. -/
  written : Text
  /-- The characters after it. -/
  after : Text
  deriving DecidableEq, Repr

/-- An annotation within a line. -/
structure Occurrence extends Reading where
  /-- The characters of the line before the annotation. -/
  before : Text
  deriving DecidableEq, Repr

namespace Occurrence

/-- The line in which the annotation stands. -/
def line (occurrence : Occurrence) : Text :=
  occurrence.before ++ occurrence.written ++ occurrence.after

/-- The line with other characters in the place of the annotation. -/
def replaceBy (occurrence : Occurrence) (replacement : Text) : Text :=
  occurrence.before ++ replacement ++ occurrence.after

/-- Where the annotation begins, in bytes of the line. -/
def start (occurrence : Occurrence) : Nat :=
  occurrence.before.width

/-- Where the annotation ends, in bytes of the line. -/
def stop (occurrence : Occurrence) : Nat :=
  occurrence.before.width + occurrence.written.width

/-- The same annotation in a line that begins one character earlier. -/
def moveRight (char : Char) (occurrence : Occurrence) : Occurrence :=
  { occurrence with before := char :: occurrence.before }

/-- Putting the annotation's own characters back gives the line. -/
@[simp] theorem replaceBy_written (occurrence : Occurrence) :
    occurrence.replaceBy occurrence.written = occurrence.line := rfl

end Occurrence

/-- The first place in a line at which an annotation can be read. -/
def firstOccurrence (read? : Text → Option Reading) : Text → Option Occurrence
  | [] => (read? []).map fun reading => { reading with before := [] }
  | char :: text =>
      match read? (char :: text) with
      | some reading => some { reading with before := [] }
      | none => (firstOccurrence read? text).map (Occurrence.moveRight char)

end AvailabilityAnnotations

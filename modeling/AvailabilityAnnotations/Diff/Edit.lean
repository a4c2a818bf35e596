/-
# Edits

A diff compares texts line by line. Here a line ends with a line feed, with a carriage
return and a line feed, or with a carriage return alone, and it keeps its ending.

A list of edits says how the lines of an old text become the lines of a new one: some
are kept, some are deleted, some are inserted. What the edits read (`oldLines`) and
what they write (`newLines`) are views of the list; edits from one list of lines to
another are those with the right two views.
-/

import AvailabilityAnnotations.Text

namespace AvailabilityAnnotations

namespace Diff

/-- Put one character in front of the first line. -/
def prependChar (char : Char) : List Text → List Text
  | [] => [[char]]
  | line :: lines => (char :: line) :: lines

/-- Cut a text into lines, each with its ending. -/
def lines : Text → List Text
  | [] => []
  | '\n' :: rest => ['\n'] :: lines rest
  | '\r' :: '\n' :: rest => ['\r', '\n'] :: lines rest
  | '\r' :: rest => ['\r'] :: lines rest
  | char :: rest => prependChar char (lines rest)

private theorem flatten_prependChar (char : Char) (rest : List Text) :
    (prependChar char rest).flatten = char :: rest.flatten := by
  cases rest <;> simp [prependChar]

/-- Cutting a text into lines loses nothing. -/
theorem flatten_lines (text : Text) : (lines text).flatten = text := by
  fun_induction lines text with
  | case1 => rfl
  | case2 rest ih => simp [ih]
  | case3 rest ih => simp [ih]
  | case4 rest _ ih => simp [ih]
  | case5 char rest _ _ _ ih => rw [flatten_prependChar, ih]

/-- What happens to one line. -/
inductive Edit where
  | keep (line : Text)
  | delete (line : Text)
  | insert (line : Text)
  deriving DecidableEq, Repr

namespace Edit

/-- Whether the edit makes the texts differ. -/
def isChange : Edit → Bool
  | keep _ => false
  | delete _ => true
  | insert _ => true

/-- The line of the old text that the edit is about. -/
def oldLine? : Edit → Option Text
  | keep line => some line
  | delete line => some line
  | insert _ => none

/-- The line of the new text that the edit is about. -/
def newLine? : Edit → Option Text
  | keep line => some line
  | delete _ => none
  | insert line => some line

end Edit

/-- The lines of the old text. -/
def oldLines (edits : List Edit) : List Text :=
  edits.filterMap Edit.oldLine?

/-- The lines of the new text. -/
def newLines (edits : List Edit) : List Text :=
  edits.filterMap Edit.newLine?

/-- Reorder each run of changes so that its deletions come first. The lists hold the
deleted and the inserted lines of the run that is being read. -/
def arrangeFrom (deleted inserted : List Text) : List Edit → List Edit
  | [] => deleted.map .delete ++ inserted.map .insert
  | .keep line :: edits =>
      deleted.map .delete ++ inserted.map .insert ++ .keep line :: arrangeFrom [] [] edits
  | .delete line :: edits => arrangeFrom (deleted ++ [line]) inserted edits
  | .insert line :: edits => arrangeFrom deleted (inserted ++ [line]) edits

/-- The same edits with the deletions in front of the insertions wherever no kept
line stands between them. -/
def arrange (edits : List Edit) : List Edit :=
  arrangeFrom [] [] edits

end Diff

end AvailabilityAnnotations

/-
# Updating lines and texts

A line with an annotation is written anew with the annotation replaced; a line
without one is left alone. A text is updated line by line, line endings are kept,
and the first line that names an unknown version stops the whole text: there is no
partly updated text.
-/

import AvailabilityAnnotations.Failure
import AvailabilityAnnotations.Rules
import AvailabilityAnnotations.Text.Line

namespace AvailabilityAnnotations

/-- An updated text. -/
structure Update where
  /-- The text as it is to be. -/
  content : Text
  /-- The number of annotations that were written anew, changed or not. -/
  annotations : Nat
  /-- The numbers of the lines that are different now, counted from one. -/
  changedLines : List Nat
  deriving DecidableEq, Repr

namespace Update

/-- Whether any line is different now. -/
def hasChanges (update : Update) : Bool :=
  !update.changedLines.isEmpty

def empty : Update where
  content := []
  annotations := 0
  changedLines := []

/-- Put a line in front of an updated text. `body?` is the new body of the
line, if the line holds an annotation. -/
def precede (number : Nat) (line : Line) (body? : Option Text) (rest : Update) :
    Update :=
  match body? with
  | none => { rest with content := line.text ++ rest.content }
  | some body =>
      { content := body ++ line.ending.text ++ rest.content
        annotations := rest.annotations + 1
        changedLines :=
          if body = line.body then rest.changedLines else number :: rest.changedLines }

end Update

namespace Rules

/-- Update the body of a line. Path and line number are only there for the failure.
The answer is `none` if the line holds no annotation. -/
def updateLine (rules : Rules) (path : Path) (number : Nat) (body : Text) :
    Except Failure (Option Text) :=
  match rules.findAnnotation? body with
  | none => .ok none
  | some occurrence =>
      let annotation := occurrence.annotation
      match rules.table.platforms? annotation.token with
      | none => .error (.unknownVersion path number rules.table.package annotation.token)
      | some platforms =>
          .ok (some (occurrence.replaceBy
            (rules.write annotation.dialect annotation.token platforms)))

/-- Update lines, the first of which has the given number. -/
def updateLines (rules : Rules) (path : Path) : Nat → List Line → Except Failure Update
  | _, [] => .ok .empty
  | number, line :: lines =>
      match rules.updateLine path number line.body with
      | .error failure => .error failure
      | .ok body? =>
          match rules.updateLines path (number + 1) lines with
          | .error failure => .error failure
          | .ok rest => .ok (rest.precede number line body?)

/-- Update a text. -/
def updateText (rules : Rules) (path : Path) (text : Text) : Except Failure Update :=
  rules.updateLines path 1 (Line.split text)

/-- The lines that an update changes before it is done or fails: their numbers and
their new bodies. -/
def changes (rules : Rules) (path : Path) : Nat → List Line → List (Nat × Text)
  | _, [] => []
  | number, line :: lines =>
      match rules.updateLine path number line.body with
      | .error _ => []
      | .ok none => rules.changes path (number + 1) lines
      | .ok (some body) =>
          if body = line.body then rules.changes path (number + 1) lines
          else (number, body) :: rules.changes path (number + 1) lines

end Rules

end AvailabilityAnnotations

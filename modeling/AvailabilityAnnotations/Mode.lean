/-
# Modes

A run writes all annotations in one of two modes. In comment mode the platform list
goes into the marker comment, where no compiler reads it. In attribute mode it goes
into the attribute and takes effect.
-/

import AvailabilityAnnotations.Text

namespace AvailabilityAnnotations

/-- Where the platform list of an annotation is written. -/
inductive Mode where
  /-- Into the comment: the annotation has no effect. -/
  | comments
  /-- Into the attribute: the annotation takes effect. -/
  | attributes
  deriving DecidableEq, Repr

namespace Mode

def word : Mode → String
  | comments => "comments"
  | attributes => "attributes"

def ofWord? (word : Text) : Option Mode :=
  if word = comments.word.toList then some comments
  else if word = attributes.word.toList then some attributes
  else none

/-- Attribute mode if it is asked for, else comment mode. -/
def ofAttributes (wanted : Bool) : Mode :=
  if wanted then attributes else comments

@[simp] theorem ofWord?_word (mode : Mode) : ofWord? mode.word.toList = some mode := by
  cases mode <;> simp [ofWord?, word]

end Mode

end AvailabilityAnnotations

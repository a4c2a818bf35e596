/-
# Searching lines for annotations

A line is searched for an annotation of one dialect from left to right; the
earliest place wins. Over both dialects the whole line is searched for the new one
first, so an annotation of the old dialect counts only in a line that has none of
the new dialect at all, wherever the two stand.

Attribute and package are literal texts. Characters of theirs that look like
punctuation of an annotation have no meaning of their own.
-/

import AvailabilityAnnotations.Annotation.NewForm
import AvailabilityAnnotations.Annotation.OldForm

namespace AvailabilityAnnotations

namespace Dialect

/-- The first annotation of the dialect in a line. -/
def find? (keyword package : Text) (dialect : Dialect) (line : Text) :
    Option Occurrence :=
  match dialect with
  | new => firstOccurrence (NewForm.reading? package (NewForm.opening keyword package)) line
  | old => firstOccurrence (OldForm.reading? keyword package (OldForm.opening package)) line

end Dialect

/-- The annotation of a line: the first of the new dialect, or else the first of the
old one. -/
def findAnnotation? (keyword package line : Text) : Option Occurrence :=
  Dialect.searchOrder.findSome? fun dialect => dialect.find? keyword package line

end AvailabilityAnnotations

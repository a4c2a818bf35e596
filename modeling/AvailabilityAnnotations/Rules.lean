/-
# Writing rules

The rules say how an annotation that was found is written anew: which versions are
known, in which mode the platform list is written, and which attribute and which
placeholder platform are used. There are four written forms, one for each dialect
and mode. A form depends on the token and on the platform list only, never on what
the annotation said about platforms before.
-/

import AvailabilityAnnotations.Annotation.Search
import AvailabilityAnnotations.Mode
import AvailabilityAnnotations.PlatformTable

namespace AvailabilityAnnotations

/-- How annotations are found and written. -/
structure Rules where
  table : PlatformTable
  mode : Mode
  /-- The attribute that annotations are written with, as its at sign and name. -/
  keyword : Text
  /-- The platform named by an attribute that is to have no effect. -/
  placeholder : Text
  deriving DecidableEq, Repr

namespace Rules

def findAnnotation? (rules : Rules) (line : Text) : Option Occurrence :=
  AvailabilityAnnotations.findAnnotation? rules.keyword rules.table.package line

/-- The written form of a token with its platform list. -/
def write (rules : Rules) (dialect : Dialect) (token platforms : Text) : Text :=
  match dialect, rules.mode with
  | .new, .attributes =>
      rules.keyword ++ "(/*".toList ++ token ++ "*/".toList ++ platforms ++ ", *)".toList
  | .new, .comments =>
      rules.keyword ++ "(/*".toList ++ token ++ ": ".toList ++ platforms ++ "*/".toList ++
        rules.placeholder ++ ", *)".toList
  | .old, .attributes =>
      "/*".toList ++ token ++ "*/".toList ++ rules.keyword ++ "(".toList ++ platforms ++
        ", *)".toList
  | .old, .comments =>
      "/*".toList ++ token ++ ", ".toList ++ rules.keyword ++ "(".toList ++ platforms ++
        ", *)*/".toList

end Rules

end AvailabilityAnnotations

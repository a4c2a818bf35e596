/-
# Failures

A run stops for one of two reasons: an annotation names a version that the table does
not hold, or a file operation fails. A failure remembers where it happened; its
wording is made from that at the end.
-/

import AvailabilityAnnotations.FileSystem.Cause
import AvailabilityAnnotations.FileSystem.Path

namespace AvailabilityAnnotations

/-- Why annotations could not be updated. -/
inductive Failure where
  | unknownVersion (path : Path) (line : Nat) (package token : Text)
  | file (path : Path) (cause : Cause)
  deriving DecidableEq, Repr

namespace Failure

/-- What failed, and where. The cause of a failed file operation is left out. -/
def message : Failure → String
  | unknownVersion path line package token =>
      toString path ++ ":" ++ toString line ++ ": error: Unknown " ++ String.ofList package ++
        " version '" ++ String.ofList token ++ "'"
  | file path _ => "I/O error on " ++ toString path

/-- What failed, and where, and for a file operation also why. -/
def report (failure : Failure) : String :=
  match failure with
  | unknownVersion .. => failure.message
  | file _ cause => failure.message ++ ": " ++ cause.message

end Failure

end AvailabilityAnnotations

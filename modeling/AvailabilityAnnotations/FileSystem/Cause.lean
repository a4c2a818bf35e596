/-
# Causes of failed file operations

Each cause is a condition of the file system, of a file's content or of the device that
holds it. The wording is the one that the system itself uses.
-/

namespace AvailabilityAnnotations

/-- Why a file operation failed. -/
inductive Cause where
  | notFound
  | alreadyExists
  /-- The path goes on behind an entry that is no directory. -/
  | notDirectory
  /-- The path leads to a directory where a file is needed. -/
  | isDirectory
  /-- A name on the path, or the whole path, is too long. -/
  | nameTooLong
  | tooManyLinks
  | permissionDenied
  /-- The device does not give or take the bytes. -/
  | inputOutput
  | notUtf8
  | nullInPath
  deriving DecidableEq, Repr

namespace Cause

def message : Cause → String
  | notFound => "No such file or directory (os error 2)"
  | alreadyExists => "File exists (os error 17)"
  | notDirectory => "Not a directory (os error 20)"
  | isDirectory => "Is a directory (os error 21)"
  | nameTooLong => "File name too long (os error 36)"
  | tooManyLinks => "Too many levels of symbolic links (os error 40)"
  | permissionDenied => "Permission denied (os error 13)"
  | inputOutput => "Input/output error (os error 5)"
  | notUtf8 => "stream did not contain valid UTF-8"
  | nullInPath => "file name contained an unexpected NUL byte"

end Cause

end AvailabilityAnnotations

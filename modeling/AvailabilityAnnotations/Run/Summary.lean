/-
# Summaries as JSON texts

The summary of a run as an object. The diff of a file is a member only where there is
one.
-/

import AvailabilityAnnotations.Json.Value
import AvailabilityAnnotations.Run

namespace AvailabilityAnnotations

namespace ChangedFile

def toJson (change : ChangedFile) : Json :=
  .object
    ([("path", .string change.path.text),
      ("annotations", .number change.annotations),
      ("changed_lines", .array (change.changedLines.map .number))] ++
      (change.diff?.map fun diff => ("diff", Json.string diff)).toList)

end ChangedFile

namespace Summary

def toJson (summary : Summary) : Json :=
  .object
    [("mode", .string summary.mode.word.toList),
     ("dry_run", .bool summary.dryRun),
     ("files_scanned", .number summary.filesVisited),
     ("annotations", .number summary.annotations),
     ("changes", .array (summary.changes.map ChangedFile.toJson))]

end Summary

end AvailabilityAnnotations

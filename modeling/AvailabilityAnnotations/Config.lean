/-
# Configuration

What a run needs to know: where the sources are, how annotations are written, and
whether files are to be changed. Every field has a value from the start, and a
configuration is made by changing some of them.
-/

import AvailabilityAnnotations.FileSystem.Path
import AvailabilityAnnotations.Rules

namespace AvailabilityAnnotations

/-- The settings of one run. -/
structure Config where
  root : Path := .ofString "."
  /-- The directories that are searched for sources, in this order. -/
  sourceDirectories : List Path := [.ofString "Sources", .ofString "Tests"]
  /-- The extension of a source, without its dot. -/
  extension : Text := "swift".toList
  /-- The attribute that annotations are found by and written with. -/
  keyword : Text := "@available".toList
  /-- The platform of an attribute without effect. Every target that matters is at
  least this one. -/
  placeholder : Text := "iOS 8".toList
  mode : Mode := .comments
  dryRun : Bool := false
  deriving DecidableEq, Repr

namespace Config

/-- The settings for the package in a directory. -/
def ofRoot (root : Path) : Config :=
  { root }

/-- The paths of the source directories. -/
def searchRoots (config : Config) : List Path :=
  config.sourceDirectories.map config.root.join

/-- The rules that the settings give for the versions of a table. -/
def rules (config : Config) (table : PlatformTable) : Rules where
  table := table
  mode := config.mode
  keyword := config.keyword
  placeholder := config.placeholder

end Config

end AvailabilityAnnotations

/-
# Discovering sources

The sources below a directory are the files with the wanted extension, those that a
link leads to included. Directories are searched in the order of their entries'
names. A link to a directory is not entered, except where the search begins, and a
directory that cannot be listed is passed by.

`Sources.below` answers for one directory, `Config.sources` for all the source
directories of a run, one after the other. A file that can be reached in two ways is
listed twice.
-/

import AvailabilityAnnotations.Config
import AvailabilityAnnotations.FileSystem.Access
import AvailabilityAnnotations.Log

namespace AvailabilityAnnotations

namespace Sources

/-- The sources below a directory; none if the path leads to no directory. -/
def below (files : FileSystem) (root : Path) (extension : Text) : List Path :=
  match files.list root with
  | .error _ => []
  | .ok entries =>
      ((entries.leaves files.canList root).filter fun (path, name, _) =>
        name.extension? = some extension && files.isFile path).map Prod.fst

/-- The directories that a search below a directory comes to, itself among them. -/
def directories (files : FileSystem) (root : Path) : List Path :=
  match files.list root with
  | .error _ => [root]
  | .ok entries => root :: entries.directories files.canList root

/-- What a search below a directory passes by. -/
def events (files : FileSystem) (root : Path) : List Log.Event :=
  if files.isDirectory root then
    (directories files root).filterMap fun path =>
      match files.list path with
      | .error cause => some (.directorySkipped path cause)
      | .ok _ => none
  else [.missingRoot root]

end Sources

namespace Config

/-- The sources of all source directories. -/
def sources (config : Config) (files : FileSystem) : List Path :=
  config.searchRoots.flatMap fun root => Sources.below files root config.extension

/-- What the search of all source directories passes by. -/
def searchEvents (config : Config) (files : FileSystem) : List Log.Event :=
  config.searchRoots.flatMap (Sources.events files)

end Config

end AvailabilityAnnotations

/-
# The program

The program takes up the source directories from the disk, lets
`CommandLine.execute` do the work on that file system, writes the files back whose
bytes are different then, and prints. Nothing is decided here but what has to be taken
up: the files with the extension of a source, the directories that lead to them, and
the links that lead to either. What a link leads to is taken up under its own name, so
it is enough that every link holds the place where the disk says that it ends. Where the
disk refuses to list, to read or to write, the file system that is made refuses it too.
-/

import AvailabilityAnnotations.CommandLine.Execute

namespace AvailabilityAnnotations

namespace Disk

/-- Where a path leads once all links are followed, and what stands there. -/
def probe (path : Path) : IO (Option (Path × IO.FS.FileType)) := do
  try
    let place ← IO.FS.realPath (toString path)
    return some (Path.ofString place.toString, (← place.metadata).type)
  catch _ => return none

def entries (directory : Path) : IO (List String) := do
  let listed ← (← IO.FS.realPath (toString directory)).readDir
  return listed.toList.map fun entry => entry.fileName

def causeOf : IO.Error → Cause
  | .permissionDenied .. => .permissionDenied
  | _ => .inputOutput

/-- The location of an absolute path without links. -/
def locationOf (place : Path) : Location :=
  (Text.pieces '/' place.text).filterMap Name.ofText?

/-- What an operation of the disk answers, and otherwise a default and a file system that
refuses the same. -/
def attempt {α : Type} (files : FileSystem) (access : Access) (place : Path) (default : α)
    (operation : IO α) : IO (α × FileSystem) := do
  try return (← operation, files)
  catch error => return (default, files.refuse access (locationOf place) (causeOf error))

/-- Add a directory, and a link to it where a path leads elsewhere than it says. -/
def addDirectory (path place : Path) (files : FileSystem) : FileSystem :=
  let files := (files.createDirectories place).toOption.getD files
  if path = place then files else (files.createLink path place).toOption.getD files

/-- Add a file, and a link to it where a path leads elsewhere than it says. -/
def addFile (path place : Path) (content : ByteArray) (files : FileSystem) : FileSystem :=
  let files := (files.createParents place).toOption.getD files
  let files := (files.write place content).toOption.getD files
  if path = place then files else (files.createLink path place).toOption.getD files

/-- Take up a file. It is opened to append, which changes nothing, to see whether it can
be written. -/
def takeFile (path place : Path) (files : FileSystem) : IO FileSystem := do
  let (content, files) ←
    attempt files .read place ByteArray.empty (IO.FS.readBinFile (toString place))
  let (_, files) ← attempt (addFile path place content files) .write place ()
    (discard (IO.FS.Handle.mk (toString place) .append))
  return files

/-- Take up the sources below a directory. A directory behind a link is added without
its entries, because no search goes there. -/
partial def takeEntries (extension : Text) (directory : Path) (files : FileSystem) :
    IO FileSystem := do
  let (names, files) ← attempt files .read directory [] (entries directory)
  names.foldlM (fun files entry => do
    let some name := Name.ofText? entry.toList | return files
    let path := directory.child name
    match ← probe path with
    | some (place, .dir) =>
        let files := addDirectory path place files
        if path = place then takeEntries extension path files else return files
    | some (place, .file) =>
        if name.extension? = some extension then takeFile path place files else return files
    | _ => return files) files

/-- Take up the directories on the way from one place to another, and the sources below
the last one. Nothing is taken up where the way ends early. -/
def takeRoot (extension : Text) (files : FileSystem) : Path → List Step → IO FileSystem
  | directory, [] => takeEntries extension directory files
  | directory, step :: steps => do
      let path := directory.join
        (match step with
        | .here => ⟨['.']⟩
        | .up => ⟨['.', '.']⟩
        | .enter name => ⟨name⟩)
      match step, ← probe path with
      | .enter _, some (place, .dir) =>
          takeRoot extension (addDirectory path place files) place steps
      | _, some (place, .dir) => takeRoot extension files place steps
      | _, _ => return files

/-- The file system with the sources below some directories. -/
def takeRoots (extension : Text) (roots : List Path) : IO FileSystem := do
  let some (here, _) ← probe ⟨['.']⟩ | return FileSystem.empty []
  roots.foldlM (fun files root =>
    takeRoot extension files (if root.isAbsolute then ⟨['/']⟩ else here) root.steps)
    (FileSystem.empty (locationOf here))

/-- Write the files that have other bytes than before. -/
def writeBack (before after : FileSystem) : IO Unit :=
  for (path, content) in after.changedSince before do
    IO.FS.writeBinFile (toString path) content

end Disk

end AvailabilityAnnotations

open AvailabilityAnnotations in
/-- Run the program with the arguments of a command line. -/
def main (words : List String) : IO UInt32 := do
  let arguments := words.map String.toList
  let filter? := (← IO.getEnv "RUST_LOG").map String.toList
  let files ← Disk.takeRoots ({} : Config).extension (CommandLine.searchRoots arguments)
  let outcome := CommandLine.execute arguments filter? files
  Disk.writeBack files outcome.files
  for event in outcome.log do
    IO.eprintln event.line
  IO.print outcome.output
  IO.eprint outcome.errors
  return outcome.code.toUInt32

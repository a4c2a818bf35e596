/-
# Reading and writing files

The operations on a file system. Each one either fails with a cause and changes
nothing, or gives its answer and the file system as it is afterwards. An access that the
system refuses fails with the cause of the refusal.
-/

import AvailabilityAnnotations.FileSystem.Resolve

namespace AvailabilityAnnotations

namespace FileSystem

/-- Directories inside one another, each the only entry of the one before. -/
def nested : Location → Listing
  | [] => .nil
  | name :: location => .directory name (nested location) .nil

private theorem ordered_nested (location : Location) : (nested location).Ordered := by
  induction location with
  | nil => trivial
  | cons name location ih => exact ⟨by simp [Listing.names], ih, trivial⟩

/-- The file system with nothing but the directories that lead to its working
directory. -/
def empty (workingDirectory : Location) : FileSystem where
  root := nested workingDirectory
  ordered := ordered_nested workingDirectory
  workingDirectory := workingDirectory

/-- The file system with a node added or replaced at a location. -/
def putAt (files : FileSystem) (location : Location) (node : Node) (inside : node.Ordered) :
    FileSystem :=
  { files with
    root := files.root.putAt node location
    ordered := Listing.ordered_putAt inside location files.ordered }

/-- The file system in which an access to the entry at a location is refused. -/
def refuse (files : FileSystem) (access : Access) (location : Location) (cause : Cause) :
    FileSystem :=
  { files with
    refusal? := fun asked place =>
      if asked = access ∧ place = location then some cause else files.refusal? asked place }

/-- The bytes of the file that a path leads to, whether they can be read or not. -/
def content? (files : FileSystem) (path : Path) : Option ByteArray :=
  match files.lookUp path with
  | .ok (_, .file content) => some content
  | _ => none

def isFile (files : FileSystem) (path : Path) : Bool :=
  (files.content? path).isSome

def isDirectory (files : FileSystem) (path : Path) : Bool :=
  match files.lookUp path with
  | .ok (_, .directory _) => true
  | _ => false

/-- The entries of the directory that a path leads to. -/
def list (files : FileSystem) (path : Path) : Except Cause Listing :=
  match files.lookUp path with
  | .error cause => .error cause
  | .ok (location, .directory entries) =>
      match files.refusal? .read location with
      | some cause => .error cause
      | none => .ok entries
  | .ok _ => .error .notDirectory

def canList (files : FileSystem) (path : Path) : Bool :=
  match files.list path with
  | .ok _ => true
  | .error _ => false

def read (files : FileSystem) (path : Path) : Except Cause ByteArray :=
  match files.lookUp path with
  | .error cause => .error cause
  | .ok (location, node) =>
      match files.refusal? .read location, node with
      | some cause, _ => .error cause
      | none, .file content => .ok content
      | none, _ => .error .isDirectory

def readText (files : FileSystem) (path : Path) : Except Cause Text :=
  match files.read path with
  | .error cause => .error cause
  | .ok content =>
      match String.fromUTF8? content with
      | some string => .ok string.toList
      | none => .error .notUtf8

/-- Add an entry to a directory. -/
def addEntry (files : FileSystem) (directory : Location) (name : Name) (node : Node)
    (inside : node.Ordered) : Except Cause FileSystem :=
  match files.refusal? .write directory with
  | some cause => .error cause
  | none => .ok (files.putAt (directory ++ [name]) node inside)

/-- Make a file with the given bytes, or replace the bytes of a file. -/
def write (files : FileSystem) (path : Path) (content : ByteArray) :
    Except Cause FileSystem :=
  match files.resolve path with
  | .error cause => .error cause
  | .ok (.missing directory name) => files.addEntry directory name (.file content) trivial
  | .ok (.existing location) =>
      match files.root.at? location, files.refusal? .write location with
      | some (.file _), none => .ok (files.putAt location (.file content) trivial)
      | some (.file _), some cause => .error cause
      | _, _ => .error .isDirectory

/-- Make a file with the given text, or replace the content of a file. -/
def writeText (files : FileSystem) (path : Path) (text : Text) : Except Cause FileSystem :=
  files.write path (String.ofList text).toUTF8

/-- Take steps and make the directories that are missing on the way. -/
def makeDirectories (files : FileSystem) : Location → List Step → Except Cause FileSystem
  | _, [] => .ok files
  | location, .here :: steps => files.makeDirectories location steps
  | location, .up :: steps => files.makeDirectories location.dropLast steps
  | location, .enter text :: steps =>
      match files.follow linkLimit location [.enter text] with
      | .error cause => .error cause
      | .ok (.missing directory name) =>
          if directory = location ∧ name.text = text then
            match files.addEntry location name (.directory .nil) trivial with
            | .error cause => .error cause
            | .ok made => made.makeDirectories (location ++ [name]) steps
          else .error .alreadyExists
      | .ok (.existing place) =>
          match files.root.at? place with
          | some (.directory _) => files.makeDirectories place steps
          | _ => if steps = [] then .error .alreadyExists else .error .notDirectory

/-- Make a directory and those on the way to it, as far as they are missing. -/
def createDirectories (files : FileSystem) (path : Path) : Except Cause FileSystem :=
  files.makeDirectories (files.startOf path) path.steps

/-- Make the directories on the way to a path, as far as they are missing. -/
def createParents (files : FileSystem) (path : Path) : Except Cause FileSystem :=
  files.makeDirectories (files.startOf path) path.steps.dropLast

/-- Make a link to a target that need not exist. The link's own name is never
followed. -/
def makeLink (files : FileSystem) (path target : Path) : Except Cause FileSystem :=
  match files.follow linkLimit (files.startOf path) path.steps.dropLast,
      path.steps.getLast? with
  | .error cause, _ => .error cause
  | .ok (.missing _ _), _ => .error .notFound
  | .ok (.existing directory), some (.enter text) =>
      match files.root.at? directory, Name.ofText? text with
      | some (.directory entries), some name =>
          if (entries.find? name).isNone then
            files.addEntry directory name (.link target) trivial
          else .error .alreadyExists
      | some (.directory _), none => .error .nameTooLong
      | _, _ => .error .notDirectory
  | .ok (.existing _), _ => .error .alreadyExists

/-- Make a link, if both its target and its own path can be used. -/
def createLink (files : FileSystem) (path target : Path) : Except Cause FileSystem :=
  match (flaw? target).or (flaw? path) with
  | some cause => .error cause
  | none => files.makeLink path target

/-- The files and links below the working directory, in the order of their paths. -/
def inventory (files : FileSystem) : List (Path × Node) :=
  match files.root.at? files.workingDirectory with
  | some (.directory entries) =>
      ((entries.leaves (fun _ => true) ⟨[]⟩).map fun (path, _, node) => (path, node)).mergeSort
        fun first second => !decide (second.1.text < first.1.text)
  | _ => []

/-- The files that have other bytes than they had in an earlier file system, with their
paths from the root and their new bytes. -/
def changedSince (files earlier : FileSystem) : List (Path × ByteArray) :=
  (files.root.leaves (fun _ => true) ⟨['/']⟩).filterMap fun
    | (path, _, .file content) =>
        if (earlier.content? path).map ByteArray.data = some content.data then none
        else some (path, content)
    | _ => none

end FileSystem

end AvailabilityAnnotations

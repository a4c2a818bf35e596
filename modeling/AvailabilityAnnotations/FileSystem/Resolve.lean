/-
# Resolving paths

A path is resolved step by step from the root or from the working directory. A link
on the way is replaced by its target, which begins in the directory that holds the
link, or at the root if it is absolute. At most forty links are followed for one
path, so resolving ends even where links lead in circles.

The result is a place where a file or directory stands, or the place where one could
be made: a name that is missing in a directory that exists. Every directory that a path
leaves has to be searched for that, which the system may refuse, as it may refuse to
read or to write what stands at the end.
-/

import AvailabilityAnnotations.FileSystem.Cause
import AvailabilityAnnotations.FileSystem.Tree

namespace AvailabilityAnnotations

/-- What is done to an entry. To read a directory is to list its entries, to write to it
is to add one, and to search it is to go on from it. -/
inductive Access where
  | read
  | write
  | search
  deriving DecidableEq, Repr

/-- A file tree, and the directory in it at which relative paths begin. -/
structure FileSystem where
  root : Listing
  ordered : root.Ordered
  /-- The directory at which relative paths begin. -/
  workingDirectory : Location
  /-- Why the system refuses an access to the entry at a location, if it does. -/
  refusal? : Access → Location → Option Cause := fun _ _ => none

/-- What a path leads to. -/
inductive Resolved where
  /-- A file or a directory. -/
  | existing (location : Location)
  /-- A name that is missing in a directory that exists. -/
  | missing (directory : Location) (name : Name)
  deriving DecidableEq, Repr

namespace FileSystem

/-- Take the steps one by one. `jump` goes on behind a link, from a location and with
the steps that are then left. -/
def walk (files : FileSystem) (jump : Location → List Step → Except Cause Resolved) :
    Location → List Step → Except Cause Resolved
  | location, [] => .ok (.existing location)
  | location, step :: steps =>
      match files.root.at? location with
      | some (.directory entries) =>
          match step, files.refusal? .search location with
          | .here, _ => files.walk jump location steps
          | _, some cause => .error cause
          | .up, none => files.walk jump location.dropLast steps
          | .enter text, none =>
              match Name.ofText? text with
              -- A piece between slashes can fail to be a name in two ways only.
              | none => .error (if '\x00' ∈ text then .nullInPath else .nameTooLong)
              | some name =>
                  match entries.find? name with
                  | none => if steps = [] then .ok (.missing location name) else .error .notFound
                  | some (.link target) =>
                      if target.text = [] then .error .notFound
                      else jump (if target.isAbsolute then [] else location) (target.steps ++ steps)
                  | some _ => files.walk jump (location ++ [name]) steps
      | _ => .error .notDirectory

/-- Take the steps and follow at most `links` links. -/
def follow (files : FileSystem) : Nat → Location → List Step → Except Cause Resolved
  | 0 => files.walk fun _ _ => .error .tooManyLinks
  | links + 1 => files.walk (files.follow links)

/-- How many links are followed for one path. -/
def linkLimit : Nat := 40

/-- How many bytes a path may have, counting the null byte that ends it. -/
def pathLimit : Nat := 4096

/-- Where a path begins. -/
def startOf (files : FileSystem) (path : Path) : Location :=
  if path.isAbsolute then [] else files.workingDirectory

/-- Why a path cannot be used at all, whatever the tree holds. -/
def flaw? (path : Path) : Option Cause :=
  if '\x00' ∈ path.text then some .nullInPath
  else if path.text = [] then some .notFound
  else if pathLimit ≤ path.text.width then some .nameTooLong
  else none

/-- What a path leads to, all links followed. -/
def resolve (files : FileSystem) (path : Path) : Except Cause Resolved :=
  match flaw? path with
  | some cause => .error cause
  | none => files.follow linkLimit (files.startOf path) path.steps

/-- The location that a path leads to, all links followed, and the node there. -/
def lookUp (files : FileSystem) (path : Path) : Except Cause (Location × Node) :=
  match files.resolve path with
  | .error cause => .error cause
  | .ok (.missing _ _) => .error .notFound
  | .ok (.existing location) =>
      match files.root.at? location with
      | some node => .ok (location, node)
      | none => .error .notFound

end FileSystem

end AvailabilityAnnotations

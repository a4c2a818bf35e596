/-
# File trees

A listing is the content of a directory: files with their bytes, links with their
targets, and directories with listings of their own. Entries stand in the order of
their names and no name occurs twice (`Listing.Ordered`), so two listings with the
same content are equal.

`find?` looks an entry up and `put` adds or replaces one; `at?` and `putAt` do the
same at a location some directories below. Everything that `put` and `putAt` build
is ordered again.
-/

import AvailabilityAnnotations.FileSystem.Path

namespace AvailabilityAnnotations

/-- The entries of a directory: the first of them, and the rest. -/
inductive Listing where
  | nil
  | file (name : Name) (content : ByteArray) (rest : Listing)
  | link (name : Name) (target : Path) (rest : Listing)
  | directory (name : Name) (entries : Listing) (rest : Listing)

/-- One entry of a directory, without its name. -/
inductive Node where
  | file (content : ByteArray)
  | link (target : Path)
  | directory (entries : Listing)

/-- A place in a file tree: the names of the entries that lead to it from the
root. -/
abbrev Location := List Name

namespace Listing

def names : Listing → List Name
  | nil => []
  | file name _ rest => name :: rest.names
  | link name _ rest => name :: rest.names
  | directory name _ rest => name :: rest.names

/-- The entries stand in the order of their names, in each directory below too. -/
def Ordered : Listing → Prop
  | nil => True
  | file name _ rest => (∀ other ∈ rest.names, name.text < other.text) ∧ rest.Ordered
  | link name _ rest => (∀ other ∈ rest.names, name.text < other.text) ∧ rest.Ordered
  | directory name entries rest =>
      (∀ other ∈ rest.names, name.text < other.text) ∧ entries.Ordered ∧ rest.Ordered

def find? (name : Name) : Listing → Option Node
  | nil => none
  | file other content rest => if other = name then some (.file content) else rest.find? name
  | link other target rest => if other = name then some (.link target) else rest.find? name
  | directory other entries rest =>
      if other = name then some (.directory entries) else rest.find? name

end Listing

namespace Node

/-- The node as an entry in front of other entries. -/
def before (name : Name) (rest : Listing) : Node → Listing
  | file content => .file name content rest
  | link target => .link name target rest
  | directory entries => .directory name entries rest

/-- A directory's entries are ordered. -/
def Ordered : Node → Prop
  | file _ => True
  | link _ => True
  | directory entries => entries.Ordered

end Node

namespace Listing

/-- Add an entry at its place in the order of the names, or replace the entry with
its name. -/
def put (name : Name) (node : Node) : Listing → Listing
  | nil => node.before name nil
  | file other content rest =>
      if name = other then node.before name rest
      else if name.text < other.text then node.before name (file other content rest)
      else file other content (rest.put name node)
  | link other target rest =>
      if name = other then node.before name rest
      else if name.text < other.text then node.before name (link other target rest)
      else link other target (rest.put name node)
  | directory other entries rest =>
      if name = other then node.before name rest
      else if name.text < other.text then node.before name (directory other entries rest)
      else directory other entries (rest.put name node)

/-- The node at a location below the directory. -/
def at? : Location → Listing → Option Node
  | [], entries => some (.directory entries)
  | [name], entries => entries.find? name
  | name :: next :: location, entries =>
      match entries.find? name with
      | some (.directory inner) => inner.at? (next :: location)
      | _ => none

/-- Add or replace the node at a location below the directory. Nothing happens if
the location does not lie in a directory. -/
def putAt (node : Node) : Location → Listing → Listing
  | [], entries => entries
  | [name], entries => entries.put name node
  | name :: next :: location, entries =>
      match entries.find? name with
      | some (.directory inner) =>
          entries.put name (.directory (inner.putAt node (next :: location)))
      | _ => entries

@[simp] theorem names_before (name : Name) (rest : Listing) (node : Node) :
    (node.before name rest).names = name :: rest.names := by
  cases node <;> rfl

/-- The names after adding an entry are those from before and the new one. -/
theorem mem_names_put {name other : Name} {node : Node} {entries : Listing} :
    other ∈ (entries.put name node).names ↔ other = name ∨ other ∈ entries.names := by
  induction entries with
  | nil => simp [put, names]
  | file known _ rest ih | link known _ rest ih | directory known _ rest _ ih =>
      rw [put]
      split
      · next same => simp [names, same]
      · split
        · simp [names]
        · simp [names, ih, or_left_comm]

private theorem ordered_before {name : Name} {node : Node} {rest : Listing}
    (smaller : ∀ other ∈ rest.names, name.text < other.text) (inside : node.Ordered)
    (behind : rest.Ordered) : (node.before name rest).Ordered := by
  cases node with
  | file content => exact ⟨smaller, behind⟩
  | link target => exact ⟨smaller, behind⟩
  | directory entries => exact ⟨smaller, inside, behind⟩

private theorem text_lt_of_not_lt {first second : Name} (different : first ≠ second)
    (notBefore : ¬ first.text < second.text) : second.text < first.text := by
  rcases Std.lt_trichotomy first.text second.text with smaller | same | larger
  · exact absurd smaller notBefore
  · exact absurd (Name.ext_text same) different
  · exact larger

/-- Adding an entry keeps a listing ordered. -/
theorem ordered_put {name : Name} {node : Node} {entries : Listing}
    (inside : node.Ordered) (ordered : entries.Ordered) : (entries.put name node).Ordered := by
  induction entries with
  | nil => exact ordered_before (by simp [names]) inside trivial
  | file known content rest ih | link known content rest ih =>
      obtain ⟨smaller, behind⟩ := ordered
      rw [put]
      split
      · next same => exact ordered_before (same ▸ smaller) inside behind
      · next different =>
          split
          · next first =>
              refine ordered_before ?_ inside ⟨smaller, behind⟩
              intro other member
              rcases List.mem_cons.1 member with rfl | later
              · exact first
              · exact Std.lt_trans first (smaller other later)
          · next notFirst =>
              refine ⟨?_, ih behind⟩
              intro other member
              rcases mem_names_put.1 member with rfl | later
              · exact text_lt_of_not_lt different notFirst
              · exact smaller other later
  | directory known inner rest _ ih =>
      obtain ⟨smaller, within, behind⟩ := ordered
      rw [put]
      split
      · next same => exact ordered_before (same ▸ smaller) inside behind
      · next different =>
          split
          · next first =>
              refine ordered_before ?_ inside ⟨smaller, within, behind⟩
              intro other member
              rcases List.mem_cons.1 member with rfl | later
              · exact first
              · exact Std.lt_trans first (smaller other later)
          · next notFirst =>
              refine ⟨?_, within, ih behind⟩
              intro other member
              rcases mem_names_put.1 member with rfl | later
              · exact text_lt_of_not_lt different notFirst
              · exact smaller other later

/-- What is found in an ordered listing is ordered. -/
theorem ordered_of_find? {name : Name} {node : Node} {entries : Listing}
    (ordered : entries.Ordered) (found : entries.find? name = some node) : node.Ordered := by
  induction entries with
  | nil => simp [find?] at found
  | file known content rest ih =>
      rw [find?] at found
      split at found
      · cases found
        trivial
      · exact ih ordered.2 found
  | link known target rest ih =>
      rw [find?] at found
      split at found
      · cases found
        trivial
      · exact ih ordered.2 found
  | directory known inner rest _ ih =>
      rw [find?] at found
      split at found
      · cases found
        exact ordered.2.1
      · exact ih ordered.2.2 found

/-- Adding a node at a location keeps a listing ordered. -/
theorem ordered_putAt {node : Node} (inside : node.Ordered) (location : Location)
    {entries : Listing} (ordered : entries.Ordered) :
    (entries.putAt node location).Ordered := by
  induction location generalizing entries with
  | nil => exact ordered
  | cons name location ih =>
      cases location with
      | nil => exact ordered_put inside ordered
      | cons next location =>
          rw [putAt]
          split
          · next inner found =>
              have within : inner.Ordered := ordered_of_find? ordered found
              exact ordered_put (ih within) ordered
          · exact ordered

/-- The files and links below a directory, each with the path that leads to it. The
directory itself is reached by `directory`. Directories are entered where they stand
in the order of the names, links never, and directories whose path `enters` turns down
are passed by. -/
def leaves (enters : Path → Bool) (directory : Path) : Listing → List (Path × Name × Node)
  | nil => []
  | file name content rest =>
      (directory.child name, name, .file content) :: rest.leaves enters directory
  | link name target rest =>
      (directory.child name, name, .link target) :: rest.leaves enters directory
  | .directory name entries rest =>
      (if enters (directory.child name) then entries.leaves enters (directory.child name)
        else []) ++ rest.leaves enters directory

/-- The paths of the directories that the same walk comes to. -/
def directories (enters : Path → Bool) (directory : Path) : Listing → List Path
  | nil => []
  | file _ _ rest => rest.directories enters directory
  | link _ _ rest => rest.directories enters directory
  | .directory name entries rest =>
      directory.child name ::
        ((if enters (directory.child name) then entries.directories enters (directory.child name)
          else []) ++ rest.directories enters directory)

end Listing

end AvailabilityAnnotations

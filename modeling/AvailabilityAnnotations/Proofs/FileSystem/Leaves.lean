/-
# The leaves of a file tree

The files and links below a directory are found in one walk, which enters a directory where
its name stands among the others. Here each of them is kept with the names that lead to it
(`Leaf`, `collect`), because the texts of their paths are in another order than their names:
the slash is larger than the blank or the dot, so `a/x` comes behind `a.x` as a text, and
before it in the walk.

A walk may pass by directories, so a leaf is found if every directory on the way to it is
entered (`HasLeaf`). `mem_collect_iff` says that the walk finds those leaves and nothing else,
and `collect_rising` that it goes from smaller to larger names, component by component in the
order of bytes. Both rest on the order of the entries in each directory.
-/

import AvailabilityAnnotations.Proofs.FileSystem.Descent
import AvailabilityAnnotations.Proofs.Text.ByteOrder

namespace AvailabilityAnnotations

/-- The bytes of a name. -/
def Name.bytes (name : Name) : List UInt8 :=
  name.text.byteList

namespace Listing

/-- A file or link below a directory, and the names of the directories on the way to it. -/
structure Leaf where
  directories : List Name
  name : Name
  node : Node

namespace Leaf

/-- The names that lead to the leaf. -/
def names (leaf : Leaf) : List Name :=
  leaf.directories ++ [leaf.name]

/-- The leaf as one below the directory that holds the given one. -/
def inside (directory : Name) (leaf : Leaf) : Leaf :=
  { leaf with directories := directory :: leaf.directories }

@[simp] theorem names_inside (directory : Name) (leaf : Leaf) :
    (leaf.inside directory).names = directory :: leaf.names := rfl

@[simp] theorem names_ne_nil (leaf : Leaf) : leaf.names ≠ [] := by
  simp [names]

end Leaf

/-- The leaves below a directory, in the order of the walk. Whether a directory is entered
is asked with the names that lead to it. -/
def collect (enters : List Name → Bool) : Listing → List Leaf
  | nil => []
  | file name content rest => ⟨[], name, .file content⟩ :: rest.collect enters
  | link name target rest => ⟨[], name, .link target⟩ :: rest.collect enters
  | directory name entries rest =>
      (if enters [name] then
        (entries.collect fun names => enters (name :: names)).map (Leaf.inside name)
      else []) ++ rest.collect enters

/-- The paths of the walk are those that enter the names of the leaves. -/
theorem leaves_eq (enters : Path → Bool) (base : Path) (entries : Listing) :
    entries.leaves enters base =
      (entries.collect fun names => enters (base.descend names)).map
        fun leaf => (base.descend leaf.names, leaf.name, leaf.node) := by
  induction entries generalizing base with
  | nil => rfl
  | file name content rest ih | link name target rest ih => rw [leaves, ih, collect]; rfl
  | directory name entries rest ihInside ihRest =>
      rw [leaves, ihInside, ihRest, collect, List.map_append, Path.descend_cons, Path.descend_nil]
      split
      · rw [List.map_map]
        rfl
      · rfl

/-- A file or link below a directory. On the way to it stand directories that are entered. -/
structure HasLeaf (enters : List Name → Bool) (entries : Listing) (leaf : Leaf) : Prop where
  there : entries.at? leaf.names = some leaf.node
  kind : ∀ inner, leaf.node ≠ .directory inner
  entered : ∀ front, front ≠ [] → front <+: leaf.directories → enters front = true

variable {entries inner rest : Listing} {name : Name} {node : Node} {leaf : Leaf}
  {location : Location} {enters : List Name → Bool}

/-- What stands at a location of an ordered tree is ordered. -/
theorem ordered_of_at? (ordered : entries.Ordered) (there : entries.at? location = some node) :
    node.Ordered := by
  induction location generalizing entries with
  | nil =>
      cases there
      exact ordered
  | cons first location ih =>
      cases location with
      | nil => exact ordered_of_find? ordered there
      | cons next location =>
          obtain ⟨inner, found, below⟩ := at?_cons_cons_eq_some_iff.1 there
          have within : (Node.directory inner).Ordered := ordered_of_find? ordered found
          exact ih within below

/-- Only the name of an entry finds something. -/
theorem find?_eq_none (absent : name ∉ entries.names) : entries.find? name = none := by
  induction entries with
  | nil => rfl
  | file other _ rest ih | link other _ rest ih | directory other _ rest _ ih =>
      obtain ⟨different, absent⟩ := not_or.1 (mt List.mem_cons.2 absent)
      rw [find?, if_neg (Ne.symm different), ih absent]

/-- A location with several names leads through the directory with the first name. -/
theorem at?_cons_eq_some_iff (more : location ≠ []) :
    entries.at? (name :: location) = some node ↔
      ∃ inner, entries.find? name = some (.directory inner) ∧ inner.at? location = some node := by
  obtain ⟨next, location, rfl⟩ := List.exists_cons_of_ne_nil more
  exact at?_cons_cons_eq_some_iff

/-- What stands at a location stands below an entry. -/
theorem mem_names_of_at? (there : entries.at? (name :: location) = some node) :
    name ∈ entries.names := by
  refine Classical.byContradiction fun absent => ?_
  have none := find?_eq_none absent
  cases location with
  | nil =>
      rw [at?, none] at there
      cases there
  | cons next location => simp [at?, none] at there

/-- Where a leaf behind a further entry stands: it is the entry, or below the entry, or it
stood there before. -/
theorem at?_names_before_iff (node : Node) (new : name ∉ rest.names) (leaf : Leaf) :
    (node.before name rest).at? leaf.names = some leaf.node ↔
      leaf = ⟨[], name, node⟩ ∨
      (∃ (inner : Listing) (deeper : Leaf), node = .directory inner ∧ leaf = deeper.inside name ∧
        inner.at? deeper.names = some deeper.node) ∨
      rest.at? leaf.names = some leaf.node := by
  have absent := find?_eq_none new
  obtain ⟨directories, last, leafNode⟩ := leaf
  cases directories with
  | nil =>
      show (node.before name rest).find? last = some leafNode ↔
        _ ∨ _ ∨ rest.find? last = some leafNode
      rw [find?_before]
      by_cases same : name = last
      · subst same
        simp [absent, Leaf.inside, eq_comm]
      · simp [same, Ne.symm same, Leaf.inside]
  | cons first directories =>
      show (node.before name rest).at? (first :: (directories ++ [last])) = some leafNode ↔
        _ ∨ _ ∨ rest.at? (first :: (directories ++ [last])) = some leafNode
      rw [at?_cons_eq_some_iff (by simp), at?_cons_eq_some_iff (by simp), find?_before]
      by_cases same : name = first
      · subst same
        simp only [if_true, absent, Option.some.injEq, reduceCtorEq, false_and, exists_false,
          or_false, Leaf.mk.injEq, false_or]
        constructor
        · rintro ⟨inner, rfl, below⟩
          exact ⟨inner, ⟨directories, last, leafNode⟩, rfl, rfl, below⟩
        · rintro ⟨inner, ⟨_, _, _⟩, rfl, equal, below⟩
          obtain ⟨rfl, rfl, rfl⟩ := by simpa [Leaf.inside] using equal
          exact ⟨inner, rfl, below⟩
      · simp [same, Ne.symm same, Leaf.inside]

/-- Behind a further file or link there is one more leaf. -/
theorem hasLeaf_before_iff (enters : List Name → Bool) (node : Node) (leaf : Leaf)
    (new : name ∉ rest.names) (kind : ∀ inner, node ≠ .directory inner) :
    (node.before name rest).HasLeaf enters leaf ↔
      leaf = ⟨[], name, node⟩ ∨ rest.HasLeaf enters leaf := by
  constructor
  · rintro ⟨there, leafKind, entered⟩
    rcases (at?_names_before_iff node new leaf).1 there with
      here | ⟨inner, _, isDirectory, -, -⟩ | behind
    · exact .inl here
    · exact absurd isDirectory (kind inner)
    · exact .inr ⟨behind, leafKind, entered⟩
  · rintro (rfl | ⟨there, leafKind, entered⟩)
    · refine ⟨(at?_names_before_iff node new _).2 (.inl rfl), kind, ?_⟩
      intro front nonempty part
      exact absurd (List.prefix_nil.1 part) nonempty
    · exact ⟨(at?_names_before_iff node new leaf).2 (.inr (.inr there)), leafKind, entered⟩

/-- Behind a further directory there are its leaves besides, if it is entered. -/
theorem hasLeaf_directory_iff (enters : List Name → Bool) (inner : Listing) (leaf : Leaf)
    (new : name ∉ rest.names) :
    (directory name inner rest).HasLeaf enters leaf ↔
      (enters [name] = true ∧ ∃ deeper,
        inner.HasLeaf (fun names => enters (name :: names)) deeper ∧ deeper.inside name = leaf) ∨
      rest.HasLeaf enters leaf := by
  have place := at?_names_before_iff (.directory inner) new leaf
  rw [Node.before] at place
  constructor
  · rintro ⟨there, leafKind, entered⟩
    rcases place.1 there with rfl | ⟨_, deeper, same, rfl, below⟩ | behind
    · exact absurd rfl (leafKind inner)
    · obtain rfl := Node.directory.inj same
      refine .inl ⟨entered [name] (by simp) (List.prefix_append [name] _), deeper,
        ⟨below, leafKind, ?_⟩, rfl⟩
      intro front _ part
      exact entered (name :: front) (by simp) (List.cons_prefix_cons.2 ⟨rfl, part⟩)
    · exact .inr ⟨behind, leafKind, entered⟩
  · rintro (⟨enter, deeper, ⟨below, leafKind, entered⟩, rfl⟩ | ⟨there, leafKind, entered⟩)
    · refine ⟨place.2 (.inr (.inl ⟨inner, deeper, rfl, rfl, below⟩)), leafKind, ?_⟩
      intro front nonempty part
      obtain ⟨first, front, rfl⟩ := List.exists_cons_of_ne_nil nonempty
      obtain ⟨rfl, behind⟩ := List.cons_prefix_cons.1 part
      cases front with
      | nil => exact enter
      | cons next front => exact entered (next :: front) (by simp) behind
    · exact ⟨place.2 (.inr (.inr there)), leafKind, entered⟩

/-- The walk finds the files and links below the directories that are entered and nothing
else. -/
theorem mem_collect_iff (enters : List Name → Bool) (leaf : Leaf) (ordered : entries.Ordered) :
    leaf ∈ entries.collect enters ↔ entries.HasLeaf enters leaf := by
  have new {rest : Listing} {name : Name}
      (smaller : ∀ other ∈ rest.names, name.text < other.text) : name ∉ rest.names :=
    fun member => List.lt_irrefl _ (smaller name member)
  induction entries generalizing leaf enters with
  | nil =>
      obtain ⟨first, more, shape⟩ := List.exists_cons_of_ne_nil leaf.names_ne_nil
      refine iff_of_false (by simp [collect]) fun leafBelow => ?_
      have there := leafBelow.there
      rw [shape] at there
      exact absurd (mem_names_of_at? there) (by simp [names])
  | file name _ rest ih | link name _ rest ih =>
      have behind : leaf ∈ rest.collect enters ↔ rest.HasLeaf enters leaf :=
        ih enters leaf ordered.2
      rw [collect, List.mem_cons, behind]
      exact (hasLeaf_before_iff enters _ leaf (new ordered.1) (by simp)).symm
  | directory name inner rest ihInside ihRest =>
      have below (deeper : Leaf) :
          deeper ∈ inner.collect (fun names => enters (name :: names)) ↔
            inner.HasLeaf (fun names => enters (name :: names)) deeper :=
        ihInside _ deeper ordered.2.1
      have behind : leaf ∈ rest.collect enters ↔ rest.HasLeaf enters leaf :=
        ihRest enters leaf ordered.2.2
      rw [collect, List.mem_append, behind,
        hasLeaf_directory_iff enters inner leaf (new ordered.1)]
      by_cases enter : enters [name] = true
      · simp only [enter, if_true, List.mem_map, true_and, below]
      · simp [enter]

/-- The order of the walk: component by component, each compared by its bytes. -/
def Leaf.Before (first second : Leaf) : Prop :=
  first.names.map Name.bytes < second.names.map Name.bytes

/-- Whatever stands below an entry comes before what stands below a later one. -/
private theorem before_of_smaller (ordered : rest.Ordered)
    (smaller : ∀ other ∈ rest.names, name.text < other.text) {first second : Leaf}
    {location : Location} (here : first.names = name :: location)
    (member : second ∈ rest.collect enters) : first.Before second := by
  have there := ((mem_collect_iff enters second ordered).1 member).there
  obtain ⟨other, others, shape⟩ := List.exists_cons_of_ne_nil second.names_ne_nil
  rw [shape] at there
  have larger : name.text < other.text := smaller other (mem_names_of_at? there)
  rw [Leaf.Before, here, shape, List.map_cons, List.map_cons]
  exact List.cons_lt_cons_iff.2 (.inl (Text.byteList_lt larger))

/-- The walk goes from smaller to larger names. -/
theorem collect_rising (ordered : entries.Ordered) :
    (entries.collect enters).Pairwise Leaf.Before := by
  induction entries generalizing enters with
  | nil => exact .nil
  | file name content rest ih | link name target rest ih =>
      obtain ⟨smaller, behind⟩ := ordered
      exact .cons (fun _ => before_of_smaller behind smaller rfl) (ih behind)
  | directory name inner rest ihInside ihRest =>
      obtain ⟨smaller, within, behind⟩ := ordered
      rw [collect]
      split
      · refine List.pairwise_append.2 ⟨?_, ihRest behind, ?_⟩
        · refine List.pairwise_map.2 ((ihInside within).imp fun before => ?_)
          exact List.cons_lt_cons_iff.2 (.inr ⟨rfl, before⟩)
        · intro first member second
          obtain ⟨deeper, -, rfl⟩ := List.mem_map.1 member
          exact before_of_smaller behind smaller (deeper.names_inside name)
      · exact ihRest behind

end Listing

end AvailabilityAnnotations

/-
# Writing a file in a tree

`put` and `putAt` change one place. What they leave alone is said place by place: the
entry of every other name is found as before, and every other location of the tree holds
what it held, except that a directory on the way has one changed entry somewhere below
it. A directory stays a directory all the same, so the kinds of all nodes are kept.
-/

import AvailabilityAnnotations.FileSystem.Tree

namespace AvailabilityAnnotations

/-- What a node is, without the bytes of a file and the entries of a directory. A link is
what it leads to. -/
inductive Kind where
  | file
  | link (target : Path)
  | directory
  deriving DecidableEq, Repr

def Node.kind : Node → Kind
  | file _ => .file
  | link target => .link target
  | directory _ => .directory

namespace Listing

variable {entries : Listing} {name : Name} {node : Node} {location : Location}
  {old : ByteArray}

@[simp] theorem find?_before (name other : Name) (node : Node) (rest : Listing) :
    (node.before name rest).find? other = if name = other then some node else rest.find? other := by
  cases node <;> rfl

/-- An entry that was added or replaced is found under its name and hides no other. -/
theorem find?_put (name other : Name) (node : Node) (entries : Listing) :
    (entries.put name node).find? other =
      if name = other then some node else entries.find? other := by
  induction entries with
  | nil => simp [put, find?]
  | file known _ rest ih | link known _ rest ih | directory known _ rest _ ih =>
      rw [put]
      split
      · next same =>
          subst same
          by_cases asked : name = other <;> simp [find?, asked]
      · next different =>
          split
          · simp
          · rw [find?, find?, ih]
            by_cases asked : known = other
            · subst asked
              simp [different]
            · simp [asked]

/-- A location below an entry leads through a directory. -/
theorem at?_cons_cons_eq_some_iff {first next : Name} :
    entries.at? (first :: next :: location) = some node ↔
      ∃ inner, entries.find? first = some (.directory inner) ∧
        inner.at? (next :: location) = some node := by
  rw [at?]
  cases found : entries.find? first with
  | none => simp
  | some inside => cases inside <;> simp

/-- A directory's entry is found at the location behind the directory. -/
theorem at?_concat {inner : Listing} (here : entries.at? location = some (.directory inner))
    (name : Name) : entries.at? (location ++ [name]) = inner.find? name := by
  induction location generalizing entries with
  | nil =>
      cases here
      rfl
  | cons first location ih =>
      cases location with
      | nil =>
          have found : entries.find? first = some (.directory inner) := here
          simp [at?, found]
      | cons next location =>
          obtain ⟨middle, found, below⟩ := at?_cons_cons_eq_some_iff.1 here
          simpa [at?, found] using ih below

/-- Where a file stands, the node that is put there is found. -/
theorem at?_putAt_self (node : Node) (here : entries.at? location = some (.file old)) :
    (entries.putAt node location).at? location = some node := by
  induction location generalizing entries with
  | nil => cases here
  | cons first location ih =>
      cases location with
      | nil => simp [putAt, at?, find?_put]
      | cons next location =>
          obtain ⟨inner, found, below⟩ := at?_cons_cons_eq_some_iff.1 here
          simpa [putAt, at?, found, find?_put] using ih below

/-- An entry that is put into a directory leaves the locations below all other entries as
they were. -/
theorem at?_put_of_ne (node : Node) {head : Name} (different : name ≠ head) (tail : Location) :
    (entries.put name node).at? (head :: tail) = entries.at? (head :: tail) := by
  cases tail <;> simp [at?, find?_put, different]

/-- Writing a file leaves every other location as it was, or it was a directory and is
one. -/
theorem at?_putAt_of_ne (content : ByteArray) (here : entries.at? location = some (.file old))
    {other : Location} (different : other ≠ location) :
    (entries.putAt (.file content) location).at? other = entries.at? other ∨
      ∃ before after, entries.at? other = some (.directory before) ∧
        (entries.putAt (.file content) location).at? other = some (.directory after) := by
  induction location generalizing entries other with
  | nil => cases here
  | cons first location ih =>
      cases other with
      | nil => exact .inr ⟨entries, _, rfl, rfl⟩
      | cons head tail =>
          cases location with
          | nil =>
              by_cases same : first = head
              · subst same
                have found : entries.find? first = some (.file old) := here
                cases tail with
                | nil => exact absurd rfl different
                | cons second tail => exact .inl (by simp [putAt, at?, find?_put, found])
              · exact .inl (at?_put_of_ne _ same tail)
          | cons next location =>
              obtain ⟨inner, found, below⟩ := at?_cons_cons_eq_some_iff.1 here
              have written : entries.putAt (.file content) (first :: next :: location) =
                  entries.put first (.directory (inner.putAt (.file content) (next :: location))) := by
                simp [putAt, found]
              rw [written]
              by_cases same : first = head
              · subst same
                cases tail with
                | nil =>
                    refine .inr ⟨inner, inner.putAt (.file content) (next :: location), found, ?_⟩
                    simp [at?, find?_put]
                | cons second tail =>
                    have apart : second :: tail ≠ next :: location := by simpa using different
                    have inside := ih below apart
                    simpa [at?, found, find?_put] using inside
              · exact .inl (at?_put_of_ne _ same tail)

/-- Writing a file keeps the kinds of all nodes. -/
theorem kind_at?_putAt (content : ByteArray) (here : entries.at? location = some (.file old))
    (other : Location) :
    ((entries.putAt (.file content) location).at? other).map Node.kind =
      (entries.at? other).map Node.kind := by
  by_cases same : other = location
  · subst same
    simp [at?_putAt_self _ here, here, Node.kind]
  · rcases at?_putAt_of_ne content here same with equal | ⟨before, after, was, is⟩
    · rw [equal]
    · simp [was, is, Node.kind]

/-- Writing a file keeps the bytes of all other files. -/
theorem file_at?_putAt_iff (content : ByteArray) (here : entries.at? location = some (.file old))
    {other : Location} (different : other ≠ location) {bytes : ByteArray} :
    (entries.putAt (.file content) location).at? other = some (.file bytes) ↔
      entries.at? other = some (.file bytes) := by
  rcases at?_putAt_of_ne content here different with equal | ⟨before, after, was, is⟩
  · rw [equal]
  · simp [was, is]

end Listing

end AvailabilityAnnotations

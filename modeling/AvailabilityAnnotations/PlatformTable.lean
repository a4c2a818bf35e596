/-
# Platform tables

A table maps symbolic versions of one package, such as `System 0.0.2`, to the
list of platform versions that they stand for. Its entries are kept in the order
of their tokens, and a token stands in the table once: an entry for a token that
is there already takes the place of the old one.
-/

import AvailabilityAnnotations.Text

namespace AvailabilityAnnotations

/-- The known versions of one package. -/
structure PlatformTable where
  /-- The name that every token of an annotation begins with. -/
  package : Text
  /-- Tokens and their platform lists, in the order of the tokens. -/
  entries : List (Text × Text)
  ordered : entries.Pairwise fun first second => first.1 < second.1
  deriving DecidableEq, Repr

namespace PlatformTable

/-- Put an entry at its place in the order of the tokens, in place of an entry
with the same token. -/
def insertEntry (token platforms : Text) : List (Text × Text) → List (Text × Text)
  | [] => [(token, platforms)]
  | entry :: entries =>
      if token = entry.1 then (token, platforms) :: entries
      else if token < entry.1 then (token, platforms) :: entry :: entries
      else entry :: insertEntry token platforms entries

/-- No other entries come in than the new one. -/
private theorem eq_or_mem_of_mem_insertEntry {token platforms : Text} {entry : Text × Text}
    {entries : List (Text × Text)} (member : entry ∈ insertEntry token platforms entries) :
    entry = (token, platforms) ∨ entry ∈ entries := by
  induction entries with
  | nil => simpa [insertEntry] using member
  | cons first entries ih =>
      rw [insertEntry] at member
      split at member
      · rcases List.mem_cons.1 member with new | old
        · exact .inl new
        · exact .inr (List.mem_cons_of_mem _ old)
      · split at member
        · exact List.mem_cons.1 member
        · rcases List.mem_cons.1 member with rfl | later
          · exact .inr List.mem_cons_self
          · exact (ih later).imp_right (List.mem_cons_of_mem _)

/-- Putting in an entry keeps the order of the tokens. -/
private theorem ordered_insertEntry (token platforms : Text) {entries : List (Text × Text)}
    (ordered : entries.Pairwise fun first second => first.1 < second.1) :
    (insertEntry token platforms entries).Pairwise fun first second => first.1 < second.1 := by
  induction ordered with
  | nil => exact .cons (by simp) .nil
  | @cons entry entries smaller ordered ih =>
      rw [insertEntry]
      split
      · next same => exact .cons (fun other member => same ▸ smaller other member) ordered
      · next different =>
          split
          · next first =>
              refine .cons ?_ (.cons smaller ordered)
              intro other member
              rcases List.mem_cons.1 member with rfl | later
              · exact first
              · exact Std.lt_trans first (smaller other later)
          · next notFirst =>
              refine .cons ?_ ih
              intro other member
              rcases eq_or_mem_of_mem_insertEntry member with rfl | old
              · rcases Std.lt_trichotomy token entry.1 with first | same | behind
                · exact absurd first notFirst
                · exact absurd same different
                · exact behind
              · exact smaller other old

/-- The table without entries. -/
def empty (package : Text) : PlatformTable where
  package := package
  entries := []
  ordered := .nil

/-- The table with one more entry, in place of an entry with the same token. -/
def insert (table : PlatformTable) (token platforms : Text) : PlatformTable where
  package := table.package
  entries := insertEntry token platforms table.entries
  ordered := ordered_insertEntry token platforms table.ordered

/-- The table of a list of entries. Of two entries for one token the later one
stands. -/
def ofEntries (package : Text) (entries : List (Text × Text)) : PlatformTable :=
  entries.foldl (fun table entry => table.insert entry.1 entry.2) (empty package)

def platforms? (table : PlatformTable) (token : Text) : Option Text :=
  table.entries.lookup token

/-- The tokens of the table in their order. -/
def tokens (table : PlatformTable) : List Text :=
  table.entries.map Prod.fst

def size (table : PlatformTable) : Nat :=
  table.entries.length

def isEmpty (table : PlatformTable) : Bool :=
  table.entries.isEmpty

/-- The versions of the package `System` that are known from the start. A
platform version of `9999` marks a release that has not shipped yet. -/
def system : PlatformTable :=
  ofEntries "System".toList
    [("System 0.0.1".toList, "macOS 11.0, iOS 14.0, watchOS 7.0, tvOS 14.0".toList),
     ("System 0.0.2".toList, "macOS 12.0, iOS 15.0, watchOS 8.0, tvOS 15.0".toList),
     ("System 1.1.0".toList, "macOS 12.3, iOS 15.4, watchOS 8.5, tvOS 15.4".toList),
     ("System 1.2.0".toList, "macOS 9999, iOS 9999, watchOS 9999, tvOS 9999".toList)]

variable {table : PlatformTable} {token platforms : Text}

private theorem lookup_cons_ite (entry : Text × Text) (entries : List (Text × Text))
    (asked : Text) :
    (entry :: entries).lookup asked =
      if asked = entry.1 then some entry.2 else entries.lookup asked := by
  rw [List.lookup_cons]
  by_cases same : asked = entry.1
  · simp [same]
  · simp [beq_false_of_ne same, same]

private theorem lookup_insertEntry (token platforms : Text) (entries : List (Text × Text))
    (asked : Text) :
    (insertEntry token platforms entries).lookup asked =
      if asked = token then some platforms else entries.lookup asked := by
  induction entries with
  | nil => simp [insertEntry]
  | cons entry entries ih =>
      rw [insertEntry]
      split
      · next here => by_cases same : asked = token <;> simp_all [lookup_cons_ite]
      · next here =>
          split
          · simp [lookup_cons_ite]
          · by_cases same : asked = token <;> simp_all [lookup_cons_ite]

/-- A new entry is found under its token and hides no other. -/
@[simp] theorem platforms?_insert (table : PlatformTable) (token platforms asked : Text) :
    (table.insert token platforms).platforms? asked =
      if asked = token then some platforms else table.platforms? asked :=
  lookup_insertEntry token platforms table.entries asked

/-- The table answers with the last of the entries for a token. -/
theorem platforms?_ofEntries (package : Text) (entries : List (Text × Text)) (token : Text) :
    (ofEntries package entries).platforms? token = entries.reverse.lookup token := by
  have behind (table : PlatformTable) :
      (entries.foldl (fun table entry => table.insert entry.1 entry.2) table).platforms? token =
        (entries.reverse.lookup token).or (table.platforms? token) := by
    induction entries generalizing table with
    | nil => simp
    | cons entry entries ih =>
        rw [List.foldl_cons, ih, platforms?_insert, List.reverse_cons, List.lookup_append,
          Option.or_assoc, lookup_cons_ite]
        by_cases same : token = entry.1 <;> simp [same]
  rw [ofEntries, behind, show (empty package).platforms? token = none from rfl, Option.or_none]

private theorem lookup_eq_some_iff {entries : List (Text × Text)}
    (ordered : entries.Pairwise fun first second => first.1 < second.1) :
    entries.lookup token = some platforms ↔ (token, platforms) ∈ entries := by
  induction ordered with
  | nil => simp
  | @cons entry entries smaller _ ih =>
      rw [lookup_cons_ite, List.mem_cons]
      by_cases same : token = entry.1
      · have absent : (token, platforms) ∉ entries := fun member =>
          List.lt_irrefl _ (same ▸ smaller _ member)
        rw [if_pos same, or_iff_left absent, Prod.ext_iff, Option.some.injEq]
        exact ⟨fun listed => ⟨same, listed.symm⟩, fun equal => equal.2.symm⟩
      · simp [same, ih, Prod.ext_iff]

/-- A token stands in the table once, so the table answers with the list that stands
beside it. -/
theorem platforms?_eq_some_iff :
    table.platforms? token = some platforms ↔ (token, platforms) ∈ table.entries :=
  lookup_eq_some_iff table.ordered

end PlatformTable

end AvailabilityAnnotations

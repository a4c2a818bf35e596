/-
# The standard openings

The attribute `@available` and the package `System` give the two openings their letters:

    @available(/*System
    /*System

The arguments about what can begin where rest on a few facts about these letters. The
first character of either opening occurs in it once, the new opening is the old one with
the attribute in front of it, and the only star in them is followed by an `S`, which
tells it from the stars that the written forms hold elsewhere.
-/

import AvailabilityAnnotations.Config
import AvailabilityAnnotations.Proofs.Rules.Written

namespace AvailabilityAnnotations

/-- Rules for the attribute `@available` and the package `System`, whose platform lists
hold no punctuation of annotations. -/
structure Rules.IsStandard (rules : Rules) : Prop where
  keyword_eq : rules.keyword = "@available".toList
  package_eq : rules.table.package = "System".toList
  plainLists : rules.table.HasPlainLists

/-- The mode does not matter. -/
theorem Rules.IsStandard.inMode {rules : Rules} (standard : rules.IsStandard) (mode : Mode) :
    (rules.inMode mode).IsStandard :=
  ⟨standard.keyword_eq, standard.package_eq, standard.plainLists⟩

/-- The rules of the configuration with all fields as they are from the start, for the
versions of `System` that are known from the start. -/
def Rules.initial (mode : Mode) : Rules :=
  ({ mode } : Config).rules .system

theorem Rules.initial_isStandard (mode : Mode) : (Rules.initial mode).IsStandard :=
  ⟨rfl, rfl, (by decide : PlatformTable.system.HasPlainLists)⟩

/-- No token of the table holds a colon or a closing parenthesis. -/
def PlatformTable.HasPlainTokens (table : PlatformTable) : Prop :=
  ∀ entry ∈ table.entries, ':' ∉ entry.1 ∧ ')' ∉ entry.1

instance (table : PlatformTable) : Decidable table.HasPlainTokens :=
  inferInstanceAs (Decidable (∀ entry ∈ table.entries, _))

theorem PlatformTable.system_hasPlainTokens : PlatformTable.system.HasPlainTokens := by
  decide

/-- What an annotation of the new dialect begins with. -/
def newOpening : Text :=
  "@available(/*System ".toList

/-- What an annotation of the old dialect begins with. -/
def oldOpening : Text :=
  "/*System ".toList

theorem opening_new : NewForm.opening "@available".toList "System".toList = newOpening := by
  decide

theorem opening_old : OldForm.opening "System".toList = oldOpening := by
  decide

theorem newOpening_cons : newOpening = '@' :: "available(/*System ".toList := by
  decide

theorem oldOpening_cons : oldOpening = '/' :: "*System ".toList := by
  decide

/-- The old opening is the mark of a comment and the package. -/
theorem oldOpening_eq_append : oldOpening = ['/', '*'] ++ "System ".toList := by
  decide

/-- The new opening is the old one behind the attribute. -/
theorem newOpening_eq_append : newOpening = "@available(".toList ++ oldOpening := by
  decide

/-- The first star of a text that begins with an opening is the opening's own. -/
private theorem next_of_newOpening {comment rest : Text} {next : Char}
    (free : '*' ∉ comment) (begins : newOpening <+: comment ++ '*' :: next :: rest) :
    next = 'S' := by
  obtain ⟨tail, same⟩ := begins
  have shape : newOpening = "@available(/".toList ++ '*' :: 'S' :: "ystem ".toList := by decide
  rw [shape, List.append_assoc] at same
  obtain ⟨-, behind⟩ := Text.cut_unique (by decide) free same
  exact (List.cons.inj behind).1.symm

/-- No opening begins in a piece without stars if the star behind the piece is followed
by something else than the package. -/
theorem avoids_newOpening_of_star {segment rest : Text} {next : Char} (free : '*' ∉ segment)
    (nextNe : next ≠ 'S') : Text.Avoids newOpening segment ('*' :: next :: rest) :=
  fun _ place _ begins =>
    nextNe (next_of_newOpening (fun member => free (place.subset member)) begins)

/-- No opening begins in a piece without at signs. -/
theorem avoids_newOpening_of_notMem {segment rest : Text} (free : '@' ∉ segment) :
    Text.Avoids newOpening segment rest := by
  rw [newOpening_cons]
  exact Text.Avoids.of_notMem free

/-- A new opening that begins in front of another new opening ends there, too. -/
theorem newOpening_prefix {back rest : Text} (nonempty : back ≠ [])
    (begins : newOpening <+: back ++ (newOpening ++ rest)) : newOpening <+: back := by
  rw [newOpening_cons] at begins ⊢
  exact Text.prefix_of_prefix_append_cons (by decide) nonempty begins

/-- An old opening that begins in front of another old opening ends there, too. -/
theorem oldOpening_prefix {back rest : Text} (nonempty : back ≠ [])
    (begins : oldOpening <+: back ++ (oldOpening ++ rest)) : oldOpening <+: back := by
  rw [oldOpening_cons] at begins ⊢
  exact Text.prefix_of_prefix_append_cons (by decide) nonempty begins

/-- A new opening that begins in front of an old one ends there, too, or takes the old one
as its comment. -/
theorem newOpening_prefix_old {back rest : Text}
    (begins : newOpening <+: back ++ (oldOpening ++ rest)) :
    newOpening <+: back ∨ back = "@available(".toList := by
  obtain ⟨tail, same⟩ := begins
  have shape : newOpening = "@available(".toList ++ ['/'] ++ "*System ".toList := by decide
  rw [shape, oldOpening_cons, List.append_assoc] at same
  rcases Text.split_at_cons (by decide) same with ⟨after, rfl, -⟩ | ⟨later, inside, -⟩
  · exact .inl (shape ▸ List.prefix_append ..)
  · rcases List.eq_nil_or_concat later with rfl | ⟨front, last, rfl⟩
    · exact .inr (List.append_cancel_right inside).symm
    · -- Otherwise the attribute would hold a slash.
      rw [List.concat_eq_append, ← List.cons_append, ← List.append_assoc] at inside
      have letters : "@available(".toList = back ++ '/' :: front :=
        List.append_inj_left' inside rfl
      exact absurd (letters ▸ by simp) (by decide : '/' ∉ "@available(".toList)

end AvailabilityAnnotations

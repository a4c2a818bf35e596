/-
# Written texts

What the writer writes, in the terms of the grammar: strings are spelled (`spells_escape`), and
arrays and objects are collections in both layouts. The layouts differ in the blanks alone.
-/

import AvailabilityAnnotations.Json.Value
import AvailabilityAnnotations.Proofs.Json.Grammar

namespace AvailabilityAnnotations

namespace Json

/-- A written character is a spelling of the character. -/
theorem spellsChar_escapeChar (char : Char) : SpellsChar char (escapeChar char) := by
  rw [escapeChar]
  split
  · next same => exact .short (by subst same; decide)
  split
  · next same => exact .short (by subst same; decide)
  split
  · next same => exact .short (by subst same; decide)
  split
  · next same => exact .short (by subst same; decide)
  split
  · next same => exact .short (by subst same; decide)
  split
  · next same => exact .short (by subst same; decide)
  split
  · next same => exact .short (by subst same; decide)
  split
  · next small =>
      -- The code of a control character has two digits, and zeros stand in front of them.
      have first : char.toNat / 0x1000 = 0 := by omega
      have second : char.toNat / 0x100 % 16 = 0 := by omega
      have third : char.toNat / 0x10 % 16 = char.toNat / 16 := by omega
      refine .unit (by omega) (.digits ⟨by omega, ?_⟩ ⟨by omega, ?_⟩ ⟨by omega, ?_⟩ ⟨by omega, ?_⟩)
      · rw [first]; exact .inl rfl
      · rw [second]; exact .inl rfl
      · rw [third]; exact .inl rfl
      · exact .inl rfl
  · next notQuote notBackslash _ _ _ _ _ large =>
      exact .plain ⟨Nat.le_of_not_lt large, notQuote, notBackslash⟩

/-- A written string spells the string. -/
theorem spells_escape (string : Text) : Spells string (string.flatMap escapeChar) := by
  induction string with
  | nil => exact .nil
  | cons char string ih => exact .cons (spellsChar_escapeChar char) ih

theorem quote_eq (string : Text) : quote string = quoted (string.flatMap escapeChar) :=
  rfl

theorem isBlankRun_lineBreak (depth : Nat) : IsBlankRun (lineBreak depth) := by
  intro char member
  rcases List.mem_cons.1 member with rfl | blank
  · decide
  · rw [(List.mem_replicate.1 blank).2]
    decide

section Arrays

theorem compactItems_eq (items : List Json) :
    compactItems items = separated (items.map compact) := by
  induction items with
  | nil => rfl
  | cons item items ih =>
      cases items with
      | nil => simp [compactItems, separated]
      | cons next items => simp [compactItems, ih, separated]

theorem compact_array (items : List Json) :
    (array items).compact = collection '[' (items.map compact) [] ']' := by
  rw [compact, compactItems_eq]
  rfl

theorem prettyMoreItems_eq (depth : Nat) (items : List Json) :
    prettyMoreItems depth items =
      (items.map fun item => lineBreak depth ++ item.prettyAt depth).flatMap (',' :: ·) := by
  induction items with
  | nil => rfl
  | cons item items ih => simp [prettyMoreItems, ih]

/-- An array over several lines has its items one level deeper. -/
theorem exists_prettyAt_array (depth : Nat) (items : List Json) :
    ∃ blank, IsBlankRun blank ∧ (array items).prettyAt depth =
      collection '[' (items.map fun item => lineBreak (depth + 1) ++ item.prettyAt (depth + 1))
        blank ']' := by
  cases items with
  | nil => exact ⟨[], isBlankRun_nil, rfl⟩
  | cons item items =>
      refine ⟨lineBreak depth, isBlankRun_lineBreak depth, ?_⟩
      simp [prettyAt, prettyMoreItems_eq, collection, separated]

end Arrays

section Objects

/-- A member as it is written, with blanks in front of the member and of its value. -/
def writtenMember (before gap : Text) (key : String) (value : Text) : Text :=
  before ++ (quote key.toList ++ ':' :: (gap ++ value))

theorem compactMembers_eq (members : List (String × Json)) :
    compactMembers members =
      separated (members.map fun member => writtenMember [] [] member.1 member.2.compact) := by
  induction members with
  | nil => rfl
  | cons member members ih =>
      obtain ⟨key, value⟩ := member
      cases members with
      | nil => simp [compactMembers, separated, writtenMember]
      | cons next members => simp [compactMembers, ih, separated, writtenMember]

theorem compact_object (members : List (String × Json)) :
    (object members).compact =
      collection '\x7b'
        (members.map fun member => writtenMember [] [] member.1 member.2.compact) [] '\x7d' := by
  rw [compact, compactMembers_eq]
  rfl

theorem prettyMoreMembers_eq (depth : Nat) (members : List (String × Json)) :
    prettyMoreMembers depth members =
      (members.map fun member =>
        writtenMember (lineBreak depth) [' '] member.1 (member.2.prettyAt depth)).flatMap
          (',' :: ·) := by
  induction members with
  | nil => rfl
  | cons member members ih =>
    obtain ⟨key, value⟩ := member
    simp [prettyMoreMembers, writtenMember, ih]

/-- An object over several lines has its members one level deeper. -/
theorem exists_prettyAt_object (depth : Nat) (members : List (String × Json)) :
    ∃ blank, IsBlankRun blank ∧ (object members).prettyAt depth =
      collection '\x7b' (members.map fun member =>
        writtenMember (lineBreak (depth + 1)) [' '] member.1 (member.2.prettyAt (depth + 1)))
        blank '\x7d' := by
  cases members with
  | nil => exact ⟨[], isBlankRun_nil, rfl⟩
  | cons member members =>
      obtain ⟨key, value⟩ := member
      refine ⟨lineBreak depth, isBlankRun_lineBreak depth, ?_⟩
      simp [prettyAt, prettyMoreMembers_eq, collection, separated, writtenMember]

end Objects

end Json

end AvailabilityAnnotations

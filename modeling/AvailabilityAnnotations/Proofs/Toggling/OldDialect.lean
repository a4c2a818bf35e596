/-
# Toggling annotations of the old dialect

The two forms of the old dialect are not quite interchangeable. A form with its clause
behind the comment is read as it was written, so a pass in attribute mode is undone by
the next pass. A form with its clause inside the comment takes a clause that happens to
stand behind it, so a pass in comment mode hands that clause to the next pass, and there
it is lost.

All this is said for an annotation whose opening is the first one in its line, behind a
text that does not end in the attribute. Then no other annotation can come into being.
-/

import AvailabilityAnnotations.Proofs.Rules.Completion
import AvailabilityAnnotations.Proofs.Rules.Passes

namespace AvailabilityAnnotations

namespace Occurrence

/-- The annotation's old opening is the first one in its line, and no attribute stands
directly in front of it. -/
structure IsAlone (occurrence : Occurrence) : Prop where
  first : ∀ front rest, occurrence.line = front ++ oldOpening ++ rest →
    occurrence.before.length ≤ front.length
  notOpened : ¬ "@available(".toList <:+ occurrence.before

/-- No opening stands in front of an annotation that is alone. -/
theorem IsAlone.not_prefix {occurrence : Occurrence} (alone : occurrence.IsAlone) {back : Text}
    (place : back <:+ occurrence.before) (nonempty : back ≠ []) : ¬ oldOpening <+: back := by
  rintro ⟨rest, rfl⟩
  obtain ⟨front, shape⟩ := place
  have short := alone.first front (rest ++ occurrence.written ++ occurrence.after)
    (by simp [line, ← shape])
  have long := congrArg List.length shape
  have positive : 0 < (oldOpening ++ rest).length := List.length_pos_iff.2 nonempty
  simp only [List.length_append] at long positive
  omega

/-- An annotation without a slash in front of it is alone if no attribute stands there. -/
theorem isAlone_of_slash_notMem {occurrence : Occurrence} (free : '/' ∉ occurrence.before)
    (notOpened : ¬ "@available(".toList <:+ occurrence.before) : occurrence.IsAlone where
  first := by
    intro front rest cut
    rw [line, List.append_assoc, oldOpening_cons, List.append_assoc] at cut
    rcases List.append_eq_append_iff.1 cut with ⟨more, rfl, -⟩ | ⟨more, within, behind⟩
    · simp
    · cases more with
      | nil => simp [within]
      | cons char more =>
          obtain ⟨rfl, -⟩ := List.cons.inj behind
          exact absurd (within ▸ by simp) free
  notOpened := notOpened

end Occurrence

namespace Rules

variable {rules : Rules} {line platforms : Text} {occurrence : Occurrence}

/-- The annotation is found again with its token and at its place, in front of what is
left. -/
theorem exists_again_old (standard : rules.IsStandard) (alone : occurrence.IsAlone)
    (found : rules.findAnnotation? line = some occurrence)
    (old : occurrence.annotation.dialect = .old)
    (known : rules.table.platforms? occurrence.annotation.token = some platforms) :
    ∃ again : Occurrence,
      rules.findAnnotation? (rules.rewritten occurrence platforms) = some again ∧
      again.annotation.dialect = .old ∧
      again.annotation.token = occurrence.annotation.token ∧
      again.before = occurrence.before ∧ again.after = rules.unclaimed occurrence.after := by
  obtain ⟨version, isOld, -⟩ := exists_isOldOccurrence standard found old known
  apply isOld.exists_again standard
  · rintro (left | ⟨-, opened⟩)
    · obtain ⟨_, front, -, -, inFront⟩ := left.exists_front
      rw [opening_new, newOpening_eq_append, List.append_assoc] at inFront
      exact alone.not_prefix ((List.suffix_append ..).trans inFront)
        (by simp [oldOpening_cons]) (List.prefix_append ..)
    · exact alone.notOpened opened
  · intro left
    obtain ⟨_, _, front, -, -, inFront⟩ := left.exists_front
    rw [opening_old] at inFront
    exact absurd (List.prefix_append ..)
      (alone.not_prefix inFront (by simp [oldOpening_cons]))

/-- Two passes, one after the other: what the second writes stands in front of what the
first has left. -/
theorem updateLine_updateLine_old (standard : rules.IsStandard) (alone : occurrence.IsAlone)
    (found : rules.findAnnotation? line = some occurrence)
    (old : occurrence.annotation.dialect = .old)
    (known : rules.table.platforms? occurrence.annotation.token = some platforms)
    (path : Path) (number : Nat) (first second : Mode) :
    ∃ between, (rules.inMode first).updateLine path number line = .ok (some between) ∧
      (rules.inMode second).updateLine path number between = .ok (some (occurrence.before ++
        (rules.inMode second).write .old occurrence.annotation.token platforms ++
          (rules.inMode first).unclaimed occurrence.after)) := by
  obtain ⟨again, foundAgain, oldAgain, token, before, after⟩ :=
    exists_again_old (standard.inMode first) alone found old known
  refine ⟨_, (rules.inMode first).updateLine_of_found path number found known, ?_⟩
  rw [(rules.inMode second).updateLine_of_found path number foundAgain (token ▸ known)]
  rw [rewritten, oldAgain, token, Occurrence.replaceBy, before, after]

/-- A pass in attribute mode leaves everything that stands behind the annotation. -/
theorem unclaimed_attributes (rules : Rules) (after : Text) :
    (rules.inMode .attributes).unclaimed after = after := rfl

/-- **What toggling does to the old dialect.** For an annotation that is alone, a pass in
attribute mode is undone by the next pass. A pass in comment mode is undone as well if no
clause stands behind the annotation; if one does, the next pass loses that clause and
nothing else. -/
theorem updateLine_old_cases (standard : rules.IsStandard) (alone : occurrence.IsAlone)
    (found : rules.findAnnotation? line = some occurrence)
    (old : occurrence.annotation.dialect = .old)
    (known : rules.table.platforms? occurrence.annotation.token = some platforms)
    (path : Path) (number : Nat) (mode : Mode) :
    (∃ expanded, (rules.inMode .attributes).updateLine path number line = .ok (some expanded) ∧
        (rules.inMode mode).updateLine path number expanded =
          (rules.inMode mode).updateLine path number line) ∧
      ∃ commented, (rules.inMode .comments).updateLine path number line =
          .ok (some commented) ∧
        ((∀ arguments rest, ')' ∉ arguments →
            occurrence.after ≠ OldForm.clause rules.keyword arguments ++ rest) →
          (rules.inMode mode).updateLine path number commented =
            (rules.inMode mode).updateLine path number line) ∧
        ∀ arguments rest, ')' ∉ arguments →
          occurrence.after = OldForm.clause rules.keyword arguments ++ rest →
          (rules.inMode mode).updateLine path number commented = .ok (some (occurrence.before ++
            (rules.inMode mode).write .old occurrence.annotation.token platforms ++ rest)) := by
  have once : (rules.inMode mode).updateLine path number line = .ok (some (occurrence.before ++
      (rules.inMode mode).write .old occurrence.annotation.token platforms ++
        occurrence.after)) := by
    rw [(rules.inMode mode).updateLine_of_found path number found known, rewritten, old,
      Occurrence.replaceBy]
  obtain ⟨expanded, toAttributes, fromAttributes⟩ := updateLine_updateLine_old standard alone
    found old known path number .attributes mode
  obtain ⟨commented, toComments, fromComments⟩ := updateLine_updateLine_old standard alone
    found old known path number .comments mode
  refine ⟨⟨expanded, toAttributes, ?_⟩, commented, toComments, ?_, ?_⟩
  · rw [fromAttributes, once, unclaimed_attributes]
  · intro noClause
    have left : (rules.inMode .comments).unclaimed occurrence.after = occurrence.after :=
      unclaimed_eq_self_iff.2 fun _ => noClause
    rw [fromComments, once, left]
  · intro arguments rest free shape
    have left : (rules.inMode .comments).unclaimed occurrence.after = rest := by
      rw [shape]
      exact unclaimed_clause rfl free
    rw [fromComments, left]

/-- Of two clauses behind an annotation the first is made anew and the second is lost. -/
theorem updateLine_old_two_clauses :
    let rules := Rules.initial .comments
    let line := "x /*System 0.0.2*/@available(macOS 10, *)@available(swift 5)".toList
    let occurrence : Occurrence :=
      ⟨⟨⟨.old, "System 0.0.2".toList, some "@available(macOS 10, *)".toList⟩,
        "/*System 0.0.2*/@available(macOS 10, *)".toList, "@available(swift 5)".toList⟩,
        "x ".toList⟩
    rules.IsStandard ∧ occurrence.IsAlone ∧ rules.findAnnotation? line = some occurrence ∧
      rules.table.platforms? "System 0.0.2".toList =
        some "macOS 12.0, iOS 15.0, watchOS 8.0, tvOS 15.0".toList ∧
      ∃ commented, (rules.inMode .comments).updateLine (.ofString "A.swift") 1 line =
          .ok (some commented) ∧
        (rules.inMode .attributes).updateLine (.ofString "A.swift") 1 commented =
          .ok (some ("x ".toList ++ (rules.inMode .attributes).write .old "System 0.0.2".toList
            "macOS 12.0, iOS 15.0, watchOS 8.0, tvOS 15.0".toList ++ [])) := by
  intro rules line occurrence
  have alone : occurrence.IsAlone :=
    Occurrence.isAlone_of_slash_notMem (by decide) (by decide)
  have found : rules.findAnnotation? line = some occurrence := by decide
  have known : rules.table.platforms? "System 0.0.2".toList =
      some "macOS 12.0, iOS 15.0, watchOS 8.0, tvOS 15.0".toList := by decide
  obtain ⟨commented, passed, -, lost⟩ := (updateLine_old_cases (Rules.initial_isStandard _) alone
    found rfl known (.ofString "A.swift") 1 .attributes).2
  exact ⟨Rules.initial_isStandard _, alone, found, known, commented, passed,
    lost "swift 5".toList [] (by decide) (by decide)⟩

end Rules

end AvailabilityAnnotations

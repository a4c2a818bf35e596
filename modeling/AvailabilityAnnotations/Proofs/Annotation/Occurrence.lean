/-
# The first occurrence

The search for an annotation answers with the first place of a line at which the
reader succeeds. Two statements say what that means for every reader: the search finds
nothing exactly where the reader fails at every place, and it finds an occurrence
exactly where the reader succeeds behind the occurrence's front and fails at every
place within that front. A place is given by the part of the line that begins there.
-/

import AvailabilityAnnotations.Annotation
import AvailabilityAnnotations.Proofs.Text.Literal

namespace AvailabilityAnnotations

variable {read? : Text → Option Reading} {line : Text} {occurrence : Occurrence}

/-- Nothing is found exactly where nothing can be read at any place. -/
theorem firstOccurrence_eq_none_iff :
    firstOccurrence read? line = none ↔ ∀ tail, tail <:+ line → read? tail = none := by
  induction line with
  | nil => simp [firstOccurrence]
  | cons char line ih =>
      rw [firstOccurrence]
      cases here : read? (char :: line) with
      | some reading =>
          simp only [reduceCtorEq, false_iff]
          intro fails
          simpa [here] using fails _ (List.suffix_refl _)
      | none =>
          simp only [Option.map_eq_none_iff, ih, List.suffix_cons_iff, forall_eq_or_imp, here,
            true_and]

/-- An occurrence is found exactly where it can be read behind its front, and nothing
can be read within the front. -/
theorem firstOccurrence_eq_some_iff :
    firstOccurrence read? line = some occurrence ↔
      ∃ tail, line = occurrence.before ++ tail ∧ read? tail = some occurrence.toReading ∧
        ∀ back, back <:+ occurrence.before → back ≠ [] → read? (back ++ tail) = none := by
  induction line generalizing occurrence with
  | nil =>
      obtain ⟨reading, before⟩ := occurrence
      simp only [firstOccurrence, Option.map_eq_some_iff, Occurrence.mk.injEq, List.nil_eq,
        List.append_eq_nil_iff]
      constructor
      · rintro ⟨found, here, rfl, rfl⟩
        exact ⟨[], ⟨rfl, rfl⟩, here, fun back place nonempty =>
          absurd (List.suffix_nil.1 place) nonempty⟩
      · rintro ⟨tail, ⟨rfl, rfl⟩, here, -⟩
        exact ⟨reading, here, rfl, rfl⟩
  | cons char line ih =>
      rw [firstOccurrence]
      cases here : read? (char :: line) with
      | some reading =>
          obtain ⟨found, before⟩ := occurrence
          simp only [Option.some.injEq, Occurrence.mk.injEq]
          constructor
          · rintro ⟨rfl, rfl⟩
            exact ⟨char :: line, rfl, here, fun back place nonempty =>
              absurd (List.suffix_nil.1 place) nonempty⟩
          · rintro ⟨tail, cut, behind, fails⟩
            cases before with
            | nil =>
                obtain rfl : char :: line = tail := cut
                exact ⟨Option.some.inj (here.symm.trans behind), rfl⟩
            | cons head before =>
                have earlier := fails _ (List.suffix_refl _) (by simp)
                rw [← cut, here] at earlier
                cases earlier
      | none =>
          simp only [Option.map_eq_some_iff, ih]
          constructor
          · rintro ⟨moved, ⟨tail, rfl, behind, fails⟩, rfl⟩
            refine ⟨tail, rfl, behind, fun back place nonempty => ?_⟩
            rcases List.suffix_cons_iff.1 place with rfl | place
            · exact here
            · exact fails back place nonempty
          · rintro ⟨tail, cut, behind, fails⟩
            obtain ⟨found, before⟩ := occurrence
            cases before with
            | nil =>
                obtain rfl : char :: line = tail := cut
                simp [here] at behind
            | cons head before =>
                obtain ⟨rfl, rfl⟩ : char = head ∧ line = before ++ tail := by simpa using cut
                refine ⟨⟨found, before⟩, ⟨tail, rfl, behind, fun back place => ?_⟩, rfl⟩
                exact fails back (place.trans (List.suffix_cons ..))

/-- Where something can be read, something is found there or before. -/
theorem exists_firstOccurrence {front tail : Text} {reading : Reading}
    (here : read? tail = some reading) :
    ∃ occurrence, firstOccurrence read? (front ++ tail) = some occurrence ∧
      occurrence.before <+: front := by
  induction front with
  | nil =>
      cases tail with
      | nil => exact ⟨⟨reading, []⟩, by simp [firstOccurrence, here], List.prefix_refl _⟩
      | cons char tail =>
          exact ⟨⟨reading, []⟩, by simp [firstOccurrence, here], List.prefix_refl _⟩
  | cons char front ih =>
      obtain ⟨later, found, within⟩ := ih
      cases first : read? (char :: (front ++ tail)) with
      | some earlier =>
          exact ⟨⟨earlier, []⟩, by simp [firstOccurrence, first], List.nil_prefix⟩
      | none =>
          refine ⟨later.moveRight char, by simp [firstOccurrence, first, found], ?_⟩
          exact List.cons_prefix_cons.2 ⟨rfl, within⟩

end AvailabilityAnnotations

/-
# Toggling annotations of the new dialect

However often and in whatever order the modes of the passes over a line change, an
annotation of the new dialect ends up as the last mode writes it: nothing of the passes
before is left in the line, and nothing around the annotation is touched.

The point to settle is that a pass cannot complete an earlier annotation. Text in front
of the annotation may have begun one, and may even have left its arguments open. What
such arguments need is a star before the first closing parenthesis, and whether the
written form gives them one depends on the version alone, which every pass keeps. So
the form that was found would have completed the earlier annotation as well.
-/

import AvailabilityAnnotations.Proofs.Rules.Passes
import AvailabilityAnnotations.Proofs.Rules.Standard

namespace AvailabilityAnnotations

namespace NewForm

variable {form : NewForm}

/-- A form finishes arguments that were left open in front of it exactly if its version
holds no closing parenthesis. -/
theorem closesArguments_writeParts_iff (wellFormed : form.IsWellFormed) (rest : Text) :
    ClosesArguments ("available(/*System ".toList ++ (form.writeParts ++ rest)) ↔
      ')' ∉ form.version := by
  constructor
  · intro closes member
    obtain ⟨front, back, shape, free⟩ := List.eq_append_cons_of_mem member
    have cut : "available(/*System ".toList ++ (form.writeParts ++ rest) =
        "available(/*System".toList ++ ' ' :: front ++ ')' :: (back ++ form.note ++
          "*/".toList ++ form.arguments ++ "*)".toList ++ rest) := by
      simp [writeParts, shape]
    have unstarred : '*' ∉ front := fun star =>
      wellFormed.star_notMem (by simp [shape, star])
    rw [cut] at closes
    exact not_closesArguments (by decide) (by simp [free]) (by simp [unstarred]) closes
  · intro free
    refine ⟨"available(/*System ".toList ++ (form.version ++ form.note ++ "*/".toList ++
      form.arguments), rest, ?_, by simp [writeParts]⟩
    have noteFree : ')' ∉ form.note := by
      intro member
      simpa [isNoteChar] using wellFormed.note_chars _ member
    simp [free, noteFree, forall_isArgumentChar_iff.1 wellFormed.arguments_chars]

/-- A form in the place of another one with the same version leaves everything in front of
it unreadable that was unreadable before. -/
theorem reading?_exchange {before after : Text} {first second : NewForm}
    (firstFormed : first.IsWellFormed) (secondFormed : second.IsWellFormed)
    (sameVersion : second.version = first.version)
    (nothing : reading? "System".toList newOpening
      (before ++ (newOpening ++ first.writeParts ++ after)) = none) (nonempty : before ≠ []) :
    reading? "System".toList newOpening
      (before ++ (newOpening ++ second.writeParts ++ after)) = none := by
  rw [← Option.not_isSome_iff_eq_none, isSome_reading?_iff] at nothing ⊢
  rintro ⟨tail, opened, readable⟩
  have begins : newOpening <+: before ++ (newOpening ++ (second.writeParts ++ after)) :=
    ⟨tail, by simp [← opened]⟩
  obtain ⟨middle, rfl⟩ := newOpening_prefix nonempty begins
  refine nothing ⟨middle ++ (newOpening ++ first.writeParts ++ after), by simp, ?_⟩
  have same : tail = middle ++ '@' ::
      ("available(/*System ".toList ++ (second.writeParts ++ after)) := by
    have cut := List.append_cancel_left (opened.symm.trans (List.append_assoc ..))
    simpa [newOpening_cons] using cut
  rw [same] at readable
  rcases readable.split (by decide) (by decide) with closed | open' | inComment
  · exact closed _
  · -- The arguments left open are finished by the first form as well.
    obtain ⟨form, formed, shape, closes⟩ := open'
    rw [closesArguments_writeParts_iff secondFormed, sameVersion] at closes
    have readable := isReadable_writeOpen formed
      ((closesArguments_writeParts_iff firstFormed after).2 closes)
    rw [← shape] at readable
    simpa [newOpening_cons] using readable
  · -- The first star behind the border belongs to the opening and ends no comment.
    obtain ⟨comment, rest, free, shape⟩ := inComment
    have cut : "@available(/".toList ++ '*' :: ("System ".toList ++ (second.writeParts ++ after)) =
        comment ++ '*' :: '/' :: rest := by simpa using shape
    obtain ⟨-, behind⟩ := Text.cut_unique (by decide) free cut
    simp at behind

end NewForm

namespace Rules

variable {rules : Rules} {line platforms : Text} {occurrence : Occurrence}

/-- After one pass the annotation is found again as the pass wrote it. -/
theorem exists_renewed_new (standard : rules.IsStandard) (placeholder : ')' ∉ rules.placeholder)
    (found : Dialect.new.find? rules.keyword rules.table.package line = some occurrence)
    (known : rules.table.platforms? occurrence.annotation.token = some platforms) :
    ∃ again : Occurrence,
      Dialect.new.find? rules.keyword rules.table.package
        (rules.rewritten occurrence platforms) = some again ∧
      occurrence.IsRenewedAs again (rules.write .new occurrence.annotation.token platforms) := by
  obtain ⟨form, wellFormed, meaning, written, -, earlier⟩ := Dialect.find?_new_sound found
  have token : occurrence.annotation.token = rules.table.package ++ ' ' :: form.version := by
    rw [meaning]
    rfl
  have plain := standard.plainLists _ (PlatformTable.platforms?_eq_some_iff.1 known)
  obtain ⟨newFormed, whole⟩ := rules.newForm_isWellFormed wellFormed.version_ne_nil
    wellFormed.version_chars plain placeholder
  rw [rewritten, Dialect.find?_new_dialect found, token, write_new]
  let again : Occurrence :=
    { annotation := NewForm.annotation rules.table.package (rules.newForm form.version platforms)
      written := (rules.newForm form.version platforms).write rules.keyword rules.table.package
      after := occurrence.after
      before := occurrence.before }
  refine ⟨again, firstOccurrence_eq_some_iff.2 ⟨again.written ++ again.after,
    List.append_assoc .., NewForm.reading?_write newFormed whole _, ?_⟩, ?_⟩
  · intro back place nonempty
    have nothing := earlier back place nonempty
    rw [written, standard.keyword_eq, standard.package_eq, NewForm.write, opening_new] at nothing
    show NewForm.reading? _ _ (back ++ (NewForm.write _ _ _ ++ occurrence.after)) = none
    rw [standard.keyword_eq, standard.package_eq, NewForm.write, opening_new]
    exact NewForm.reading?_exchange wellFormed newFormed (by simp) nothing nonempty
  · constructor
    all_goals simp [again, meaning, NewForm.annotation, NewForm.token]

/-- A pass writes the annotation anew, and leaves it where it was. -/
theorem updateLine_new (standard : rules.IsStandard) (placeholder : ')' ∉ rules.placeholder)
    (found : Dialect.new.find? rules.keyword rules.table.package line = some occurrence)
    (known : rules.table.platforms? occurrence.annotation.token = some platforms)
    (path : Path) (number : Nat) :
    ∃ again : Occurrence, rules.updateLine path number line = .ok (some again.line) ∧
      Dialect.new.find? rules.keyword rules.table.package again.line = some again ∧
      occurrence.IsRenewedAs again (rules.write .new occurrence.annotation.token platforms) := by
  obtain ⟨again, foundAgain, renewed⟩ := exists_renewed_new standard placeholder found known
  have updated := rules.updateLine_of_found path number (findAnnotation?_of_new found) known
  have same : rules.rewritten occurrence platforms = again.line := by
    rw [rewritten, Dialect.find?_new_dialect found, renewed.line_eq]
  rw [same] at updated foundAgain
  exact ⟨again, updated, foundAgain, renewed⟩

/-- After any passes the annotation is found as the last of them wrote it. -/
theorem exists_updateThrough_concat (standard : rules.IsStandard)
    (placeholder : ')' ∉ rules.placeholder)
    (found : Dialect.new.find? rules.keyword rules.table.package line = some occurrence)
    (known : rules.table.platforms? occurrence.annotation.token = some platforms)
    (path : Path) (number : Nat) (earlier : List Mode) (mode : Mode) :
    ∃ again : Occurrence,
      rules.updateThrough path number (earlier ++ [mode]) line = .ok (some again.line) ∧
      Dialect.new.find? rules.keyword rules.table.package again.line = some again ∧
      occurrence.IsRenewedAs again
        ((rules.inMode mode).write .new occurrence.annotation.token platforms) := by
  induction earlier generalizing line occurrence with
  | nil =>
      obtain ⟨again, updated, foundAgain, renewed⟩ :=
        updateLine_new (standard.inMode mode) placeholder found known path number
      exact ⟨again, by simp [updateThrough, updated], foundAgain, renewed⟩
  | cons first earlier ih =>
      obtain ⟨next, updated, foundNext, renewedNext⟩ :=
        updateLine_new (standard.inMode first) placeholder found known path number
      obtain ⟨again, passed, foundAgain, renewed⟩ :=
        ih foundNext (renewedNext.token_eq ▸ known)
      rw [renewedNext.token_eq] at renewed
      refine ⟨again, ?_, foundAgain, renewedNext.trans renewed⟩
      rw [List.cons_append, updateThrough, updated]
      exact passed

/-- **Toggling leaves no trace in the new dialect.** Passes in any modes end with the line
that one pass in the last mode makes of the first line, and after every pass the
annotation is found at its place, with its token, in the characters just written. -/
theorem updateThrough_eq_updateLine_getLast (standard : rules.IsStandard)
    (placeholder : ')' ∉ rules.placeholder)
    (found : Dialect.new.find? rules.keyword rules.table.package line = some occurrence)
    (known : rules.table.platforms? occurrence.annotation.token = some platforms)
    (path : Path) (number : Nat) (modes : List Mode) (nonempty : modes ≠ []) :
    rules.updateThrough path number modes line =
        (rules.inMode (modes.getLast nonempty)).updateLine path number line ∧
      ∀ earlier mode, earlier ++ [mode] <+: modes →
        ∃ again : Occurrence,
          rules.updateThrough path number (earlier ++ [mode]) line = .ok (some again.line) ∧
          rules.findAnnotation? again.line = some again ∧
          occurrence.IsRenewedAs again
            ((rules.inMode mode).write .new occurrence.annotation.token platforms) := by
  constructor
  · obtain ⟨again, passed, -, renewed⟩ := exists_updateThrough_concat standard placeholder found
      known path number modes.dropLast (modes.getLast nonempty)
    obtain ⟨once, updated, -, renewedOnce⟩ := updateLine_new
      (standard.inMode (modes.getLast nonempty)) placeholder found known path number
    rw [List.dropLast_concat_getLast] at passed
    rw [passed, updated, renewed.line_eq, renewedOnce.line_eq]
  · rintro earlier mode -
    obtain ⟨again, passed, foundAgain, renewed⟩ := exists_updateThrough_concat standard
      placeholder found known path number earlier mode
    exact ⟨again, passed, findAnnotation?_of_new foundAgain, renewed⟩

/-- An unfinished annotation in front and a note inside do not matter. -/
theorem updateThrough_comments_attributes :
    let rules := Rules.initial .comments
    let line := "@available(/*System 1 ) @available(/*System 0.0.2 old*/iOS 9, *)x".toList
    rules.IsStandard ∧ ')' ∉ rules.placeholder ∧
      Dialect.new.find? rules.keyword rules.table.package line =
        some ⟨⟨⟨.new, "System 0.0.2".toList, some "iOS 9".toList⟩,
          "@available(/*System 0.0.2 old*/iOS 9, *)".toList, "x".toList⟩,
          "@available(/*System 1 ) ".toList⟩ ∧
      rules.table.platforms? "System 0.0.2".toList =
        some "macOS 12.0, iOS 15.0, watchOS 8.0, tvOS 15.0".toList ∧
      rules.updateThrough (.ofString "A.swift") 1 [.comments, .attributes] line =
        (rules.inMode .attributes).updateLine (.ofString "A.swift") 1 line := by
  intro rules line
  have found : Dialect.new.find? rules.keyword rules.table.package line =
      some ⟨⟨⟨.new, "System 0.0.2".toList, some "iOS 9".toList⟩,
        "@available(/*System 0.0.2 old*/iOS 9, *)".toList, "x".toList⟩,
        "@available(/*System 1 ) ".toList⟩ := by decide
  have known : rules.table.platforms? "System 0.0.2".toList =
      some "macOS 12.0, iOS 15.0, watchOS 8.0, tvOS 15.0".toList := by decide
  have placeholder : ')' ∉ rules.placeholder := by decide
  exact ⟨Rules.initial_isStandard _, placeholder, found, known,
    (updateThrough_eq_updateLine_getLast (Rules.initial_isStandard _) placeholder found known
      (.ofString "A.swift") 1 [.comments, .attributes] (by simp)).1⟩

end Rules

end AvailabilityAnnotations

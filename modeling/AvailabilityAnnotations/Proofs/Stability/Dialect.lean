/-
# When an annotation is found again

After a line was updated, the annotation in it should be found again: in the same
dialect, with the same token, at the same place. In the new dialect it always is. In the
old dialect it is found again exactly if it completes no other annotation in front of it,
which a line with an unfinished annotation can bring about. The last statement is such a
line.

The way to the converse is to find the annotation that came into being. All that counts
for it is the run of characters up to the first closing parenthesis of what was written:
it ends in a star, and in comment mode the end of a comment follows.
-/

import AvailabilityAnnotations.Proofs.Rules.Completion
import AvailabilityAnnotations.Proofs.Toggling.NewDialect

namespace AvailabilityAnnotations

namespace Rules

/-- What a written form of the old dialect holds behind its first closing parenthesis. -/
def oldEnding (rules : Rules) : Text :=
  match rules.mode with
  | .attributes => []
  | .comments => ['*', '/']

/-- A version of the table is plain when the tokens of the table are. -/
theorem IsOldOccurrence.version_plain {rules : Rules} {occurrence : Occurrence}
    {version platforms : Text} (isOld : rules.IsOldOccurrence occurrence version platforms)
    (plainTokens : rules.table.HasPlainTokens)
    (known : rules.table.platforms? occurrence.annotation.token = some platforms) :
    ':' ∉ version ∧ ')' ∉ version := by
  obtain ⟨colonFree, parenthesisFree⟩ :=
    plainTokens _ (PlatformTable.platforms?_eq_some_iff.1 known)
  rw [isOld.token_eq] at colonFree parenthesisFree
  simp only [List.mem_append, List.mem_cons, not_or] at colonFree parenthesisFree
  exact ⟨colonFree.2.2, parenthesisFree.2.2⟩

namespace IsOldOccurrence

variable {rules : Rules} {occurrence : Occurrence} {version platforms : Text}

/-- The run of characters up to the first closing parenthesis of a written form ends in a
star, and the attribute is in it. -/
theorem exists_run (isOld : rules.IsOldOccurrence occurrence version platforms)
    (versionFree : ')' ∉ version) (after : Text) :
    ∃ run : Text, ')' ∉ run ∧ '@' ∈ run ∧ "*System ".toList ++
      (rules.oldForm version platforms).writeParts "@available".toList ++ after =
        run ++ '*' :: ')' :: (rules.oldEnding ++ after) := by
  have listFree := parenthesis_notMem isOld.plain
  cases mode : rules.mode with
  | attributes =>
      refine ⟨"*System ".toList ++ version ++ "*/@available(".toList ++ platforms ++ ", ".toList,
        by simp [versionFree, listFree], by simp, ?_⟩
      simp [oldForm, oldEnding, mode, OldForm.writeParts, OldForm.writeInside,
        OldForm.writeBehind, OldForm.clause]
  | comments =>
      refine ⟨"*System ".toList ++ version ++ ", @available(".toList ++ platforms ++ ", ".toList,
        by simp [versionFree, listFree], by simp, ?_⟩
      simp [oldForm, oldEnding, mode, OldForm.writeParts, OldForm.writeInside,
        OldForm.writeBehind, OldForm.clause]

/-- A written form closes a comment in front of it exactly if the end of a comment follows
its first closing parenthesis. -/
theorem closesComment_iff (isOld : rules.IsOldOccurrence occurrence version platforms)
    (versionFree : ')' ∉ version) (after : Text) :
    OldForm.ClosesComment ("*System ".toList ++
        (rules.oldForm version platforms).writeParts "@available".toList ++ after) ↔
      (rules.mode = .attributes → "*/".toList <+: after) := by
  obtain ⟨run, free, -, shape⟩ := isOld.exists_run versionFree after
  rw [shape]
  constructor
  · rintro ⟨arguments, rest, argumentsFree, same⟩ mode
    have cut : (run ++ ['*']) ++ ')' :: (rules.oldEnding ++ after) =
        arguments ++ ')' :: '*' :: '/' :: rest := by simpa using same
    obtain ⟨-, behind⟩ := Text.cut_unique (by simp [free]) argumentsFree cut
    exact ⟨rest, by simpa [oldEnding, mode] using behind.symm⟩
  · intro closed
    have ended : ∃ rest, rules.oldEnding ++ after = '*' :: '/' :: rest := by
      cases mode : rules.mode with
      | attributes =>
          obtain ⟨rest, cut⟩ := closed mode
          exact ⟨rest, by simp [oldEnding, mode, ← cut]⟩
      | comments => exact ⟨after, by simp [oldEnding, mode]⟩
    obtain ⟨rest, ended⟩ := ended
    exact ⟨run ++ ['*'], rest, by simp [free], by simp [ended]⟩

/-- In attribute mode a written form without its opening is a new form, too. -/
theorem isReadable_oldForm (isOld : rules.IsOldOccurrence occurrence version platforms)
    (colonFree : ':' ∉ version) (mode : rules.mode = .attributes) (after : Text) :
    NewForm.IsReadable
      ((rules.oldForm version platforms).writeParts "@available".toList ++ after) := by
  refine ⟨⟨version, [], "@available(".toList ++ platforms ++ ", ".toList⟩, after, ?_, ?_⟩
  · refine ⟨by simpa using isOld.formed.version_ne_nil, ?_, by simp, ?_⟩
    · intro char member
      have own := isOld.formed.version_chars char (by simpa using member)
      simp only [OldForm.isVersionChar, Bool.and_eq_true, decide_eq_true_eq] at own
      have other : char ≠ ':' := by
        rintro rfl
        exact colonFree member
      simp [NewForm.isVersionChar, own, other]
    · exact forall_isArgumentChar_iff.2 (by simp [parenthesis_notMem isOld.plain])
  · simp [NewForm.writeParts, oldForm, mode, OldForm.writeParts, OldForm.writeInside,
      OldForm.writeBehind, OldForm.clause]

/-- A new annotation that is completed is found. -/
theorem exists_new_of_completes (isOld : rules.IsOldOccurrence occurrence version platforms)
    (standard : rules.IsStandard) (plain : ':' ∉ version ∧ ')' ∉ version)
    (completes : CompletesNew rules.mode occurrence.before) :
    ∃ again, Dialect.new.find? rules.keyword rules.table.package
      (rules.rewritten occurrence platforms) = some again := by
  rw [isOld.rewritten_eq standard, standard.keyword_eq, standard.package_eq]
  rcases completes with left | ⟨mode, opened⟩
  · obtain ⟨form, front, formed, shape, start, cut⟩ := left.exists_front
    obtain ⟨run, free, -, runShape⟩ := isOld.exists_run plain.2 occurrence.after
    have readable := NewForm.isReadable_writeOpen formed ⟨run, _, free, runShape⟩
    obtain ⟨again, found, -⟩ :=
      Dialect.exists_find?_new "@available".toList "System".toList start readable
    rw [shape] at found
    refine ⟨again, ?_⟩
    rw [← cut, oldOpening_cons]
    simpa using found
  · obtain ⟨start, cut⟩ := opened
    obtain ⟨again, found, -⟩ := Dialect.exists_find?_new "@available".toList "System".toList start
      (isOld.isReadable_oldForm plain.1 mode occurrence.after)
    rw [opening_new, newOpening_eq_append] at found
    refine ⟨again, ?_⟩
    rw [← cut]
    simpa using found

/-- An old annotation that is completed is found, in front of the place of the other. -/
theorem exists_old_of_completes (isOld : rules.IsOldOccurrence occurrence version platforms)
    (standard : rules.IsStandard) (plain : ':' ∉ version ∧ ')' ∉ version)
    (completes : CompletesOld rules.mode occurrence.before occurrence.after) :
    ∃ again back, Dialect.old.find? rules.keyword rules.table.package
        (rules.rewritten occurrence platforms) = some again ∧
      back ≠ [] ∧ occurrence.before = again.before ++ back := by
  rw [isOld.rewritten_eq standard, standard.keyword_eq, standard.package_eq]
  obtain ⟨version', arguments, front, formed, shape, start, cut⟩ := completes.1.exists_front
  have readable := OldForm.isReadable_writeOpen "@available".toList formed
    ((isOld.closesComment_iff plain.2 occurrence.after).2 completes.2)
  obtain ⟨again, found, more, within⟩ :=
    Dialect.exists_find?_old "System".toList start readable
  rw [shape] at found
  refine ⟨again, more ++ (OldForm.opening "System".toList ++ front), ?_, ?_, ?_⟩
  · rw [← cut, oldOpening_cons]
    simpa using found
  · simp [OldForm.opening]
  · rw [← cut, ← within, List.append_assoc]

/-- The annotation is found again exactly if it completes no other one. -/
theorem exists_again_iff (isOld : rules.IsOldOccurrence occurrence version platforms)
    (standard : rules.IsStandard) (plain : ':' ∉ version ∧ ')' ∉ version) :
    (∃ again : Occurrence,
        rules.findAnnotation? (rules.rewritten occurrence platforms) = some again ∧
        again.annotation.dialect = .old ∧
        again.annotation.token = occurrence.annotation.token ∧
        again.start = occurrence.start) ↔
      ¬ CompletesNew rules.mode occurrence.before ∧
        ¬ CompletesOld rules.mode occurrence.before occurrence.after := by
  constructor
  · rintro ⟨again, found, old, -, start⟩
    constructor
    · intro completes
      obtain ⟨other, foundNew⟩ := isOld.exists_new_of_completes standard plain completes
      obtain rfl := Option.some.inj (found.symm.trans (findAnnotation?_of_new foundNew))
      rw [Dialect.find?_new_dialect foundNew] at old
      cases old
    · intro completes
      obtain ⟨other, back, foundOld, nonempty, cut⟩ :=
        isOld.exists_old_of_completes standard plain completes
      rcases findAnnotation?_dialect found with ⟨new, -⟩ | ⟨-, -, foundAgain⟩
      · rw [old] at new
        cases new
      · obtain rfl := Option.some.inj (foundAgain.symm.trans foundOld)
        rw [Occurrence.start, Occurrence.start, cut, Text.width_append] at start
        exact nonempty (Text.width_eq_zero_iff.1 (by omega))
  · rintro ⟨notNew, notOld⟩
    obtain ⟨again, found, dialect, token, before, -⟩ := isOld.exists_again standard notNew
      fun left closes => notOld ⟨left, (isOld.closesComment_iff plain.2 occurrence.after).1 closes⟩
    exact ⟨again, found, dialect, token, by rw [Occurrence.start, Occurrence.start, before]⟩

end IsOldOccurrence

variable {mode : Mode} {line platforms : Text} {occurrence : Occurrence}

/-- **When an annotation is found again.** In the line that was written, an annotation of
the same dialect with the same token and at the same place is found exactly if the
annotation is of the new dialect or completes no other one. -/
theorem updateLine_findAnnotation?_iff
    (found : (Rules.initial mode).findAnnotation? line = some occurrence)
    (known : (Rules.initial mode).table.platforms? occurrence.annotation.token = some platforms)
    (path : Path) (number : Nat) :
    ∃ updated, (Rules.initial mode).updateLine path number line = .ok (some updated) ∧
      ((∃ again : Occurrence,
          (Rules.initial mode).findAnnotation? updated = some again ∧
          again.annotation.dialect = occurrence.annotation.dialect ∧
          again.annotation.token = occurrence.annotation.token ∧
          again.start = occurrence.start) ↔
        occurrence.annotation.dialect = .old →
          ¬ CompletesNew mode occurrence.before ∧
            ¬ CompletesOld mode occurrence.before occurrence.after) := by
  have standard := Rules.initial_isStandard mode
  refine ⟨_, (Rules.initial mode).updateLine_of_found path number found known, ?_⟩
  cases dialect : occurrence.annotation.dialect with
  | new =>
      simp only [reduceCtorEq, false_implies, iff_true]
      have foundNew := ((findAnnotation?_dialect found).resolve_right
        (by simp [dialect])).2
      obtain ⟨again, foundAgain, renewed⟩ := exists_renewed_new standard
        (by cases mode <;> decide) foundNew known
      exact ⟨again, findAnnotation?_of_new foundAgain, renewed.dialect_eq.trans dialect,
        renewed.token_eq, by rw [Occurrence.start, Occurrence.start, renewed.before_eq]⟩
  | old =>
      obtain ⟨version, isOld, -⟩ := exists_isOldOccurrence standard found dialect known
      have plain := isOld.version_plain PlatformTable.system_hasPlainTokens known
      exact (isOld.exists_again_iff standard plain).trans
        ⟨fun stable _ => stable, fun stable => stable rfl⟩

/-- An annotation behind harmless text is found again. -/
theorem updateLine_findAnnotation?_harmless :
    let rules := Rules.initial .comments
    let line := "x/*System 0.0.2*/@available(macOS 10, *)y".toList
    let occurrence : Occurrence :=
      ⟨⟨⟨.old, "System 0.0.2".toList, some "@available(macOS 10, *)".toList⟩,
        "/*System 0.0.2*/@available(macOS 10, *)".toList, "y".toList⟩, "x".toList⟩
    rules.findAnnotation? line = some occurrence ∧
      rules.table.platforms? occurrence.annotation.token =
        some "macOS 12.0, iOS 15.0, watchOS 8.0, tvOS 15.0".toList ∧
      ∃ updated, rules.updateLine (.ofString "A.swift") 1 line = .ok (some updated) ∧
        ∃ again : Occurrence, rules.findAnnotation? updated = some again ∧
          again.annotation.dialect = .old ∧
          again.annotation.token = occurrence.annotation.token ∧
          again.start = occurrence.start := by
  intro rules line occurrence
  have found : rules.findAnnotation? line = some occurrence := by decide
  have known : rules.table.platforms? occurrence.annotation.token =
      some "macOS 12.0, iOS 15.0, watchOS 8.0, tvOS 15.0".toList := by decide
  obtain ⟨updated, passed, again⟩ :=
    updateLine_findAnnotation?_iff found known (.ofString "A.swift") 1
  exact ⟨found, known, updated, passed,
    again.2 fun _ => ⟨not_completesNew (by decide), not_completesOld (by decide)⟩⟩

/-- **Not every annotation is found again.** In attribute mode a marker comment behind an
attribute becomes an annotation of the new dialect. -/
theorem not_forall_findAnnotation?_updated :
    ¬ ∀ (mode : Mode) (line platforms updated : Text) (occurrence : Occurrence) (path : Path)
        (number : Nat),
      (Rules.initial mode).findAnnotation? line = some occurrence →
      (Rules.initial mode).table.platforms? occurrence.annotation.token = some platforms →
      (Rules.initial mode).updateLine path number line = .ok (some updated) →
      ∃ again : Occurrence, (Rules.initial mode).findAnnotation? updated = some again ∧
        again.annotation.dialect = occurrence.annotation.dialect ∧
        again.annotation.token = occurrence.annotation.token ∧
        again.start = occurrence.start := by
  intro always
  let rules := Rules.initial .attributes
  let line := "@available(/*System 0.0.2*/macOS 10)".toList
  let platforms := "macOS 12.0, iOS 15.0, watchOS 8.0, tvOS 15.0".toList
  let occurrence : Occurrence :=
    ⟨⟨⟨.old, "System 0.0.2".toList, none⟩, "/*System 0.0.2*/".toList, "macOS 10)".toList⟩,
      "@available(".toList⟩
  have found : rules.findAnnotation? line = some occurrence := by decide
  have known : rules.table.platforms? occurrence.annotation.token = some platforms := by decide
  obtain ⟨again, foundAgain, dialect, -⟩ := always .attributes line platforms _ occurrence
    (.ofString "A.swift") 1 found known (rules.updateLine_of_found _ _ found known)
  have new : (rules.findAnnotation? (rules.rewritten occurrence platforms)).map
      (fun again => again.annotation.dialect) = some .new := by decide
  rw [foundAgain, Option.map_some, dialect] at new
  cases new

end Rules

end AvailabilityAnnotations

/-
# Stale content

An annotation is written anew from its version alone. What else it says when it is found,
the note in its comment, its arguments, a clause inside the comment or behind it, is stale
and leaves no trace: two lines that differ in nothing else become the same line, or fail
with the same failure. So all forms in which a version was ever written converge.

Stale content may be any text of its place. It must not be able to hide the annotation that
carries it, and for that the old dialect needs a little more than the new one: its clauses
hold no opening of another annotation, and what stands behind holds no annotation of the new
dialect, which would be preferred, and no clause, which would be taken for a part of it.
-/

import AvailabilityAnnotations.Proofs.Rules.Surroundings

namespace AvailabilityAnnotations

variable {before after : Text}

/-- Behind a text without the opening, the first annotation of the new dialect is the one
that stands there. -/
theorem Dialect.find?_new_of_unopened {form : NewForm} (wellFormed : form.IsWellFormed)
    (whole : form.HasWholeVersion) (unopened : ¬ newOpening <:+: before) (after : Text) :
    Dialect.new.find? "@available".toList "System".toList
        (before ++ form.write "@available".toList "System".toList ++ after) =
      some ⟨⟨ form.annotation "System".toList, form.write "@available".toList "System".toList,
        after⟩, before⟩ := by
  apply firstOccurrence_eq_some_iff.2
  refine ⟨_, List.append_assoc .., NewForm.reading?_write wellFormed whole after, ?_⟩
  intro back place nonempty
  rw [← Option.not_isSome_iff_eq_none, NewForm.isSome_reading?_iff, NewForm.write, opening_new,
    List.append_assoc]
  intro read
  obtain ⟨tail, opened, -⟩ := read
  apply unopened
  have within : newOpening <+: back := newOpening_prefix nonempty ⟨tail, opened.symm⟩
  exact within.isInfix.trans place.isInfix

namespace OldForm

/-- No clause of the form holds the opening of an annotation. -/
structure IsQuiet (form : OldForm) : Prop where
  inside : ∀ arguments ∈ form.inside?, ¬ oldOpening <:+: arguments
  behind : ∀ arguments ∈ form.behind?, ¬ oldOpening <:+: arguments

/-- The texts around an annotation of the old dialect leave it alone: nothing before it
begins an annotation or could take its comment, and nothing behind it is an annotation of
the new dialect or a clause. -/
structure LeavesAlone (before after : Text) : Prop where
  unopened : ¬ oldOpening <:+: before
  notOpened : ¬ "@available(".toList <:+ before
  noNew : Dialect.new.find? "@available".toList "System".toList after = none
  noClause : ∀ arguments rest, ')' ∉ arguments →
    after ≠ clause "@available".toList arguments ++ rest

/-- No new opening begins within a clause that is quiet. -/
theorem avoids_clause {arguments : Text} (quiet : ¬ oldOpening <:+: arguments) (rest : Text) :
    Text.Avoids newOpening (clause "@available".toList arguments) rest := by
  have absent : ¬ newOpening <:+: "@available(".toList ++ arguments := by
    intro place
    have inner : oldOpening <:+: "@available(".toList ++ arguments := by
      rw [newOpening_eq_append] at place
      exact (List.suffix_append ..).isInfix.trans place
    obtain ⟨front, back, cut⟩ := inner
    rw [oldOpening_cons, List.append_assoc, List.cons_append] at cut
    rcases List.append_eq_append_iff.1 cut with ⟨more, letters, opened⟩ | ⟨more, rfl, opened⟩
    · -- The attribute would hold the slash of the opening.
      cases more with
      | nil => exact quiet ⟨[], back, by rw [oldOpening_cons]; exact opened⟩
      | cons slash more =>
          obtain ⟨rfl, -⟩ := List.cons.inj opened
          exact absurd (letters ▸ by simp) (by decide : '/' ∉ "@available(".toList)
    · exact quiet ⟨more, back, by rw [oldOpening_cons, List.append_assoc]; exact opened.symm⟩
  have pieces : clause "@available".toList arguments =
      ("@available(".toList ++ arguments) ++ [')'] := by
    simp [clause]
  rw [pieces]
  exact .append (.of_fence (by decide) absent) (avoids_newOpening_of_notMem (by decide))

/-- No new opening begins within a form of the old dialect that is quiet. -/
theorem avoids_write {form : OldForm} (wellFormed : form.IsWellFormed) (quiet : form.IsQuiet)
    (rest : Text) :
    Text.Avoids newOpening (oldOpening ++ form.writeParts "@available".toList) rest := by
  have unstarred : '*' ∉ "System ".toList ++ form.version := by
    simp [wellFormed.star_notMem]
  have behindAvoids : Text.Avoids newOpening
      (['*', '/'] ++ writeBehind "@available".toList form.behind?) rest := by
    apply Text.Avoids.append (avoids_newOpening_of_notMem (by decide))
    cases shape : form.behind? with
    | none => exact avoids_newOpening_of_notMem (by simp [writeBehind])
    | some arguments => exact avoids_clause (quiet.behind arguments shape) rest
  have pieces : oldOpening ++ form.writeParts "@available".toList =
      ['/', '*'] ++ (("System ".toList ++ form.version) ++
        (writeInside "@available".toList form.inside? ++
          (['*', '/'] ++ writeBehind "@available".toList form.behind?))) := by
    simp [oldOpening_eq_append, writeParts]
  rw [pieces]
  apply Text.Avoids.append (avoids_newOpening_of_notMem (by decide))
  cases shape : form.inside? with
  | none => exact .append (avoids_newOpening_of_star unstarred (by decide)) behindAvoids
  | some arguments =>
      -- The opening holds a star and no comma, so it cannot begin in front of the comma.
      have absent : ¬ newOpening <:+: "System ".toList ++ form.version := by
        intro place
        exact unstarred (place.subset (by decide))
      apply Text.Avoids.append (.of_fence (by decide) absent)
      rw [writeInside, List.append_assoc]
      apply Text.Avoids.append (avoids_newOpening_of_notMem (by decide))
      exact .append (avoids_clause (quiet.inside arguments shape) _) behindAvoids

/-- An annotation of the old dialect that is left alone is the one that counts in its line. -/
theorem findAnnotation?_of_leavesAlone {form : OldForm} (wellFormed : form.IsWellFormed)
    (quiet : form.IsQuiet) (alone : LeavesAlone before after) :
    findAnnotation? "@available".toList "System".toList
        (before ++ form.write "@available".toList "System".toList ++ after) =
      some ⟨⟨ form.annotation "@available".toList "System".toList,
        form.write "@available".toList "System".toList, after⟩, before⟩ := by
  have complete : form.behind? = none → clause? "@available".toList after = none := by
    intro _
    rw [Option.eq_none_iff_forall_ne_some]
    rintro ⟨arguments, rest⟩ read
    obtain ⟨shape, chars⟩ := clause?_eq_some_iff.1 read
    exact alone.noClause arguments rest (forall_isArgumentChar_iff.1 chars) shape
  rw [List.append_assoc]
  apply findAnnotation?_of_old _ (reading?_write wellFormed complete)
  · intro back place nonempty
    rw [← Option.not_isSome_iff_eq_none, isSome_reading?_iff, write, opening_old, List.append_assoc]
    intro read
    obtain ⟨tail, opened, -⟩ := read
    apply alone.unopened
    have within : oldOpening <+: back := oldOpening_prefix nonempty ⟨tail, opened.symm⟩
    exact within.isInfix.trans place.isInfix
  · intro other place
    rw [write, opening_old] at place
    rw [← Option.not_isSome_iff_eq_none, NewForm.isSome_reading?_iff, opening_new]
    intro read
    obtain ⟨tail, rfl, readable⟩ := read
    rcases newOpening_cases (avoids_write wellFormed quiet after) place with
      behind | ⟨middle, inFront, -⟩ | ⟨opened, -⟩
    · have nothing := firstOccurrence_eq_none_iff.1 alone.noNew _ behind
      rw [← Option.not_isSome_iff_eq_none, NewForm.isSome_reading?_iff, opening_new] at nothing
      exact nothing ⟨tail, rfl, readable⟩
    · apply alone.unopened
      rw [newOpening_eq_append, List.append_assoc] at inFront
      have within : oldOpening ++ middle <:+ before := (List.suffix_append ..).trans inFront
      exact (List.prefix_append ..).isInfix.trans within.isInfix
    · exact alone.notOpened opened

end OldForm

namespace Rules

variable {rules : Rules} {path : Path} {number : Nat}

/-- What becomes of a line whose annotation names a version: the annotation is written anew
between the texts around it, or the version is unknown. -/
def renewal (rules : Rules) (path : Path) (number : Nat) (dialect : Dialect)
    (version before after : Text) : Except Failure (Option Text) :=
  let token := "System ".toList ++ version
  match rules.table.platforms? token with
  | none => .error (.unknownVersion path number rules.table.package token)
  | some platforms => .ok (some (before ++ rules.write dialect token platforms ++ after))

/-- The dialect and the version of the annotation that counts in a line decide what becomes
of it. -/
theorem updateLine_eq_renewal {line version : Text} {occurrence : Occurrence} {dialect : Dialect}
    (found : rules.findAnnotation? line = some occurrence)
    (dialect_eq : occurrence.annotation.dialect = dialect)
    (token_eq : occurrence.annotation.token = "System ".toList ++ version) :
    rules.updateLine path number line =
      rules.renewal path number dialect version occurrence.before occurrence.after := by
  unfold updateLine renewal
  rw [found]
  simp only [dialect_eq, token_eq]
  cases rules.table.platforms? ("System ".toList ++ version) <;> rfl

/-- A line with an annotation of the new dialect is renewed from the version alone. -/
theorem updateLine_newForm (keyword_eq : rules.keyword = "@available".toList)
    (package_eq : rules.table.package = "System".toList) {before : Text} {form : NewForm}
    (wellFormed : form.IsWellFormed) (whole : form.HasWholeVersion)
    (unopened : ¬ newOpening <:+: before) (after : Text) (path : Path) (number : Nat) :
    rules.updateLine path number
        (before ++ form.write "@available".toList "System".toList ++ after) =
      rules.renewal path number .new form.version before after := by
  have found := findAnnotation?_of_new
    (Dialect.find?_new_of_unopened wellFormed whole unopened after)
  rw [← keyword_eq, ← package_eq] at found
  rw [← keyword_eq, ← package_eq]
  exact updateLine_eq_renewal found rfl (by simp [NewForm.token, NewForm.annotation, package_eq])

/-- A line with an annotation of the old dialect that is left alone is renewed from the
version alone. -/
theorem updateLine_oldForm (keyword_eq : rules.keyword = "@available".toList)
    (package_eq : rules.table.package = "System".toList) {before after : Text} {form : OldForm}
    (wellFormed : form.IsWellFormed) (quiet : form.IsQuiet)
    (alone : OldForm.LeavesAlone before after) (path : Path) (number : Nat) :
    rules.updateLine path number
        (before ++ form.write "@available".toList "System".toList ++ after) =
      rules.renewal path number .old form.version before after := by
  have found := OldForm.findAnnotation?_of_leavesAlone wellFormed quiet alone
  rw [← keyword_eq, ← package_eq] at found
  rw [← keyword_eq, ← package_eq]
  exact updateLine_eq_renewal found rfl (by simp [OldForm.token, OldForm.annotation, package_eq])

/-- **Stale content leaves no trace.** Between the same texts, all forms of one dialect that
name the same version have one outcome, which is the annotation written anew or the failure
on its version. In the new dialect the forms may have any note and any arguments. In the old
one they may have, in any combination, a clause inside the comment and a clause behind it. -/
theorem updateLine_ignores_stale_content (keyword_eq : rules.keyword = "@available".toList)
    (package_eq : rules.table.package = "System".toList) (path : Path) (number : Nat) :
    (∀ (before after : Text) (first second : NewForm), ¬ newOpening <:+: before →
      first.IsWellFormed → first.HasWholeVersion → second.IsWellFormed → second.HasWholeVersion →
      first.version = second.version →
      rules.updateLine path number
          (before ++ first.write "@available".toList "System".toList ++ after) =
        rules.updateLine path number
          (before ++ second.write "@available".toList "System".toList ++ after) ∧
      rules.updateLine path number
          (before ++ first.write "@available".toList "System".toList ++ after) =
        rules.renewal path number .new first.version before after) ∧
    ∀ (before after : Text) (first second : OldForm), OldForm.LeavesAlone before after →
      first.IsWellFormed → first.IsQuiet → second.IsWellFormed → second.IsQuiet →
      first.version = second.version →
      rules.updateLine path number
          (before ++ first.write "@available".toList "System".toList ++ after) =
        rules.updateLine path number
          (before ++ second.write "@available".toList "System".toList ++ after) ∧
      rules.updateLine path number
          (before ++ first.write "@available".toList "System".toList ++ after) =
        rules.renewal path number .old first.version before after := by
  constructor
  · intro before after first second unopened firstFormed firstWhole secondFormed secondWhole same
    have firstOutcome := updateLine_newForm keyword_eq package_eq firstFormed firstWhole unopened
      after path number
    have secondOutcome := updateLine_newForm keyword_eq package_eq secondFormed secondWhole
      unopened after path number
    rw [← same] at secondOutcome
    exact ⟨firstOutcome.trans secondOutcome.symm, firstOutcome⟩
  · intro before after first second alone firstFormed firstQuiet secondFormed secondQuiet same
    have firstOutcome := updateLine_oldForm keyword_eq package_eq firstFormed firstQuiet alone
      path number
    have secondOutcome := updateLine_oldForm keyword_eq package_eq secondFormed secondQuiet alone
      path number
    rw [← same] at secondOutcome
    exact ⟨firstOutcome.trans secondOutcome.symm, firstOutcome⟩

/-- A note and other arguments do not matter, and neither does the place of a clause beside a
version that nobody knows. -/
theorem updateLine_ignores_stale_clauses :
    let rules := Rules.initial .attributes
    let path : Path := .ofString "A.swift"
    rules.updateLine path 7 "a@available(/*System 0.0.2: iOS 9*/iOS 8, *)b".toList =
        rules.updateLine path 7 "a@available(/*System 0.0.2*/macOS 10*)b".toList ∧
      rules.updateLine path 7 "a/*System 7,), @available(iOS 9*)*/b".toList =
        rules.updateLine path 7 "a/*System 7,)*/@available(swift 5)b".toList ∧
      rules.updateLine path 7 "a/*System 7,), @available(iOS 9*)*/b".toList =
        .error (.unknownVersion path 7 "System".toList "System 7,)".toList) := by
  intro rules path
  obtain ⟨newOutcome, oldOutcome⟩ := updateLine_ignores_stale_content
    (rfl : rules.keyword = "@available".toList) rfl path 7
  have unopened : ¬ newOpening <:+: ("a".toList : Text) := by
    intro place
    exact absurd (place.subset (by decide : '@' ∈ newOpening)) (by decide)
  have alone : OldForm.LeavesAlone "a".toList "b".toList := by
    refine ⟨?_, by decide, by decide, by simp [OldForm.clause]⟩
    intro place
    exact absurd (place.subset (by decide : '/' ∈ oldOpening)) (by decide)
  have quiet {arguments : Text} (free : '/' ∉ arguments) : ¬ oldOpening <:+: arguments := by
    intro place
    exact free (place.subset (by decide))
  let clauseInside : OldForm := ⟨"7,)".toList, some "iOS 9*".toList, none⟩
  let clauseBehind : OldForm := ⟨"7,)".toList, none, some "swift 5".toList⟩
  have insideFormed : clauseInside.IsWellFormed :=
    ⟨by decide, by simp [clauseInside, OldForm.isVersionChar],
      by simp [clauseInside, isArgumentChar], by simp [clauseInside]⟩
  have behindFormed : clauseBehind.IsWellFormed :=
    ⟨by decide, by simp [clauseBehind, OldForm.isVersionChar], by simp [clauseBehind],
      by simp [clauseBehind, isArgumentChar]⟩
  have insideQuiet : clauseInside.IsQuiet :=
    ⟨by rintro _ ⟨rfl⟩; exact quiet (by decide), by rintro _ ⟨⟩⟩
  have behindQuiet : clauseBehind.IsQuiet :=
    ⟨by rintro _ ⟨⟩, by rintro _ ⟨rfl⟩; exact quiet (by decide)⟩
  let noted : NewForm := ⟨"0.0.2".toList, ": iOS 9".toList, "iOS 8, ".toList⟩
  let plain : NewForm := ⟨"0.0.2".toList, [], "macOS 10".toList⟩
  have notedFormed : noted.IsWellFormed :=
    ⟨by decide, by simp [noted, NewForm.isVersionChar], by simp [noted, NewForm.isNoteChar],
      by simp [noted, isArgumentChar]⟩
  have plainFormed : plain.IsWellFormed :=
    ⟨by decide, by simp [plain, NewForm.isVersionChar], by simp [plain],
      by simp [plain, isArgumentChar]⟩
  have notedWhole : noted.HasWholeVersion := by
    simp [noted, NewForm.HasWholeVersion, NewForm.isVersionChar]
  have plainWhole : plain.HasWholeVersion := by
    simp [plain, NewForm.HasWholeVersion]
  have news := newOutcome "a".toList "b".toList noted plain unopened notedFormed notedWhole
    plainFormed plainWhole rfl
  have olds := oldOutcome "a".toList "b".toList clauseInside clauseBehind alone insideFormed
    insideQuiet behindFormed behindQuiet rfl
  have unknown : rules.renewal path 7 .old "7,)".toList "a".toList "b".toList =
      .error (.unknownVersion path 7 "System".toList "System 7,)".toList) := by
    have nobody : rules.table.platforms? ("System ".toList ++ "7,)".toList) = none := by decide
    unfold renewal
    simp only [nobody]
    rfl
  exact ⟨news.1, olds.1, olds.2.trans unknown⟩

end Rules

end AvailabilityAnnotations

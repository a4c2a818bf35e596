/-
# Old annotations and what stands around them

A written form of the old dialect holds no new opening and begins none together with the
text behind it. So in a line whose annotation of the old dialect is written anew, a new
annotation can only begin in front of it, and there in two ways: its opening stands in
that text and its arguments may reach into the written form, or that text ends in the
attribute and the written form gives it the comment.

What is read at the written form itself depends on one thing only: a clause behind a form
that was written without one is taken as part of the annotation.
-/

import AvailabilityAnnotations.Proofs.Annotation.Search
import AvailabilityAnnotations.Proofs.Rules.Standard

namespace AvailabilityAnnotations

namespace Rules

variable {rules : Rules} {version platforms : Text}

/-- No new annotation begins within a written form of the old dialect. -/
theorem avoids_oldForm (keyword_eq : rules.keyword = "@available".toList)
    (versionFree : '*' ∉ version) (listFree : '*' ∉ platforms) (rest : Text) :
    Text.Avoids newOpening
      (oldOpening ++ (rules.oldForm version platforms).writeParts rules.keyword) rest := by
  cases shape : rules.mode with
  | attributes =>
      have pieces : oldOpening ++ (rules.oldForm version platforms).writeParts rules.keyword =
          ['/', '*'] ++ (("System ".toList ++ version) ++ (['*', '/'] ++
            ((rules.keyword ++ ['('] ++ platforms ++ [',', ' ']) ++ ['*', ')']))) := by
        simp [oldOpening_eq_append, oldForm, shape, OldForm.writeParts, OldForm.writeInside,
          OldForm.writeBehind, OldForm.clause]
      rw [pieces, keyword_eq]
      exact .append (avoids_newOpening_of_notMem (by decide)) (.append
        (avoids_newOpening_of_star (by simp [versionFree]) (by decide)) (.append
          (avoids_newOpening_of_notMem (by decide)) (.append
            (avoids_newOpening_of_star (by simp [listFree]) (by decide))
            (avoids_newOpening_of_notMem (by decide)))))
  | comments =>
      have pieces : oldOpening ++ (rules.oldForm version platforms).writeParts rules.keyword =
          ['/', '*'] ++ (("System ".toList ++ version ++ [',', ' '] ++ rules.keyword ++ ['('] ++
            platforms ++ [',', ' ']) ++ ['*', ')', '*', '/']) := by
        simp [oldOpening_eq_append, oldForm, shape, OldForm.writeParts, OldForm.writeInside,
          OldForm.writeBehind, OldForm.clause]
      rw [pieces, keyword_eq]
      exact .append (avoids_newOpening_of_notMem (by decide)) (.append
        (avoids_newOpening_of_star (by simp [versionFree, listFree]) (by decide))
        (avoids_newOpening_of_notMem (by decide)))

/-- What is left behind an annotation of the old dialect that was written and is read
again. In comment mode a clause at the front of the text becomes part of the annotation. -/
def unclaimed (rules : Rules) (after : Text) : Text :=
  match rules.mode with
  | .attributes => after
  | .comments =>
      match OldForm.clause? rules.keyword after with
      | none => after
      | some (_, rest) => rest

/-- A clause is claimed in comment mode. -/
theorem unclaimed_clause (comments : rules.mode = .comments) {arguments rest : Text}
    (free : ')' ∉ arguments) :
    rules.unclaimed (OldForm.clause rules.keyword arguments ++ rest) = rest := by
  have claimed := OldForm.clause?_eq_some_iff.2
    ⟨(rfl : OldForm.clause rules.keyword arguments ++ rest = _),
      forall_isArgumentChar_iff.2 free⟩
  simp [unclaimed, comments, claimed]

/-- Everything is left exactly if no clause is claimed. -/
theorem unclaimed_eq_self_iff {after : Text} : rules.unclaimed after = after ↔
    (rules.mode = .comments → ∀ arguments rest, ')' ∉ arguments →
      after ≠ OldForm.clause rules.keyword arguments ++ rest) := by
  constructor
  · rintro same comments arguments rest free rfl
    rw [unclaimed_clause comments free] at same
    have lengths := congrArg List.length same
    simp only [OldForm.clause, List.length_append, List.length_cons, List.length_nil] at lengths
    omega
  · intro noClause
    cases mode : rules.mode with
    | attributes => simp [unclaimed, mode]
    | comments =>
        cases claimed : OldForm.clause? rules.keyword after with
        | none => simp [unclaimed, mode, claimed]
        | some clause =>
            obtain ⟨shape, chars⟩ := OldForm.clause?_eq_some_iff.1 claimed
            exact absurd shape (noClause mode _ _ (forall_isArgumentChar_iff.1 chars))

/-- A written form of the old dialect is read again with its token, in front of what is
left. -/
theorem exists_reading_oldForm (wellFormed : (rules.oldForm version platforms).IsWellFormed)
    (package after : Text) :
    ∃ reading, OldForm.reading? rules.keyword package (OldForm.opening package)
        ((rules.oldForm version platforms).write rules.keyword package ++ after) = some reading ∧
      reading.annotation.dialect = .old ∧
      reading.annotation.token = package ++ ' ' :: version ∧
      reading.after = rules.unclaimed after := by
  have token : (rules.oldForm version platforms).token package = package ++ ' ' :: version := by
    rw [OldForm.token, oldForm_version]
  cases shape : rules.mode with
  | attributes =>
      refine ⟨_, OldForm.reading?_write wellFormed ?_, rfl, token, by simp [unclaimed, shape]⟩
      simp [oldForm, shape]
  | comments =>
      cases claimed : OldForm.clause? rules.keyword after with
      | none =>
          exact ⟨_, OldForm.reading?_write wellFormed fun _ => claimed, rfl, token,
            by simp [unclaimed, shape, claimed]⟩
      | some clause =>
          obtain ⟨rfl, chars⟩ := OldForm.clause?_eq_some_iff.1 claimed
          have without : (rules.oldForm version platforms).behind? = none := by
            simp [oldForm, shape]
          exact ⟨_, OldForm.reading?_write_clause wellFormed without chars clause.2, rfl, token,
            by simp [unclaimed, shape, claimed]⟩

/-- What is known of an annotation of the old dialect that was found in a line, when the
table has the list `platforms` for its version. -/
structure IsOldOccurrence (rules : Rules) (occurrence : Occurrence) (version platforms : Text) :
    Prop where
  dialect_eq : occurrence.annotation.dialect = .old
  token_eq : occurrence.annotation.token = rules.table.package ++ ' ' :: version
  plain : ∀ char ∈ platforms, NewForm.isNoteChar char = true
  formed : (rules.oldForm version platforms).IsWellFormed
  opened : ∃ rest, occurrence.written = oldOpening ++ rest
  /-- Nothing of the new dialect can be read in the line. -/
  noNew : ∀ tail, tail <:+ occurrence.line →
    NewForm.reading? "System".toList newOpening tail = none
  /-- Nothing of the old dialect can be read in front of the annotation. -/
  noOld : ∀ back, back <:+ occurrence.before → back ≠ [] →
    OldForm.reading? "@available".toList "System".toList oldOpening
      (back ++ (occurrence.written ++ occurrence.after)) = none

variable {line : Text} {occurrence : Occurrence}

/-- An annotation of the old dialect that counts in a line names a version. -/
theorem exists_isOldOccurrence (standard : rules.IsStandard)
    (found : rules.findAnnotation? line = some occurrence)
    (old : occurrence.annotation.dialect = .old)
    (known : rules.table.platforms? occurrence.annotation.token = some platforms) :
    ∃ version, rules.IsOldOccurrence occurrence version platforms ∧ line = occurrence.line := by
  rcases findAnnotation?_dialect found with ⟨new, -⟩ | ⟨-, none, foundOld⟩
  · rw [new] at old
    cases old
  · obtain ⟨form, formed, meaning, written, cut, earlier⟩ := Dialect.find?_old_sound foundOld
    have plain := standard.plainLists _ (PlatformTable.platforms?_eq_some_iff.1 known)
    have nothing := firstOccurrence_eq_none_iff.1 none
    rw [standard.keyword_eq, standard.package_eq, opening_new] at nothing
    rw [OldForm.write, standard.package_eq, opening_old] at written
    rw [standard.keyword_eq, standard.package_eq, opening_old] at earlier
    exact ⟨form.version,
      { dialect_eq := old
        token_eq := by rw [meaning]; rfl
        plain := plain
        formed := rules.oldForm_isWellFormed formed.version_ne_nil formed.version_chars plain
        opened := ⟨_, written⟩
        noNew := cut ▸ nothing
        noOld := earlier }, cut⟩

namespace IsOldOccurrence

/-- The version is free of stars. -/
theorem star_notMem (isOld : rules.IsOldOccurrence occurrence version platforms) :
    '*' ∉ version := by
  simpa using isOld.formed.star_notMem

/-- The list is free of stars. -/
theorem star_notMem_platforms (isOld : rules.IsOldOccurrence occurrence version platforms) :
    '*' ∉ platforms := by
  intro member
  simpa [NewForm.isNoteChar] using isOld.plain _ member

/-- The line as it is written anew. -/
theorem rewritten_eq (isOld : rules.IsOldOccurrence occurrence version platforms)
    (standard : rules.IsStandard) :
    rules.rewritten occurrence platforms =
      occurrence.before ++ (oldOpening ++
        (rules.oldForm version platforms).writeParts "@available".toList ++ occurrence.after) := by
  rw [rewritten, isOld.dialect_eq, isOld.token_eq, write_old, OldForm.write,
    standard.keyword_eq, standard.package_eq, opening_old, Occurrence.replaceBy,
    List.append_assoc]

end IsOldOccurrence

end Rules

/-- Where a new opening can stand in a line with an old annotation: behind it, in front of
it, or around its opening. -/
theorem newOpening_cases {before parts after rest : Text}
    (avoids : Text.Avoids newOpening (oldOpening ++ parts) after)
    (place : newOpening ++ rest <:+ before ++ (oldOpening ++ parts ++ after)) :
    newOpening ++ rest <:+ after ∨
      (∃ middle, newOpening ++ middle <:+ before ∧
        rest = middle ++ (oldOpening ++ parts ++ after)) ∨
      ("@available(".toList <:+ before ∧ rest = parts ++ after) := by
  rcases Text.suffix_append_iff.1 place with behind | ⟨back, inFront, -, shape⟩
  · rcases Text.suffix_append_iff.1 behind with later | ⟨back, within, nonempty, shape⟩
    · exact .inl later
    · exact absurd ⟨rest, shape⟩ (avoids back within nonempty)
  · have begins : newOpening <+: back ++ (oldOpening ++ (parts ++ after)) :=
      ⟨rest, by rw [shape, List.append_assoc]⟩
    rcases newOpening_prefix_old begins with ⟨middle, rfl⟩ | rfl
    · rw [List.append_assoc] at shape
      exact .inr (.inl ⟨middle, inFront, List.append_cancel_left shape⟩)
    · have same : newOpening ++ rest = newOpening ++ (parts ++ after) := by
        rw [shape, newOpening_eq_append]
        simp
      exact .inr (.inr ⟨inFront, List.append_cancel_left same⟩)

end AvailabilityAnnotations

/-
# Annotations that come into being

When an annotation of the old dialect is written anew, the text in front of it may turn
into an annotation together with what is written. There are three ways: the text has
left the arguments of a new annotation open, or the clause inside an old comment, or it
ends in the attribute, which takes the comment as its own. `CompletesNew` and
`CompletesOld` say when this happens. They speak of the mode and of the two texts around
the annotation only, and whatever is read too early in the line that was written comes
about in one of these ways.
-/

import AvailabilityAnnotations.Proofs.Rules.Surroundings

namespace AvailabilityAnnotations

/-- An annotation of the old dialect that is written behind the text makes a new
annotation of it: it closes the arguments of one that was left open, where the slash may
still belong to the front, or it gives its comment to the attribute in front of it. -/
def CompletesNew (mode : Mode) (before : Text) : Prop :=
  NewForm.IsOpenIn "@available".toList "System".toList (before ++ ['/']) ∨
    mode = .attributes ∧ "@available(".toList <:+ before

/-- An annotation of the old dialect that is written between the texts closes a comment
that was left open in front of it. In attribute mode the end of that comment must
already be there. -/
def CompletesOld (mode : Mode) (before after : Text) : Prop :=
  OldForm.IsOpenIn "@available".toList "System".toList (before ++ ['/']) ∧
    (mode = .attributes → "*/".toList <+: after)

/-- Behind a text without an at sign no new annotation comes into being. -/
theorem not_completesNew {mode : Mode} {before : Text} (free : '@' ∉ before) :
    ¬ CompletesNew mode before := by
  rintro (left | ⟨-, opened⟩)
  · obtain ⟨_, front, -, -, place⟩ := left.exists_front
    rw [opening_new, newOpening_cons] at place
    apply free
    exact place.subset (by simp)
  · apply free
    exact opened.subset (by decide)

/-- Behind a text without a slash no old annotation comes into being. -/
theorem not_completesOld {mode : Mode} {before after : Text} (free : '/' ∉ before) :
    ¬ CompletesOld mode before after := by
  rintro ⟨left, -⟩
  obtain ⟨_, _, front, -, -, place⟩ := left.exists_front
  rw [opening_old, oldOpening_cons] at place
  apply free
  exact place.subset (by simp)

namespace Rules.IsOldOccurrence

variable {rules : Rules} {occurrence : Occurrence} {version platforms rest : Text}

/-- A written form that is read as the parts of a new form gives it its clause as the
arguments. Only a clause behind the comment can be read so. -/
private theorem arguments_of_attribute
    (isOld : rules.IsOldOccurrence occurrence version platforms) {form : NewForm}
    (formed : form.IsWellFormed) {after : Text}
    (shape : form.writeParts ++ rest =
      (rules.oldForm version platforms).writeParts "@available".toList ++ after) :
    rules.mode = .attributes ∧
      form.arguments = "@available(".toList ++ platforms ++ ", ".toList := by
  cases mode : rules.mode with
  | attributes =>
      let own : NewForm := ⟨version, [], "@available(".toList ++ platforms ++ ", ".toList⟩
      have same : form.writeParts ++ rest = own.writeParts ++ after := by
        simpa [own, NewForm.writeParts, oldForm, mode, OldForm.writeParts, OldForm.writeInside,
          OldForm.writeBehind, OldForm.clause] using shape
      exact ⟨rfl, NewForm.arguments_unique formed.star_notMem
        (forall_isArgumentChar_iff.1 formed.arguments_chars) (by simp [own, isOld.star_notMem])
        (by simp [own, parenthesis_notMem isOld.plain]) same⟩
  | comments =>
      -- The first star of the comment stands in front of a parenthesis.
      have cut : (form.version ++ form.note) ++ '*' :: '/' ::
          (form.arguments ++ '*' :: ')' :: rest) =
            (version ++ ", @available(".toList ++ platforms ++ ", ".toList) ++
              '*' :: ')' :: ("*/".toList ++ after) := by
        simpa [NewForm.writeParts, oldForm, mode, OldForm.writeParts, OldForm.writeInside,
          OldForm.writeBehind, OldForm.clause] using shape
      obtain ⟨-, behind⟩ := Text.cut_unique formed.star_notMem
        (by simp [isOld.star_notMem, isOld.star_notMem_platforms]) cut
      simp at behind

/-- How a new form comes into being in the line that was written: its arguments reach over
the slash, or it is made of the attribute and the old annotation. -/
theorem new_cases (isOld : rules.IsOldOccurrence occurrence version platforms)
    (keyword_eq : rules.keyword = "@available".toList) {form : NewForm}
    (formed : form.IsWellFormed)
    (place : newOpening ++ (form.writeParts ++ rest) <:+ occurrence.before ++ (oldOpening ++
      (rules.oldForm version platforms).writeParts "@available".toList ++ occurrence.after)) :
    (∃ arguments later,
        NewForm.IsOpenIn "@available".toList "System".toList (occurrence.before ++ ['/']) ∧
        form.arguments = arguments ++ later ∧
        "*System ".toList ++ (rules.oldForm version platforms).writeParts "@available".toList ++
          occurrence.after = later ++ '*' :: ')' :: rest) ∨
      (rules.mode = .attributes ∧ "@available(".toList <:+ occurrence.before ∧
        form.arguments = "@available(".toList ++ platforms ++ ", ".toList) := by
  have unread {tail : Text} (within : newOpening ++ (form.writeParts ++ tail) <:+
      occurrence.line) : False := by
    have read : (NewForm.reading? "System".toList newOpening
        (newOpening ++ (form.writeParts ++ tail))).isSome = true :=
      NewForm.isSome_reading?_iff.2 ⟨_, rfl, form, tail, formed, rfl⟩
    rw [isOld.noNew _ within] at read
    cases read
  have avoids := avoids_oldForm keyword_eq isOld.star_notMem isOld.star_notMem_platforms
    occurrence.after
  rw [keyword_eq] at avoids
  rcases newOpening_cases avoids place with behind | ⟨middle, inFront, shape⟩ | ⟨opened, shape⟩
  · exact (unread (behind.trans (List.suffix_append ..))).elim
  · obtain ⟨front, frontCut⟩ := inFront
    rw [oldOpening_cons] at shape
    rcases NewForm.split_writeParts formed (by decide) (by decide) shape.symm with
      ⟨more, rfl⟩ | ⟨arguments, later, inside, opened, behind⟩ | ⟨comment, tail, free, cut⟩
    · have within : newOpening ++ (form.writeParts ++
          (more ++ (occurrence.written ++ occurrence.after))) <:+ occurrence.line :=
        ⟨front, by simp [Occurrence.line, ← frontCut]⟩
      exact (unread within).elim
    · have left : NewForm.IsOpenIn "@available".toList "System".toList
          (occurrence.before ++ ['/']) := by
        refine ⟨_, (formed.cutArguments inside).1, front, ?_⟩
        rw [← opened, opening_new, ← frontCut]
        simp
      exact .inl ⟨arguments, later, left, inside, by simpa using behind⟩
    · -- The first star behind the border is the opening's own and ends no comment.
      have first : ['/'] ++ '*' :: ("System ".toList ++
          ((rules.oldForm version platforms).writeParts "@available".toList ++
            occurrence.after)) = comment ++ '*' :: '/' :: tail := by simpa using cut
      obtain ⟨-, behind⟩ := Text.cut_unique (by decide) free first
      simp at behind
  · obtain ⟨mode, arguments⟩ := isOld.arguments_of_attribute formed shape
    exact .inr ⟨mode, opened, arguments⟩

/-- How an old form comes into being in front of the annotation that was written: its
clause reaches over the slash. -/
theorem old_cases (isOld : rules.IsOldOccurrence occurrence version platforms)
    {form : OldForm} (formed : form.IsWellFormed) {back : Text}
    (place : back <:+ occurrence.before) (nonempty : back ≠ [])
    (shape : back ++ (oldOpening ++
      (rules.oldForm version platforms).writeParts "@available".toList ++ occurrence.after) =
        oldOpening ++ (form.writeParts "@available".toList ++ rest)) :
    ∃ arguments later behind,
      OldForm.IsOpenIn "@available".toList "System".toList (occurrence.before ++ ['/']) ∧
      form.inside? = some (arguments ++ later) ∧
      "*System ".toList ++ (rules.oldForm version platforms).writeParts "@available".toList ++
        occurrence.after = later ++ ')' :: '*' :: '/' :: behind := by
  have begins : oldOpening <+: back ++ (oldOpening ++
      ((rules.oldForm version platforms).writeParts "@available".toList ++ occurrence.after)) :=
    ⟨form.writeParts "@available".toList ++ rest, by rw [← shape, List.append_assoc]⟩
  obtain ⟨middle, rfl⟩ := oldOpening_prefix nonempty begins
  have cut : middle ++ '/' :: '*' :: 'S' :: ("ystem ".toList ++
      ((rules.oldForm version platforms).writeParts "@available".toList ++ occurrence.after)) =
        form.writeParts "@available".toList ++ rest := by
    have behind := List.append_cancel_left (shape.symm.trans (List.append_assoc ..))
    simpa [oldOpening_cons] using behind.symm
  obtain ⟨front, frontCut⟩ := place
  rcases OldForm.split_writeParts formed (by decide) (by decide) cut with
    closed | ⟨arguments, later, behind, inside, opened, closes⟩
  · obtain ⟨written, writtenCut⟩ := isOld.opened
    have read : (OldForm.reading? "@available".toList "System".toList oldOpening
        (oldOpening ++ middle ++ (occurrence.written ++ occurrence.after))).isSome = true := by
      refine OldForm.isSome_reading?_iff.2 ⟨_, List.append_assoc .., ?_⟩
      rw [writtenCut, oldOpening_cons]
      exact closed _
    rw [isOld.noOld _ ⟨front, frontCut⟩ nonempty] at read
    cases read
  · have left : OldForm.IsOpenIn "@available".toList "System".toList
        (occurrence.before ++ ['/']) := by
      refine ⟨form.version, arguments, (formed.cutInside inside).1, front, ?_⟩
      rw [← opened, opening_old, ← frontCut]
      simp
    exact ⟨arguments, later, behind, left, inside, by simpa using closes⟩

/-- The annotation is found again with its token and at its place, in front of what is
left, if no other one comes into being in front of it. -/
theorem exists_again (isOld : rules.IsOldOccurrence occurrence version platforms)
    (standard : rules.IsStandard) (notNew : ¬ CompletesNew rules.mode occurrence.before)
    (notOld : OldForm.IsOpenIn "@available".toList "System".toList (occurrence.before ++ ['/']) →
      ¬ OldForm.ClosesComment ("*System ".toList ++
        (rules.oldForm version platforms).writeParts "@available".toList ++ occurrence.after)) :
    ∃ again : Occurrence,
      rules.findAnnotation? (rules.rewritten occurrence platforms) = some again ∧
      again.annotation.dialect = .old ∧
      again.annotation.token = occurrence.annotation.token ∧
      again.before = occurrence.before ∧ again.after = rules.unclaimed occurrence.after := by
  obtain ⟨reading, here, dialect, token, left⟩ :=
    exists_reading_oldForm isOld.formed rules.table.package occurrence.after
  rw [OldForm.write, standard.keyword_eq, standard.package_eq, opening_old] at here
  rw [isOld.rewritten_eq standard, findAnnotation?, standard.keyword_eq, standard.package_eq]
  refine ⟨⟨reading, occurrence.before⟩, findAnnotation?_of_old ?_ ?_ ?_, dialect,
    token.trans isOld.token_eq.symm, rfl, left⟩
  · rw [opening_new]
    intro tail place
    rw [← Option.not_isSome_iff_eq_none, NewForm.isSome_reading?_iff]
    rintro ⟨_, rfl, form, rest, formed, rfl⟩
    apply notNew
    rcases isOld.new_cases standard.keyword_eq formed place with
      ⟨_, _, opened, -⟩ | ⟨mode, opened, -⟩
    · exact .inl opened
    · exact .inr ⟨mode, opened⟩
  · rwa [opening_old]
  · rw [opening_old]
    intro back place nonempty
    rw [← Option.not_isSome_iff_eq_none, OldForm.isSome_reading?_iff]
    rintro ⟨_, shape, form, rest, formed, rfl⟩
    obtain ⟨arguments, later, behind, opened, inside, closes⟩ :=
      isOld.old_cases formed place nonempty shape
    exact notOld opened ⟨later, behind, (formed.cutInside inside).2, closes⟩

end Rules.IsOldOccurrence

end AvailabilityAnnotations

/-
# Unknown versions

A text cannot be updated for one reason only: some line names a version that the table does
not have. Of a line only the annotation that counts matters, the first one of the new dialect
or else the first one of the old dialect; another unknown version beside it does not. Of the
lines the first one decides, and the failure says which line that is, by its number, and which
token it names. What can go wrong with a line is settled by `updateLine_eq_error_iff`, and
`updateLines_eq_error_iff` finds the first such line by going through the lines.

How annotations are written has no part in this, so a text fails alike in both modes, and where
it does not fail, both modes count the same annotations.
-/

import AvailabilityAnnotations.Proofs.Update.Changes

namespace AvailabilityAnnotations

/-- A token without a list is no token of the table. -/
theorem PlatformTable.platforms?_eq_none_iff {table : PlatformTable} {token : Text} :
    table.platforms? token = none ↔ token ∉ table.tokens := by
  rw [platforms?, List.lookup_eq_none_iff]
  constructor
  · intro absent member
    obtain ⟨entry, inside, rfl⟩ := List.mem_map.1 member
    simpa using absent entry inside
  · intro absent entry inside
    exact bne_iff_ne.2 fun same => absent (List.mem_map.2 ⟨entry, inside, same.symm⟩)

namespace Rules

variable {rules : Rules} {path : Path} {number : Nat} {text : Text} {lines : List Line}
  {failure : Failure}

/-- The annotation that counts in the body has this token, and the table has no such token. -/
def NamesUnknown (rules : Rules) (body token : Text) : Prop :=
  ∃ occurrence,
    (Dialect.new.find? rules.keyword rules.table.package body = some occurrence ∨
      Dialect.new.find? rules.keyword rules.table.package body = none ∧
        Dialect.old.find? rules.keyword rules.table.package body = some occurrence) ∧
    occurrence.annotation.token = token ∧ token ∉ rules.table.tokens

/-- The annotation that counts is the one that is found. -/
theorem namesUnknown_iff {body token : Text} : rules.NamesUnknown body token ↔
    ∃ occurrence, rules.findAnnotation? body = some occurrence ∧
      occurrence.annotation.token = token ∧ rules.table.platforms? token = none := by
  simp only [NamesUnknown, findAnnotation?, findAnnotation?_eq_some_iff,
    PlatformTable.platforms?_eq_none_iff]

/-- A line fails exactly if it names an unknown version, and the failure says which one. -/
theorem updateLine_eq_error_iff {body : Text} :
    rules.updateLine path number body = .error failure ↔
      ∃ token, rules.NamesUnknown body token ∧
        failure = .unknownVersion path number rules.table.package token := by
  simp only [namesUnknown_iff, updateLine]
  cases found : rules.findAnnotation? body with
  | none => simp
  | some occurrence =>
      cases known : rules.table.platforms? occurrence.annotation.token with
      | none =>
          simp only [known, Except.error.injEq]
          constructor
          · rintro rfl
            exact ⟨_, ⟨occurrence, rfl, rfl, known⟩, rfl⟩
          · rintro ⟨_, ⟨_, ⟨rfl⟩, rfl, -⟩, rfl⟩
            rfl
      | some platforms => simp [known]

/-- A line is known or names an unknown version. -/
theorem not_knows_iff {body : Text} :
    ¬ rules.Knows body ↔ ∃ token, rules.NamesUnknown body token := by
  simp only [namesUnknown_iff, Knows]
  cases found : rules.findAnnotation? body with
  | none => simp
  | some occurrence =>
      cases known : rules.table.platforms? occurrence.annotation.token <;> simp [known]

/-- Some line names an unknown version and no line in front of it does, and the failure is that
of this line if the lines are counted from the given number. -/
def FailsFirst (rules : Rules) (path : Path) (number : Nat) (lines : List Line)
    (failure : Failure) : Prop :=
  ∃ front line back token, lines = front ++ line :: back ∧
    (∀ earlier ∈ front, rules.Knows earlier.body) ∧ rules.NamesUnknown line.body token ∧
    failure = .unknownVersion path (number + front.length) rules.table.package token

/-- The first of the lines is the one that fails first, or one of the others is. -/
theorem failsFirst_cons_iff {line : Line} :
    rules.FailsFirst path number (line :: lines) failure ↔
      (∃ token, rules.NamesUnknown line.body token ∧
          failure = .unknownVersion path number rules.table.package token) ∨
        rules.Knows line.body ∧ rules.FailsFirst path (number + 1) lines failure := by
  have moved (front : List Line) :
      number + (line :: front).length = number + 1 + front.length := by
    rw [List.length_cons]
    omega
  constructor
  · rintro ⟨front, found, back, token, cut, known, unknown, rfl⟩
    -- With an empty front it is the first of the lines that fails, else that line is known.
    rcases List.cons_eq_append_iff.1 cut with ⟨rfl, behind⟩ | ⟨front, rfl, rfl⟩
    · obtain ⟨rfl, rfl⟩ := List.cons.inj behind
      exact .inl ⟨token, unknown, rfl⟩
    · rw [List.forall_mem_cons] at known
      exact .inr ⟨known.1, front, found, back, token, rfl, known.2, unknown, by rw [moved]⟩
  · rintro (⟨token, unknown, rfl⟩ | ⟨known, front, found, back, token, rfl, others, unknown, rfl⟩)
    · exact ⟨[], line, lines, token, rfl, by simp, unknown, rfl⟩
    · exact ⟨line :: front, found, back, token, rfl, List.forall_mem_cons.2 ⟨known, others⟩,
        unknown, by rw [moved]⟩

/-- Lines fail exactly as the first one of them that names an unknown version. -/
theorem updateLines_eq_error_iff :
    rules.updateLines path number lines = .error failure ↔
      rules.FailsFirst path number lines failure := by
  induction lines generalizing number with
  | nil => simp [updateLines, FailsFirst]
  | cons line lines ih =>
      rw [updateLines, failsFirst_cons_iff, ← updateLine_eq_error_iff,
        ← updateLine_eq_ok_iff path number, ← ih]
      cases rules.updateLine path number line.body with
      | error own => simp
      | ok body? => cases rules.updateLines path (number + 1) lines <;> simp

/-- Lines fail exactly if one of them names an unknown version. -/
theorem exists_updateLines_error_iff :
    (∃ failure, rules.updateLines path number lines = .error failure) ↔
      ∃ line ∈ lines, ∃ token, rules.NamesUnknown line.body token := by
  have settled : (∃ update, rules.updateLines path number lines = .ok update) ↔
      ∀ line ∈ lines, rules.Knows line.body := exists_updateLines_iff
  have failing : (∃ line ∈ lines, ¬ rules.Knows line.body) ↔
      ¬ ∀ line ∈ lines, rules.Knows line.body := by simp
  simp only [← not_knows_iff, failing, ← settled]
  cases rules.updateLines path number lines <;> simp

/-- The mode has no part in a failure. -/
theorem updateText_inMode_eq_error_iff (mode other : Mode) :
    (rules.inMode mode).updateText path text = .error failure ↔
      (rules.inMode other).updateText path text = .error failure := by
  rw [updateText, updateText, updateLines_eq_error_iff, updateLines_eq_error_iff]
  exact Iff.rfl

/-- The mode has no part in the number of annotations. -/
theorem annotations_inMode {mode : Mode} {update : Update}
    (updated : (rules.inMode mode).updateText path text = .ok update) :
    update.annotations = rules.annotationCount (Line.split text) := by
  have counted : update.annotations = (rules.inMode mode).annotationCount (Line.split text) :=
    updateLines_annotations updated
  exact counted

/-- **Unknown versions are reported exactly.** A text fails exactly if some line names an unknown
version, and then with the number and the token of the first such line. In any two modes a text
fails alike, or it is updated with the same number of annotations, which is the number of lines
with an annotation. -/
theorem updateText_unknownVersion (rules : Rules) (path : Path) (text : Text) :
    ((∃ failure, rules.updateText path text = .error failure) ↔
      ∃ line ∈ Line.split text, ∃ token, rules.NamesUnknown line.body token) ∧
    (∀ failure, rules.updateText path text = .error failure ↔
      ∃ front line back token, Line.split text = front ++ line :: back ∧
        (∀ earlier ∈ front, rules.Knows earlier.body) ∧
        rules.NamesUnknown line.body token ∧
        failure = .unknownVersion path (front.length + 1) rules.table.package token) ∧
    ∀ mode other : Mode,
      (∃ failure, (rules.inMode mode).updateText path text = .error failure ∧
        (rules.inMode other).updateText path text = .error failure) ∨
      ∃ update again, (rules.inMode mode).updateText path text = .ok update ∧
        (rules.inMode other).updateText path text = .ok again ∧
        update.annotations = rules.annotationCount (Line.split text) ∧
        again.annotations = rules.annotationCount (Line.split text) := by
  refine ⟨exists_updateLines_error_iff, fun failure => ?_, fun mode other => ?_⟩
  · rw [updateText, updateLines_eq_error_iff]
    simp only [FailsFirst, Nat.add_comm 1]
  · have alike {failure : Failure} : (rules.inMode mode).updateText path text = .error failure ↔
        (rules.inMode other).updateText path text = .error failure :=
      updateText_inMode_eq_error_iff mode other
    cases first : (rules.inMode mode).updateText path text with
    | error failure => exact .inl ⟨failure, rfl, alike.1 first⟩
    | ok update =>
        cases second : (rules.inMode other).updateText path text with
        | error failure =>
            have failed := alike.2 second
            rw [first] at failed
            cases failed
        | ok again =>
            exact .inr ⟨update, again, rfl, rfl, annotations_inMode first,
              annotations_inMode second⟩

/-- In the first line the annotation of the new dialect counts, and its version is known. -/
example : (Rules.initial .comments).updateText (.ofString "A.swift")
    "/*System 9*/ @available(/*System 0.0.2*/iOS 8, *)\r\n/*System 8*/\n/*System 7*/".toList =
      .error (.unknownVersion (.ofString "A.swift") 2 "System".toList "System 8".toList) := by
  rfl

end Rules

end AvailabilityAnnotations

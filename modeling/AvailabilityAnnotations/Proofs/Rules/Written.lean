/-
# What the rules write

The rules write every annotation as a form of its own dialect: `Rules.newForm` and
`Rules.oldForm` name the parts of that form, and `write_new` and `write_old` say that it
is what is written. As long as the platform lists of the table hold no punctuation of
annotations, the form is well formed, so whatever the rules write can be read again.
-/

import AvailabilityAnnotations.Proofs.Annotation.OpenForm
import AvailabilityAnnotations.Update

namespace AvailabilityAnnotations

/-- No platform list of the table holds a star, a slash or a closing parenthesis. -/
def PlatformTable.HasPlainLists (table : PlatformTable) : Prop :=
  ∀ entry ∈ table.entries, ∀ char ∈ entry.2, NewForm.isNoteChar char = true

/-- The lists of a table can be looked through. -/
theorem PlatformTable.all_isNoteChar_iff {table : PlatformTable} :
    (table.entries.all fun entry => entry.2.all NewForm.isNoteChar) = true ↔
      table.HasPlainLists := by
  simp only [List.all_eq_true, HasPlainLists]

instance (table : PlatformTable) : Decidable table.HasPlainLists :=
  decidable_of_decidable_of_iff PlatformTable.all_isNoteChar_iff

namespace Rules

variable {rules : Rules} {version platforms : Text}

/-- The same rules in another mode. -/
def inMode (rules : Rules) (mode : Mode) : Rules :=
  { rules with mode }

/-- The line of an annotation, with the annotation written anew. -/
def rewritten (rules : Rules) (occurrence : Occurrence) (platforms : Text) : Text :=
  occurrence.replaceBy
    (rules.write occurrence.annotation.dialect occurrence.annotation.token platforms)

/-- The form of the new dialect that is written for a version. -/
def newForm (rules : Rules) (version platforms : Text) : NewForm :=
  match rules.mode with
  | .attributes => ⟨version, [], platforms ++ ", ".toList⟩
  | .comments => ⟨version, ": ".toList ++ platforms, rules.placeholder ++ ", ".toList⟩

/-- The form of the old dialect that is written for a version. -/
def oldForm (rules : Rules) (version platforms : Text) : OldForm :=
  match rules.mode with
  | .attributes => ⟨version, none, some (platforms ++ ", *".toList)⟩
  | .comments => ⟨version, some (platforms ++ ", *".toList), none⟩

@[simp] theorem newForm_version : (rules.newForm version platforms).version = version := by
  unfold newForm
  split <;> rfl

@[simp] theorem oldForm_version : (rules.oldForm version platforms).version = version := by
  unfold oldForm
  split <;> rfl

/-- An annotation of the new dialect is written as a form of the new dialect. -/
theorem write_new (rules : Rules) (package version platforms : Text) :
    rules.write .new (package ++ ' ' :: version) platforms =
      (rules.newForm version platforms).write rules.keyword package := by
  unfold write newForm
  cases rules.mode <;> simp [NewForm.write, NewForm.opening, NewForm.writeParts]

/-- An annotation of the old dialect is written as a form of the old dialect. -/
theorem write_old (rules : Rules) (package version platforms : Text) :
    rules.write .old (package ++ ' ' :: version) platforms =
      (rules.oldForm version platforms).write rules.keyword package := by
  unfold write oldForm
  cases rules.mode <;>
    simp [OldForm.write, OldForm.opening, OldForm.writeParts, OldForm.writeInside,
      OldForm.writeBehind, OldForm.clause]

/-- A plain list is free of closing parentheses. -/
theorem parenthesis_notMem (plain : ∀ char ∈ platforms, NewForm.isNoteChar char = true) :
    ')' ∉ platforms := by
  intro member
  simpa [NewForm.isNoteChar] using plain _ member

/-- The form that is written in the new dialect is well formed and has its whole version. -/
theorem newForm_isWellFormed (rules : Rules) (nonempty : version ≠ [])
    (chars : ∀ char ∈ version, NewForm.isVersionChar char = true)
    (plain : ∀ char ∈ platforms, NewForm.isNoteChar char = true)
    (placeholder : ')' ∉ rules.placeholder) :
    (rules.newForm version platforms).IsWellFormed ∧
      (rules.newForm version platforms).HasWholeVersion := by
  have listFree := parenthesis_notMem plain
  unfold newForm
  cases rules.mode with
  | attributes =>
      exact ⟨⟨nonempty, chars, by simp, forall_isArgumentChar_iff.2 (by simp [listFree])⟩,
        by simp [NewForm.HasWholeVersion]⟩
  | comments =>
      refine ⟨⟨nonempty, chars, ?_, forall_isArgumentChar_iff.2 (by simp [placeholder])⟩, ?_⟩
      · intro char member
        rcases List.mem_append.1 member with inColon | inList
        · have colon : (": ".toList.all NewForm.isNoteChar) = true := by decide
          exact List.all_eq_true.1 colon char inColon
        · exact plain char inList
      · intro char first
        obtain rfl : ':' = char := by simpa using first
        rfl

/-- The form that is written in the old dialect is well formed. -/
theorem oldForm_isWellFormed (rules : Rules) (nonempty : version ≠ [])
    (chars : ∀ char ∈ version, OldForm.isVersionChar char = true)
    (plain : ∀ char ∈ platforms, NewForm.isNoteChar char = true) :
    (rules.oldForm version platforms).IsWellFormed := by
  have listFree : ∀ char ∈ platforms ++ ", *".toList, isArgumentChar char = true :=
    forall_isArgumentChar_iff.2 (by simp [parenthesis_notMem plain])
  unfold oldForm
  cases rules.mode with
  | attributes => exact ⟨nonempty, chars, by simp, by rintro _ ⟨rfl⟩; exact listFree⟩
  | comments => exact ⟨nonempty, chars, by rintro _ ⟨rfl⟩; exact listFree, by simp⟩

end Rules

end AvailabilityAnnotations

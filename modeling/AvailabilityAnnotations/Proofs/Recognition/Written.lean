/-
# Recognizing what was written

Writing and recognizing an annotation are two separate accounts of its form: one glues the
parts together, the other one looks for them. They agree. An annotation that the rules write
is recognized as a whole, in its own dialect and with its own token, and the clause that it
carries is the one that was written, whatever else the token may look like.

The new dialect gives its list back trimmed, so the list must be one that trimming leaves
alone. An annotation of the old dialect must not be taken for one of the new dialect, which
is asked first; a list without stars and slashes cannot bring that about.
-/

import AvailabilityAnnotations.Proofs.Rules.Surroundings
import AvailabilityAnnotations.Proofs.Text.Edge

namespace AvailabilityAnnotations

/-- A list that is read again as it was written: it holds no punctuation of annotations, no
blanks at its ends and no comma at its last place. -/
structure IsNeatList (list : Text) : Prop where
  nonempty : list ≠ []
  plain : ∀ char ∈ list, NewForm.isNoteChar char = true
  front : ∀ char ∈ list.head?, Text.isBlank char = false
  back : ∀ char ∈ list.getLast?, Text.isBlank char = false ∧ char ≠ ','

instance (list : Text) : Decidable (IsNeatList list) :=
  decidable_of_iff (list ≠ [] ∧ list.all NewForm.isNoteChar = true ∧
      list.head?.all (!Text.isBlank ·) = true ∧
      list.getLast?.all (fun char => !Text.isBlank char && char != ',') = true) <| by
    simp only [List.all_eq_true, Option.all_eq_true, Bool.not_eq_true', Bool.and_eq_true,
      bne_iff_ne]
    exact ⟨fun ⟨nonempty, plain, front, back⟩ => ⟨nonempty, plain, front, back⟩,
      fun neat => ⟨neat.nonempty, neat.plain, neat.front, neat.back⟩⟩

/-- The arguments of a written annotation of the new dialect give the list back. -/
theorem NewForm.existing?_of_neat {form : NewForm} {list : Text} (neat : IsNeatList list)
    (written : form.arguments = list ++ ", ".toList) : form.existing? = some list := by
  have blank : ∀ char ∈ [' '], Text.isBlank char = true := by simp [Text.isBlank]
  have comma : ∀ char ∈ (list ++ [',']).getLast?, Text.isBlank char = false := by
    intro char last
    obtain rfl : ',' = char := by simpa using last
    rfl
  have front : ∀ char ∈ (list ++ ", ".toList).head?, Text.isBlank char = false := by
    intro char first
    apply neat.front char
    rwa [List.head?_append, List.head?_eq_some_head neat.nonempty, Option.some_or,
      ← List.head?_eq_some_head neat.nonempty] at first
  have trimmed : Text.trim (list ++ ", ".toList) = list ++ [','] := by
    have split : list ++ ", ".toList = (list ++ [',']) ++ [' '] := by simp
    rw [Text.trim, Text.dropWhile_isBlank_eq_self front, split]
    exact Text.dropEndWhile_append_run blank comma
  have commaless : Text.dropEndWhile (· == ',') (list ++ [',']) = list := by
    apply Text.dropEndWhile_append_run (by simp)
    intro char last
    simpa using (neat.back char last).2
  have settled : Text.trimEnd list = list := by
    apply Text.dropEndWhile_eq_self
    intro char last
    exact (neat.back char last).1
  rw [existing?, written, trimmed, commaless, settled]
  cases shape : list with
  | nil => exact absurd shape neat.nonempty
  | cons char rest => rfl

namespace Rules

variable {rules : Rules} {version platforms : Text}

/-- The clause that an annotation shows when it is recognized after it was written. In the
new dialect that is a bare list, in the old one a clause with its punctuation. -/
def shownClause (rules : Rules) (dialect : Dialect) (platforms : Text) : Text :=
  match dialect, rules.mode with
  | .new, .attributes => platforms
  | .new, .comments => rules.placeholder
  | .old, .attributes => "@available(".toList ++ platforms ++ ", *)".toList
  | .old, .comments => ", @available(".toList ++ platforms ++ ", *)".toList

/-- The annotation that is written for a version. -/
def writtenAnnotation (rules : Rules) (dialect : Dialect) (version platforms : Text) :
    Annotation where
  dialect := dialect
  token := "System ".toList ++ version
  existing? := some (rules.shownClause dialect platforms)

/-- What is written in the new dialect says what it was to say. -/
theorem annotation_newForm (list : IsNeatList platforms)
    (placeholder : IsNeatList rules.placeholder) :
    NewForm.annotation "System".toList (rules.newForm version platforms) =
      rules.writtenAnnotation .new version platforms := by
  have shown : (rules.newForm version platforms).existing? =
      some (rules.shownClause .new platforms) := by
    cases mode : rules.mode with
    | attributes =>
        apply NewForm.existing?_of_neat
        · simpa [shownClause, mode] using list
        · simp [newForm, shownClause, mode]
    | comments =>
        apply NewForm.existing?_of_neat
        · simpa [shownClause, mode] using placeholder
        · simp [newForm, shownClause, mode]
  unfold NewForm.annotation
  rw [shown, NewForm.token, newForm_version]
  rfl

/-- What is written in the old dialect says what it was to say. -/
theorem annotation_oldForm (keyword_eq : rules.keyword = "@available".toList) :
    OldForm.annotation rules.keyword "System".toList (rules.oldForm version platforms) =
      rules.writtenAnnotation .old version platforms := by
  have shown : (rules.oldForm version platforms).existing? rules.keyword =
      some (rules.shownClause .old platforms) := by
    cases mode : rules.mode <;>
      simp [oldForm, shownClause, mode, keyword_eq, OldForm.existing?, OldForm.writeInside,
        OldForm.writeBehind, OldForm.clause]
  unfold OldForm.annotation
  rw [shown, OldForm.token, oldForm_version]
  rfl

/-- An annotation that was written in the new dialect is recognized at once. -/
theorem findAnnotation?_newForm (formed : (rules.newForm version platforms).IsWellFormed)
    (whole : (rules.newForm version platforms).HasWholeVersion) (package : Text) :
    AvailabilityAnnotations.findAnnotation? rules.keyword package
        ((rules.newForm version platforms).write rules.keyword package) =
      some ⟨⟨ NewForm.annotation package (rules.newForm version platforms),
        (rules.newForm version platforms).write rules.keyword package, []⟩, []⟩ := by
  apply findAnnotation?_of_new
  have here := @NewForm.reading?_write package rules.keyword _ formed whole []
  rw [List.append_nil] at here
  apply firstOccurrence_eq_some_iff.2
  refine ⟨_, rfl, here, ?_⟩
  intro back place nonempty
  exact absurd (List.suffix_nil.1 place) nonempty

/-- An annotation that was written in the old dialect is recognized, and nothing of the new
dialect is seen in it. -/
theorem findAnnotation?_oldForm (keyword_eq : rules.keyword = "@available".toList)
    (formed : (rules.oldForm version platforms).IsWellFormed) (versionFree : '*' ∉ version)
    (listFree : '*' ∉ platforms) :
    AvailabilityAnnotations.findAnnotation? rules.keyword "System".toList
        ((rules.oldForm version platforms).write rules.keyword "System".toList) =
      some ⟨⟨ OldForm.annotation rules.keyword "System".toList (rules.oldForm version platforms),
        (rules.oldForm version platforms).write rules.keyword "System".toList, []⟩, []⟩ := by
  have complete : (rules.oldForm version platforms).behind? = none →
      OldForm.clause? rules.keyword [] = none := by
    rw [keyword_eq]
    intro _
    decide
  have here := @OldForm.reading?_write rules.keyword "System".toList _ formed [] complete
  rw [List.append_nil] at here
  rw [← List.nil_append (OldForm.write ..)]
  apply findAnnotation?_of_old _ here
  · intro back place nonempty
    exact absurd (List.suffix_nil.1 place) nonempty
  · intro other place
    rw [List.nil_append, OldForm.write, opening_old] at place
    rw [← Option.not_isSome_iff_eq_none, NewForm.isSome_reading?_iff, keyword_eq, opening_new]
    intro read
    obtain ⟨tail, opened, -⟩ := read
    have started : other ≠ [] := by simp [opened, newOpening_cons]
    apply avoids_oldForm keyword_eq versionFree listFree [] other place started
    exact ⟨tail, by rw [← opened, List.append_nil]⟩

/-- **What is written is recognized.** In either dialect and in either mode, the written form
of a token with a list is recognized from its first to its last character, in that dialect,
with that token and with that list in the clause that shows it. -/
theorem findAnnotation?_write (keyword_eq : rules.keyword = "@available".toList)
    (package_eq : rules.table.package = "System".toList) (dialect : Dialect)
    (nonempty : version ≠ []) (chars : ∀ char ∈ version, char ≠ ' ' ∧ char ≠ '*')
    (colonless : dialect = .new → ':' ∉ version) (list : IsNeatList platforms)
    (placeholder : IsNeatList rules.placeholder) :
    rules.findAnnotation? (rules.write dialect ("System ".toList ++ version) platforms) =
      some
        { annotation := rules.writtenAnnotation dialect version platforms
          written := rules.write dialect ("System ".toList ++ version) platforms
          after := []
          before := [] } := by
  have token : "System ".toList ++ version = "System".toList ++ ' ' :: version := by simp
  rw [Rules.findAnnotation?, package_eq, token]
  cases dialect with
  | new =>
      have versionChars : ∀ char ∈ version, NewForm.isVersionChar char = true := by
        intro char member
        have colon : char ≠ ':' := fun same => colonless rfl (same ▸ member)
        simp [NewForm.isVersionChar, chars char member, colon]
      obtain ⟨formed, whole⟩ := rules.newForm_isWellFormed nonempty versionChars list.plain
        (parenthesis_notMem placeholder.plain)
      rw [write_new, findAnnotation?_newForm formed whole, annotation_newForm list placeholder]
  | old =>
      have versionChars : ∀ char ∈ version, OldForm.isVersionChar char = true := by
        intro char member
        simp [OldForm.isVersionChar, chars char member]
      have formed := rules.oldForm_isWellFormed nonempty versionChars list.plain
      have versionFree : '*' ∉ version := fun member => (chars _ member).2 rfl
      have listFree : '*' ∉ platforms := by
        intro member
        simpa [NewForm.isNoteChar] using list.plain _ member
      rw [write_old, findAnnotation?_oldForm keyword_eq formed versionFree listFree,
        annotation_oldForm keyword_eq]

/-- A version that looks like the attribute and ends in a comma is told from the clause. -/
theorem findAnnotation?_write_comma :
    let rules := Rules.initial .comments
    let version : Text := "1,@available(/),".toList
    let platforms : Text := "macOS 12.0, iOS 15.0".toList
    IsNeatList platforms ∧ IsNeatList rules.placeholder ∧
      rules.findAnnotation? (rules.write .old ("System ".toList ++ version) platforms) =
        some ⟨⟨⟨.old, "System 1,@available(/),".toList,
            some ", @available(macOS 12.0, iOS 15.0, *)".toList⟩,
          "/*System 1,@available(/),, @available(macOS 12.0, iOS 15.0, *)*/".toList, []⟩, []⟩ := by
  intro rules version platforms
  have list : IsNeatList platforms := by decide
  have placeholder : IsNeatList rules.placeholder := by decide
  have chars : ∀ char ∈ version, char ≠ ' ' ∧ char ≠ '*' := by simp [version]
  exact ⟨list, placeholder, findAnnotation?_write rfl rfl .old (by decide) chars (by decide) list
    placeholder⟩

end Rules

end AvailabilityAnnotations

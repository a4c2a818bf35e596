/-
# No annotation is ever lost

What the rules write in the place of an annotation can be read again where it stands. So
whatever surrounds it, the line still has an annotation after the update, be it this one
or another one that the new text completed: dialect, token and place may change, but a
line with an annotation stays one. Lines without an annotation are not touched at all, and
the lines are cut at the same places. After any number of passes in any modes the same
lines have annotations, and each pass counts the same number of them.

The attribute and the package may be any text here, as long as a line stays a line.
-/

import Mathlib.Data.List.Forall2
import AvailabilityAnnotations.Proofs.Rules.Standard
import AvailabilityAnnotations.Proofs.Update.Changes

namespace AvailabilityAnnotations

/-- A line in which either dialect finds something has an annotation. -/
theorem isSome_findAnnotation?_of_find? {keyword package line : Text} {occurrence : Occurrence}
    (dialect : Dialect) (found : dialect.find? keyword package line = some occurrence) :
    (findAnnotation? keyword package line).isSome = true := by
  cases new : Dialect.new.find? keyword package line with
  | some first => simp [findAnnotation?_of_new new]
  | none =>
      cases dialect with
      | new => simp [new] at found
      | old => simp [findAnnotation?_eq_some_iff.2 (.inr ⟨new, found⟩)]

namespace Rules

variable {rules : Rules} {path : Path} {text : Text} {update : Update}

/-- What the rules write can be read in any line, so their placeholder and the lists of
their table close nothing. -/
structure IsPlain (rules : Rules) : Prop where
  lists : rules.table.HasPlainLists
  placeholder : ')' ∉ rules.placeholder

/-- The mode does not matter. -/
theorem IsPlain.inMode (plain : rules.IsPlain) (mode : Mode) : (rules.inMode mode).IsPlain :=
  ⟨plain.lists, plain.placeholder⟩

/-- An annotation that is written anew leaves an annotation in the line. -/
theorem isSome_findAnnotation?_rewritten (plain : rules.IsPlain) {body platforms : Text}
    {occurrence : Occurrence} (found : rules.findAnnotation? body = some occurrence)
    (known : rules.table.platforms? occurrence.annotation.token = some platforms) :
    (rules.findAnnotation? (rules.rewritten occurrence platforms)).isSome = true := by
  have list := plain.lists _ (PlatformTable.platforms?_eq_some_iff.1 known)
  rcases findAnnotation?_eq_some_iff.1 found with new | ⟨-, old⟩
  · obtain ⟨form, formed, meaning, -⟩ := Dialect.find?_new_sound new
    obtain ⟨written, -⟩ := rules.newForm_isWellFormed formed.version_ne_nil formed.version_chars
      list plain.placeholder
    obtain ⟨again, foundAgain, -⟩ := Dialect.exists_find?_new rules.keyword rules.table.package
      occurrence.before ⟨_, occurrence.after, written, rfl⟩
    have line : rules.rewritten occurrence platforms = occurrence.before ++
        (NewForm.opening rules.keyword rules.table.package ++
          ((rules.newForm form.version platforms).writeParts ++ occurrence.after)) := by
      simp [rewritten, meaning, NewForm.annotation, NewForm.token, write_new, NewForm.write,
        Occurrence.replaceBy]
    exact line ▸ isSome_findAnnotation?_of_find? .new foundAgain
  · obtain ⟨form, formed, meaning, -⟩ := Dialect.find?_old_sound old
    have written := rules.oldForm_isWellFormed formed.version_ne_nil formed.version_chars list
    have readable : OldForm.IsReadable rules.keyword
        ((rules.oldForm form.version platforms).writeParts rules.keyword ++ occurrence.after) :=
      ⟨_, occurrence.after, written, rfl⟩
    obtain ⟨again, foundAgain, -⟩ :=
      Dialect.exists_find?_old rules.table.package occurrence.before readable
    have line : rules.rewritten occurrence platforms = occurrence.before ++
        (OldForm.opening rules.table.package ++
          ((rules.oldForm form.version platforms).writeParts rules.keyword ++
            occurrence.after)) := by
      simp [rewritten, meaning, OldForm.annotation, OldForm.token, write_old, OldForm.write,
        Occurrence.replaceBy]
    exact line ▸ isSome_findAnnotation?_of_find? .old foundAgain

/-- A renewed body has an annotation exactly if it had one. -/
theorem isSome_findAnnotation?_renew (plain : rules.IsPlain) (body : Text) :
    (rules.findAnnotation? (rules.renew body)).isSome = (rules.findAnnotation? body).isSome := by
  cases found : rules.findAnnotation? body with
  | none => simp [renew, found]
  | some occurrence =>
      cases known : rules.table.platforms? occurrence.annotation.token with
      | none => simp [renew, found, known]
      | some platforms =>
          rw [renew_of_found found known, isSome_findAnnotation?_rewritten plain found known,
            Option.isSome_some]

/-- The line stays as it was, as far as its ending and the presence of an annotation go. -/
def SameLine (rules : Rules) (before after : Line) : Prop :=
  after.ending = before.ending ∧
    (rules.findAnnotation? after.body).isSome = (rules.findAnnotation? before.body).isSome

/-- An update keeps the number of lines, their endings, and which of them are annotated. -/
theorem forall₂_sameLine (lineFree : rules.IsLineFree) (plain : rules.IsPlain)
    (updated : rules.updateText path text = .ok update) :
    List.Forall₂ rules.SameLine (Line.split text) (Line.split update.content) := by
  rw [split_content lineFree updated, List.forall₂_map_right_iff, List.forall₂_same]
  exact fun line _ => ⟨rfl, isSome_findAnnotation?_renew plain line.body⟩

/-- Lines that stay as they were have the same number of annotations. -/
theorem annotationCount_eq {before after : List Line}
    (same : List.Forall₂ rules.SameLine before after) :
    rules.annotationCount after = rules.annotationCount before := by
  induction same with
  | nil => rfl
  | cons first _ ih =>
      simp only [annotationCount, List.countP_cons, first.2] at ih ⊢
      rw [ih]

/-- Update a text in one mode after the other, each time what the pass before left. The
first pass that fails ends the sequence with its failure. -/
def updateTextThrough (rules : Rules) (path : Path) : List Mode → Text → Except Failure Text
  | [], text => .ok text
  | mode :: modes, text =>
      match (rules.inMode mode).updateText path text with
      | .error failure => .error failure
      | .ok update => rules.updateTextThrough path modes update.content

/-- Passes succeed if the first one does and the others do on what it left. -/
theorem updateTextThrough_cons_eq_ok_iff {mode : Mode} {modes : List Mode} {last : Text} :
    rules.updateTextThrough path (mode :: modes) text = .ok last ↔
      ∃ update, (rules.inMode mode).updateText path text = .ok update ∧
        rules.updateTextThrough path modes update.content = .ok last := by
  rw [updateTextThrough]
  cases (rules.inMode mode).updateText path text <;> simp

/-- **No annotation is ever lost.** In a sequence of passes that all succeed, every pass
counts the annotations of the first text, and of every line it leaves the ending and the
presence of an annotation. -/
theorem updateTextThrough_annotations (lineFree : rules.IsLineFree) (plain : rules.IsPlain)
    {modes : List Mode} {last : Text}
    (passed : rules.updateTextThrough path modes text = .ok last) :
    ∀ earlier mode, earlier ++ [mode] <+: modes →
      ∃ before update, rules.updateTextThrough path earlier text = .ok before ∧
        (rules.inMode mode).updateText path before = .ok update ∧
        update.annotations = rules.annotationCount (Line.split text) ∧
        List.Forall₂ rules.SameLine (Line.split before) (Line.split update.content) := by
  induction modes generalizing text with
  | nil =>
      intro earlier mode reached
      simp at reached
  | cons first modes ih =>
      obtain ⟨update, updated, others⟩ := updateTextThrough_cons_eq_ok_iff.1 passed
      have sameInMode := forall₂_sameLine (lineFree.inMode first) (plain.inMode first) updated
      have same : List.Forall₂ rules.SameLine (Line.split text) (Line.split update.content) :=
        sameInMode
      have count : update.annotations = (rules.inMode first).annotationCount (Line.split text) :=
        updateLines_annotations updated
      intro earlier mode reached
      cases earlier with
      | nil =>
          obtain ⟨rfl, -⟩ := List.cons_prefix_cons.1 reached
          exact ⟨text, update, rfl, updated, count, same⟩
      | cons head earlier =>
          obtain ⟨rfl, later⟩ := List.cons_prefix_cons.1 reached
          obtain ⟨before, next, passedNext, updatedNext, counted, sameNext⟩ :=
            ih others earlier mode later
          refine ⟨before, next, ?_, updatedNext, counted.trans (annotationCount_eq same), sameNext⟩
          exact updateTextThrough_cons_eq_ok_iff.2 ⟨update, updated, passedNext⟩

/-- The second pass finds another annotation in the first line than the first pass did: the
attribute in front has become one of the new dialect. -/
theorem updateTextThrough_annotations_two_passes :
    let rules := Rules.initial .comments
    let text := "@available(/*System 0.0.2*/macOS 10)\r\nlet x = 1\n/*System 0.0.1*/".toList
    let modes : List Mode := [.attributes, .comments]
    rules.IsLineFree ∧ rules.IsPlain ∧ ∃ last,
      rules.updateTextThrough (.ofString "A.swift") modes text = .ok last ∧
      ∃ before update, rules.updateTextThrough (.ofString "A.swift") [.attributes] text =
          .ok before ∧
        (rules.inMode .comments).updateText (.ofString "A.swift") before = .ok update ∧
        update.annotations = rules.annotationCount (Line.split text) ∧
        List.Forall₂ rules.SameLine (Line.split before) (Line.split update.content) := by
  intro rules text modes
  have lineFree : rules.IsLineFree := Rules.initial_isLineFree .comments
  have plain : rules.IsPlain := ⟨(Rules.initial_isStandard .comments).plainLists, by decide⟩
  obtain ⟨last, passed⟩ : ∃ last,
      rules.updateTextThrough (.ofString "A.swift") modes text = .ok last := ⟨_, rfl⟩
  exact ⟨lineFree, plain, last, passed, updateTextThrough_annotations lineFree plain passed
    [.attributes] .comments (List.prefix_refl _)⟩

end Rules

end AvailabilityAnnotations

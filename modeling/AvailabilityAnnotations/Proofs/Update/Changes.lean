/-
# What an update reports

An update reports how many annotations it wrote anew and which lines are different now.
The number is that of the lines with an annotation. The report of changes is exact: lines
are reported exactly if the content is another text. That several different lines cannot
make up the old text together is seen from the line feeds. Every line keeps its ending, so
a text that is the old one has no room for a line feed in a new body; but then the lines
can be told apart, and each is its old self.

Neither the number, nor the lines, nor the content depends on the path.
-/

import AvailabilityAnnotations.Proofs.Text.Literal
import AvailabilityAnnotations.Proofs.Update.Lines

namespace AvailabilityAnnotations

namespace Line

variable {lines : List Line} {change : Line → Line}

/-- Lines that keep their endings have no fewer line feeds than lines that come out of a
text. -/
theorem IsCut.count_join_le (cut : IsCut lines)
    (ending : ∀ line, (change line).ending = line.ending) :
    (join lines).count '\n' ≤ (join (lines.map change)).count '\n' := by
  induction cut with
  | nil => simp
  | last wellFormed => simp [List.count_eq_zero_of_not_mem wellFormed.free, ending]
  | cons wellFormed _ _ ih =>
      simp only [List.map_cons, join_cons, List.count_append, ending,
        List.count_eq_zero_of_not_mem wellFormed.free]
      omega

/-- A body without line feeds can be told from what follows its ending. -/
theorem body_eq_of_append_eq {first second : Text} {ending : LineEnding} {rest rest' : Text}
    (ended : ending ≠ .none) (firstFree : '\n' ∉ first) (secondFree : '\n' ∉ second)
    (same : first ++ ending.text ++ rest = second ++ ending.text ++ rest') :
    first = second ∧ rest = rest' := by
  cases ending with
  | none => exact absurd rfl ended
  | lf => exact Text.cut_unique firstFree secondFree (by simpa [LineEnding.text] using same)
  | crlf =>
      have cut : (first ++ ['\r']) ++ '\n' :: rest = (second ++ ['\r']) ++ '\n' :: rest' := by
        simpa [LineEnding.text] using same
      obtain ⟨bodies, rests⟩ := Text.cut_unique (by simp [firstFree]) (by simp [secondFree]) cut
      exact ⟨List.append_cancel_right bodies, rests⟩

/-- Lines that keep their endings make up the same text only if none of them is
different. -/
theorem IsCut.map_eq_of_join_eq (cut : IsCut lines)
    (ending : ∀ line, (change line).ending = line.ending)
    (same : join (lines.map change) = join lines) : lines.map change = lines := by
  have whole {line : Line} (body : (change line).body = line.body) : change line = line :=
    (Line.mk.injEq ..).mpr ⟨body, ending line⟩
  induction cut with
  | nil => rfl
  | last wellFormed =>
      simp only [List.map_cons, List.map_nil, join_cons, join_nil, ending,
        List.append_cancel_right_eq] at same
      simp [whole same]
  | cons wellFormed ended rest ih =>
      rename_i line lines
      simp only [List.map_cons, join_cons, ending] at same
      -- The other lines have their line feeds already, so none is left for this body.
      have free : '\n' ∉ (change line).body := by
        have feeds := congrArg (List.count '\n') same
        have others := rest.count_join_le ending
        simp only [List.count_append, List.count_eq_zero_of_not_mem wellFormed.free] at feeds
        exact List.count_eq_zero.1 (by omega)
      obtain ⟨body, others⟩ := body_eq_of_append_eq ended free wellFormed.free same
      rw [List.map_cons, whole body, ih others]

end Line

namespace Rules

variable {rules : Rules} {path : Path} {number : Nat} {text : Text} {lines : List Line}
  {update : Update}

/-- The number of lines with an annotation. -/
def annotationCount (rules : Rules) (lines : List Line) : Nat :=
  lines.countP fun line => (rules.findAnnotation? line.body).isSome

/-- A line has a new body exactly if it has an annotation. -/
theorem isSome_of_updateLine {body : Text} {body? : Option Text}
    (updated : rules.updateLine path number body = .ok body?) :
    body?.isSome = (rules.findAnnotation? body).isSome := by
  unfold updateLine at updated
  cases found : rules.findAnnotation? body with
  | none =>
      rw [found] at updated
      cases updated
      rfl
  | some occurrence =>
      cases known : rules.table.platforms? occurrence.annotation.token with
      | none => simp [found, known] at updated
      | some platforms =>
          obtain rfl : some _ = body? := by simpa [found, known] using updated
          rfl

/-- The lines with an annotation are counted. -/
theorem updateLines_annotations (updated : rules.updateLines path number lines = .ok update) :
    update.annotations = rules.annotationCount lines := by
  induction lines generalizing number update with
  | nil =>
      cases updated
      rfl
  | cons line lines ih =>
      obtain ⟨body?, rest, first, others, rfl⟩ := updateLines_cons_eq_ok_iff.1 updated
      have annotated := isSome_of_updateLine first
      rw [annotationCount, List.countP_cons, ← annotated]
      cases body? <;> simp [Update.precede, ih others, annotationCount]

/-- A line that can be updated is updated alike under every path. -/
theorem updateLine_path {body : Text} {body? : Option Text} (other : Path)
    (updated : rules.updateLine path number body = .ok body?) :
    rules.updateLine other number body = .ok body? := by
  unfold updateLine at updated ⊢
  cases found : rules.findAnnotation? body with
  | none => simpa [found] using updated
  | some occurrence =>
      cases known : rules.table.platforms? occurrence.annotation.token with
      | none => simp [found, known] at updated
      | some platforms => simpa [found, known] using updated

/-- Lines that can be updated are updated alike under every path. -/
theorem updateLines_path (other : Path) (updated : rules.updateLines path number lines = .ok update) :
    rules.updateLines other number lines = .ok update := by
  induction lines generalizing number update with
  | nil => exact updated
  | cons line lines ih =>
      obtain ⟨body?, rest, first, others, rfl⟩ := updateLines_cons_eq_ok_iff.1 updated
      exact updateLines_cons_eq_ok_iff.2 ⟨body?, rest, updateLine_path other first, ih others, rfl⟩

/-- A text that can be updated is updated alike under every path. -/
theorem updateText_path (other : Path) (updated : rules.updateText path text = .ok update) :
    rules.updateText other text = .ok update :=
  updateLines_path other updated

/-- Lines are reported as different exactly if the content is another text. -/
theorem hasChanges_iff (updated : rules.updateText path text = .ok update) :
    update.hasChanges = true ↔ update.content ≠ text := by
  obtain ⟨content, changed⟩ := updateLines_sound updated
  have exact : update.changedLines = [] ↔ update.content = text := by
    rw [changed, content]
    constructor
    · intro same
      have lines : (Line.split text).map rules.renewLine = (Line.split text).map id :=
        List.map_congr_left fun line member => by rw [renewLine, same line member, id]
      rw [lines, List.map_id, Line.join_split]
    · intro same line member
      have endings (line : Line) : (rules.renewLine line).ending = line.ending := rfl
      have lines := (Line.isCut_split text).map_eq_of_join_eq endings
        (same.trans (Line.join_split text).symm)
      have equal := List.map_inj_left.1 (lines.trans (List.map_id _).symm) line member
      exact congrArg Line.body equal
  rw [Update.hasChanges, Bool.not_eq_true', List.isEmpty_eq_false_iff, ne_eq, ne_eq, exact]

end Rules

end AvailabilityAnnotations

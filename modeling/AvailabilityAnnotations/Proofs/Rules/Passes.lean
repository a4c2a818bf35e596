/-
# Passes over a line

A line can be updated again and again, each time in another mode. `updateThrough` is
such a sequence of passes; it goes on with the line that the pass before it wrote.
`IsRenewedAs` is what a pass should leave behind: the annotation that is found next is
the one that was just written, at the same place and with the same token.
-/

import AvailabilityAnnotations.Proofs.Annotation.Search
import AvailabilityAnnotations.Proofs.Rules.Written

namespace AvailabilityAnnotations

/-- `again` is found where `occurrence` stood, with the same dialect and token, and its
characters are exactly the ones that were written there. -/
structure Occurrence.IsRenewedAs (occurrence again : Occurrence) (written : Text) : Prop where
  dialect_eq : again.annotation.dialect = occurrence.annotation.dialect
  token_eq : again.annotation.token = occurrence.annotation.token
  before_eq : again.before = occurrence.before
  written_eq : again.written = written
  after_eq : again.after = occurrence.after

namespace Occurrence.IsRenewedAs

variable {occurrence again : Occurrence} {written : Text}

/-- The line that was written is the line of the annotation that is found in it. -/
theorem line_eq (renewed : occurrence.IsRenewedAs again written) :
    again.line = occurrence.replaceBy written := by
  simp [line, replaceBy, renewed.before_eq, renewed.written_eq, renewed.after_eq]

/-- Writing something else in its place does the same as before. -/
theorem replaceBy_eq (renewed : occurrence.IsRenewedAs again written) (other : Text) :
    again.replaceBy other = occurrence.replaceBy other := by
  simp [replaceBy, renewed.before_eq, renewed.after_eq]

/-- Of two passes the later one tells what is found. -/
theorem trans {last : Occurrence} {later : Text} (first : occurrence.IsRenewedAs again written)
    (second : again.IsRenewedAs last later) : occurrence.IsRenewedAs last later where
  dialect_eq := second.dialect_eq.trans first.dialect_eq
  token_eq := second.token_eq.trans first.token_eq
  before_eq := second.before_eq.trans first.before_eq
  written_eq := second.written_eq
  after_eq := second.after_eq.trans first.after_eq

end Occurrence.IsRenewedAs

namespace Rules

variable {line platforms : Text} {occurrence : Occurrence}

/-- Update a line in one mode after the other. A pass that fails, or that finds no
annotation, ends the sequence with its own answer. -/
def updateThrough (rules : Rules) (path : Path) (number : Nat) :
    List Mode → Text → Except Failure (Option Text)
  | [], line => .ok (some line)
  | mode :: modes, line =>
      match (rules.inMode mode).updateLine path number line with
      | .ok (some next) => rules.updateThrough path number modes next
      | other => other

/-- A line is written anew with the annotation that counts in it. -/
theorem updateLine_of_found (rules : Rules) (path : Path) (number : Nat)
    (found : rules.findAnnotation? line = some occurrence)
    (known : rules.table.platforms? occurrence.annotation.token = some platforms) :
    rules.updateLine path number line = .ok (some (rules.rewritten occurrence platforms)) := by
  simp [updateLine, rewritten, found, known]

end Rules

end AvailabilityAnnotations

/-
# The lines of an updated text

An update works on lines, but what it leaves behind is one text. Cut again in the one way in
which a text can be cut (`Line.split_eq_iff`), it has as many lines as before, with the same
endings in the same order, and every body is the one that the line by itself is updated to; a
line without an annotation keeps its body.

A body may hold carriage returns and may end in one. So a new body could turn a line feed into
an ending of two characters, or take part of such an ending away. That does not happen: what the
rules write never ends in a carriage return, and where they write nothing at the end of a line,
the old end stays. Line feeds get into a body only through the attribute, the placeholder or a
list of the table, which are free of them here.
-/

import AvailabilityAnnotations.Proofs.Update.Lines

namespace AvailabilityAnnotations

namespace Rules

variable {rules : Rules} {path : Path} {text : Text} {update : Update}

/-- What is made of a line with this number: the ending stays, and the body is what the line is
updated to, or the old one if the line holds no annotation. -/
structure IsUpdatedTo (rules : Rules) (path : Path) (number : Nat) (line after : Line) : Prop where
  ending_eq : after.ending = line.ending
  body_cases : rules.updateLine path number line.body = .ok (some after.body) ∨
    rules.updateLine path number line.body = .ok none ∧ after.body = line.body

/-- Lines that can be updated become the renewed lines, under any number. -/
theorem isUpdatedTo_renewLine {number : Nat} {lines : List Line}
    (updated : rules.updateLines path number lines = .ok update) {line : Line}
    (member : line ∈ lines) (own : Nat) :
    rules.IsUpdatedTo path own line (rules.renewLine line) := by
  obtain ⟨body?, passed, renewed⟩ := exists_updateLine_of_mem updated member own
  refine ⟨rfl, ?_⟩
  cases body? with
  | none => exact .inr ⟨passed, renewed.symm⟩
  | some body =>
      obtain rfl : body = rules.renew line.body := renewed
      exact .inl passed

/-- **An update keeps the lines apart.** The updated text is cut into as many lines as the text,
with the same endings in the same order, and the body of each line is what the line is updated
to, or its old one if it holds no annotation. -/
theorem updateText_keeps_lines (lineFree : rules.IsLineFree)
    (updated : rules.updateText path text = .ok update) :
    (Line.split update.content).map Line.ending = (Line.split text).map Line.ending ∧
      ∀ index line, (Line.split text)[index]? = some line →
        ∃ after, (Line.split update.content)[index]? = some after ∧
          rules.IsUpdatedTo path (index + 1) line after := by
  have cut := split_content lineFree updated
  constructor
  · have endings : Line.ending ∘ rules.renewLine = Line.ending := rfl
    rw [cut, List.map_map, endings]
  · intro index line here
    refine ⟨rules.renewLine line, ?_, ?_⟩
    · rw [cut, List.getElem?_map, here, Option.map_some]
    · exact isUpdatedTo_renewLine updated (List.mem_of_getElem? here) (index + 1)

/-- A body that ends in a carriage return in front of an ending of two characters, an annotation
right before such an ending, and a last line that ends in a carriage return and nothing else. -/
theorem updateText_keeps_lines_carriage_returns :
    let rules := Rules.initial .comments
    let text : Text := "a\r\r\n/*System 0.0.2*/\r\n\r/*System 0.0.1*/\r".toList
    let path := Path.ofString "A.swift"
    rules.IsLineFree ∧ ∃ update, rules.updateText path text = .ok update ∧
      (Line.split update.content).map Line.ending = [.crlf, .crlf, .none] ∧
      ∃ after, (Line.split update.content)[2]? = some after ∧
        rules.IsUpdatedTo path 3 ⟨"\r/*System 0.0.1*/\r".toList, .none⟩ after := by
  intro rules text path
  have lineFree : rules.IsLineFree := Rules.initial_isLineFree .comments
  obtain ⟨update, updated⟩ : ∃ update, rules.updateText path text = .ok update := ⟨_, rfl⟩
  have kept := updateText_keeps_lines lineFree updated
  exact ⟨lineFree, update, updated, kept.1, kept.2 2 _ rfl⟩

end Rules

end AvailabilityAnnotations

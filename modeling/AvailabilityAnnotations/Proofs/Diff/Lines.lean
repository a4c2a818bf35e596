/-
# The lines of a diff

For a diff, a line ends with a line feed, with a carriage return or with both. What is put
together from characters that end no line, an ending and a rest is cut in front of the rest
again, provided that the rest does not begin with a line feed, which a carriage return in front
of it would take for its own.
-/

import AvailabilityAnnotations.Diff.Edit

namespace AvailabilityAnnotations

namespace Diff

/-- What a line can end with. -/
def endings : List Text :=
  [[], ['\n'], ['\r', '\n'], ['\r']]

/-- A line: characters that do not end one, and at most one ending. -/
def IsLine (line : Text) : Prop :=
  ∃ body, '\n' ∉ body ∧ '\r' ∉ body ∧ ∃ ending ∈ endings, line = body ++ ending

/-- A character that ends no line comes in front of the first line. -/
theorem lines_cons {char : Char} (notFeed : char ≠ '\n') (notReturn : char ≠ '\r')
    (text : Text) : lines (char :: text) = prependChar char (lines text) := by
  rw [lines]
  · exact notFeed
  · intro rest same
    exact absurd same notReturn
  · exact notReturn

/-- Characters that end no line come in front of the first line. -/
theorem lines_append {body text first : Text} {others : List Text} (feedFree : '\n' ∉ body)
    (returnFree : '\r' ∉ body) (cut : lines text = first :: others) :
    lines (body ++ text) = (body ++ first) :: others := by
  induction body with
  | nil => exact cut
  | cons char body ih =>
      rw [List.mem_cons, not_or] at feedFree returnFree
      rw [List.cons_append, lines_cons (Ne.symm feedFree.1) (Ne.symm returnFree.1),
        ih feedFree.2 returnFree.2]
      rfl

theorem ending_cases {ending : Text} (known : ending ∈ endings) (nonempty : ending ≠ []) :
    ending = ['\n'] ∨ ending = ['\r', '\n'] ∨ ending = ['\r'] := by
  simpa [endings, nonempty] using known

/-- An ending that a line feed does not follow ends a line. -/
theorem lines_ending {ending rest : Text} (known : ending ∈ endings) (nonempty : ending ≠ [])
    (border : rest.head? ≠ some '\n') : lines (ending ++ rest) = ending :: lines rest := by
  rcases ending_cases known nonempty with rfl | rfl | rfl
  · rfl
  · rfl
  · show lines ('\r' :: rest) = ['\r'] :: lines rest
    rw [lines]
    intro others same
    exact border (by rw [same]; rfl)

theorem isLine_cons {char : Char} {line : Text} (notFeed : char ≠ '\n')
    (notReturn : char ≠ '\r') (isLine : IsLine line) : IsLine (char :: line) := by
  obtain ⟨body, feedFree, returnFree, ending, known, rfl⟩ := isLine
  exact ⟨char :: body, by simp [Ne.symm notFeed, feedFree],
    by simp [Ne.symm notReturn, returnFree], ending, known, rfl⟩

theorem isLine_ending {ending : Text} (known : ending ∈ endings) : IsLine ending :=
  ⟨[], by simp, by simp, ending, known, rfl⟩

/-- A text is cut into lines. -/
theorem forall_isLine_lines (text : Text) : ∀ line ∈ lines text, IsLine line := by
  fun_induction lines text with
  | case1 => simp
  | case2 rest ih => exact List.forall_mem_cons.2 ⟨isLine_ending (by simp [endings]), ih⟩
  | case3 rest ih => exact List.forall_mem_cons.2 ⟨isLine_ending (by simp [endings]), ih⟩
  | case4 rest _ ih => exact List.forall_mem_cons.2 ⟨isLine_ending (by simp [endings]), ih⟩
  | case5 char rest notFeed _ notReturn ih =>
      cases shape : lines rest with
      | nil =>
          have alone : IsLine [char] :=
            isLine_cons notFeed notReturn (isLine_ending (by simp [endings]))
          simpa [prependChar] using alone
      | cons first others =>
          rw [shape, List.forall_mem_cons] at ih
          exact List.forall_mem_cons.2 ⟨isLine_cons notFeed notReturn ih.1, ih.2⟩

end Diff

end AvailabilityAnnotations

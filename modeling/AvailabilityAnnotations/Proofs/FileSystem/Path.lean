/-
# The pieces of names and paths

The extension of a name and the steps of a path come from the pieces between dots and
between slashes. Both are settled by the last separator of a text: the pieces in front of
it are those of the text in front of it, and one piece is left
(`exists_last_cut`, `pieces_append`).

So an extension is what stands behind the last dot (`extension?_eq_some_iff`), and the path
of an entry takes the steps that lead to the directory and then enters the entry
(`exists_steps_child`).
-/

import AvailabilityAnnotations.FileSystem.Path

namespace AvailabilityAnnotations

namespace Text

variable {separator : Char} {text : Text}

theorem pieces_ne_nil (separator : Char) (text : Text) : pieces separator text ≠ [] := by
  cases text with
  | nil => simp [pieces]
  | cons char text =>
      rw [pieces]
      split
      · simp
      · split <;> simp

/-- A text without separators is one piece. -/
theorem pieces_of_notMem (free : separator ∉ text) : pieces separator text = [text] := by
  induction text with
  | nil => rfl
  | cons char text ih =>
      obtain ⟨different, free⟩ := not_or.1 (mt List.mem_cons.2 free)
      rw [pieces, if_neg (Ne.symm different), ih free]

/-- A separator divides the pieces in front of it from those behind it. -/
theorem pieces_append (separator : Char) (front back : Text) :
    pieces separator (front ++ separator :: back) =
      pieces separator front ++ pieces separator back := by
  induction front with
  | nil => simp [pieces]
  | cons char front ih =>
      rw [List.cons_append, pieces, pieces, ih]
      split
      · rfl
      · obtain ⟨piece, others, cut⟩ := List.exists_cons_of_ne_nil (pieces_ne_nil separator front)
        rw [cut]
        rfl

/-- A text with a separator can be cut at the last one. -/
theorem exists_last_cut (member : separator ∈ text) :
    ∃ front last, text = front ++ separator :: last ∧ separator ∉ last := by
  obtain ⟨last, front, cut, free⟩ := List.eq_append_cons_of_mem (List.mem_reverse.2 member)
  refine ⟨front.reverse, last.reverse, ?_, by simpa using free⟩
  rw [← List.reverse_reverse text, cut]
  simp

/-- The last piece is empty only in an empty text and behind a separator at the end. -/
theorem getLast?_pieces_ne (nonempty : text ≠ []) (unended : text.getLast? ≠ some separator) :
    (pieces separator text).getLast? ≠ some [] := by
  by_cases member : separator ∈ text
  · obtain ⟨front, last, rfl, free⟩ := exists_last_cut member
    rw [pieces_append, pieces_of_notMem free, List.getLast?_concat]
    rintro ⟨⟩
    simp at unended
  · simpa [pieces_of_notMem member] using nonempty

end Text

open Text

/-- The name ends in a dot and the extension, something stands in front of the dot, and no
other dot follows it. -/
def Name.HasExtension (name : Name) (extension : Text) : Prop :=
  '.' ∉ extension ∧ ∃ stem, stem ≠ [] ∧ name.text = stem ++ '.' :: extension

namespace Name

variable {name : Name} {extension stem last : Text}

/-- Something in front of the last dot makes what stands behind it an extension. -/
theorem extension?_of_cut (cut : name.text = stem ++ '.' :: last) (nonempty : stem ≠ [])
    (free : '.' ∉ last) : name.extension? = some last := by
  rw [extension?, cut, pieces_append, pieces_of_notMem free]
  split
  · next piece alone =>
      have none : pieces '.' stem = [] := by simpa using congrArg List.dropLast alone
      exact absurd none (pieces_ne_nil '.' stem)
  · next piece two =>
      have first : pieces '.' stem = [[]] := by simpa using congrArg List.dropLast two
      have unended : stem.getLast? ≠ some '.' := by
        intro ended
        obtain ⟨front, rfl⟩ := List.getLast?_eq_some_iff.1 ended
        rw [pieces_append] at first
        exact pieces_ne_nil '.' front (by simpa [pieces] using congrArg List.length first)
      refine absurd ?_ (getLast?_pieces_ne nonempty unended)
      rw [first]
      rfl
  · exact List.getLast?_concat

/-- An extension is what stands behind the last dot, if that is not the first character. -/
theorem extension?_eq_some_iff :
    name.extension? = some extension ↔ name.HasExtension extension := by
  constructor
  · intro shown
    by_cases member : '.' ∈ name.text
    · obtain ⟨stem, last, cut, free⟩ := exists_last_cut member
      by_cases nonempty : stem = []
      · -- The only dot stands at the front.
        subst nonempty
        simp [extension?, cut, pieces, pieces_of_notMem free] at shown
      · rw [extension?_of_cut cut nonempty free] at shown
        cases shown
        exact ⟨free, stem, nonempty, cut⟩
    · simp [extension?, pieces_of_notMem member] at shown
  · rintro ⟨free, stem, nonempty, cut⟩
    exact extension?_of_cut cut nonempty free

end Name

namespace Path

variable {directory : Path}

/-- The steps for pieces that are not the last ones. -/
def innerSteps (pieces : List Text) : List Step :=
  (pieces.filter (· ≠ [])).map stepOfPiece

theorem stepsOfPieces_append (front : List Text) {back : List Text} (more : back ≠ []) :
    stepsOfPieces (front ++ back) = innerSteps front ++ stepsOfPieces back := by
  induction front with
  | nil => rfl
  | cons piece front ih =>
      have later : front ++ back ≠ [] := by simp [more]
      obtain ⟨next, others, cut⟩ := List.exists_cons_of_ne_nil later
      rw [List.cons_append, cut, stepsOfPieces, ← cut, ih]
      · by_cases empty : piece = [] <;> simp [innerSteps, empty]
      · simp

/-- Without an empty piece at the end, the last piece is a step like the others. -/
theorem stepsOfPieces_eq {pieces : List Text} (ended : pieces.getLast? ≠ some []) :
    stepsOfPieces pieces = innerSteps pieces := by
  rcases List.eq_nil_or_concat pieces with rfl | ⟨front, last, rfl⟩
  · rfl
  · have nonempty : last ≠ [] := by simpa using ended
    rw [List.concat_eq_append, stepsOfPieces_append front (by simp)]
    simp [stepsOfPieces, innerSteps, nonempty]

/-- The step into an entry. -/
theorem stepsOfPieces_name (name : Name) : stepsOfPieces [name.text] = [.enter name.text] := by
  obtain ⟨nonempty, notHere, notUp, -⟩ := name.isName
  simp [stepsOfPieces, stepOfPiece, nonempty, notHere, notUp]

/-- The text of a directory's path with a slash at its end. -/
def slashed (directory : Path) : Text :=
  if directory.text = [] ∨ directory.text.getLast? = some '/' then directory.text
  else directory.text ++ ['/']

theorem text_child (directory : Path) (name : Name) :
    (directory.child name).text = directory.slashed ++ name.text := by
  obtain ⟨-, -, -, slashFree, -⟩ := name.isName
  have relative : ¬ (⟨name.text⟩ : Path).isAbsolute := by
    rw [isAbsolute, decide_eq_true_iff]
    exact fun first => slashFree (List.mem_of_mem_head? first)
  rw [child, join, if_neg relative, slashed]
  split <;> simp

/-- The path of an entry takes the steps to the directory and enters the entry. Only a
slash at the end of the directory's path is a step less. -/
theorem exists_steps_child (nonempty : directory.text ≠ []) :
    ∃ front, (directory.steps = front ∨ directory.steps = front ++ [.here]) ∧
      ∀ name, (directory.child name).steps = front ++ [.enter name.text] := by
  have behind (front : Text) (name : Name) :
      stepsOfPieces (pieces '/' (front ++ '/' :: name.text)) =
        innerSteps (pieces '/' front) ++ [.enter name.text] := by
    obtain ⟨-, -, -, slashFree, -⟩ := name.isName
    rw [pieces_append, pieces_of_notMem slashFree, stepsOfPieces_append _ (by simp),
      stepsOfPieces_name]
  by_cases ended : directory.text.getLast? = some '/'
  · obtain ⟨front, cut⟩ := List.getLast?_eq_some_iff.1 ended
    refine ⟨innerSteps (pieces '/' front), .inr ?_, fun name => ?_⟩
    · rw [steps, cut, pieces_append, stepsOfPieces_append _ (pieces_ne_nil _ _)]
      rfl
    · rw [← behind, steps, text_child, slashed, if_pos (.inr ended), cut]
      simp
  · refine ⟨innerSteps (pieces '/' directory.text), .inl ?_, fun name => ?_⟩
    · exact stepsOfPieces_eq (getLast?_pieces_ne nonempty ended)
    · rw [← behind, steps, text_child, slashed, if_neg (by simp [nonempty, ended])]
      simp

end Path

end AvailabilityAnnotations

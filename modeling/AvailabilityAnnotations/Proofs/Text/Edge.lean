/-
# Edges inside a text

Two operations find a place inside a text. A byte offset is a place if it falls between two
characters; then it cuts the text there, and the width of the front is the offset. Trimming
finds the places where the blanks at either end stop; a text that has no blank at an end is
left alone there. `IsLeft` and `IsTrimmed` say what is left without saying how it is found.
-/

import Mathlib.Data.List.DropRight
import AvailabilityAnnotations.Text.Blank

namespace AvailabilityAnnotations

namespace Text

/-- The bytes of a front lead to the edge behind it. -/
theorem takeWidth?_width_append (front rest : Text) :
    takeWidth? front.width (front ++ rest) = some front := by
  induction front with
  | nil => cases rest <;> rfl
  | cons char front ih =>
      have positive := char.utf8Size_pos
      have later : char.utf8Size + width front ≠ 0 := by omega
      rw [width_cons, List.cons_append, takeWidth?, if_neg later, if_pos (Nat.le_add_right ..),
        Nat.add_sub_cancel_left, ih, Option.map_some]

/-- Behind the bytes of a front stands the rest. -/
theorem dropWidth?_width_append (front rest : Text) :
    dropWidth? front.width (front ++ rest) = some rest := by
  induction front with
  | nil => cases rest <;> rfl
  | cons char front ih =>
      have positive := char.utf8Size_pos
      have later : char.utf8Size + width front ≠ 0 := by omega
      rw [width_cons, List.cons_append, dropWidth?, if_neg later, if_pos (Nat.le_add_right ..),
        Nat.add_sub_cancel_left, ih]

/-- A run at the end is dropped up to the character that ended it. -/
theorem dropEndWhile_append_run {drop : Char → Bool} {text run : Text}
    (inside : ∀ char ∈ run, drop char = true)
    (outside : ∀ char ∈ text.getLast?, drop char = false) :
    dropEndWhile drop (text ++ run) = text := by
  have reversed : ∀ char ∈ run.reverse, drop char = true := by
    intro char member
    exact inside char (List.mem_reverse.1 member)
  rw [dropEndWhile, List.reverse_append, List.dropWhile_append_of_pos reversed]
  rcases List.eq_nil_or_concat text with rfl | ⟨front, last, rfl⟩
  · rfl
  · have stops : drop last = false := outside last (by simp)
    rw [List.concat_eq_append, List.reverse_append, List.reverse_singleton,
      List.singleton_append, List.dropWhile_cons_of_neg (by simp [stops]), List.reverse_cons,
      List.reverse_reverse]

/-- Nothing is dropped behind a last character that is to stay. -/
theorem dropEndWhile_eq_self {drop : Char → Bool} {text : Text}
    (outside : ∀ char ∈ text.getLast?, drop char = false) : dropEndWhile drop text = text := by
  have nothing : ∀ char ∈ ([] : Text), drop char = true := by simp
  simpa using dropEndWhile_append_run nothing outside

/-- What is left of the text when a run of characters of a class is taken away at its end:
it does not end in such a character itself. -/
structure IsLeft (drop : Char → Bool) (text left : Text) : Prop where
  exists_run : ∃ run, text = left ++ run ∧ ∀ char ∈ run, drop char = true
  outside : ∀ char ∈ left.getLast?, drop char = false

/-- The longest run at the end is dropped. -/
theorem dropEndWhile_eq_iff {drop : Char → Bool} {text left : Text} :
    text.dropEndWhile drop = left ↔ IsLeft drop text left := by
  constructor
  · rintro rfl
    refine ⟨⟨text.rtakeWhile drop, ?_, fun _ => List.mem_rtakeWhile_imp⟩, ?_⟩
    · exact List.rdropWhile_append_rtakeWhile.symm
    · intro char last
      rw [dropEndWhile, List.getLast?_reverse] at last
      obtain ⟨rest, stopped⟩ := List.head?_eq_some_iff.1 (Option.mem_def.1 last)
      exact not_of_dropWhile_eq_cons stopped
  · rintro ⟨⟨run, rfl, inside⟩, outside⟩
    exact dropEndWhile_append_run inside outside

/-- A text with no blank in front keeps its front when it is trimmed. -/
theorem dropWhile_isBlank_eq_self {text : Text}
    (outside : ∀ char ∈ text.head?, isBlank char = false) : text.dropWhile isBlank = text := by
  cases text with
  | nil => rfl
  | cons char text =>
      have stops : isBlank char = false := outside char rfl
      rw [List.dropWhile_cons_of_neg (by simp [stops])]

/-- What is left of the text without the blanks at its two ends. -/
structure IsTrimmed (text trimmed : Text) : Prop where
  exists_blanks : ∃ front back, text = front ++ trimmed ++ back ∧
    (∀ char ∈ front, isBlank char = true) ∧ ∀ char ∈ back, isBlank char = true
  front : ∀ char ∈ trimmed.head?, isBlank char = false
  back : ∀ char ∈ trimmed.getLast?, isBlank char = false

/-- All the blanks at the two ends are trimmed, and nothing else. -/
theorem trim_eq_iff {text trimmed : Text} : text.trim = trimmed ↔ IsTrimmed text trimmed := by
  rw [trim, trimEnd, dropEndWhile_eq_iff]
  constructor
  · rintro ⟨⟨run, shape, blank⟩, back⟩
    refine ⟨⟨text.takeWhile isBlank, run, ?_, fun _ => of_mem_takeWhile, blank⟩, ?_, back⟩
    · rw [List.append_assoc, ← shape]
      exact eq_takeWhile_append_dropWhile isBlank text
    · intro char first
      obtain ⟨rest, rfl⟩ := List.head?_eq_some_iff.1 (Option.mem_def.1 first)
      exact not_of_dropWhile_eq_cons shape
  · rintro ⟨⟨front, run, rfl, inFront, inRun⟩, first, back⟩
    rw [List.append_assoc, List.dropWhile_append_of_pos inFront]
    cases trimmed with
    | nil =>
        have nothing : run.dropWhile isBlank = [] := by simpa using inRun
        exact ⟨⟨[], by simp [nothing], by simp⟩, back⟩
    | cons char trimmed =>
        have kept : (char :: trimmed ++ run).dropWhile isBlank = char :: trimmed ++ run :=
          dropWhile_isBlank_eq_self first
        exact ⟨⟨run, kept, inRun⟩, back⟩

end Text

end AvailabilityAnnotations

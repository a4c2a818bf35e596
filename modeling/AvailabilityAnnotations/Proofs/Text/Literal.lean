/-
# Where a literal can begin

Annotations are found by literal openings, and they are rewritten in the middle of
texts that may hold anything. Whether an opening can begin at some place of the
rewritten line is a question about three pieces: what stands in front of that place,
the literal, and what follows. This module settles it piece by piece.

`Avoids` says that no occurrence of a literal begins within one piece. It is proved
for short pieces and put together by `Avoids.append`. `cut_unique` compares two ways
to cut one text at the first occurrence of a character.
-/

import AvailabilityAnnotations.Text

namespace AvailabilityAnnotations

namespace Text

/-- A run of characters of a class is found in front of a character outside it. -/
theorem takeWhile_append_stop {accept : Char → Bool} {run : Text} {stop : Char}
    (inside : ∀ char ∈ run, accept char = true) (outside : accept stop = false) (rest : Text) :
    (run ++ stop :: rest).takeWhile accept = run := by
  rw [List.takeWhile_append_of_pos inside, List.takeWhile_cons_of_neg (by simp [outside]),
    List.append_nil]

/-- Behind a run of characters of a class stands the character that ended it. -/
theorem dropWhile_append_stop {accept : Char → Bool} {run : Text} {stop : Char}
    (inside : ∀ char ∈ run, accept char = true) (outside : accept stop = false) (rest : Text) :
    (run ++ stop :: rest).dropWhile accept = stop :: rest := by
  rw [List.dropWhile_append_of_pos inside, List.dropWhile_cons_of_neg (by simp [outside])]

/-- There is one way to cut a text at the first occurrence of a character. -/
theorem cut_unique {char : Char} {first second firstRest secondRest : Text}
    (firstFree : char ∉ first) (secondFree : char ∉ second)
    (same : first ++ char :: firstRest = second ++ char :: secondRest) :
    first = second ∧ firstRest = secondRest := by
  have other (text : Text) (free : char ∉ text) :
      ∀ found ∈ text, (decide (found ≠ char)) = true := by
    intro found member
    exact decide_eq_true fun equal => free (equal ▸ member)
  have runs := congrArg (List.takeWhile fun found => decide (found ≠ char)) same
  rw [takeWhile_append_stop (other first firstFree) (by simp) firstRest,
    takeWhile_append_stop (other second secondFree) (by simp) secondRest] at runs
  subst runs
  exact ⟨rfl, List.cons.inj (List.append_cancel_left same) |>.2⟩

/-- Where a character lies that does not belong to a literal: behind the literal, or in
front of it. -/
theorem split_at_cons {first literal rest ahead tail : Text} {head : Char}
    (foreign : head ∉ literal) (same : first ++ (literal ++ rest) = ahead ++ head :: tail) :
    (∃ after, ahead = first ++ literal ++ after ∧ rest = after ++ head :: tail) ∨
      ∃ later, first = ahead ++ head :: later ∧ tail = later ++ literal ++ rest := by
  rcases List.append_eq_append_iff.1 same with ⟨more, rfl, behind⟩ | ⟨more, rfl, behind⟩
  · rcases List.append_eq_append_iff.1 behind with ⟨after, rfl, later⟩ | ⟨ahead, rfl, later⟩
    · exact .inl ⟨after, by simp, later⟩
    · cases ahead with
      | nil => exact .inl ⟨[], by simp, later.symm⟩
      | cons char ahead =>
          obtain ⟨rfl, -⟩ : head = char ∧ tail = ahead ++ rest := by simpa using later
          exact absurd (by simp) foreign
  · cases more with
    | nil =>
        cases literal with
        | nil => exact .inl ⟨[], by simp, behind.symm⟩
        | cons char literal =>
            obtain ⟨rfl, -⟩ : head = char ∧ tail = literal ++ rest := by simpa using behind
            exact absurd (by simp) foreign
    | cons char later =>
        obtain ⟨rfl, rfl⟩ : head = char ∧ tail = later ++ (literal ++ rest) := by
          simpa using behind
        exact .inr ⟨later, rfl, by simp⟩

/-- A place in two pieces is a place in the second or one in the first. -/
theorem suffix_append_iff {tail first second : Text} :
    tail <:+ first ++ second ↔
      tail <:+ second ∨ ∃ back, back <:+ first ∧ back ≠ [] ∧ tail = back ++ second := by
  constructor
  · rintro ⟨front, cut⟩
    rcases List.append_eq_append_iff.1 cut with ⟨back, rfl, rfl⟩ | ⟨front', rfl, rfl⟩
    · by_cases empty : back = []
      · exact .inl (by simp [empty])
      · exact .inr ⟨back, ⟨front, rfl⟩, empty, rfl⟩
    · exact .inl ⟨front', rfl⟩
  · rintro (inSecond | ⟨back, ⟨front, rfl⟩, -, rfl⟩)
    · exact List.suffix_append_of_suffix inSecond
    · exact ⟨front, by simp⟩

/-- What ends with a run, in front of which something else stands, ends with its last
character, in front of which stands the rest. -/
theorem exists_of_append_suffix_concat {opening run text : Text} {char : Char}
    (nonempty : run ≠ []) (place : opening ++ run <:+ text ++ [char]) :
    ∃ front, run = front ++ [char] ∧ opening ++ front <:+ text := by
  obtain ⟨front, last, rfl⟩ := (List.eq_nil_or_concat run).resolve_left nonempty
  obtain ⟨before, cut⟩ := place
  have same : (before ++ (opening ++ front)) ++ [last] = text ++ [char] := by
    simpa using cut
  obtain ⟨rfl, ends⟩ := List.append_inj' same rfl
  obtain rfl := List.singleton_inj.1 ends
  exact ⟨front, List.concat_eq_append, before, rfl⟩

/-- Every character takes up space. -/
theorem width_eq_zero_iff {text : Text} : text.width = 0 ↔ text = [] := by
  cases text with
  | nil => simp
  | cons char text =>
      have positive := char.utf8Size_pos
      simp only [width_cons, reduceCtorEq, iff_false]
      omega

/-- No occurrence of `literal` begins within `segment` while `rest` stands behind it. -/
def Avoids (literal segment rest : Text) : Prop :=
  ∀ back, back <:+ segment → back ≠ [] → ¬ literal <+: back ++ rest

namespace Avoids

variable {literal first second rest : Text}

/-- Pieces are examined one by one, each in front of what follows it. -/
theorem append (inFirst : Avoids literal first (second ++ rest))
    (inSecond : Avoids literal second rest) : Avoids literal (first ++ second) rest := by
  intro back place nonempty
  rcases suffix_append_iff.1 place with later | ⟨front, within, started, rfl⟩
  · exact inSecond back later nonempty
  · rw [List.append_assoc]
    exact inFirst front within started

/-- A literal does not begin in a piece without its first character. -/
theorem of_notMem {head : Char} (free : head ∉ first) :
    Avoids (head :: literal) first rest := by
  intro back place nonempty
  cases back with
  | nil => exact absurd rfl nonempty
  | cons char back =>
      rintro ⟨tail, same⟩
      simp only [List.cons_append, List.cons.injEq] at same
      exact free (place.subset (by simp [same.1]))

/-- A literal does not begin in a piece that does not hold it, if the character behind the
piece does not belong to it. -/
theorem of_fence {fence : Char} (foreign : fence ∉ literal) (absent : ¬ literal <:+: first) :
    Avoids literal first (fence :: rest) := by
  intro back place _ begins
  obtain ⟨tail, same⟩ := begins
  have cut : [] ++ (literal ++ tail) = back ++ fence :: rest := same
  rcases split_at_cons foreign cut with ⟨after, rfl, -⟩ | ⟨later, nothing, -⟩
  · apply absent
    rw [List.nil_append] at place
    exact (List.prefix_append ..).isInfix.trans place.isInfix
  · simp at nothing

end Avoids

/-- A literal whose first character occurs in it only once does not reach into a piece
that begins with this character. -/
theorem prefix_of_prefix_append_cons {head : Char} {literal back rest : Text}
    (once : head ∉ literal) (nonempty : back ≠ [])
    (begins : head :: literal <+: back ++ head :: rest) : head :: literal <+: back := by
  obtain ⟨tail, cut⟩ := begins
  rcases List.append_eq_append_iff.1 cut with ⟨more, rfl, -⟩ | ⟨ahead, split, behind⟩
  · exact List.prefix_append ..
  · cases back with
    | nil => exact absurd rfl nonempty
    | cons char back =>
        simp only [List.cons_append, List.cons.injEq] at split
        cases ahead with
        | nil => exact ⟨[], by simp [split.1, split.2]⟩
        | cons char' ahead =>
            simp only [List.cons_append, List.cons.injEq] at behind
            exact absurd (by simp [split.2, behind.1]) once

end Text

end AvailabilityAnnotations

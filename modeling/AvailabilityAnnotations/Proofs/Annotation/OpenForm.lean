/-
# Forms that are left open

An annotation is rewritten in the middle of a line, and the text in front of it may have
begun another annotation without finishing it. What follows then decides whether that
one can be read after all. The two main statements take a form that can be read over
the border between a front and a rest and say how it lies there: it ends in the front,
or the front leaves it open and the rest finishes it. The third possibility, that the
comment reaches into the rest, is kept apart for the new dialect and impossible for the
old one when the rest begins a comment of its own.
-/

import AvailabilityAnnotations.Proofs.Annotation.NewForm
import AvailabilityAnnotations.Proofs.Annotation.OldForm

namespace AvailabilityAnnotations

/-- Arguments are exactly the texts without a closing parenthesis. -/
theorem forall_isArgumentChar_iff {text : Text} :
    (∀ char ∈ text, isArgumentChar char = true) ↔ ')' ∉ text := by
  constructor
  · intro chars member
    simpa [isArgumentChar] using chars _ member
  · intro free char member
    simp only [isArgumentChar, decide_eq_true_eq]
    rintro rfl
    exact free member

namespace NewForm

/-- The form as it is written up to its arguments, without the star and the parenthesis
that close them. -/
def writeOpen (form : NewForm) : Text :=
  form.version ++ form.note ++ "*/".toList ++ form.arguments

/-- The text finishes arguments that were left open: the first closing parenthesis has a
star in front of it. -/
def ClosesArguments (text : Text) : Prop :=
  ∃ arguments rest : Text, ')' ∉ arguments ∧ text = arguments ++ '*' :: ')' :: rest

/-- The text ends in a form that is left open. -/
def IsOpenIn (keyword package text : Text) : Prop :=
  ∃ form : NewForm, form.IsWellFormed ∧ opening keyword package ++ form.writeOpen <:+ text

/-- A text that becomes open with one more character has the opening in it. -/
theorem IsOpenIn.exists_front {keyword package text : Text} {char : Char}
    (left : IsOpenIn keyword package (text ++ [char])) :
    ∃ (form : NewForm) (front : Text), form.IsWellFormed ∧ form.writeOpen = front ++ [char] ∧
      opening keyword package ++ front <:+ text := by
  obtain ⟨form, wellFormed, place⟩ := left
  have nonempty : form.writeOpen ≠ [] := by
    simp [writeOpen, wellFormed.version_ne_nil]
  obtain ⟨front, shape, inFront⟩ := Text.exists_of_append_suffix_concat nonempty place
  exact ⟨form, front, wellFormed, shape, inFront⟩

/-- Version and note together are free of stars. -/
theorem IsWellFormed.star_notMem {form : NewForm} (wellFormed : form.IsWellFormed) :
    '*' ∉ form.version ++ form.note := by
  intro member
  rcases List.mem_append.1 member with inVersion | inNote
  · simpa [isVersionChar] using wellFormed.version_chars _ inVersion
  · simpa [isNoteChar] using wellFormed.note_chars _ inNote

/-- What is written tells the arguments, even where it does not tell the version from the
note. -/
theorem arguments_unique {first second : NewForm} {firstRest secondRest : Text}
    (firstStar : '*' ∉ first.version ++ first.note) (firstFree : ')' ∉ first.arguments)
    (secondStar : '*' ∉ second.version ++ second.note) (secondFree : ')' ∉ second.arguments)
    (same : first.writeParts ++ firstRest = second.writeParts ++ secondRest) :
    first.arguments = second.arguments := by
  have cut : (first.version ++ first.note) ++ '*' :: '/' ::
      ((first.arguments ++ ['*']) ++ ')' :: firstRest) =
        (second.version ++ second.note) ++ '*' :: '/' ::
          ((second.arguments ++ ['*']) ++ ')' :: secondRest) := by
    simpa [writeParts] using same
  obtain ⟨-, behind⟩ := Text.cut_unique firstStar secondStar cut
  obtain ⟨arguments, -⟩ := Text.cut_unique (by simp [firstFree]) (by simp [secondFree])
    (List.cons.inj behind).2
  exact List.append_cancel_right arguments

/-- Other arguments in the place of the old ones. -/
theorem IsWellFormed.withArguments {form : NewForm} (wellFormed : form.IsWellFormed)
    {arguments : Text} (free : ')' ∉ arguments) :
    ({ form with arguments } : NewForm).IsWellFormed :=
  { wellFormed with arguments_chars := forall_isArgumentChar_iff.2 free }

/-- Arguments that are cut in two: the first part can stand in their place, and the second
one holds no closing parenthesis either. -/
theorem IsWellFormed.cutArguments {form : NewForm} (wellFormed : form.IsWellFormed)
    {arguments later : Text} (inside : form.arguments = arguments ++ later) :
    ({ form with arguments } : NewForm).IsWellFormed ∧ ')' ∉ later := by
  have free := forall_isArgumentChar_iff.1 wellFormed.arguments_chars
  rw [inside, List.mem_append, not_or] at free
  exact ⟨wellFormed.withArguments free.1, free.2⟩

/-- A closing parenthesis does not finish arguments if the characters right in front of it
are no stars. -/
theorem not_closesArguments {front run rest : Text} {first : Char} (frontFree : ')' ∉ front)
    (runFree : ')' ∉ first :: run) (unstarred : '*' ∉ first :: run) :
    ¬ ClosesArguments (front ++ first :: run ++ ')' :: rest) := by
  rintro ⟨arguments, rest', free, same⟩
  have cut : front ++ first :: run ++ ')' :: rest = (arguments ++ ['*']) ++ ')' :: rest' := by
    simpa using same
  obtain ⟨shape, -⟩ := Text.cut_unique
    (fun member => (List.mem_append.1 member).elim frontFree runFree) (by simp [free]) cut
  have last : (first :: run).getLast? = some '*' := by
    have whole : (front ++ first :: run).getLast? = some '*' := by simp [shape]
    rwa [List.getLast?_append, List.getLast?_cons, Option.some_or, ← List.getLast?_cons] at whole
  exact unstarred (List.mem_of_getLast? last)

/-- An open form becomes readable when its arguments are finished. -/
theorem isReadable_writeOpen {form : NewForm} (wellFormed : form.IsWellFormed) {rest : Text}
    (closes : ClosesArguments rest) : IsReadable (form.writeOpen ++ rest) := by
  obtain ⟨arguments, after, free, rfl⟩ := closes
  have own := forall_isArgumentChar_iff.1 wellFormed.arguments_chars
  refine ⟨{ form with arguments := form.arguments ++ arguments }, after,
    wellFormed.withArguments (by simp [own, free]), ?_⟩
  simp [writeParts, writeOpen]

/-- How a form lies over the border between a front and a rest, when the first character
of the rest is no punctuation of the dialect. Either it ends in the front, or its
arguments are left open there, or its comment reaches into the rest. -/
theorem split_writeParts {form : NewForm} {front rest tail : Text} {head : Char}
    (wellFormed : form.IsWellFormed) (star : head ≠ '*') (parenthesis : head ≠ ')')
    (same : front ++ head :: rest = form.writeParts ++ tail) :
    (∃ after, front = form.writeParts ++ after) ∨
      (∃ arguments later, form.arguments = arguments ++ later ∧
        front ++ [head] = ({ form with arguments } : NewForm).writeOpen ∧
        rest = later ++ '*' :: ')' :: tail) ∨
      ∃ comment tail' : Text, '*' ∉ comment ∧ head :: rest = comment ++ '*' :: '/' :: tail' := by
  have cut : (form.version ++ form.note) ++ (['*'] ++
      '/' :: (form.arguments ++ (['*', ')'] ++ tail))) = front ++ head :: rest := by
    simpa [writeParts] using same.symm
  rcases Text.split_at_cons (by simpa using star) cut with
    ⟨ahead, rfl, behind⟩ | ⟨later, inComment, rfl⟩
  · cases ahead with
    | nil =>
        -- The border lies between the star and the slash that end the comment.
        obtain ⟨rfl, rfl⟩ : '/' = head ∧ form.arguments ++ '*' :: ')' :: tail = rest := by
          simpa using behind
        exact .inr (.inl ⟨[], form.arguments, rfl, by simp [writeOpen], rfl⟩)
    | cons slash ahead =>
        obtain ⟨rfl, later⟩ : '/' = slash ∧
            form.arguments ++ (['*', ')'] ++ tail) = ahead ++ head :: rest := by
          simpa using behind
        rcases Text.split_at_cons (by simp [star, parenthesis]) later with
          ⟨after, rfl, -⟩ | ⟨last, inside, rfl⟩
        · exact .inl ⟨after, by simp [writeParts]⟩
        · exact .inr (.inl ⟨ahead ++ [head], last, by simp [inside], by simp [writeOpen], by simp⟩)
  · refine .inr (.inr ⟨head :: later, form.arguments ++ '*' :: ')' :: tail, ?_, by simp⟩)
    intro member
    apply wellFormed.star_notMem
    exact inComment ▸ List.mem_append_right _ member

/-- What can be read over such a border, whatever is written in the place of the rest. -/
theorem IsReadable.split {front rest : Text} {head : Char} (star : head ≠ '*')
    (parenthesis : head ≠ ')') (readable : IsReadable (front ++ head :: rest)) :
    (∀ other, IsReadable (front ++ other)) ∨
      (∃ form : NewForm, form.IsWellFormed ∧ front ++ [head] = form.writeOpen ∧
        ClosesArguments rest) ∨
      ∃ comment tail : Text, '*' ∉ comment ∧ head :: rest = comment ++ '*' :: '/' :: tail := by
  obtain ⟨form, tail, wellFormed, same⟩ := readable
  rcases split_writeParts wellFormed star parenthesis same with
    ⟨after, rfl⟩ | ⟨arguments, later, inside, opened, rfl⟩ | inComment
  · exact .inl fun other => ⟨form, after ++ other, wellFormed, List.append_assoc ..⟩
  · obtain ⟨formed, free⟩ := wellFormed.cutArguments inside
    exact .inr (.inl ⟨_, formed, opened, later, tail, free, rfl⟩)
  · exact .inr (.inr inComment)

end NewForm

namespace OldForm

variable {keyword : Text}

/-- A comment as it is written up to the arguments of the clause inside it, without the
parenthesis that closes them. -/
def writeOpen (keyword version arguments : Text) : Text :=
  version ++ ", ".toList ++ keyword ++ '(' :: arguments

/-- The text finishes a clause and a comment that were left open: the first closing
parenthesis ends the comment, too. -/
def ClosesComment (text : Text) : Prop :=
  ∃ arguments rest : Text, ')' ∉ arguments ∧ text = arguments ++ ')' :: '*' :: '/' :: rest

/-- The text ends in a comment that is left open within its clause. -/
def IsOpenIn (keyword package text : Text) : Prop :=
  ∃ version arguments : Text, (⟨version, some arguments, none⟩ : OldForm).IsWellFormed ∧
    opening package ++ writeOpen keyword version arguments <:+ text

/-- A text that becomes open with one more character has the opening in it. -/
theorem IsOpenIn.exists_front {package text : Text} {char : Char}
    (left : IsOpenIn keyword package (text ++ [char])) :
    ∃ version arguments front : Text,
      (⟨version, some arguments, none⟩ : OldForm).IsWellFormed ∧
      writeOpen keyword version arguments = front ++ [char] ∧
      opening package ++ front <:+ text := by
  obtain ⟨version, arguments, wellFormed, place⟩ := left
  have nonempty : writeOpen keyword version arguments ≠ [] := by
    simp [writeOpen]
  obtain ⟨front, shape, inFront⟩ := Text.exists_of_append_suffix_concat nonempty place
  exact ⟨version, arguments, front, wellFormed, shape, inFront⟩

/-- A version is free of stars. -/
theorem IsWellFormed.star_notMem {form : OldForm} (wellFormed : form.IsWellFormed) :
    '*' ∉ form.version := by
  intro member
  simpa [isVersionChar] using wellFormed.version_chars _ member

/-- A comment with arguments in its clause, and nothing behind it. -/
theorem IsWellFormed.withInside {form : OldForm} (wellFormed : form.IsWellFormed)
    {arguments : Text} (free : ')' ∉ arguments) :
    (⟨form.version, some arguments, none⟩ : OldForm).IsWellFormed where
  version_ne_nil := wellFormed.version_ne_nil
  version_chars := wellFormed.version_chars
  inside_chars := by
    rintro _ ⟨rfl⟩
    exact forall_isArgumentChar_iff.2 free
  behind_chars := by simp

/-- A clause inside the comment that is cut in two: the first part can stand there alone,
and the second one holds no closing parenthesis either. -/
theorem IsWellFormed.cutInside {form : OldForm} (wellFormed : form.IsWellFormed)
    {arguments later : Text} (inside : form.inside? = some (arguments ++ later)) :
    (⟨form.version, some arguments, none⟩ : OldForm).IsWellFormed ∧ ')' ∉ later := by
  have free := forall_isArgumentChar_iff.1 (wellFormed.inside_chars _ inside)
  rw [List.mem_append, not_or] at free
  exact ⟨wellFormed.withInside free.1, free.2⟩

/-- An open comment becomes readable when its clause and itself are finished. -/
theorem isReadable_writeOpen (keyword : Text) {version arguments rest : Text}
    (wellFormed : (⟨version, some arguments, none⟩ : OldForm).IsWellFormed)
    (closes : ClosesComment rest) :
    IsReadable keyword (writeOpen keyword version arguments ++ rest) := by
  obtain ⟨more, after, free, rfl⟩ := closes
  have own := forall_isArgumentChar_iff.1 (wellFormed.inside_chars arguments rfl)
  refine ⟨⟨version, some (arguments ++ more), none⟩, after,
    wellFormed.withInside (by simp [own, free]), ?_⟩
  simp [writeParts, writeOpen, writeInside, writeBehind, clause]

/-- A slash that ends a comment may be the one with which the rest begins. -/
private theorem exists_slash {after behind rest : Text}
    (same : '/' :: behind = after ++ '/' :: rest) (other : Text) :
    ∃ tail, after ++ '/' :: other = '/' :: tail := by
  cases after with
  | nil => exact ⟨other, rfl⟩
  | cons slash after =>
      obtain ⟨rfl, -⟩ : '/' = slash ∧ behind = after ++ '/' :: rest := by simpa using same
      exact ⟨after ++ '/' :: other, rfl⟩

/-- How a form lies over the border between a front and a rest that begins a comment of
its own. Either it ends in the front, with the slash of the rest at most, or its clause
is left open there. -/
theorem split_writeParts {form : OldForm} {front rest tail : Text} {next : Char}
    (wellFormed : form.IsWellFormed) (keywordFree : '/' ∉ keyword) (nextNe : next ≠ '/')
    (same : front ++ '/' :: '*' :: next :: rest = form.writeParts keyword ++ tail) :
    (∀ other, IsReadable keyword (front ++ '/' :: other)) ∨
      ∃ arguments later behind, form.inside? = some (arguments ++ later) ∧
        front ++ ['/'] = writeOpen keyword form.version arguments ∧
        '*' :: next :: rest = later ++ ')' :: '*' :: '/' :: behind := by
  -- The version cannot reach over the border, because a star stands there.
  have versionEnds {later text : Text} (inside : form.version = front ++ '/' :: later)
      (behind : '*' :: next :: rest = later ++ text) : text = '*' :: next :: rest := by
    cases later with
    | nil => exact behind.symm
    | cons star later =>
        obtain ⟨rfl, -⟩ : '*' = star ∧ next :: rest = later ++ text := by simpa using behind
        exact absurd (by simp [inside]) wellFormed.star_notMem
  cases shape : form.inside? with
  | none =>
      have cut : form.version ++ (['*'] ++ '/' :: (writeBehind keyword form.behind? ++ tail)) =
          front ++ '/' :: '*' :: next :: rest := by
        simpa [writeParts, writeInside, shape] using same.symm
      rcases Text.split_at_cons (by simp) cut with ⟨after, rfl, ended⟩ | ⟨later, inside, behind⟩
      · refine .inl fun other => ?_
        obtain ⟨tail', slash⟩ := exists_slash ended other
        refine ⟨⟨form.version, none, none⟩, tail', ⟨wellFormed.version_ne_nil,
          wellFormed.version_chars, by simp, by simp⟩, ?_⟩
        simp [writeParts, writeInside, writeBehind, slash]
      · have border := versionEnds inside (behind.trans (List.append_assoc ..))
        simp only [List.cons_append, List.nil_append, List.cons.injEq] at border
        exact absurd border.2.1.symm nextNe
  | some arguments =>
      have cut : form.version ++ ((", ".toList ++ keyword ++ ['(']) ++ (arguments ++ ([')', '*'] ++
          '/' :: (writeBehind keyword form.behind? ++ tail)))) =
            front ++ '/' :: '*' :: next :: rest := by
        simpa [writeParts, writeInside, clause, shape] using same.symm
      rcases Text.split_at_cons (by simp [keywordFree]) cut with
        ⟨ahead, rfl, behind⟩ | ⟨later, inside, behind⟩
      · rcases Text.split_at_cons (by simp) behind with ⟨after, rfl, ended⟩ | ⟨last, inside, closed⟩
        · refine .inl fun other => ?_
          obtain ⟨tail', slash⟩ := exists_slash ended other
          refine ⟨⟨form.version, some arguments, none⟩, tail', wellFormed.withInside
            (forall_isArgumentChar_iff.1 (wellFormed.inside_chars arguments shape)), ?_⟩
          simp [writeParts, writeInside, writeBehind, clause, slash]
        · exact .inr ⟨ahead ++ ['/'], last, writeBehind keyword form.behind? ++ tail,
            by simp [inside], by simp [writeOpen], by simpa using closed⟩
      · have border := versionEnds inside (by simpa using behind)
        simp at border

end OldForm

end AvailabilityAnnotations

/-
# Lines that come out of a text

Cutting a text loses nothing, but not every list of lines comes out of a text: a body
may hold a line feed, or a carriage return at its end may belong to the ending. `IsCut`
says which lists do. For them the cut undoes the joining, so a text whose lines were
changed one by one is cut at the same places again.
-/

import AvailabilityAnnotations.Text.Line

namespace AvailabilityAnnotations

namespace Line

/-- The body goes together with the ending: it holds no line feed, its last character is
no part of the ending, and a line without ending is not empty. -/
structure IsWellFormed (line : Line) : Prop where
  free : '\n' ∉ line.body
  bare : line.ending = .lf → line.body.getLast? ≠ some '\r'
  nonempty : line.ending = .none → line.body ≠ []

/-- Lines that come out of a text: only the last one may have no ending. -/
inductive IsCut : List Line → Prop
  | nil : IsCut []
  | last {line : Line} (wellFormed : line.IsWellFormed) : IsCut [line]
  | cons {line : Line} {lines : List Line} (wellFormed : line.IsWellFormed)
      (ended : line.ending ≠ .none) (rest : IsCut lines) : IsCut (line :: lines)

/-- A character that neither is a line feed nor makes a line ending with one belongs to
the body of its line. -/
theorem split_cons {char : Char} {text : Text} (notFeed : char ≠ '\n')
    (notReturn : char = '\r' → text.head? ≠ some '\n') :
    split (char :: text) = prepend char (split text) := by
  rw [split]
  · exact notFeed
  · rintro rest rfl rfl
    exact notReturn rfl rfl

/-- A line with an ending is cut off. -/
theorem split_line {line : Line} (wellFormed : line.IsWellFormed) (ended : line.ending ≠ .none)
    (rest : Text) : split (line.text ++ rest) = line :: split rest := by
  obtain ⟨body, ending⟩ := line
  induction body with
  | nil =>
      cases ending with
      | none => exact absurd rfl ended
      | lf => rfl
      | crlf => rfl
  | cons char body ih =>
      have free := wellFormed.free
      simp only [List.mem_cons, not_or] at free
      have shorter : (⟨body, ending⟩ : Line).IsWellFormed := by
        refine ⟨free.2, fun lf last => wellFormed.bare lf ?_, fun none => absurd none ended⟩
        rw [List.getLast?_cons, last, Option.getD_some]
      have next : char = '\r' →
          ((⟨body, ending⟩ : Line).text ++ rest).head? ≠ some '\n' := by
        rintro rfl first
        cases body with
        | nil =>
            cases ending with
            | none => exact ended rfl
            | lf => exact wellFormed.bare rfl rfl
            | crlf => cases first
        | cons head body =>
            obtain rfl : head = '\n' := by simpa [text] using first
            exact free.2 (by simp)
      have step := split_cons (Ne.symm free.1) next
      rw [ih shorter ended] at step
      exact step

/-- A text without line feeds is one line. -/
theorem split_body {body : Text} (free : '\n' ∉ body) (nonempty : body ≠ []) :
    split body = [⟨body, .none⟩] := by
  induction body with
  | nil => exact absurd rfl nonempty
  | cons char body ih =>
      simp only [List.mem_cons, not_or] at free
      rw [split_cons (Ne.symm free.1)]
      · cases body with
        | nil => rfl
        | cons head body => rw [ih free.2 (by simp), prepend]
      · intro _ first
        exact free.2 (List.mem_of_head? first)

/-- Lines that come out of a text are cut again as they were. -/
theorem IsCut.split_join {lines : List Line} (cut : IsCut lines) : split (join lines) = lines := by
  induction cut with
  | nil => rfl
  | last wellFormed =>
      rename_i line
      by_cases ended : line.ending = .none
      · obtain ⟨body, ending⟩ := line
        subst ended
        simpa [LineEnding.text] using split_body wellFormed.free (wellFormed.nonempty rfl)
      · exact split_line wellFormed ended []
  | cons wellFormed ended _ ih =>
      rw [join_cons]
      exact (split_line wellFormed ended _).trans (by rw [ih])

/-- One more character in front of a body. A carriage return must not become the last
character in front of a line feed. -/
theorem IsWellFormed.cons {line : Line} {char : Char} (wellFormed : line.IsWellFormed)
    (notFeed : char ≠ '\n') (notReturn : line.ending = .lf → line.body = [] → char ≠ '\r') :
    ({ line with body := char :: line.body } : Line).IsWellFormed where
  free := by simp [Ne.symm notFeed, wellFormed.free]
  bare := by
    intro lf last
    cases shape : line.body with
    | nil => exact notReturn lf shape (by simpa [shape] using last)
    | cons head body =>
        apply wellFormed.bare lf
        rwa [shape, List.getLast?_cons_cons, ← shape] at last
  nonempty := by simp

/-- One more character in front of lines. -/
theorem IsCut.prepend {lines : List Line} {char : Char} (cut : IsCut lines)
    (notFeed : char ≠ '\n') (notReturn : char = '\r' → (join lines).head? ≠ some '\n') :
    IsCut (prepend char lines) := by
  have border {line : Line} {rest : Text} (first : join lines = line.text ++ rest)
      (lf : line.ending = .lf) (empty : line.body = []) : char ≠ '\r' := by
    intro isReturn
    apply notReturn isReturn
    simp [first, text, lf, empty, LineEnding.text]
  cases cut with
  | nil => exact .last ⟨by simp [Ne.symm notFeed], by simp, by simp⟩
  | last wellFormed => exact .last (wellFormed.cons notFeed (border rfl))
  | cons wellFormed ended rest => exact .cons (wellFormed.cons notFeed (border rfl)) ended rest

/-- The lines of a text come out of a text. -/
theorem isCut_split (text : Text) : IsCut (split text) := by
  fun_induction split text with
  | case1 => exact .nil
  | case2 rest ih => exact .cons ⟨by simp, by simp, by simp⟩ (by simp) ih
  | case3 rest ih => exact .cons ⟨by simp, by simp, by simp⟩ (by simp) ih
  | case4 char rest notFeed notReturn ih =>
      apply ih.prepend notFeed
      rintro isReturn first
      rw [join_split] at first
      obtain ⟨tail, rfl⟩ := List.head?_eq_some_iff.1 first
      exact notReturn tail isReturn rfl

/-- There is one way to cut a text into lines. -/
theorem split_eq_iff {text : Text} {lines : List Line} :
    split text = lines ↔ IsCut lines ∧ join lines = text := by
  constructor
  · rintro rfl
    exact ⟨isCut_split text, join_split text⟩
  · rintro ⟨cut, rfl⟩
    exact cut.split_join

/-- Lines whose bodies are changed one by one, each within its ending, still come out of
a text. -/
theorem IsCut.map {lines : List Line} (cut : IsCut lines) (change : Line → Line)
    (ending : ∀ line, (change line).ending = line.ending)
    (wellFormed : ∀ line, line.IsWellFormed → (change line).IsWellFormed) :
    IsCut (lines.map change) := by
  induction cut with
  | nil => exact .nil
  | last own => exact .last (wellFormed _ own)
  | cons own ended _ ih => exact .cons (wellFormed _ own) (by rwa [ending]) ih

/-- A part of a body can be replaced by any text without line feeds that is not empty and
does not end in a carriage return. -/
theorem IsWellFormed.exchange {before first second after : Text} {ending : LineEnding}
    (wellFormed : (⟨before ++ first ++ after, ending⟩ : Line).IsWellFormed)
    (nonempty : second ≠ []) (free : '\n' ∉ second) (last : second.getLast? ≠ some '\r') :
    (⟨before ++ second ++ after, ending⟩ : Line).IsWellFormed where
  free := by
    have own := wellFormed.free
    simp only [List.mem_append, not_or] at own ⊢
    exact ⟨⟨own.1.1, free⟩, own.2⟩
  bare := by
    intro lf
    have own := wellFormed.bare lf
    rw [List.getLast?_append] at own ⊢
    cases after with
    | nil => simpa [nonempty] using last
    | cons head after => simpa using own
  nonempty := by simp [nonempty]

end Line

end AvailabilityAnnotations

/-
# Reading a diff back

A diff is of use only if what it says can be read from its text. The reader here takes a diff
the way a patch program does: it knows nothing of the two texts, gets the places of a hunk and
the numbers of its lines from the header of the hunk, reads as many lines as the header names,
and takes a line for one without an ending if the mark for that follows.

`readDiff?_render` says that it reads exactly the hunks that were written. In particular the
numbers in each header are right, and a line without an ending is told from one with an ending,
as is every way to end a line from every other.
-/

import AvailabilityAnnotations.Diff.Unified
import AvailabilityAnnotations.Proofs.Diff.Lines
import AvailabilityAnnotations.Proofs.Text.Literal

namespace AvailabilityAnnotations

namespace Text

/-- The digits of a number stand for that number. -/
theorem digitsValue_ofNat (number : Nat) : digitsValue (ofNat number) = number := by
  have value : Nat.ofDigitChars 10 (ofNat number) 0 = number := Nat.ofDigitChars_ten_toDigits
  have step : appendDigit = fun sofar char => 10 * sofar + (char.toNat - '0'.toNat) := by
    funext sofar char
    rw [appendDigit, Nat.mul_comm]
  rwa [digitsValue, step]

theorem isDigit_of_mem_ofNat {number : Nat} {char : Char} (member : char ∈ ofNat number) :
    char.isDigit = true :=
  Nat.isDigit_of_mem_toDigits (by decide) (by decide) member

end Text

namespace Diff

open Text

/-- The line of a diff that says that the line in front of it has no ending. -/
def missingMark : Text :=
  "\\ No newline at end of file\n".toList

/-- Take out the marks for missing endings, each together with the line feed that stands in
front of it. -/
def unmark : List Text → List Text
  | line :: next :: lines =>
      if next = missingMark then line.dropLast :: unmark lines
      else line :: unmark (next :: lines)
  | lines => lines

/-- A number at the front of a text, and what follows it. -/
def readNumber? (text : Text) : Option (Nat × Text) :=
  match text.takeWhile Char.isDigit with
  | [] => none
  | digits => some (digitsValue digits, text.dropWhile Char.isDigit)

/-- A range of lines at the front of a text, as the number of lines before it and its length,
and what follows it. A range of one line is named by that line, a longer one by its first line
and its length, and an empty one by the line before it. -/
def readRange? (text : Text) : Option ((Nat × Nat) × Text) :=
  match readNumber? text with
  | none => none
  | some (number, ',' :: rest) =>
      match readNumber? rest with
      | none => none
      | some (0, rest) => some ((number, 0), rest)
      | some (length, rest) => some ((number - 1, length), rest)
  | some (number, rest) => some ((number - 1, 1), rest)

/-- The old and the new range in the header of a hunk. -/
def readHeader? (line : Text) : Option ((Nat × Nat) × (Nat × Nat)) := do
  let old ← after? "@@ -".toList line
  let (oldRange, rest) ← readRange? old
  let new ← after? " +".toList rest
  let (newRange, rest) ← readRange? new
  if rest = " @@\n".toList then some (oldRange, newRange) else none

/-- A line of a hunk. -/
def readEdit? : Text → Option Edit
  | ' ' :: line => some (.keep line)
  | '-' :: line => some (.delete line)
  | '+' :: line => some (.insert line)
  | _ => none

/-- The number of lines that are still to come, behind a line of one side or behind none. -/
def countDown? : Option Text → Nat → Option Nat
  | none, count => some count
  | some _, 0 => none
  | some _, count + 1 => some count

/-- Read the lines of a hunk until the given numbers of old and of new lines are there, and
then further hunks. -/
def readHunks? : Nat → Nat → List Text → Option (List Edit × List Hunk)
  | 0, 0, [] => some ([], [])
  | 0, 0, line :: lines => do
      let ((oldStart, oldLength), (newStart, newLength)) ← readHeader? line
      let (edits, hunks) ← readHunks? oldLength newLength lines
      return ([], ⟨oldStart, newStart, edits⟩ :: hunks)
  | _, _, [] => none
  | oldLeft, newLeft, line :: lines => do
      let edit ← readEdit? line
      let oldLeft ← countDown? edit.oldLine? oldLeft
      let newLeft ← countDown? edit.newLine? newLeft
      let (edits, hunks) ← readHunks? oldLeft newLeft lines
      return (edit :: edits, hunks)

/-- The two lines in front of the hunks, which name the file. -/
def fileNames (path : Path) : Text :=
  "--- a/".toList ++ path.text ++ "\n+++ b/".toList ++ path.text ++ ['\n']

/-- The hunks of a diff of the file with the given path. -/
def readDiff? (path : Path) (diff : Text) : Option (List Hunk) := do
  let rest ← after? (fileNames path) diff
  let (_, hunks) ← readHunks? 0 0 (unmark (lines rest))
  return hunks

/-- What the lines of a hunk and its header begin with. A mark begins with none of them. -/
def signs : List Char :=
  [' ', '-', '+', '@']

/-- Nothing, or something that begins like a line of a hunk or a header. -/
def IsSigned (text : Text) : Prop :=
  ∀ char ∈ text.head?, char ∈ signs

/-- A line as the diff shows it, with the mark behind it if it has no ending. -/
def marked (line : Text) : Text :=
  line ++ missingEnding line

/-- A mark is not taken for a line. -/
theorem unmark_cons {line rest : Text} (signed : IsSigned rest) :
    unmark (line :: lines rest) = line :: unmark (lines rest) := by
  cases shape : lines rest with
  | nil => rfl
  | cons next others =>
      have notMark : next ≠ missingMark := by
        rintro rfl
        have whole : rest = missingMark ++ others.flatten := by
          rw [← flatten_lines rest, shape, List.flatten_cons]
        have first : '\\' ∈ signs := signed _ (by rw [whole]; rfl)
        exact absurd first (by decide)
      rw [unmark, if_neg notMark]

/-- Behind a text without an ending stand a line feed and a mark. -/
theorem missingEnding_of_free {body : Text} (feedFree : '\n' ∉ body) (returnFree : '\r' ∉ body) :
    missingEnding body = '\n' :: missingMark := by
  have unended : ¬ (body.getLast? = some '\n' ∨ body.getLast? = some '\r') := by
    rintro (last | last)
    · exact feedFree (List.mem_of_getLast? last)
    · exact returnFree (List.mem_of_getLast? last)
  have mark : missingEnding body = "\n\\ No newline at end of file\n".toList := if_neg unended
  unfold missingMark
  rw [mark]
  simp

/-- A mark is a line of its own. -/
theorem lines_missingMark (rest : Text) :
    lines (missingMark ++ rest) = missingMark :: lines rest := by
  have shape : ∃ body, '\n' ∉ body ∧ '\r' ∉ body ∧ missingMark = body ++ ['\n'] := by
    refine ⟨"\\ No newline at end of file".toList, by simp, by simp, ?_⟩
    unfold missingMark
    simp
  obtain ⟨body, feedFree, returnFree, mark⟩ := shape
  rw [mark, List.append_assoc]
  exact lines_append feedFree returnFree rfl

/-- A line is read back from how the diff shows it. -/
theorem unmark_lines_marked {line rest : Text} (isLine : IsLine line) (signed : IsSigned rest) :
    unmark (lines (marked line ++ rest)) = line :: unmark (lines rest) := by
  have border : rest.head? ≠ some '\n' := by
    intro feed
    exact absurd (signed _ feed) (by decide)
  obtain ⟨body, feedFree, returnFree, ending, known, rfl⟩ := isLine
  by_cases missing : ending = []
  · -- The line feed in front of the mark ends the line, and it goes with the mark.
    subst missing
    have cut : lines ('\n' :: (missingMark ++ rest)) = ['\n'] :: missingMark :: lines rest := by
      rw [lines, lines_missingMark]
    rw [List.append_nil, marked, missingEnding_of_free feedFree returnFree, List.append_assoc,
      List.cons_append, lines_append feedFree returnFree cut, unmark, if_pos rfl,
      List.dropLast_concat]
  · have ended : missingEnding (body ++ ending) = [] := by
      apply if_pos
      rcases ending_cases known missing with rfl | rfl | rfl <;> simp
    rw [marked, ended, List.append_nil, List.append_assoc,
      lines_append feedFree returnFree (lines_ending known missing border), unmark_cons signed]

/-- A line with a sign in front of it. -/
structure IsSignedLine (line : Text) : Prop where
  isLine : IsLine line
  nonempty : line ≠ []
  signed : IsSigned line

/-- Lines are read back from how the diff shows them. -/
theorem unmark_lines {signedLines : List Text} (known : ∀ line ∈ signedLines, IsSignedLine line) :
    unmark (lines (signedLines.flatMap marked)) = signedLines := by
  induction signedLines with
  | nil => rfl
  | cons line others ih =>
      have later : ∀ line ∈ others, IsSignedLine line :=
        fun line member => known line (List.mem_cons_of_mem _ member)
      have signed : IsSigned (others.flatMap marked) := by
        cases others with
        | nil => simp [IsSigned]
        | cons next others =>
            have nextSigned := later next List.mem_cons_self
            cases next with
            | nil => exact absurd rfl nextSigned.nonempty
            | cons sign next => exact nextSigned.signed
      rw [List.flatMap_cons, unmark_lines_marked (known line List.mem_cons_self).isLine signed,
        ih later]

/-- The line of a hunk that shows an edit. -/
def Edit.signed : Edit → Text
  | .keep line => ' ' :: line
  | .delete line => '-' :: line
  | .insert line => '+' :: line

/-- The header of a hunk. -/
def Hunk.header (hunk : Hunk) : Text :=
  "@@ -".toList ++ rangeText hunk.oldStart hunk.oldLength ++ " +".toList ++
    rangeText hunk.newStart hunk.newLength ++ " @@\n".toList

/-- The lines of the diff that show a hunk. -/
def Hunk.signedLines (hunk : Hunk) : List Text :=
  hunk.header :: hunk.edits.map Edit.signed

/-- Whether a line has an ending can be seen with a sign in front of it, too. -/
theorem missingEnding_cons {sign : Char} (notFeed : sign ≠ '\n') (notReturn : sign ≠ '\r')
    (line : Text) : missingEnding (sign :: line) = missingEnding line := by
  cases line with
  | nil => simp [missingEnding, notFeed, notReturn]
  | cons char line => rw [missingEnding, missingEnding, List.getLast?_cons_cons]

theorem Edit.render_eq (edit : Edit) : edit.render = marked edit.signed := by
  cases edit <;>
    exact congrArg (_ ++ ·) (missingEnding_cons (by decide) (by decide) _).symm

/-- A range is written in one line. -/
theorem notMem_rangeText {char : Char} (notDigit : char.isDigit = false) (notComma : char ≠ ',')
    (start length : Nat) : char ∉ rangeText start length := by
  have absent (number : Nat) : char ∉ ofNat number := by
    intro member
    rw [isDigit_of_mem_ofNat member] at notDigit
    exact absurd notDigit (by decide)
  have notZero : char ≠ '0' := by
    rintro rfl
    exact absurd notDigit (by decide)
  rw [rangeText]
  split
  · exact absent _
  · split <;> simp [absent, notComma, notZero]

theorem Hunk.header_eq (hunk : Hunk) :
    hunk.header = "@@ -".toList ++ (rangeText hunk.oldStart hunk.oldLength ++
      ' ' :: '+' :: (rangeText hunk.newStart hunk.newLength ++ [' ', '@', '@', '\n'])) := by
  show "@@ -".toList ++ rangeText hunk.oldStart hunk.oldLength ++ " +".toList ++
    rangeText hunk.newStart hunk.newLength ++ " @@\n".toList = _
  simp

/-- The header of a hunk is one line. -/
theorem Hunk.exists_header_eq (hunk : Hunk) :
    ∃ body, '\n' ∉ body ∧ '\r' ∉ body ∧ hunk.header = body ++ ['\n'] := by
  have feedFree := @notMem_rangeText '\n' (by decide) (by decide)
  have returnFree := @notMem_rangeText '\r' (by decide) (by decide)
  refine ⟨"@@ -".toList ++ (rangeText hunk.oldStart hunk.oldLength ++
    ' ' :: '+' :: (rangeText hunk.newStart hunk.newLength ++ [' ', '@', '@'])), ?_, ?_, ?_⟩
  · simp [feedFree]
  · simp [returnFree]
  · simp [header_eq]

theorem Hunk.render_eq (hunk : Hunk) : hunk.render = hunk.signedLines.flatMap marked := by
  obtain ⟨body, -, -, shape⟩ := hunk.exists_header_eq
  have ended : missingEnding hunk.header = [] := by
    apply if_pos
    rw [shape]
    exact .inl List.getLast?_concat
  rw [signedLines, List.flatMap_cons, marked, ended, List.append_nil, List.flatMap_map]
  exact congrArg (hunk.header ++ hunk.edits.flatMap ·) (funext Edit.render_eq)

/-- The header of a hunk is a line that begins with its own sign. -/
theorem isSignedLine_header (hunk : Hunk) : IsSignedLine hunk.header where
  isLine := by
    obtain ⟨body, feedFree, returnFree, shape⟩ := hunk.exists_header_eq
    exact ⟨body, feedFree, returnFree, ['\n'], by simp [endings], shape⟩
  nonempty := by simp [Hunk.header_eq]
  signed := by simp [IsSigned, Hunk.header_eq, signs]

/-- The line that an edit is about. -/
def Edit.line : Edit → Text
  | .keep line => line
  | .delete line => line
  | .insert line => line

theorem isSignedLine_signed {edit : Edit} (isLine : IsLine edit.line) :
    IsSignedLine edit.signed := by
  cases edit <;>
    exact ⟨isLine_cons (by decide) (by decide) isLine, by simp [Edit.signed],
      by simp [IsSigned, Edit.signed, signs]⟩

/-- A number is read back from its digits. -/
theorem readNumber?_ofNat (number : Nat) {stop : Char} (notDigit : stop.isDigit = false)
    (rest : Text) : readNumber? (ofNat number ++ stop :: rest) = some (number, stop :: rest) := by
  have inside : ∀ char ∈ ofNat number, char.isDigit = true := fun _ => isDigit_of_mem_ofNat
  have nonempty : ofNat number ≠ [] := Nat.toDigits_ne_nil
  rw [readNumber?, takeWhile_append_stop inside notDigit, dropWhile_append_stop inside notDigit]
  obtain ⟨digit, digits, shape⟩ := List.exists_cons_of_ne_nil nonempty
  have value := digitsValue_ofNat number
  rw [shape] at value ⊢
  show some (digitsValue (digit :: digits), _) = _
  rw [value]

/-- A range is read back from what is written for it. -/
theorem readRange?_rangeText (start length : Nat) (rest : Text) :
    readRange? (rangeText start length ++ ' ' :: rest) = some ((start, length), ' ' :: rest) := by
  match length with
  | 0 =>
      have zero : readNumber? ('0' :: ' ' :: rest) = some (0, ' ' :: rest) :=
        readNumber?_ofNat 0 (by decide) rest
      simp [rangeText, readRange?, readNumber?_ofNat, zero]
  | 1 => simp [rangeText, readRange?, readNumber?_ofNat]
  | length + 2 => simp [rangeText, readRange?, readNumber?_ofNat]

/-- The ranges are read back from the header of a hunk. -/
theorem readHeader?_header (hunk : Hunk) :
    readHeader? hunk.header =
      some ((hunk.oldStart, hunk.oldLength), (hunk.newStart, hunk.newLength)) := by
  have newRange := readRange?_rangeText hunk.newStart hunk.newLength ['@', '@', '\n']
  have oldRange := readRange?_rangeText hunk.oldStart hunk.oldLength
    ('+' :: (rangeText hunk.newStart hunk.newLength ++ [' ', '@', '@', '\n']))
  rw [Hunk.header_eq, readHeader?, after?_append]
  simp [after?, oldRange, newRange]

/-- An edit is read back from its line. -/
theorem readEdit?_signed (edit : Edit) : readEdit? edit.signed = some edit := by
  cases edit <;> rfl

/-- Counting the line of an edit down leaves the lines of the edits behind it to come. -/
theorem countDown?_eq_some_iff {line? : Edit → Option Text} {edit : Edit} {edits : List Edit}
    {left : Nat} : countDown? (line? edit) left = some (edits.filterMap line?).length ↔
      ((edit :: edits).filterMap line?).length = left := by
  cases here : line? edit with
  | none =>
      rw [List.filterMap_cons_none here, countDown?, Option.some.injEq]
      exact eq_comm
  | some line =>
      rw [List.filterMap_cons_some here, List.length_cons]
      cases left with
      | zero => simp [countDown?]
      | succ left =>
          rw [countDown?, Option.some.injEq, Nat.succ.injEq]
          exact eq_comm

/-- As long as a line is to come, the next line of the diff is an edit. -/
theorem readHunks?_cons {oldLeft newLeft : Nat} (more : 0 < oldLeft + newLeft) (line : Text)
    (lines : List Text) :
    readHunks? oldLeft newLeft (line :: lines) = do
      let edit ← readEdit? line
      let oldLeft ← countDown? edit.oldLine? oldLeft
      let newLeft ← countDown? edit.newLine? newLeft
      let (edits, hunks) ← readHunks? oldLeft newLeft lines
      return (edit :: edits, hunks) := by
  match oldLeft, newLeft with
  | 0, 0 => exact absurd more (by decide)
  | 0, _ + 1 => rfl
  | _ + 1, _ => rfl

/-- With the right numbers of lines, the edits of a hunk are read back, and then what follows
the hunk. -/
theorem readHunks?_edits (edits : List Edit) {lines : List Text} {hunks : List Hunk}
    (later : readHunks? 0 0 lines = some ([], hunks)) :
    readHunks? (oldLines edits).length (newLines edits).length (edits.map Edit.signed ++ lines) =
      some (edits, hunks) := by
  induction edits with
  | nil => exact later
  | cons edit edits ih =>
      have more : 0 < (oldLines (edit :: edits)).length + (newLines (edit :: edits)).length := by
        cases edit with
        | keep line => exact Nat.add_pos_left (Nat.succ_pos _) _
        | delete line => exact Nat.add_pos_left (Nat.succ_pos _) _
        | insert line => exact Nat.add_pos_right _ (Nat.succ_pos _)
      have oldCounted : countDown? edit.oldLine? (oldLines (edit :: edits)).length =
          some (oldLines edits).length := countDown?_eq_some_iff.2 rfl
      have newCounted : countDown? edit.newLine? (newLines (edit :: edits)).length =
          some (newLines edits).length := countDown?_eq_some_iff.2 rfl
      rw [List.map_cons, List.cons_append, readHunks?_cons more, readEdit?_signed]
      simp [oldCounted, newCounted, ih]

/-- Hunks are read back from their lines. -/
theorem readHunks?_signedLines (hunks : List Hunk) :
    readHunks? 0 0 (hunks.flatMap Hunk.signedLines) = some ([], hunks) := by
  induction hunks with
  | nil => rfl
  | cons hunk hunks ih =>
      have edits := readHunks?_edits hunk.edits ih
      rw [List.flatMap_cons, Hunk.signedLines, List.cons_append, readHunks?, readHeader?_header]
      simp only [Hunk.oldLength, Hunk.newLength, Option.bind_eq_bind, Option.bind_some, edits]
      rfl

/-- Hunks of lines are read back from the text of the diff. -/
theorem readDiff?_render (path : Path) {hunks : List Hunk}
    (known : ∀ hunk ∈ hunks, ∀ edit ∈ hunk.edits, IsLine edit.line) :
    readDiff? path (fileNames path ++ hunks.flatMap Hunk.render) = some hunks := by
  have shown : hunks.flatMap Hunk.render = (hunks.flatMap Hunk.signedLines).flatMap marked := by
    rw [List.flatMap_assoc]
    exact congrArg (hunks.flatMap ·) (funext Hunk.render_eq)
  have signed : ∀ line ∈ hunks.flatMap Hunk.signedLines, IsSignedLine line := by
    intro line member
    obtain ⟨hunk, there, inHunk⟩ := List.mem_flatMap.1 member
    rcases List.mem_cons.1 inHunk with rfl | inEdits
    · exact isSignedLine_header hunk
    · obtain ⟨edit, inside, rfl⟩ := List.mem_map.1 inEdits
      exact isSignedLine_signed (known hunk there edit inside)
  rw [readDiff?, after?_append, shown]
  simp [unmark_lines signed, readHunks?_signedLines]

/-- A line that a carriage return ends, one without an ending, and one that a line feed ends. -/
example :
    readDiff? (.ofString "A") ("--- a/A\n+++ b/A\n@@ -1,2 +1,2 @@\n x\r-y\n" ++
        "\\ No newline at end of file\n+z\n").toList =
      some [⟨0, 0, [.keep "x\r".toList, .delete "y".toList, .insert "z\n".toList]⟩] := by
  decide +kernel

end Diff

end AvailabilityAnnotations

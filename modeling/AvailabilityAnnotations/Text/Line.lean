/-
# Lines

A text is cut into lines after every line feed. A line remembers how it ended:
with a line feed, with a carriage return and a line feed, or not at all, which
only the last line of a text does. Nothing is lost: `join_split` puts the text
together again. A carriage return that no line feed follows is an ordinary
character of the line's body.
-/

import AvailabilityAnnotations.Text

namespace AvailabilityAnnotations

/-- How a line ends. -/
inductive LineEnding where
  /-- The text stops before a line feed. -/
  | none
  | lf
  | crlf
  deriving DecidableEq, Repr

namespace LineEnding

/-- The characters of a line ending. -/
def text : LineEnding → Text
  | none => []
  | lf => ['\n']
  | crlf => ['\r', '\n']

end LineEnding

/-- One line: its body, and how it ends. -/
structure Line where
  body : Text
  ending : LineEnding
  deriving DecidableEq, Repr

namespace Line

/-- The line as it stands in the text. -/
def text (line : Line) : Text :=
  line.body ++ line.ending.text

/-- Put one character in front of the first line. -/
def prepend (char : Char) : List Line → List Line
  | [] => [⟨[char], .none⟩]
  | line :: lines => { line with body := char :: line.body } :: lines

/-- Cut a text after every line feed. -/
def split : Text → List Line
  | [] => []
  | '\n' :: rest => ⟨[], .lf⟩ :: split rest
  | '\r' :: '\n' :: rest => ⟨[], .crlf⟩ :: split rest
  | char :: rest => prepend char (split rest)

/-- Put lines one after the other. -/
def join (lines : List Line) : Text :=
  lines.flatMap text

@[simp] theorem join_nil : join [] = [] := rfl

@[simp] theorem join_cons (line : Line) (lines : List Line) :
    join (line :: lines) = line.body ++ line.ending.text ++ join lines := rfl

private theorem join_prepend (char : Char) (lines : List Line) :
    join (prepend char lines) = char :: join lines := by
  cases lines <;> simp [prepend, LineEnding.text]

/-- Cutting a text into lines loses nothing. -/
theorem join_split (text : Text) : join (split text) = text := by
  fun_induction split text with
  | case1 => rfl
  | case2 rest ih => simp [LineEnding.text, ih]
  | case3 rest ih => simp [LineEnding.text, ih]
  | case4 char rest _ _ ih => rw [join_prepend, ih]

end Line

end AvailabilityAnnotations

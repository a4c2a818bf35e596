/-
# Texts on a terminal

A terminal obeys some characters instead of showing them. A text from outside is
prepared for a terminal in one of two ways: `escapeControls` writes the characters that
control sequences are made with as escapes, and `plain` leaves whole sequences out.

A control sequence begins with the escape character. What follows it is read by the
states of a terminal: a few characters up to a final one, or a string that lasts until
something ends it.
-/

import AvailabilityAnnotations.Text

namespace AvailabilityAnnotations

namespace Text

/-- How a character is written where no control sequence may arise. -/
def escapeControl (char : Char) : Text :=
  if char = '\x1b' then "\\x1b".toList
  else if char = '\x07' then "\\x07".toList
  else if char = '\x08' then "\\x08".toList
  else if char = '\x0c' then "\\x0c".toList
  else if char = '\x7f' then "\\x7f".toList
  else if 0x80 ≤ char.toNat ∧ char.toNat ≤ 0x9F then
    "\\u\x7b".toList ++ Nat.toDigits 16 char.toNat ++ ['\x7d']
  else [char]

def escapeControls (text : Text) : Text :=
  text.flatMap escapeControl

/-- Where a terminal stands in a text. -/
inductive TerminalState where
  /-- Outside control sequences. -/
  | ground
  /-- Behind the escape character. -/
  | escape
  /-- Behind the escape character and intermediate characters. -/
  | escapeIntermediate
  /-- In a control sequence with parameters. -/
  | controlSequence
  /-- In an operating system command. -/
  | systemCommand
  /-- At the front of a device control string. -/
  | deviceEntry
  /-- In the parameters of a device control string. -/
  | deviceParameters
  /-- In the intermediate characters of a device control string. -/
  | deviceIntermediate
  /-- In a string of which nothing is read but its end. -/
  | controlString
  deriving DecidableEq, Repr

namespace TerminalState

def isIntermediate (char : Char) : Bool :=
  ' ' ≤ char && char ≤ '/'

/-- Whether the character can end a sequence that takes parameters. -/
def isFinal (char : Char) : Bool :=
  '@' ≤ char && char ≤ '~'

/-- Control characters that are shown all the same, because they lay out a text. -/
def isLayout (char : Char) : Bool :=
  char = '\t' || char = '\n' || char = '\x0c' || char = '\r'

/-- Whether one of the bytes of the character is the one that ends a control string. -/
def holdsTerminator (char : Char) : Bool :=
  (String.utf8EncodeChar char).contains 0x9C

/-- Whether a character outside control sequences is shown. -/
def isShown (char : Char) : Bool :=
  isLayout char || (' ' ≤ char && char ≠ '\x7f')

/-- What the character after the escape character begins. -/
def ofIntroducer (char : Char) : TerminalState :=
  if isIntermediate char then escapeIntermediate
  else if char = '[' then controlSequence
  else if char = ']' then systemCommand
  else if char = 'P' then deviceEntry
  else if char = 'X' ∨ char = '^' ∨ char = '_' then controlString
  else if '0' ≤ char ∧ char ≤ '~' then ground
  else escape

/-- The state behind a character that neither begins nor cancels a sequence. -/
def next : TerminalState → Char → TerminalState
  | ground, _ => ground
  | escape, char => ofIntroducer char
  | escapeIntermediate, char =>
      if '0' ≤ char ∧ char ≤ '~' then ground else escapeIntermediate
  | controlSequence, char => if isFinal char then ground else controlSequence
  | systemCommand, char => if char = '\x07' then ground else systemCommand
  | deviceEntry, char =>
      if isIntermediate char then deviceIntermediate
      else if isFinal char then controlString
      else if '0' ≤ char ∧ char ≤ '?' then deviceParameters
      else deviceEntry
  | deviceParameters, char =>
      if isIntermediate char then deviceIntermediate
      else if '<' ≤ char ∧ char ≤ '~' then controlString
      else deviceParameters
  | deviceIntermediate, char =>
      if '0' ≤ char ∧ char ≤ '~' then controlString else deviceIntermediate
  | controlString, char => if holdsTerminator char then ground else controlString

/-- Whether a layout character interrupts what the state stands in. -/
def yieldsToLayout : TerminalState → Bool
  | ground | escape | escapeIntermediate | controlSequence => true
  | _ => false

end TerminalState

/-- What a terminal shows of the text from the given state on. The escape character
begins a sequence wherever it stands, and two other characters cancel one.

A layout character interrupts a sequence: from it on everything is shown up to the first
character that cannot be, and there the sequence goes on where it was interrupted.
If a character beyond ASCII was shown meanwhile, the sequence is over. -/
def plainFrom (state : TerminalState) (isInterrupted : Bool) : Text → Text
  | [] => []
  | char :: text =>
      if char = '\x1b' then plainFrom .escape false text
      else if char = '\x18' ∨ char = '\x1a' then plainFrom .ground false text
      else if (state = .ground || isInterrupted) && TerminalState.isShown char then
        char :: plainFrom (if char.toNat < 0x80 then state else .ground) isInterrupted text
      else if TerminalState.isLayout char && state.yieldsToLayout then
        char :: plainFrom state true text
      else plainFrom (state.next char) false text

/-- The text without its control sequences and control characters. -/
def plain (text : Text) : Text :=
  plainFrom .ground false text

end Text

end AvailabilityAnnotations

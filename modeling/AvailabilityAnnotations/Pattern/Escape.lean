/-
# Escapes in patterns

A backslash takes the meaning from a character that has one, and gives one to some
letters. In a pattern that ignores blanks, what is ignored may also stand inside an
escape, between the letter and what belongs to it.
-/

import AvailabilityAnnotations.Pattern
import AvailabilityAnnotations.Text.Blank

namespace AvailabilityAnnotations

namespace Pattern

/-- The text behind blanks and comments. A comment lasts from a number sign to the end
of its line. -/
def skipComments (isInComment : Bool) : Text → Text
  | [] => []
  | char :: text =>
      if isInComment then skipComments (char ≠ '\n') text
      else if Text.isBlank char then skipComments false text
      else if char = '#' then skipComments true text
      else char :: text

/-- The text behind what a pattern ignores. -/
def skipIgnored (ignoresBlanks : Bool) (text : Text) : Text :=
  if ignoresBlanks then skipComments false text else text

namespace Atom

/-- The letters that stand for control characters. -/
def controls : List (Char × Char) :=
  [('a', '\x07'), ('f', '\x0c'), ('n', '\n'), ('r', '\r'), ('t', '\t'), ('v', '\x0b')]

/-- Whether a backslash leaves the character as it is: ASCII apart from letters, digits
and the angle brackets, which stand for the ends of words. -/
def isEscapable (value : Char) : Bool :=
  value.toNat < 0x80 && !value.isAlphanum && value ≠ '<' && value ≠ '>'

/-- The character with a code, if there is one. -/
def charOfCode? (code : Nat) : Option Char :=
  if code < 0xD800 ∨ (0xDFFF < code ∧ code < 0x110000) then some (Char.ofNat code) else none

/-- Read a number of hexadecimal digits behind a value. -/
def readHex? (ignoresBlanks : Bool) : Nat → Nat → Text → Option (Nat × Text)
  | 0, value, text => some (value, text)
  | count + 1, value, text =>
      match skipIgnored ignoresBlanks text with
      | [] => none
      | next :: rest => do
          let digit ← Text.hexDigit? next
          readHex? ignoresBlanks count (value * 16 + digit) rest

/-- Read the code of a character. -/
def readCode? (ignoresBlanks : Bool) (count : Nat) (text : Text) : Option (Atom × Text) := do
  let (code, rest) ← readHex? ignoresBlanks count 0 text
  return (char (← charOfCode? code) (count = 2), rest)

/-- Read an escape behind its backslash. A name in braces is never complete, because
the text of a pattern has no closing brace behind an opening one. -/
def readEscape? (ignoresBlanks : Bool) : Text → Option (Atom × Text)
  | [] => none
  | letter :: rest =>
      if letter = 'x' then readCode? ignoresBlanks 2 rest
      else if letter = 'u' then readCode? ignoresBlanks 4 rest
      else if letter = 'U' then readCode? ignoresBlanks 8 rest
      else if letter = 'p' ∨ letter = 'P' then
        match skipIgnored ignoresBlanks rest with
        | [] => none
        | name :: rest => if name = '\x7b' then none else some (category name, rest)
      else if letter = 'd' ∨ letter = 's' ∨ letter = 'w' then some (shorthand false, rest)
      else if letter = 'D' ∨ letter = 'S' ∨ letter = 'W' then some (shorthand true, rest)
      else if letter = 'A' ∨ letter = 'z' then some (anchor, rest)
      else if letter = 'b' ∨ letter = 'B' ∨ letter = '<' ∨ letter = '>' then
        some (wordBoundary, rest)
      else if isEscapable letter then some (char letter false, rest)
      else (controls.lookup letter).map fun control => (char control false, rest)

end Atom

end Pattern

end AvailabilityAnnotations

/-
# Reading scalars in JSON texts

A JSON text is read from left to right, and the first problem ends the reading. There
are three kinds of problem: the text ends too early, a character is wrong where it
stands, or a value has the wrong shape for its place.

The readers in this module take one scalar from the front of a text and give what
follows it: a word, a string after its opening quote, or a number.
-/

import AvailabilityAnnotations.Json.Magnitude

namespace AvailabilityAnnotations

namespace Json

/-- Why a JSON text cannot be read. -/
inductive Problem where
  /-- The text ends too early. -/
  | truncated
  /-- A character is wrong where it stands. -/
  | malformed
  /-- A value has the wrong shape for its place. -/
  | mismatched
  deriving DecidableEq, Repr

/-- The characters that may stand between the parts of a JSON text. -/
def isBlank (char : Char) : Bool :=
  char = ' ' || char = '\n' || char = '\t' || char = '\r'

/-- The text from its first character that is not blank. -/
def skipBlank (text : Text) : Text :=
  text.dropWhile isBlank

/-- Read the given characters. -/
def readWord : Text → Text → Except Problem Text
  | [], text => .ok text
  | _ :: _, [] => .error .truncated
  | expected :: word, found :: text =>
      if expected = found then readWord word text else .error .malformed

def readColon (text : Text) : Except Problem Text :=
  match skipBlank text with
  | [] => .error .truncated
  | char :: rest => if char = ':' then .ok rest else .error .malformed

/-- The value of four hexadecimal digits. -/
def hexUnit? (first second third fourth : Char) : Option Nat := do
  let first ← Text.hexDigit? first
  let second ← Text.hexDigit? second
  let third ← Text.hexDigit? third
  let fourth ← Text.hexDigit? fourth
  return ((first * 16 + second) * 16 + third) * 16 + fourth

/-- The problem with a text in which four hexadecimal digits should stand and do not:
it is too short for them, in bytes, or one of its characters is wrong. -/
def hexProblem (text : Text) : Problem :=
  if text.width < 4 then .truncated else .malformed

/-- Whether a code unit is the first of a pair. -/
def isLeading (unit : Nat) : Bool :=
  0xD800 ≤ unit && unit ≤ 0xDBFF

/-- Whether a code unit is the second of a pair. -/
def isTrailing (unit : Nat) : Bool :=
  0xDC00 ≤ unit && unit ≤ 0xDFFF

/-- The character that a pair of code units stands for. -/
def pairedChar (leading trailing : Nat) : Char :=
  Char.ofNat (0x10000 + (leading - 0xD800) * 0x400 + (trailing - 0xDC00))

/-- The character that a backslash and one more character stand for. -/
def escapedChar? (char : Char) : Option Char :=
  if char = '"' ∨ char = '\\' ∨ char = '/' then some char
  else if char = 'b' then some '\x08'
  else if char = 'f' then some '\x0c'
  else if char = 'n' then some '\n'
  else if char = 'r' then some '\r'
  else if char = 't' then some '\t'
  else none

/-- Whether a character may not stand in a string as itself. -/
def isControl (char : Char) : Bool :=
  char.toNat < 0x20

/-- Put a character in front of a string that was read. -/
def pushFront (char : Char) (read : Except Problem (Text × Text)) :
    Except Problem (Text × Text) :=
  read.map fun (string, rest) => (char :: string, rest)

/-- Read a string up to its closing quote. The code units of an escaped pair must
stand together, and neither may stand alone. -/
def readString : Text → Except Problem (Text × Text)
  | [] => .error .truncated
  | '"' :: rest => .ok ([], rest)
  | '\\' :: [] => .error .truncated
  | '\\' :: 'u' :: a :: b :: c :: d :: rest =>
      match hexUnit? a b c d with
      | none => .error (hexProblem (a :: b :: c :: d :: rest))
      | some unit =>
          if isTrailing unit then .error .malformed
          else if isLeading unit then
            match rest with
            | [] => .error .truncated
            | '\\' :: [] => .error .truncated
            | '\\' :: 'u' :: e :: f :: g :: h :: after =>
                match hexUnit? e f g h with
                | none => .error (hexProblem (e :: f :: g :: h :: after))
                | some second =>
                    if isTrailing second then
                      pushFront (pairedChar unit second) (readString after)
                    else .error .malformed
            | '\\' :: 'u' :: digits => .error (hexProblem digits)
            | _ => .error .malformed
          else pushFront (Char.ofNat unit) (readString rest)
  | '\\' :: 'u' :: digits => .error (hexProblem digits)
  | '\\' :: char :: rest =>
      match escapedChar? char with
      | none => .error .malformed
      | some escaped => pushFront escaped (readString rest)
  | char :: rest =>
      if isControl char then .error .malformed else pushFront char (readString rest)

/-- Pass over a string up to its closing quote. Code units need not be paired. -/
def skipString : Text → Except Problem Text
  | [] => .error .truncated
  | '"' :: rest => .ok rest
  | '\\' :: [] => .error .truncated
  | '\\' :: 'u' :: a :: b :: c :: d :: rest =>
      if (hexUnit? a b c d).isSome then skipString rest
      else .error (hexProblem (a :: b :: c :: d :: rest))
  | '\\' :: 'u' :: digits => .error (hexProblem digits)
  | '\\' :: char :: rest =>
      if (escapedChar? char).isSome then skipString rest else .error .malformed
  | char :: rest => if isControl char then .error .malformed else skipString rest

/-- A number as it is written, without its sign. -/
structure Number where
  /-- The digits before the point. -/
  whole : Text
  /-- The digits after the point. -/
  fraction : Text
  exponent : Int
  deriving DecidableEq, Repr

namespace Number

/-- Whether the number is small enough for a double. -/
def isInRange (number : Number) : Bool :=
  (Magnitude.ofDigits number.whole number.fraction number.exponent).isInRange

end Number

/-- Read digits, at least one. -/
def readDigits (text : Text) : Except Problem (Text × Text) :=
  match text with
  | [] => .error .truncated
  | char :: _ =>
      if char.isDigit then .ok (text.takeWhile Char.isDigit, text.dropWhile Char.isDigit)
      else .error .malformed

/-- Read the digits before the point. A zero stands alone. -/
def readWhole (text : Text) : Except Problem (Text × Text) := do
  let (digits, rest) ← readDigits text
  match digits with
  | '0' :: _ :: _ => .error .malformed
  | _ => return (digits, rest)

/-- Read a point with the digits after it, if one stands here. -/
def readFraction (text : Text) : Except Problem (Text × Text) :=
  match text with
  | '.' :: rest => readDigits rest
  | _ => .ok ([], text)

/-- Read a power of ten, if one stands here. -/
def readExponent (text : Text) : Except Problem (Int × Text) :=
  match text with
  | [] => .ok (0, [])
  | mark :: rest =>
      if mark = 'e' ∨ mark = 'E' then
        match rest with
        | '-' :: rest => (readDigits rest).map fun (digits, rest) => (-digits.digitsValue, rest)
        | '+' :: rest => (readDigits rest).map fun (digits, rest) => (digits.digitsValue, rest)
        | _ => (readDigits rest).map fun (digits, rest) => (digits.digitsValue, rest)
      else .ok (0, text)

def readNumber (text : Text) : Except Problem (Number × Text) := do
  let (whole, rest) ← readWhole (match text with | '-' :: rest => rest | _ => text)
  let (fraction, rest) ← readFraction rest
  let (exponent, rest) ← readExponent rest
  return (⟨whole, fraction, exponent⟩, rest)

/-- Pass over a number. One that is cut off counts as malformed. -/
def skipNumber (text : Text) : Except Problem Text :=
  match readNumber text with
  | .error _ => .error .malformed
  | .ok (_, rest) => .ok rest

/-- Whether a number can begin with the character. -/
def startsNumber (char : Char) : Bool :=
  char = '-' || char.isDigit

/-- The problem with a place where a value of another shape was wanted than the one
that stands there. A scalar is read as a whole first, and a problem in it counts. -/
def mismatch (text : Text) : Problem :=
  let wrongShape (read : Except Problem Text) : Problem :=
    match read with
    | .error problem => problem
    | .ok _ => .mismatched
  match text with
  | [] => .truncated
  | char :: rest =>
      if char = 'n' then wrongShape (readWord "ull".toList rest)
      else if char = 't' then wrongShape (readWord "rue".toList rest)
      else if char = 'f' then wrongShape (readWord "alse".toList rest)
      else if char = '"' then wrongShape ((readString rest).map Prod.snd)
      else if char = '[' ∨ char = '\x7b' then .mismatched
      else if startsNumber char then
        match readNumber text with
        | .error problem => problem
        | .ok (number, _) => if number.isInRange then .mismatched else .malformed
      else .malformed

end Json

end AvailabilityAnnotations

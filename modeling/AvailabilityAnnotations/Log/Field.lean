/-
# Fields in log filters

A directive of a filter can ask for a field by its name, and for a value of it. A value
is written as a number or as a pattern.
-/

import AvailabilityAnnotations.Pattern.Acceptance

namespace AvailabilityAnnotations

namespace Log

/-- A field that a directive asks for. -/
structure Field where
  name : Text
  /-- Whether the field has to have a given value. -/
  isValued : Bool
  deriving DecidableEq, Repr

namespace Field

/-- Whether a text is empty or a power of ten, as it may stand behind a number. -/
def isExponent : Text → Bool
  | [] => true
  | mark :: text =>
      let digits := match text with | '+' :: digits | '-' :: digits => digits | _ => text
      (mark = 'e' || mark = 'E') && digits ≠ [] && digits.all Char.isDigit

/-- Whether a text is a number without a sign in decimal digits. A point may stand
anywhere among the digits. -/
def isDecimal (text : Text) : Bool :=
  let whole := text.takeWhile Char.isDigit
  let (fraction, rest) :=
    match text.dropWhile Char.isDigit with
    | '.' :: rest => (rest.takeWhile Char.isDigit, rest.dropWhile Char.isDigit)
    | rest => ([], rest)
  whole ++ fraction ≠ [] && isExponent rest

/-- Whether a text is a number. Infinity is one, and so is what is not a number. -/
def isNumber (text : Text) : Bool :=
  let unsigned := match text with | '+' :: unsigned | '-' :: unsigned => unsigned | _ => text
  let word := String.ofList (unsigned.map Char.toLower)
  word = "inf" || word = "infinity" || word = "nan" || isDecimal unsigned

/-- Whether a text can stand for the value of a field. -/
def isValue (text : Text) : Bool :=
  isNumber text || (Pattern.ofText? text).any Pattern.isAccepted

/-- Read a field: its name, and a value behind an equals sign. What stands behind a
second equals sign is left out. -/
def ofText? (text : Text) : Option Field :=
  let name := text.takeWhile (· ≠ '=')
  match text.dropWhile (· ≠ '=') with
  | [] => some ⟨name, false⟩
  | _ :: rest => if isValue (rest.takeWhile (· ≠ '=')) then some ⟨name, true⟩ else none

/-- Whether every event has the field, whatever its value is. -/
def isMessage (field : Field) : Bool :=
  field.name = "message".toList && !field.isValued

end Field

end Log

end AvailabilityAnnotations

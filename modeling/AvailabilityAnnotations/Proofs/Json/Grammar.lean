/-
# The grammar of JSON texts

What a JSON text is, said without a reader: which texts spell a string, which are numbers,
and how values are put together from parts with blanks around them. The readers are compared
with this grammar elsewhere.

A string is spelled character by character, and every character has several spellings: by
itself, by a short escape, or by the code units of its UTF-16 encoding. `Spells` ties a text
to the string that it spells. `IsBody` is wider: the code units in an escape need not make up
characters, which is all that is asked of a string that nobody reads.
-/

import AvailabilityAnnotations.Text

namespace AvailabilityAnnotations

namespace Json

/-- The characters that may stand between the parts of a text. -/
def blanks : List Char :=
  [' ', '\n', '\t', '\r']

def IsBlankRun (text : Text) : Prop :=
  ∀ char ∈ text, char ∈ blanks

theorem isBlankRun_nil : IsBlankRun [] := by
  simp [IsBlankRun]

/-- The characters with a short escape, each behind the one that stands for it there. -/
def shortEscapes : List (Char × Char) :=
  [('"', '"'), ('\\', '\\'), ('/', '/'), ('b', '\x08'), ('f', '\x0c'), ('n', '\n'), ('r', '\r'),
    ('t', '\t')]

/-- The characters that can stand in a string as themselves. -/
def IsPlain (char : Char) : Prop :=
  0x20 ≤ char.toNat ∧ char ≠ '"' ∧ char ≠ '\\'

/-- A hexadecimal digit, in lower or upper case. -/
def IsHexDigit (value : Nat) (char : Char) : Prop :=
  value < 16 ∧ (char = Nat.digitChar value ∨ char = (Nat.digitChar value).toUpper)

/-- The escape of a code unit: four hexadecimal digits, the highest first. -/
inductive IsUnit (unit : Nat) : Text → Prop
  | digits {a b c d : Char} : IsHexDigit (unit / 0x1000) a → IsHexDigit (unit / 0x100 % 16) b →
      IsHexDigit (unit / 0x10 % 16) c → IsHexDigit (unit % 16) d →
      IsUnit unit ['\\', 'u', a, b, c, d]

/-- The first code unit of a character that takes two of them. -/
def leadingUnit (char : Char) : Nat :=
  0xD800 + (char.toNat - 0x10000) / 0x400

/-- The second code unit of a character that takes two of them. -/
def trailingUnit (char : Char) : Nat :=
  0xDC00 + (char.toNat - 0x10000) % 0x400

/-- The spellings of one character. -/
inductive SpellsChar (char : Char) : Text → Prop
  | plain : IsPlain char → SpellsChar char [char]
  | short {mark : Char} : (mark, char) ∈ shortEscapes → SpellsChar char ['\\', mark]
  | unit {text : Text} : char.toNat < 0x10000 → IsUnit char.toNat text → SpellsChar char text
  | pair {leading trailing : Text} : 0x10000 ≤ char.toNat → IsUnit (leadingUnit char) leading →
      IsUnit (trailingUnit char) trailing → SpellsChar char (leading ++ trailing)

/-- The spellings of a string, without its quotes. -/
inductive Spells : Text → Text → Prop
  | nil : Spells [] []
  | cons {char : Char} {string text rest : Text} : SpellsChar char text → Spells string rest →
      Spells (char :: string) (text ++ rest)

/-- A character or an escape in a string. -/
inductive IsPart : Text → Prop
  | plain {char : Char} : IsPlain char → IsPart [char]
  | short {mark char : Char} : (mark, char) ∈ shortEscapes → IsPart ['\\', mark]
  | unit {unit : Nat} {text : Text} : IsUnit unit text → IsPart text

/-- What can stand between the quotes of a string. -/
inductive IsBody : Text → Prop
  | nil : IsBody []
  | cons {part rest : Text} : IsPart part → IsBody rest → IsBody (part ++ rest)

def quoted (body : Text) : Text :=
  '"' :: (body ++ ['"'])

def IsDigits (text : Text) : Prop :=
  text ≠ [] ∧ ∀ char ∈ text, char.isDigit = true

/-- The digits before the point. A zero stands alone. -/
def IsWhole (text : Text) : Prop :=
  IsDigits text ∧ (text = ['0'] ∨ text.head? ≠ some '0')

/-- Nothing, or a point with the digits after it. -/
def IsFraction (text : Text) : Prop :=
  text = [] ∨ ∃ digits, IsDigits digits ∧ text = '.' :: digits

/-- Nothing, or a power of ten. -/
def IsExponent (text : Text) : Prop :=
  text = [] ∨ ∃ mark sign digits, (mark = 'e' ∨ mark = 'E') ∧
    (sign = [] ∨ sign = ['+'] ∨ sign = ['-']) ∧ IsDigits digits ∧ text = mark :: (sign ++ digits)

def IsNumber (text : Text) : Prop :=
  ∃ sign whole fraction exponent, (sign = [] ∨ sign = ['-']) ∧ IsWhole whole ∧
    IsFraction fraction ∧ IsExponent exponent ∧ text = sign ++ (whole ++ (fraction ++ exponent))

/-- Parts with commas between them. -/
def separated : List Text → Text
  | [] => []
  | part :: parts => part ++ parts.flatMap (',' :: ·)

/-- Parts in brackets, with commas between them and blanks behind the last one. -/
def collection (opening : Char) (parts : List Text) (blank : Text) (closing : Char) : Text :=
  opening :: (separated parts ++ (blank ++ [closing]))

/-- A text with blanks around it. -/
structure Padded where
  before : Text
  body : Text
  after : Text
  before_blank : IsBlankRun before
  after_blank : IsBlankRun after

namespace Padded

/-- The text up to the blanks at the end. -/
def front (padded : Padded) : Text :=
  padded.before ++ padded.body

def text (padded : Padded) : Text :=
  padded.front ++ padded.after

end Padded

/-- A member of an object: the body of its key, and its value. -/
structure Member where
  before : Text
  key : Text
  between : Text
  value : Padded
  before_blank : IsBlankRun before
  between_blank : IsBlankRun between

namespace Member

/-- The member behind the opening quote of its key, up to the blanks at the end. -/
def inner (member : Member) : Text :=
  member.key ++ '"' :: (member.between ++ ':' :: member.value.front)

def text (member : Member) : Text :=
  member.before ++ '"' :: (member.inner ++ member.value.after)

end Member

def words : List Text :=
  ["null".toList, "true".toList, "false".toList]

/-- The texts that are JSON values, without blanks around them. -/
inductive IsValue : Text → Prop
  | word {text : Text} : text ∈ words → IsValue text
  | number {text : Text} : IsNumber text → IsValue text
  | string {body : Text} : IsBody body → IsValue (quoted body)
  | array {items : List Padded} {blank : Text} : IsBlankRun blank →
      (∀ item ∈ items, IsValue item.body) →
      IsValue (collection '[' (items.map Padded.text) blank ']')
  | object {members : List Member} {blank : Text} : IsBlankRun blank →
      (∀ member ∈ members, IsBody member.key) →
      (∀ member ∈ members, IsValue member.value.body) →
      IsValue (collection '\x7b' (members.map Member.text) blank '\x7d')

end Json

end AvailabilityAnnotations

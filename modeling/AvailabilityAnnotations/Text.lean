/-
# Texts

Everything the library reads and writes is a sequence of characters. A text is
kept as that sequence, so that cutting, searching and gluing are operations on
lists; strings appear only where a text leaves the library.

The module holds the operations that the annotation forms are made of: asking
for a literal at the front of a text, cutting a run of characters of one class,
and measuring a text in the bytes of its UTF-8 encoding.
-/

namespace AvailabilityAnnotations

/-- A text is the sequence of its characters. -/
abbrev Text := List Char

namespace Text

/-- What follows `literal` at the front of the text; `none` if the text does not
begin with it. -/
def after? : Text → Text → Option Text
  | [], text => some text
  | _ :: _, [] => none
  | expected :: literal, found :: text =>
      if expected = found then after? literal text else none

/-- A literal is found exactly where the text is that literal and something else. -/
theorem after?_eq_some_iff {literal text rest : Text} :
    after? literal text = some rest ↔ text = literal ++ rest := by
  induction literal generalizing text with
  | nil => simp [after?]
  | cons expected literal ih =>
      cases text with
      | nil => simp [after?]
      | cons found text =>
          by_cases same : expected = found
          · simp [after?, same, ih]
          · simp [after?, same, Ne.symm same]

/-- Whatever follows it, a literal that was written is found. -/
@[simp] theorem after?_append (literal rest : Text) :
    after? literal (literal ++ rest) = some rest :=
  after?_eq_some_iff.2 rfl

/-- A run of characters of a class holds such characters only. -/
theorem of_mem_takeWhile {accept : Char → Bool} {text : Text} {char : Char}
    (member : char ∈ text.takeWhile accept) : accept char = true :=
  List.all_eq_true.1 List.all_takeWhile char member

/-- A run of characters of a class ends before a character outside the class. -/
theorem not_of_dropWhile_eq_cons {accept : Char → Bool} {text rest : Text} {char : Char}
    (stopped : text.dropWhile accept = char :: rest) : accept char = false := by
  have first := List.head?_dropWhile_not accept text
  rw [stopped] at first
  exact first

/-- A text with a known last character is that character behind the rest. -/
theorem dropLast_append_of_getLast? {text : Text} {char : Char}
    (last : text.getLast? = some char) : text.dropLast ++ [char] = text := by
  obtain ⟨front, rfl⟩ := List.getLast?_eq_some_iff.1 last
  simp

/-- A text is a run of characters of a class and what follows the run. -/
theorem eq_takeWhile_append_dropWhile (accept : Char → Bool) (text : Text) :
    text = text.takeWhile accept ++ text.dropWhile accept :=
  List.takeWhile_append_dropWhile.symm

/-- The text without its longest run of `drop` characters at the end. -/
def dropEndWhile (drop : Char → Bool) (text : Text) : Text :=
  (text.reverse.dropWhile drop).reverse

/-- The number of bytes in the UTF-8 encoding of the text. -/
def width : Text → Nat
  | [] => 0
  | char :: text => char.utf8Size + width text

@[simp] theorem width_nil : width [] = 0 := rfl

@[simp] theorem width_cons (char : Char) (text : Text) :
    width (char :: text) = char.utf8Size + width text := rfl

@[simp] theorem width_append (first second : Text) :
    width (first ++ second) = width first + width second := by
  induction first with
  | nil => simp
  | cons char first ih => simp [ih, Nat.add_assoc]

/-- The text behind its first `count` bytes; `none` if they end inside a character. -/
def dropWidth? (count : Nat) : Text → Option Text
  | [] => if count = 0 then some [] else none
  | char :: text =>
      if count = 0 then some (char :: text)
      else if char.utf8Size ≤ count then dropWidth? (count - char.utf8Size) text
      else none

/-- The first `count` bytes of the text; `none` if they end inside a character. -/
def takeWidth? (count : Nat) : Text → Option Text
  | [] => if count = 0 then some [] else none
  | char :: text =>
      if count = 0 then some []
      else if char.utf8Size ≤ count then
        (takeWidth? (count - char.utf8Size) text).map (char :: ·)
      else none

/-- The pieces of the text between the occurrences of `separator`, empty ones
included: a text with `n` separators has `n + 1` pieces. -/
def pieces (separator : Char) : Text → List Text
  | [] => [[]]
  | char :: text =>
      if char = separator then [] :: pieces separator text
      else
        match pieces separator text with
        | [] => [[char]]
        | piece :: others => (char :: piece) :: others

/-- A number with one more decimal digit behind it. -/
def appendDigit (value : Nat) (digit : Char) : Nat :=
  value * 10 + (digit.toNat - '0'.toNat)

/-- The number that decimal digits stand for. -/
def digitsValue (digits : Text) : Nat :=
  digits.foldl appendDigit 0

/-- The value of a hexadecimal digit. -/
def hexDigit? (char : Char) : Option Nat :=
  if '0' ≤ char ∧ char ≤ '9' then some (char.toNat - '0'.toNat)
  else if 'a' ≤ char ∧ char ≤ 'f' then some (char.toNat - 'a'.toNat + 10)
  else if 'A' ≤ char ∧ char ≤ 'F' then some (char.toNat - 'A'.toNat + 10)
  else none

/-- The decimal digits of a number. -/
def ofNat (number : Nat) : Text :=
  Nat.toDigits 10 number

end Text

end AvailabilityAnnotations

/-
# Writing JSON texts

A JSON value is written in one of two layouts: compact, on one line without blanks, or
with every item and member on a line of its own, two spaces deeper than the brackets
around it. In a string the quote, the backslash and the control characters are
escaped, everything else stands for itself.
-/

import AvailabilityAnnotations.Text

namespace AvailabilityAnnotations

/-- A JSON value of the kinds that are written. -/
inductive Json where
  | bool (value : Bool)
  | number (value : Nat)
  | string (value : Text)
  | array (items : List Json)
  | object (members : List (String × Json))

namespace Json

/-- How a character is written in a string. -/
def escapeChar (char : Char) : Text :=
  if char = '"' then ['\\', '"']
  else if char = '\\' then ['\\', '\\']
  else if char = '\x08' then ['\\', 'b']
  else if char = '\x0c' then ['\\', 'f']
  else if char = '\n' then ['\\', 'n']
  else if char = '\r' then ['\\', 'r']
  else if char = '\t' then ['\\', 't']
  else if char.toNat < 0x20 then
    "\\u00".toList ++ [Nat.digitChar (char.toNat / 16), Nat.digitChar (char.toNat % 16)]
  else [char]

def quote (string : Text) : Text :=
  '"' :: string.flatMap escapeChar ++ ['"']

def ofBool (value : Bool) : Text :=
  if value then "true".toList else "false".toList

mutual

/-- The value on one line. -/
def compact : Json → Text
  | bool value => ofBool value
  | number value => Text.ofNat value
  | string value => quote value
  | array items => '[' :: compactItems items ++ [']']
  | object members => '\x7b' :: compactMembers members ++ ['\x7d']

/-- Items with commas between them. -/
def compactItems : List Json → Text
  | [] => []
  | [item] => item.compact
  | item :: items => item.compact ++ ',' :: compactItems items

/-- Members with commas between them. -/
def compactMembers : List (String × Json) → Text
  | [] => []
  | [(key, value)] => quote key.toList ++ ':' :: value.compact
  | (key, value) :: members =>
      quote key.toList ++ ':' :: value.compact ++ ',' :: compactMembers members

end

/-- A line break and the blanks at the given depth. -/
def lineBreak (depth : Nat) : Text :=
  '\n' :: List.replicate (2 * depth) ' '

mutual

/-- The value over several lines, at the given depth. -/
def prettyAt (depth : Nat) : Json → Text
  | bool value => ofBool value
  | number value => Text.ofNat value
  | string value => quote value
  | array [] => "[]".toList
  | array (item :: items) =>
      '[' :: lineBreak (depth + 1) ++ item.prettyAt (depth + 1) ++
        prettyMoreItems (depth + 1) items ++ lineBreak depth ++ [']']
  | object [] => ['\x7b', '\x7d']
  | object ((key, value) :: members) =>
      '\x7b' :: lineBreak (depth + 1) ++ quote key.toList ++ ": ".toList ++
        value.prettyAt (depth + 1) ++ prettyMoreMembers (depth + 1) members ++
        lineBreak depth ++ ['\x7d']

/-- Items behind the first, each on a line of its own. -/
def prettyMoreItems (depth : Nat) : List Json → Text
  | [] => []
  | item :: items => ',' :: lineBreak depth ++ item.prettyAt depth ++ prettyMoreItems depth items

/-- Members behind the first, each on a line of its own. -/
def prettyMoreMembers (depth : Nat) : List (String × Json) → Text
  | [] => []
  | (key, value) :: members =>
      ',' :: lineBreak depth ++ quote key.toList ++ ": ".toList ++ value.prettyAt depth ++
        prettyMoreMembers depth members

end

/-- The value over several lines. -/
def pretty (value : Json) : Text :=
  value.prettyAt 0

end Json

end AvailabilityAnnotations

/-
# Patterns

A pattern describes texts by a regular expression. Here patterns are only read, never
matched, so the types keep what decides whether a text is a pattern that is accepted,
and leave out the rest: which bounds a repetition has, whether it is greedy, or which
classes of characters a name stands for.
-/

import AvailabilityAnnotations.Text

namespace AvailabilityAnnotations

namespace Pattern

/-- Flags as they are written in a group. -/
structure Flags where
  written : Text := []
  deriving DecidableEq, Repr

namespace Flags

/-- Whether the flags set or reset the given one, if they name it. Those behind a hyphen
are reset. -/
def state? (flags : Flags) (flag : Char) : Option Bool :=
  if (flags.written.takeWhile (· ≠ '-')).contains flag then some true
  else if flags.written.contains flag then some false
  else none

end Flags

/-- What can stand in a pattern without brackets or parentheses. -/
inductive Atom where
  /-- A character, or a byte that two hexadecimal digits give. -/
  | char (char : Char) (isByte : Bool)
  /-- The digits, the blanks or the characters of words, by a letter. -/
  | shorthand (isNegated : Bool)
  /-- The characters of a general category. -/
  | category (name : Char)
  /-- The beginning or the end of a line or a text. -/
  | anchor
  /-- A place where a word begins or ends, or one where none does. -/
  | wordBoundary
  deriving DecidableEq, Repr

/-- What can stand in brackets. -/
inductive CharSet where
  | empty
  | char (char : Char)
  | range (first last : Char)
  /-- A class of ASCII characters, by its name between colons. -/
  | named (isNegated : Bool)
  | shorthand (isNegated : Bool)
  | category (name : Char)
  | union (parts : List CharSet)
  /-- An intersection or a difference. -/
  | combined (left right : CharSet)
  | bracketed (isNegated : Bool) (inner : CharSet)

namespace CharSet

mutual

/-- How deep sets are nested in the set. -/
def height : CharSet → Nat
  | empty | char _ | range .. | named _ | shorthand _ | category _ => 0
  | union parts => heights parts + 1
  | combined left right => max left.height right.height + 1
  | bracketed _ inner => inner.height + 1

/-- The greatest height of some sets. -/
def heights : List CharSet → Nat
  | [] => 0
  | part :: parts => max part.height (heights parts)

end

end CharSet

end Pattern

/-- A regular expression. -/
inductive Pattern where
  | empty
  /-- Any character. -/
  | any
  | atom (atom : Pattern.Atom)
  | oneOf (isNegated : Bool) (members : Pattern.CharSet)
  /-- Flags for the rest of the group. -/
  | flags (flags : Pattern.Flags)
  | repeated (inner : Pattern)
  | group (name? : Option Text) (flags : Pattern.Flags) (inner : Pattern)
  | concat (parts : List Pattern)
  | alternation (branches : List Pattern)

namespace Pattern

/-- Parts one behind the other. A part alone stands for itself. -/
def ofParts : List Pattern → Pattern
  | [] => empty
  | [part] => part
  | parts => concat parts

mutual

/-- How deep patterns are nested in the pattern. -/
def height : Pattern → Nat
  | empty | any | atom _ | flags _ => 0
  | oneOf _ members => members.height + 1
  | repeated inner => inner.height + 1
  | group _ _ inner => inner.height + 1
  | concat parts => heights parts + 1
  | alternation branches => heights branches + 1

/-- The greatest height of some patterns. -/
def heights : List Pattern → Nat
  | [] => 0
  | part :: parts => max part.height (heights parts)

end

mutual

/-- The names of the groups in the pattern. -/
def names : Pattern → List Text
  | empty | any | atom _ | flags _ | oneOf .. => []
  | repeated inner => inner.names
  | group name? _ inner => name?.toList ++ inner.names
  | concat parts => allNames parts
  | alternation branches => allNames branches

/-- The names of the groups in some patterns. -/
def allNames : List Pattern → List Text
  | [] => []
  | part :: parts => part.names ++ allNames parts

end

end Pattern

end AvailabilityAnnotations

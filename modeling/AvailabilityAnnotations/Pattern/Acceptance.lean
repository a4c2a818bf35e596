/-
# Accepted patterns

Not every pattern that can be read is accepted. Its groups have different names, it is
not nested too deeply, and it matches whole characters: where the Unicode flag is reset
a pattern is about bytes, so nothing there may match a byte beyond ASCII. The boundaries
of words are known within ASCII only.
-/

import AvailabilityAnnotations.Pattern.Group

namespace AvailabilityAnnotations

namespace Pattern

/-- Whether a letter names a general category. -/
def isCategory (name : Char) : Bool :=
  "CLMNPSZ".toList.contains name.toUpper

/-- Whether the character is in ASCII, or may be beyond it. -/
def isAllowed (isUnicode : Bool) (char : Char) : Bool :=
  isUnicode || char.toNat < 0x80

/-- Whether an atom is accepted. -/
def Atom.isAccepted (isUnicode : Bool) : Atom → Bool
  | char value isByte => !isByte || isAllowed isUnicode value
  | shorthand isNegated => isUnicode || !isNegated
  | category name => isUnicode && isCategory name
  | anchor => true
  | wordBoundary => !isUnicode

namespace CharSet

mutual

/-- Whether a set is accepted. -/
def isAccepted (isUnicode : Bool) : CharSet → Bool
  | empty => true
  | char value => isAllowed isUnicode value
  | range first last => isAllowed isUnicode first && isAllowed isUnicode last
  | named isNegated => isUnicode || !isNegated
  | shorthand isNegated => isUnicode || !isNegated
  | category name => isUnicode && isCategory name
  | union parts => areAccepted isUnicode parts
  | combined left right => left.isAccepted isUnicode && right.isAccepted isUnicode
  | bracketed isNegated inner => (isUnicode || !isNegated) && inner.isAccepted isUnicode

/-- Whether all of some sets are accepted. -/
def areAccepted (isUnicode : Bool) : List CharSet → Bool
  | [] => true
  | part :: parts => part.isAccepted isUnicode && areAccepted isUnicode parts

end

end CharSet

mutual

/-- Whether the Unicode flag is set behind the pattern; `none` if the pattern is not
accepted. -/
def unicodeAfter? (isUnicode : Bool) : Pattern → Option Bool
  | empty => some isUnicode
  | any => if isUnicode then some isUnicode else none
  | atom found => if found.isAccepted isUnicode then some isUnicode else none
  | oneOf isNegated members =>
      if (CharSet.bracketed isNegated members).isAccepted isUnicode then some isUnicode else none
  | flags written => some ((written.state? 'u').getD isUnicode)
  | repeated inner => inner.unicodeAfter? isUnicode
  | group _ written inner =>
      -- What flags do inside a group ends with it.
      (inner.unicodeAfter? ((written.state? 'u').getD isUnicode)).map fun _ => isUnicode
  | concat parts => unicodeAfterAll? isUnicode parts
  | alternation branches => unicodeAfterAll? isUnicode branches

/-- Whether the Unicode flag is set behind patterns that stand one behind the other. -/
def unicodeAfterAll? (isUnicode : Bool) : List Pattern → Option Bool
  | [] => some isUnicode
  | part :: parts => do unicodeAfterAll? (← part.unicodeAfter? isUnicode) parts

end

/-- How deep a pattern may be nested. -/
def maximalHeight : Nat := 250

/-- Whether a pattern is accepted. -/
def isAccepted (pattern : Pattern) : Bool :=
  pattern.height ≤ maximalHeight && decide pattern.names.Nodup &&
    (pattern.unicodeAfter? true).isSome

end Pattern

end AvailabilityAnnotations

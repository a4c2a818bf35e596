/-
# Sets of characters in patterns

A set stands in brackets: characters, ranges, classes, other sets, and operators between
unions of those. At its front hyphens stand for themselves, and so does a closing bracket
right there, so no set is empty.
-/

import AvailabilityAnnotations.Pattern.Escape

namespace AvailabilityAnnotations

namespace Pattern

namespace CharSet

/-- The names of the classes of ASCII characters. -/
def classNames : List String :=
  ["alnum", "alpha", "ascii", "blank", "cntrl", "digit", "graph", "lower", "print",
   "punct", "space", "upper", "word", "xdigit"]

/-- Read a class of ASCII characters behind its opening bracket, and give whether it is
negated. -/
def readNamed? (text : Text) : Option (Bool × Text) := do
  let (isNegated, text) ←
    match text with
    | ':' :: '^' :: rest => some (true, rest)
    | ':' :: rest => some (false, rest)
    | _ => none
  match text.dropWhile (· ≠ ':') with
  | ':' :: ']' :: rest =>
      if classNames.contains (String.ofList (text.takeWhile (· ≠ ':'))) then
        some (isNegated, rest)
      else none
  | _ => none

/-- The set that an atom is. Places in a text are no characters. -/
def ofAtom? : Atom → Option CharSet
  | .char value _ => some (char value)
  | .shorthand isNegated => some (shorthand isNegated)
  | .category name => some (category name)
  | .anchor | .wordBoundary => none

/-- Read a character or an escape. -/
def readAtom? (ignoresBlanks : Bool) : Text → Option (Atom × Text)
  | [] => none
  | '\\' :: rest => Atom.readEscape? ignoresBlanks rest
  | value :: rest => some (.char value false, rest)

/-- What stands behind a hyphen, as far as it decides whether the hyphen makes a range.
Where blanks are ignored, a number sign is passed over but not the comment behind it. -/
def peek? (ignoresBlanks : Bool) (text : Text) : Option Char :=
  if ignoresBlanks then
    match text.dropWhile Text.isBlank with
    | '#' :: comment => (comment.dropWhile Text.isBlank).head?
    | other => other.head?
  else text.head?

/-- Read one member of a set, or a range. The ends of a range are characters in rising
order. -/
def readMember? (ignoresBlanks : Bool) (text : Text) : Option (CharSet × Text) := do
  let (first, rest) ← readAtom? ignoresBlanks text
  match skipIgnored ignoresBlanks rest with
  | [] => none
  | next :: after =>
      let ending? := peek? ignoresBlanks after
      if next ≠ '-' ∨ ending? = some ']' ∨ ending? = some '-' then
        return (← ofAtom? first, next :: after)
      else
        let (last, rest) ← readAtom? ignoresBlanks (skipIgnored ignoresBlanks after)
        match first, last with
        | .char low _, .char high _ => if low ≤ high then some (range low high, rest) else none
        | _, _ => none

/-- The parts that were read, behind an operator if one stands in front of them. -/
def close (left? : Option CharSet) (parts : List CharSet) : CharSet :=
  let right :=
    match parts with
    | [] => empty
    | [part] => part
    | parts => union parts
  match left? with
  | none => right
  | some left => combined left right

/-- Whether the character makes an operator when it stands twice. -/
def isOperator (char : Char) : Bool :=
  char = '&' || char = '-' || char = '~'

/-- Take the mark of a negated set, if one stands behind the opening bracket. -/
def takeNegation (ignoresBlanks : Bool) (text : Text) : Bool × Text :=
  match skipIgnored ignoresBlanks text with
  | '^' :: rest => (true, rest)
  | other => (false, other)

/-- Read a set up to its closing bracket, behind the parts that were read, in at most the
given number of rounds. -/
def readParts? (ignoresBlanks : Bool) :
    Nat → Bool → Option CharSet → List CharSet → Text → Option (CharSet × Text)
  | 0, _, _, _, _ => none
  | rounds + 1, isFront, left?, parts, text =>
      match skipIgnored ignoresBlanks text with
      | [] => none
      | next :: rest =>
          if isFront && next = '-' then
            readParts? ignoresBlanks rounds true left? (parts ++ [char '-']) rest
          else if isFront && parts.isEmpty && next = ']' then
            readParts? ignoresBlanks rounds false left? [char ']'] rest
          else if next = ']' then some (close left? parts, rest)
          else if next = '[' then
            match readNamed? rest with
            | some (isNegated, rest) =>
                readParts? ignoresBlanks rounds false left? (parts ++ [named isNegated]) rest
            | none => do
                let (isNegated, inside) := takeNegation ignoresBlanks rest
                let (inner, rest) ← readParts? ignoresBlanks rounds true none [] inside
                readParts? ignoresBlanks rounds false left?
                  (parts ++ [bracketed isNegated inner]) rest
          else if isOperator next && rest.head? = some next then
            readParts? ignoresBlanks rounds false (close left? parts) [] rest.tail
          else do
            let (member, rest) ← readMember? ignoresBlanks (next :: rest)
            readParts? ignoresBlanks rounds false left? (parts ++ [member]) rest

/-- Read a set behind its opening bracket, and give whether it is negated. -/
def read? (ignoresBlanks : Bool) (text : Text) : Option (Bool × CharSet × Text) := do
  let (isNegated, inside) := takeNegation ignoresBlanks text
  -- Every round takes a character, so the length bounds their number.
  let (members, rest) ← readParts? ignoresBlanks (text.length + 1) true none [] inside
  return (isNegated, members, rest)

end CharSet

end Pattern

end AvailabilityAnnotations

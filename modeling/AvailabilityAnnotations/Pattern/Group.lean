/-
# Groups in patterns

A pattern is read as the inside of a group that has no parentheses: branches with bars
between them, each of them parts that stand one behind the other. A group may have a
name or flags. Flags in parentheses of their own are about the rest of the group that
they stand in.
-/

import AvailabilityAnnotations.Pattern.CharSet
import AvailabilityAnnotations.Text.Alphanumeric

namespace AvailabilityAnnotations

namespace Pattern

/-- What an opening parenthesis begins. -/
inductive Opening where
  | flags (flags : Flags)
  | group (name? : Option Text) (flags : Flags)
  deriving DecidableEq, Repr

/-- Read flags behind those that are written, up to the colon or the closing parenthesis
behind them. No flag may stand twice, and a hyphen must have flags behind it. -/
def readFlags? (written : Text) : Text → Option (Flags × Char × Text)
  | [] => none
  | char :: rest =>
      if char = ':' ∨ char = ')' then
        if written.getLast? = some '-' then none else some (⟨written⟩, char, rest)
      else if "imsUuRx-".toList.contains char && !written.contains char then
        readFlags? (written ++ [char]) rest
      else none

/-- Whether the name of a group can begin with the character. -/
def beginsName (char : Char) : Bool :=
  char = '_' || Text.isAlphabetic char

/-- Whether the character can stand in the name of a group behind its first one. -/
def continuesName (char : Char) : Bool :=
  char = '_' || char = '.' || char = '[' || char = ']' || Text.isAlphanumeric char

/-- Read the name of a group and the angle bracket behind it. -/
def readName? (text : Text) : Option (Text × Text) :=
  match text.takeWhile (· ≠ '>'), text.dropWhile (· ≠ '>') with
  | first :: others, _ :: rest =>
      if beginsName first && others.all continuesName then some (first :: others, rest) else none
  | _, _ => none

/-- Read what follows an opening parenthesis, up to the inside of the group if it begins
one. -/
def readOpening? (ignoresBlanks : Bool) (text : Text) : Option (Opening × Text) :=
  match skipIgnored ignoresBlanks text with
  | '?' :: 'P' :: '<' :: rest => (readName? rest).map fun (name, rest) => (.group name ⟨[]⟩, rest)
  | '?' :: '<' :: rest => (readName? rest).map fun (name, rest) => (.group name ⟨[]⟩, rest)
  | '?' :: rest => do
      let (found, stop, rest) ← readFlags? [] rest
      if stop = ':' then return (.group none found, rest)
      else if found.written = [] then none
      else return (.flags found, rest)
  | other => some (.group none ⟨[]⟩, other)

/-- Repeat the last part. Flags cannot be repeated. -/
def repeatLast? (parts : List Pattern) : Option (List Pattern) :=
  match parts.getLast? with
  | none | some (flags _) => none
  | some part => some (parts.dropLast ++ [repeated part])

/-- The branches that were read, of which the last one has the given parts. -/
def ofBranches (branches : List Pattern) (parts : List Pattern) : Pattern :=
  if branches.isEmpty then ofParts parts else alternation (branches ++ [ofParts parts])

/-- Read the inside of a group up to its closing parenthesis or the end of the text,
behind what was read of it, in at most the given number of rounds. -/
def readBranches? :
    Nat → Bool → List Pattern → List Pattern → Text → Option (Pattern × Text)
  | 0, _, _, _, _ => none
  | rounds + 1, ignoresBlanks, branches, parts, text =>
      let continueWith (part : Pattern) (rest : Text) : Option (Pattern × Text) :=
        readBranches? rounds ignoresBlanks branches (parts ++ [part]) rest
      match skipIgnored ignoresBlanks text with
      | [] => some (ofBranches branches parts, [])
      | char :: rest =>
          if char = ')' then some (ofBranches branches parts, char :: rest)
          else if char = '|' then
            readBranches? rounds ignoresBlanks (branches ++ [ofParts parts]) [] rest
          else if char = '(' then do
            let (opening, rest) ← readOpening? ignoresBlanks rest
            match opening with
            | .flags written =>
                readBranches? rounds ((written.state? 'x').getD ignoresBlanks) branches
                  (parts ++ [flags written]) rest
            | .group name? written =>
                let (inner, rest) ←
                  readBranches? rounds ((written.state? 'x').getD ignoresBlanks) [] [] rest
                match rest with
                | ')' :: rest => continueWith (group name? written inner) rest
                | _ => none
          else if char = '[' then do
            let (isNegated, members, rest) ← CharSet.read? ignoresBlanks rest
            continueWith (oneOf isNegated members) rest
          else if char = '*' ∨ char = '+' ∨ char = '?' then do
            let parts ← repeatLast? parts
            readBranches? rounds ignoresBlanks branches parts
              (match rest with
              | '?' :: rest => rest
              | _ => rest)
          -- The bounds of a repetition would end with a brace, which no text has here.
          else if char = '\x7b' then none
          else if char = '\\' then do
            let (found, rest) ← Atom.readEscape? ignoresBlanks rest
            continueWith (atom found) rest
          else if char = '.' then continueWith any rest
          else if char = '^' ∨ char = '$' then continueWith (atom .anchor) rest
          else continueWith (atom (.char char false)) rest

/-- Read a pattern. -/
def ofText? (text : Text) : Option Pattern :=
  -- Every round takes a character, so the length bounds their number.
  match readBranches? (text.length + 1) false [] [] text with
  | some (pattern, []) => some pattern
  | _ => none

end Pattern

end AvailabilityAnnotations

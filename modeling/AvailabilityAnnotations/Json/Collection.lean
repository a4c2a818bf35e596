/-
# Reading arrays and objects in JSON texts

Both kinds of collection are read by the same loop: the closing bracket at once, or a
first part and then commas with further parts until the closing bracket. What a part
is, the caller says. Each round takes a comma from the text, so the length of the text
bounds the number of rounds.

With these loops any value can be passed over (`skipValue`), however deeply its
collections are nested.
-/

import AvailabilityAnnotations.Json.Scalar

namespace AvailabilityAnnotations

namespace Json

/-- Read the items of an array behind one that was read, at most `rounds` of them. -/
def readMoreItems {Item : Type} (readItem : Text → Except Problem (Item × Text)) :
    Nat → Text → Except Problem (List Item × Text)
  | 0, _ => .error .truncated
  | rounds + 1, text =>
      match skipBlank text with
      | [] => .error .truncated
      | char :: rest =>
          if char = ']' then .ok ([], rest)
          else if char = ',' then do
            let (item, rest) ← readItem rest
            let (items, rest) ← readMoreItems readItem rounds rest
            return (item :: items, rest)
          else .error .malformed

/-- Read the items of an array after its opening bracket. -/
def readItems {Item : Type} (readItem : Text → Except Problem (Item × Text)) (text : Text) :
    Except Problem (List Item × Text) :=
  match skipBlank text with
  | [] => .error .truncated
  | char :: rest =>
      if char = ']' then .ok ([], rest)
      else do
        -- Every further item takes a comma, so the length bounds their number.
        let (item, rest) ← readItem text
        let (items, rest) ← readMoreItems readItem (text.length + 1) rest
        return (item :: items, rest)

/-- Read the members of an object behind one that was read, at most `rounds` of them.
A member is read after the opening quote of its key. -/
def readMoreMembers {State : Type}
    (readMember : State → Text → Except Problem (State × Text)) :
    Nat → State → Text → Except Problem (State × Text)
  | 0, _, _ => .error .truncated
  | rounds + 1, state, text =>
      match skipBlank text with
      | [] => .error .truncated
      | char :: rest =>
          if char = '\x7d' then .ok (state, rest)
          else if char = ',' then
            match skipBlank rest with
            | [] => .error .truncated
            | quote :: rest =>
                if quote = '"' then do
                  let (state, rest) ← readMember state rest
                  readMoreMembers readMember rounds state rest
                else .error .malformed
          else .error .malformed

/-- Read the members of an object after its opening bracket. -/
def readMembers {State : Type} (readMember : State → Text → Except Problem (State × Text))
    (state : State) (text : Text) : Except Problem (State × Text) :=
  match skipBlank text with
  | [] => .error .truncated
  | char :: rest =>
      if char = '\x7d' then .ok (state, rest)
      else if char = '"' then do
        let (state, rest) ← readMember state rest
        readMoreMembers readMember (text.length + 1) state rest
      else .error .malformed

/-- Pass over a value in which collections are nested at most `depth` deep. -/
def skipNested : Nat → Text → Except Problem Text
  | 0, _ => .error .truncated
  | depth + 1, text =>
      match skipBlank text with
      | [] => .error .truncated
      | char :: rest =>
          if char = 'n' then readWord "ull".toList rest
          else if char = 't' then readWord "rue".toList rest
          else if char = 'f' then readWord "alse".toList rest
          else if char = '"' then skipString rest
          else if char = '[' then
            (readItems (fun item => (skipNested depth item).map ((), ·)) rest).map Prod.snd
          else if char = '\x7b' then
            let skipMember (_ : Unit) (member : Text) : Except Problem (Unit × Text) := do
              let rest ← readColon (← skipString member)
              return ((), ← skipNested depth rest)
            (readMembers skipMember () rest).map Prod.snd
          else if startsNumber char then skipNumber (char :: rest)
          else .error .malformed

/-- Pass over a value. -/
def skipValue (text : Text) : Except Problem Text :=
  skipNested (text.length + 1) text

end Json

end AvailabilityAnnotations

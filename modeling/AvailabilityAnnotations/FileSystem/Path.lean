/-
# Names and paths

A name is what a directory calls one of its entries. A path is a text that leads
from a directory to an entry, one step for each piece between its slashes. Paths
are kept as they were given: joining never tidies the text, so `./Sources` stays
`./Sources`.
-/

import AvailabilityAnnotations.Text

namespace AvailabilityAnnotations

/-- The texts that can name an entry of a directory: not empty, neither of the two
words that stand for a directory itself and for its parent, without slash and
without the null character, and at most 255 bytes long. -/
def IsName (text : Text) : Prop :=
  text ≠ [] ∧ text ≠ ['.'] ∧ text ≠ ['.', '.'] ∧ '/' ∉ text ∧ '\x00' ∉ text ∧
    text.width ≤ 255

instance (text : Text) : Decidable (IsName text) := by
  unfold IsName
  infer_instance

/-- The name of an entry of a directory. -/
structure Name where
  text : Text
  isName : IsName text
  deriving DecidableEq, Repr

namespace Name

/-- The name with the given text, if it is one. -/
def ofText? (text : Text) : Option Name :=
  if accepted : IsName text then some ⟨text, accepted⟩ else none

/-- What follows the last dot of the name. A dot at the very front does not count,
and without a dot that counts there is no extension. -/
def extension? (name : Name) : Option Text :=
  match Text.pieces '.' name.text with
  | [_] => none
  | [[], _] => none
  | pieces => pieces.getLast?

theorem ext_text {first second : Name} (same : first.text = second.text) : first = second := by
  cases first
  cases second
  simpa using same

end Name

/-- A path, as it was given. -/
structure Path where
  text : Text
  deriving DecidableEq, Repr

/-- One step of a path. -/
inductive Step where
  /-- Stay in the directory. -/
  | here
  /-- Go to the parent of the directory. -/
  | up
  | enter (name : Text)
  deriving DecidableEq, Repr

namespace Path

def ofString (string : String) : Path :=
  ⟨string.toList⟩

instance : ToString Path where
  toString path := String.ofList path.text

/-- Whether the path begins at the root. -/
def isAbsolute (path : Path) : Bool :=
  path.text.head? = some '/'

/-- One path behind another. An absolute path stands for itself; otherwise a slash
is put between the two unless the first is empty or ends in one. -/
def join (base path : Path) : Path :=
  if path.isAbsolute then path
  else if base.text = [] ∨ base.text.getLast? = some '/' then ⟨base.text ++ path.text⟩
  else ⟨base.text ++ '/' :: path.text⟩

/-- The path of an entry of the directory that a path leads to. -/
def child (directory : Path) (name : Name) : Path :=
  directory.join ⟨name.text⟩

/-- The step for one piece between slashes. -/
def stepOfPiece (piece : Text) : Step :=
  if piece = ['.'] then .here
  else if piece = ['.', '.'] then .up
  else .enter piece

/-- The steps for the pieces between slashes. An empty piece is no step, except at
the end: a path that ends in a slash must lead to a directory. -/
def stepsOfPieces : List Text → List Step
  | [] => []
  | [piece] => if piece = [] then [.here] else [stepOfPiece piece]
  | piece :: pieces =>
      if piece = [] then stepsOfPieces pieces else stepOfPiece piece :: stepsOfPieces pieces

def steps (path : Path) : List Step :=
  stepsOfPieces (Text.pieces '/' path.text)

end Path

end AvailabilityAnnotations

/-
# Unified diffs

A unified diff shows the changes of a script, each with up to two kept lines before
and behind it. Changes that are at most four kept lines apart share a hunk; kept lines
farther away are left out. A hunk says in its header which lines of the old and of the
new text it shows.
-/

import AvailabilityAnnotations.Diff.Script
import AvailabilityAnnotations.FileSystem.Path

namespace AvailabilityAnnotations

namespace Diff

/-- How many kept lines are shown on either side of a change. -/
def context : Nat := 2

/-- Which edits are changes or stand close behind one. `left` is the number of kept
lines that may still be shown. -/
def shownBehind : Nat → List Edit → List Bool
  | _, [] => []
  | left, edit :: edits =>
      if edit.isChange then true :: shownBehind context edits
      else (0 < left : Bool) :: shownBehind (left - 1) edits

/-- Which edits are shown: changes, and the kept lines close to one. -/
def shown (edits : List Edit) : List Bool :=
  List.zipWith (· || ·) (shownBehind 0 edits) (shownBehind 0 edits.reverse).reverse

/-- Edits in maximal runs that are shown or left out as a whole. -/
def runs : List (Bool × Edit) → List (Bool × List Edit)
  | [] => []
  | (isShown, edit) :: rest =>
      match runs rest with
      | [] => [(isShown, [edit])]
      | (next, edits) :: others =>
          if isShown = next then (isShown, edit :: edits) :: others
          else (isShown, [edit]) :: (next, edits) :: others

/-- A part of a script that is shown. -/
structure Hunk where
  /-- The number of old lines before the hunk. -/
  oldStart : Nat
  /-- The number of new lines before the hunk. -/
  newStart : Nat
  /-- The edits that are shown. -/
  edits : List Edit
  deriving DecidableEq, Repr

namespace Hunk

/-- The number of old lines in the hunk. -/
def oldLength (hunk : Hunk) : Nat :=
  (oldLines hunk.edits).length

/-- The number of new lines in the hunk. -/
def newLength (hunk : Hunk) : Nat :=
  (newLines hunk.edits).length

end Hunk

/-- The hunks of runs that begin behind the given numbers of old and new lines. -/
def hunksFrom (oldAt newAt : Nat) : List (Bool × List Edit) → List Hunk
  | [] => []
  | (isShown, edits) :: others =>
      let behind :=
        hunksFrom (oldAt + (oldLines edits).length) (newAt + (newLines edits).length) others
      if isShown then ⟨oldAt, newAt, edits⟩ :: behind else behind

/-- The hunks of a script. -/
def hunks (edits : List Edit) : List Hunk :=
  hunksFrom 0 0 (runs ((shown edits).zip edits))

/-- The script between two texts, with the deletions of each change first. -/
def between (old new : Text) : List Edit :=
  arrange (script (lines old) (lines new))

/-- A range of lines in a header: its first line, counted from one, and its length if
that is not one. An empty range is named by the line before it. -/
def rangeText (start length : Nat) : Text :=
  if length = 1 then Text.ofNat (start + 1)
  else if length = 0 then Text.ofNat start ++ ",0".toList
  else Text.ofNat (start + 1) ++ ',' :: Text.ofNat length

/-- What is written behind a line that no line ending ends. -/
def missingEnding (line : Text) : Text :=
  if line.getLast? = some '\n' ∨ line.getLast? = some '\r' then []
  else "\n\\ No newline at end of file\n".toList

/-- One edit as a line of the diff. -/
def Edit.render : Edit → Text
  | .keep line => ' ' :: line ++ missingEnding line
  | .delete line => '-' :: line ++ missingEnding line
  | .insert line => '+' :: line ++ missingEnding line

/-- A hunk with its header. -/
def Hunk.render (hunk : Hunk) : Text :=
  "@@ -".toList ++ rangeText hunk.oldStart hunk.oldLength ++ " +".toList ++
    rangeText hunk.newStart hunk.newLength ++ " @@\n".toList ++ hunk.edits.flatMap Edit.render

/-- The unified diff between two contents of a file. -/
def unified (path : Path) (old new : Text) : Text :=
  "--- a/".toList ++ path.text ++ "\n+++ b/".toList ++ path.text ++ ['\n'] ++
    (hunks (between old new)).flatMap Hunk.render

end Diff

end AvailabilityAnnotations

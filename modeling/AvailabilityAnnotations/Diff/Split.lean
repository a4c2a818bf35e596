/-
# Split points

A shortest list of edits from one list of lines to another can be found in two halves
once a point is known through which some shortest list passes. The search for such a
point goes out from both ends at the same time. In round `d` it works out, for every
diagonal that `d` changes can reach, how many lines of the old text are behind it
when as many equal lines as possible are kept; when the reach from the front and the
reach from the back meet on a diagonal, the point is found.

A diagonal is the difference between the numbers of old and new lines that are used
up. Which point is found, when several would do, decides how a diff looks, and so the
order in which rounds and diagonals are tried is fixed here.
-/

import AvailabilityAnnotations.Text

namespace AvailabilityAnnotations

namespace Diff

/-- The number of equal lines from the given positions on. -/
def agreement (old new : Array Text) (oldAt newAt : Nat) : Nat :=
  if inside : oldAt < old.size ∧ newAt < new.size then
    if old[oldAt] = new[newAt] then
      agreement old new (oldAt + 1) (newAt + 1) + 1
    else 0
  else 0
termination_by old.size - oldAt

/-- How far the search has come on each diagonal, as a number of old lines. -/
structure Frontier where
  /-- The numbers, for the diagonals from the lowest to the highest. -/
  reach : Array Nat
  /-- The place of diagonal zero. -/
  centre : Nat

namespace Frontier

/-- A frontier for diagonals up to `limit` on either side, with nothing reached. -/
def start (limit : Nat) : Frontier where
  reach := Array.replicate (2 * limit + 2) 0
  centre := limit

/-- How far the search has come on a diagonal. -/
def get (frontier : Frontier) (diagonal : Int) : Nat :=
  frontier.reach.getD (diagonal + frontier.centre).toNat 0

/-- Record how far the search has come on a diagonal. -/
def set (frontier : Frontier) (diagonal : Int) (value : Nat) : Frontier :=
  { frontier with
    reach := frontier.reach.setIfInBounds (diagonal + frontier.centre).toNat value }

/-- Where a round begins on a diagonal: one change behind the better of the two
diagonals beside it. -/
def enter (frontier : Frontier) (round : Nat) (diagonal : Int) : Nat :=
  if diagonal = -round ∨
      (diagonal ≠ round ∧ frontier.get (diagonal - 1) < frontier.get (diagonal + 1)) then
    frontier.get (diagonal + 1)
  else frontier.get (diagonal - 1) + 1

end Frontier

/-- The diagonals that a round visits, from the highest to the lowest. -/
def diagonals (round : Nat) : List Int :=
  (List.range (round + 1)).map fun (step : Nat) => (round : Int) - 2 * (step : Int)

/-- A point between the lines of two texts: the numbers of old and new lines before
it. -/
structure SplitPoint where
  /-- The number of old lines before the point. -/
  old : Nat
  /-- The number of new lines before the point. -/
  new : Nat
  deriving DecidableEq, Repr

/-- Go out from the front on the given diagonals. Throws the split point as soon as
the search from the back is met; it is the point at which the round entered the
diagonal. -/
def forwardRound (old new : Array Text) (round : Nat) (backward : Frontier) :
    List Int → Frontier → Except SplitPoint Frontier
  | [], forward => .ok forward
  | diagonal :: others, forward =>
      let delta : Int := old.size - new.size
      let oldAt := forward.enter round diagonal
      let newAt := (oldAt - diagonal).toNat
      let reached := oldAt + agreement old new oldAt newAt
      -- The other search has been on this diagonal a round ago, if it comes this far.
      if delta % 2 ≠ 0 ∧ (diagonal - delta).natAbs + 1 ≤ round ∧
          old.size ≤ reached + backward.get (delta - diagonal) then
        .error ⟨oldAt, newAt⟩
      else forwardRound old new round backward others (forward.set diagonal reached)

/-- Go out from the back on the given diagonals; both texts are given reversed. Throws
the split point as soon as the search from the front is met; it is the point that the
round reached on the diagonal. -/
def backwardRound (old new : Array Text) (round : Nat) (forward : Frontier) :
    List Int → Frontier → Except SplitPoint Frontier
  | [], backward => .ok backward
  | diagonal :: others, backward =>
      let delta : Int := old.size - new.size
      let oldAt := backward.enter round diagonal
      let newAt := (oldAt - diagonal).toNat
      let equal := agreement old new oldAt newAt
      let reached := oldAt + equal
      -- The other search has been on this diagonal in the same round.
      if delta % 2 = 0 ∧ (diagonal - delta).natAbs ≤ round ∧
          old.size ≤ reached + forward.get (delta - diagonal) then
        .error ⟨old.size - reached, new.size - (newAt + equal)⟩
      else backwardRound old new round forward others (backward.set diagonal reached)

/-- One round of the search from both ends. -/
def searchRound (old new oldReversed newReversed : Array Text)
    (frontiers : Frontier × Frontier) (round : Nat) :
    Except SplitPoint (Frontier × Frontier) := do
  let forward ← forwardRound old new round frontiers.2 (diagonals round) frontiers.1
  let backward ←
    backwardRound oldReversed newReversed round forward (diagonals round) frontiers.2
  return (forward, backward)

/-- A point through which a shortest list of edits passes. -/
def splitPoint? (old new : List Text) : Option SplitPoint :=
  let rounds := (old.length + new.length + 1) / 2 + 1
  let search := (List.range rounds).foldlM
    (searchRound old.toArray new.toArray old.reverse.toArray new.reverse.toArray)
    (Frontier.start rounds, Frontier.start rounds)
  match search with
  | .error point => some point
  | .ok _ => none

end Diff

end AvailabilityAnnotations

/-
# How a search for a split point goes on

Each round of the search enters every diagonal from one of the two beside it and then follows
the lines that agree. `Reaches` says what a frontier is like after some round, whatever the
texts are: enough lines are used up on every diagonal, and a diagonal on which the search has
left the texts has one beside it on which it has come to their end. The next round keeps this
(`Reaches.step`).

The search from the other end comes towards a frontier along the diagonals near the far
corner. As long as the two have not met, these diagonals are entered before the corner
(`Reaches.enter_inside`).
-/

import AvailabilityAnnotations.Diff.Split

namespace AvailabilityAnnotations

namespace Diff

theorem mem_diagonals {round : Nat} {diagonal : Int} : diagonal ∈ diagonals round ↔
    -(round : Int) ≤ diagonal ∧ diagonal ≤ round ∧ (round - diagonal) % 2 = 0 := by
  rw [diagonals, List.mem_map]
  constructor
  · rintro ⟨step, member, rfl⟩
    have inside := List.mem_range.1 member
    omega
  · rintro ⟨lower, upper, even⟩
    exact ⟨((round - diagonal) / 2).toNat, List.mem_range.2 (by omega), by omega⟩

theorem nodup_diagonals (round : Nat) : (diagonals round).Nodup := by
  apply List.Pairwise.map _ _ List.nodup_range
  intro first second different same
  omega

variable {old new : Array Text} {oldAt newAt : Nat}

/-- What agrees ends with a line that both texts have. -/
theorem agreement_cases (old new : Array Text) (oldAt newAt : Nat) :
    agreement old new oldAt newAt = 0 ∨ ∃ line,
      old[oldAt + agreement old new oldAt newAt - 1]? = some line ∧
        new[newAt + agreement old new oldAt newAt - 1]? = some line := by
  fun_induction agreement old new oldAt newAt with
  | case1 oldAt newAt inside same ih =>
      right
      rcases ih with none | ⟨line, oldLine, newLine⟩
      · refine ⟨old[oldAt], ?_, ?_⟩
        · simp [none]
        · simp [none, same]
      · refine ⟨line, ?_, ?_⟩
        · rw [← oldLine]
          congr 1
          omega
        · rw [← newLine]
          congr 1
          omega
  | case2 => exact .inl rfl
  | case3 => exact .inl rfl

/-- Lines agree only as far as both texts reach. -/
theorem agreement_inside (old new : Array Text) (oldAt newAt : Nat) :
    agreement old new oldAt newAt = 0 ∨
      oldAt + agreement old new oldAt newAt ≤ old.size ∧
        newAt + agreement old new oldAt newAt ≤ new.size := by
  rcases agreement_cases old new oldAt newAt with none | ⟨line, oldLine, newLine⟩
  · exact .inl none
  · obtain ⟨oldInside, -⟩ := Array.getElem?_eq_some_iff.1 oldLine
    obtain ⟨newInside, -⟩ := Array.getElem?_eq_some_iff.1 newLine
    omega

namespace Frontier

variable {frontier next other : Frontier} {limit round : Nat} {diagonal : Int}

/-- The frontier has room for diagonals up to the limit. -/
structure Fits (frontier : Frontier) (limit : Nat) : Prop where
  centre_eq : frontier.centre = limit
  size_eq : frontier.reach.size = 2 * limit + 2

theorem fits_start (limit : Nat) : (start limit).Fits limit :=
  ⟨rfl, Array.size_replicate⟩

theorem Fits.set (fits : frontier.Fits limit) (diagonal : Int) (value : Nat) :
    (frontier.set diagonal value).Fits limit :=
  ⟨fits.centre_eq, by rw [Frontier.set, Array.size_setIfInBounds, fits.size_eq]⟩

theorem get_start (limit : Nat) (diagonal : Int) : (start limit).get diagonal = 0 := by
  simp only [get, start, Array.getD_eq_getD_getElem?, Array.getElem?_replicate]
  split <;> rfl

/-- What is recorded for a diagonal is found there, and nothing changes elsewhere. -/
theorem get_set (fits : frontier.Fits limit) {diagonal other : Int} (value : Nat)
    (lower : -(limit : Int) ≤ diagonal) (upper : diagonal ≤ limit)
    (otherLower : -(limit : Int) ≤ other) :
    (frontier.set diagonal value).get other =
      if other = diagonal then value else frontier.get other := by
  have place : (diagonal + frontier.centre).toNat = (other + frontier.centre).toNat ↔
      other = diagonal := by
    rw [fits.centre_eq]
    omega
  have inside : (diagonal + frontier.centre).toNat < frontier.reach.size := by
    rw [fits.centre_eq, fits.size_eq]
    omega
  simp only [get, Frontier.set, Array.getD_eq_getD_getElem?, Array.getElem?_setIfInBounds, place]
  split
  · rw [Option.getD_some]
  · rfl

/-- The number of lines that agree from where a round enters a diagonal. -/
def equal (frontier : Frontier) (old new : Array Text) (round : Nat) (diagonal : Int) : Nat :=
  agreement old new (frontier.enter round diagonal)
    (frontier.enter round diagonal - diagonal).toNat

/-- Where a round comes to on a diagonal. -/
def advance (frontier : Frontier) (old new : Array Text) (round : Nat) (diagonal : Int) : Nat :=
  frontier.enter round diagonal + frontier.equal old new round diagonal

/-- A diagonal is entered from one of the two beside it. -/
theorem enter_cases (frontier : Frontier) (visited : diagonal ∈ diagonals (round + 1)) :
    diagonal + 1 ∈ diagonals round ∧
        frontier.enter (round + 1) diagonal = frontier.get (diagonal + 1) ∨
      diagonal - 1 ∈ diagonals round ∧
        frontier.enter (round + 1) diagonal = frontier.get (diagonal - 1) + 1 := by
  rw [mem_diagonals] at visited
  rw [mem_diagonals, mem_diagonals, enter]
  split
  · next above =>
      left
      exact ⟨by omega, rfl⟩
  · next below =>
      right
      exact ⟨by omega, rfl⟩

/-- A diagonal is entered no farther back than from the one above it. -/
theorem get_le_enter (frontier : Frontier) (above : diagonal + 1 ∈ diagonals round) :
    frontier.get (diagonal + 1) ≤ frontier.enter (round + 1) diagonal := by
  rw [mem_diagonals] at above
  rw [enter]
  split <;> omega

/-- A diagonal is entered no farther back than from the one below it. -/
theorem get_lt_enter (frontier : Frontier) (below : diagonal - 1 ∈ diagonals round) :
    frontier.get (diagonal - 1) < frontier.enter (round + 1) diagonal := by
  rw [mem_diagonals] at below
  rw [enter]
  split <;> omega

/-- Rounds of the search go on, whatever the texts are: after `round` rounds so many lines are
used up on every diagonal. A diagonal on which more lines are used up than there are has a
neighbour on which all lines are used up. -/
structure Reaches (frontier : Frontier) (oldSize newSize round : Nat) : Prop where
  progress : ∀ diagonal ∈ diagonals round, round + diagonal ≤ 2 * frontier.get diagonal
  right : ∀ diagonal ∈ diagonals round, oldSize < frontier.get diagonal →
    diagonal - 2 ∈ diagonals round ∧ oldSize ≤ frontier.get (diagonal - 2)
  below : ∀ diagonal ∈ diagonals round, newSize + diagonal < frontier.get diagonal →
    diagonal + 2 ∈ diagonals round ∧ newSize + diagonal + 2 ≤ frontier.get (diagonal + 2)

/-- So many lines are used up where a round enters a diagonal. -/
theorem Reaches.le_enter {oldSize newSize : Nat} (reaches : frontier.Reaches oldSize newSize round)
    (visited : diagonal ∈ diagonals (round + 1)) :
    round + 1 + diagonal ≤ 2 * frontier.enter (round + 1) diagonal := by
  rcases frontier.enter_cases visited with ⟨above, entered⟩ | ⟨below, entered⟩
  · have progress := reaches.progress _ above
    omega
  · have progress := reaches.progress _ below
    omega

/-- Only lines that are there are used up by agreement. -/
theorem Reaches.advance_cases {oldSize newSize : Nat}
    (reaches : frontier.Reaches oldSize newSize round)
    (visited : diagonal ∈ diagonals (round + 1)) (old new : Array Text) :
    frontier.advance old new (round + 1) diagonal = frontier.enter (round + 1) diagonal ∨
      frontier.advance old new (round + 1) diagonal ≤ old.size ∧
        frontier.advance old new (round + 1) diagonal ≤ new.size + diagonal := by
  have progress := reaches.le_enter visited
  have inside := (mem_diagonals.1 visited).2.1
  unfold advance equal
  rcases agreement_inside old new (frontier.enter (round + 1) diagonal)
    (frontier.enter (round + 1) diagonal - diagonal).toNat with none | ⟨oldInside, newInside⟩
  · exact .inl (by rw [none, Nat.add_zero])
  · right
    omega

/-- The next round goes on in the same way. -/
theorem Reaches.step (reaches : frontier.Reaches old.size new.size round)
    (moved : ∀ diagonal ∈ diagonals (round + 1),
      next.get diagonal = frontier.advance old new (round + 1) diagonal) :
    next.Reaches old.size new.size (round + 1) where
  progress := by
    intro diagonal visited
    have entered := reaches.le_enter visited
    rw [moved diagonal visited, advance]
    omega
  right := by
    intro diagonal visited outside
    rw [moved diagonal visited] at outside
    -- The diagonal is entered outside, and then the one below it has used up all old lines.
    have beside : diagonal - 1 ∈ diagonals round ∧ old.size ≤ frontier.get (diagonal - 1) := by
      rcases reaches.advance_cases visited old new with still | ⟨inside, -⟩
      · rw [still] at outside
        rcases frontier.enter_cases visited with ⟨above, entered⟩ | ⟨below, entered⟩
        · rw [entered] at outside
          have farther := reaches.right _ above outside
          rwa [show diagonal + 1 - 2 = diagonal - 1 by omega] at farther
        · exact ⟨below, by omega⟩
      · omega
    have place : diagonal - 2 + 1 = diagonal - 1 := by omega
    have there : diagonal - 2 ∈ diagonals (round + 1) := by
      have inside := mem_diagonals.1 beside.1
      rw [mem_diagonals] at visited ⊢
      omega
    have entered := @get_le_enter round (diagonal - 2) frontier (by rw [place]; exact beside.1)
    rw [place] at entered
    refine ⟨there, ?_⟩
    rw [moved _ there, advance]
    omega
  below := by
    intro diagonal visited outside
    rw [moved diagonal visited] at outside
    have beside : diagonal + 1 ∈ diagonals round ∧
        new.size + diagonal + 1 ≤ frontier.get (diagonal + 1) := by
      rcases reaches.advance_cases visited old new with still | ⟨-, inside⟩
      · rw [still] at outside
        rcases frontier.enter_cases visited with ⟨above, entered⟩ | ⟨below, entered⟩
        · exact ⟨above, by omega⟩
        · have farther := reaches.below _ below (by omega)
          rw [show diagonal - 1 + 2 = diagonal + 1 by omega] at farther
          exact ⟨farther.1, by omega⟩
      · omega
    have place : diagonal + 2 - 1 = diagonal + 1 := by omega
    have there : diagonal + 2 ∈ diagonals (round + 1) := by
      have inside := mem_diagonals.1 beside.1
      rw [mem_diagonals] at visited ⊢
      omega
    have entered := @get_lt_enter round (diagonal + 2) frontier (by rw [place]; exact beside.1)
    rw [place] at entered
    refine ⟨there, ?_⟩
    rw [moved _ there, advance]
    omega

/-- The diagonals near the far corner are still apart from it. -/
def IsApart (frontier : Frontier) (oldSize newSize slack round : Nat) : Prop :=
  ∀ diagonal ∈ diagonals round,
    round = 0 ∨ (diagonal - (oldSize - newSize)).natAbs + slack ≤ round →
      frontier.get diagonal < oldSize ∧ frontier.get diagonal < newSize + diagonal

/-- Diagonals near the far corner are entered before it. -/
theorem Reaches.enter_inside {oldSize newSize slack : Nat}
    (reaches : frontier.Reaches oldSize newSize round)
    (apart : frontier.IsApart oldSize newSize slack round) (small : slack ≤ 1)
    (parity : ((oldSize : Int) - newSize + slack) % 2 = 0)
    (visited : diagonal ∈ diagonals (round + 1))
    (near : (diagonal - (oldSize - newSize)).natAbs + slack ≤ round + 1) :
    frontier.enter (round + 1) diagonal ≤ oldSize ∧
      frontier.enter (round + 1) diagonal ≤ newSize + diagonal ∧
        2 * frontier.enter (round + 1) diagonal < oldSize + newSize + diagonal := by
  have inside := mem_diagonals.1 visited
  rcases frontier.enter_cases visited with ⟨above, entered⟩ | ⟨below, entered⟩
  · by_cases close : round = 0 ∨ (diagonal + 1 - (oldSize - newSize)).natAbs + slack ≤ round
    · have before := apart _ above close
      omega
    · -- The diagonal above is too far away, but then all old lines would be used up beside it.
      have within : frontier.get (diagonal + 1) ≤ oldSize := by
        apply Nat.le_of_not_lt
        intro outside
        obtain ⟨there, far⟩ := reaches.right _ above outside
        have before := apart _ there (by omega)
        omega
      omega
  · by_cases close : round = 0 ∨ (diagonal - 1 - (oldSize - newSize)).natAbs + slack ≤ round
    · have before := apart _ below close
      omega
    · have within : (frontier.get (diagonal - 1) : Int) ≤ newSize + (diagonal - 1) := by
        apply Int.not_lt.1
        intro outside
        obtain ⟨there, far⟩ := reaches.below _ below outside
        have before := apart _ there (by omega)
        omega
      omega

end Frontier

end Diff

end AvailabilityAnnotations

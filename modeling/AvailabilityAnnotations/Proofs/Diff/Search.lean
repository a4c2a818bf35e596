/-
# A split point is always found

The search from the front and the search from the back use up one more line on each diagonal
with every round. In the last round they would have used up all lines, so they have met by
then; and as long as they have not met, neither of them has come to the far corner. So the first
point at which they meet lies properly between the corners (`exists_splitPoint?`).

The search for a script relies on this: wherever old and new lines are left between those that
are kept at the ends, it divides them at a proper point and goes on with the two halves
(`exists_script_halves`). Replacing all of them is what it does only where one side has none.
-/

import AvailabilityAnnotations.Diff.Script
import AvailabilityAnnotations.Proofs.Diff.Frontier

namespace AvailabilityAnnotations

namespace Diff

open Frontier

variable {limit round slack : Nat} {frontier next other : Frontier} {diagonal : Int}
  {point : Int → Nat → Nat → SplitPoint}

section Rounds

variable {old new : Array Text}

/-- Whether two searches have met on a diagonal. The other one is `slack` rounds behind. -/
def Meets (oldSize newSize slack round : Nat) (other : Frontier) (diagonal : Int)
    (reached : Nat) : Prop :=
  ((oldSize : Int) - newSize + slack) % 2 = 0 ∧
    (diagonal - (oldSize - newSize)).natAbs + slack ≤ round ∧
      oldSize ≤ reached + other.get (oldSize - newSize - diagonal)

instance (oldSize newSize slack round : Nat) (other : Frontier) (diagonal : Int)
    (reached : Nat) : Decidable (Meets oldSize newSize slack round other diagonal reached) :=
  inferInstanceAs (Decidable (_ ∧ _ ∧ _))

/-- A round from either end: the diagonals are entered one after the other until the other
search is met. The split point depends on the diagonal, on the place where it was entered and on
the number of lines that agree from there on. -/
def visit (old new : Array Text) (slack round : Nat) (other : Frontier)
    (point : Int → Nat → Nat → SplitPoint) : List Int → Frontier → Except SplitPoint Frontier
  | [], frontier => .ok frontier
  | diagonal :: others, frontier =>
      let entered := frontier.enter round diagonal
      let equal := agreement old new entered (entered - diagonal).toNat
      if Meets old.size new.size slack round other diagonal (entered + equal) then
        .error (point diagonal entered equal)
      else visit old new slack round other point others (frontier.set diagonal (entered + equal))

/-- From the front, the texts are split where the diagonal was entered. -/
def forwardPoint (diagonal : Int) (entered _equal : Nat) : SplitPoint :=
  ⟨entered, (entered - diagonal).toNat⟩

/-- From the back, the texts are split where the search has come to. -/
def backwardPoint (oldSize newSize : Nat) (diagonal : Int) (entered equal : Nat) : SplitPoint :=
  ⟨oldSize - (entered + equal), newSize - ((entered - diagonal).toNat + equal)⟩

theorem meets_one {oldSize newSize reached : Nat} :
    Meets oldSize newSize 1 round other diagonal reached ↔
      ((oldSize : Int) - newSize) % 2 ≠ 0 ∧
        (diagonal - (oldSize - newSize)).natAbs + 1 ≤ round ∧
          oldSize ≤ reached + other.get (oldSize - newSize - diagonal) := by
  have odd : ((oldSize : Int) - newSize + (1 : Nat)) % 2 = 0 ↔
      ((oldSize : Int) - newSize) % 2 ≠ 0 := by omega
  rw [Meets, odd]

theorem meets_zero {oldSize newSize reached : Nat} :
    Meets oldSize newSize 0 round other diagonal reached ↔
      ((oldSize : Int) - newSize) % 2 = 0 ∧
        (diagonal - (oldSize - newSize)).natAbs ≤ round ∧
          oldSize ≤ reached + other.get (oldSize - newSize - diagonal) := by
  have even : ((oldSize : Int) - newSize + (0 : Nat)) % 2 = 0 ↔
      ((oldSize : Int) - newSize) % 2 = 0 := by omega
  rw [Meets, even, Nat.add_zero]

/-- A round from the front, whose other search is one round behind. -/
theorem forwardRound_eq (old new : Array Text) (round : Nat) (backward : Frontier)
    (diagonals : List Int) (forward : Frontier) :
    forwardRound old new round backward diagonals forward =
      visit old new 1 round backward forwardPoint diagonals forward := by
  induction diagonals generalizing forward with
  | nil => rfl
  | cons diagonal others ih =>
      rw [forwardRound, visit]
      simp only [meets_one, ih]
      rfl

/-- A round from the back, whose other search is in the same round. -/
theorem backwardRound_eq (old new : Array Text) (round : Nat) (forward : Frontier)
    (diagonals : List Int) (backward : Frontier) :
    backwardRound old new round forward diagonals backward =
      visit old new 0 round forward (backwardPoint old.size new.size) diagonals backward := by
  induction diagonals generalizing backward with
  | nil => rfl
  | cons diagonal others ih =>
      rw [backwardRound, visit]
      simp only [meets_zero, ih]
      rfl

/-- A frontier in the middle of a round is entered as the one before the round. -/
theorem enter_congr (same : ∀ diagonal : Int, -(limit : Int) ≤ diagonal →
      (round - diagonal) % 2 ≠ 0 → next.get diagonal = frontier.get diagonal)
    (visited : diagonal ∈ diagonals round) (room : round < limit) :
    next.enter round diagonal = frontier.enter round diagonal := by
  rw [mem_diagonals] at visited
  rw [enter, enter, same (diagonal + 1) (by omega) (by omega),
    same (diagonal - 1) (by omega) (by omega)]

/-- What `visit_cases` says, for the diagonals that are left. Entering one of them is not
disturbed by the ones before it, because they are two apart. -/
private theorem visit_cases_of {now : Frontier} {left : List Int} (fits : now.Fits limit)
    (room : round < limit) (inside : ∀ diagonal ∈ left, diagonal ∈ diagonals round)
    (distinct : left.Nodup) (same : ∀ diagonal : Int, -(limit : Int) ≤ diagonal →
      (round - diagonal) % 2 ≠ 0 → now.get diagonal = frontier.get diagonal) :
    (∃ diagonal ∈ left,
      Meets old.size new.size slack round other diagonal
        (frontier.advance old new round diagonal) ∧
      visit old new slack round other point left now =
        .error (point diagonal (frontier.enter round diagonal)
          (frontier.equal old new round diagonal))) ∨
    ∃ next, visit old new slack round other point left now = .ok next ∧ next.Fits limit ∧
      (∀ diagonal : Int, -(limit : Int) ≤ diagonal → diagonal ∉ left →
        next.get diagonal = now.get diagonal) ∧
      ∀ diagonal ∈ left, next.get diagonal = frontier.advance old new round diagonal ∧
        ¬ Meets old.size new.size slack round other diagonal
          (frontier.advance old new round diagonal) := by
  induction left generalizing now with
  | nil => exact .inr ⟨now, rfl, fits, fun _ _ _ => rfl, by simp⟩
  | cons first left ih =>
      obtain ⟨here, others⟩ := List.forall_mem_cons.1 inside
      obtain ⟨fresh, distinct⟩ := List.nodup_cons.1 distinct
      have bounds := mem_diagonals.1 here
      rw [visit]
      simp only [enter_congr same here room]
      by_cases met : Meets old.size new.size slack round other first
          (frontier.advance old new round first)
      · exact .inl ⟨first, List.mem_cons_self, met, if_pos met⟩
      · have recorded (diagonal : Int) (lower : -(limit : Int) ≤ diagonal) :=
          @get_set now limit fits first diagonal (frontier.advance old new round first)
            (by omega) (by omega) lower
        have stillSame : ∀ diagonal : Int, -(limit : Int) ≤ diagonal →
            (round - diagonal) % 2 ≠ 0 →
            (now.set first (frontier.advance old new round first)).get diagonal =
              frontier.get diagonal := by
          intro diagonal lower odd
          have different : diagonal ≠ first := by
            rintro rfl
            exact odd bounds.2.2
          rw [recorded diagonal lower, if_neg different, same diagonal lower odd]
        rcases ih (fits.set ..) others distinct stillSame with
          ⟨diagonal, member, meets, stopped⟩ | ⟨next, went, nextFits, kept, moved⟩
        · exact .inl ⟨diagonal, List.mem_cons_of_mem _ member, meets, (if_neg met).trans stopped⟩
        · refine .inr ⟨next, (if_neg met).trans went, nextFits, ?_, ?_⟩
          · intro diagonal lower absent
            rw [List.mem_cons, not_or] at absent
            rw [kept diagonal lower absent.2, recorded diagonal lower, if_neg absent.1]
          · refine List.forall_mem_cons.2 ⟨⟨?_, met⟩, moved⟩
            rw [kept first (by omega) fresh, recorded first (by omega), if_pos rfl]

/-- A round ends at a diagonal on which the other search is met, or every diagonal is as far as
the round comes on it. -/
theorem visit_cases (fits : frontier.Fits limit) (room : round < limit) (old new : Array Text)
    (slack : Nat) (other : Frontier) (point : Int → Nat → Nat → SplitPoint) :
    (∃ diagonal ∈ diagonals round,
      Meets old.size new.size slack round other diagonal
        (frontier.advance old new round diagonal) ∧
      visit old new slack round other point (diagonals round) frontier =
        .error (point diagonal (frontier.enter round diagonal)
          (frontier.equal old new round diagonal))) ∨
    ∃ next, visit old new slack round other point (diagonals round) frontier = .ok next ∧
      next.Fits limit ∧ ∀ diagonal ∈ diagonals round,
        next.get diagonal = frontier.advance old new round diagonal ∧
        ¬ Meets old.size new.size slack round other diagonal
          (frontier.advance old new round diagonal) := by
  rcases visit_cases_of fits room (fun _ => id) (nodup_diagonals round) (fun _ _ _ => rfl) with
    stopped | ⟨next, went, nextFits, -, moved⟩
  · exact .inl stopped
  · exact .inr ⟨next, went, nextFits, moved⟩

variable {oldSize newSize otherRound : Nat}

/-- As long as the other search is not met, the diagonals near the far corner are apart from
it. -/
theorem isApart_of_not_meets (parity : ((oldSize : Int) - newSize + slack) % 2 = 0)
    (reaches : other.Reaches oldSize newSize otherRound) (behind : otherRound + slack = round + 1)
    (unmet : ∀ diagonal ∈ diagonals (round + 1),
      ¬ Meets oldSize newSize slack (round + 1) other diagonal (frontier.get diagonal)) :
    frontier.IsApart oldSize newSize slack (round + 1) := by
  intro diagonal visited near
  have close : (diagonal - (oldSize - newSize)).natAbs + slack ≤ round + 1 := by omega
  have facing : (oldSize : Int) - newSize - diagonal ∈ diagonals otherRound := by
    rw [mem_diagonals] at visited ⊢
    omega
  have progress := reaches.progress _ facing
  have within := (mem_diagonals.1 facing).2.1
  have short : ¬ oldSize ≤ frontier.get diagonal + other.get (oldSize - newSize - diagonal) :=
    fun met => unmet diagonal visited ⟨parity, close, met⟩
  omega

/-- When the two searches have used up as many lines as there are, they meet. -/
theorem exists_meets (parity : ((oldSize : Int) - newSize + slack) % 2 = 0) (small : slack ≤ 1)
    (reaches : frontier.Reaches oldSize newSize (round + 1))
    (otherReaches : other.Reaches oldSize newSize otherRound)
    (behind : otherRound + slack = round + 1) (late : oldSize + newSize ≤ round + 1 + otherRound) :
    ∃ diagonal ∈ diagonals (round + 1),
      Meets oldSize newSize slack (round + 1) other diagonal (frontier.get diagonal) := by
  have meets {diagonal : Int} (visited : diagonal ∈ diagonals (round + 1))
      (near : (diagonal - (oldSize - newSize)).natAbs + slack ≤ round + 1) :
      Meets oldSize newSize slack (round + 1) other diagonal (frontier.get diagonal) := by
    have facing : (oldSize : Int) - newSize - diagonal ∈ diagonals otherRound := by
      rw [mem_diagonals] at visited ⊢
      omega
    have progress := reaches.progress _ visited
    have otherProgress := otherReaches.progress _ facing
    exact ⟨parity, near, by omega⟩
  -- The outermost diagonal on the side of the far corner is near enough.
  by_cases longer : newSize + slack ≤ oldSize
  · have visited : ((round + 1 : Nat) : Int) ∈ diagonals (round + 1) := mem_diagonals.2 (by omega)
    exact ⟨_, visited, meets visited (by omega)⟩
  · have visited : -((round + 1 : Nat) : Int) ∈ diagonals (round + 1) :=
      mem_diagonals.2 (by omega)
    exact ⟨_, visited, meets visited (by omega)⟩

/-- One round from either end. It is split where it has entered a diagonal within the texts, or
the search goes on and the other one is not met. -/
theorem visit_step (oldSize_eq : old.size = oldSize) (newSize_eq : new.size = newSize)
    (fits : frontier.Fits limit) (room : round + 1 < limit)
    (reaches : frontier.Reaches oldSize newSize round)
    (otherReaches : other.Reaches oldSize newSize otherRound)
    (behind : otherRound + slack = round + 1) (small : slack ≤ 1)
    (apart : ((oldSize : Int) - newSize + slack) % 2 = 0 →
      frontier.IsApart oldSize newSize slack round)
    (point : Int → Nat → Nat → SplitPoint) :
    (∃ diagonal ∈ diagonals (round + 1),
      frontier.enter (round + 1) diagonal ≤ oldSize ∧
      frontier.enter (round + 1) diagonal ≤ newSize + diagonal ∧
      2 * frontier.enter (round + 1) diagonal < oldSize + newSize + diagonal ∧
      visit old new slack (round + 1) other point (diagonals (round + 1)) frontier =
        .error (point diagonal (frontier.enter (round + 1) diagonal)
          (frontier.equal old new (round + 1) diagonal))) ∨
    ∃ next, visit old new slack (round + 1) other point (diagonals (round + 1)) frontier =
        .ok next ∧
      next.Fits limit ∧ next.Reaches oldSize newSize (round + 1) ∧
      (((oldSize : Int) - newSize + slack) % 2 = 0 →
        next.IsApart oldSize newSize slack (round + 1) ∧
          round + 1 + otherRound < oldSize + newSize) := by
  subst oldSize_eq newSize_eq
  rcases visit_cases fits room old new slack other point with
    ⟨diagonal, visited, ⟨parity, near, -⟩, stopped⟩ | ⟨next, went, nextFits, moved⟩
  · obtain ⟨oldInside, newInside, notCorner⟩ :=
      reaches.enter_inside (apart parity) small parity visited near
    exact .inl ⟨diagonal, visited, oldInside, newInside, notCorner, stopped⟩
  · have nextReaches := reaches.step fun diagonal visited => (moved diagonal visited).1
    have unmet : ∀ diagonal ∈ diagonals (round + 1),
        ¬ Meets old.size new.size slack (round + 1) other diagonal (next.get diagonal) := by
      intro diagonal visited
      rw [(moved diagonal visited).1]
      exact (moved diagonal visited).2
    refine .inr ⟨next, went, nextFits, nextReaches, fun parity =>
      ⟨isApart_of_not_meets parity otherReaches behind unmet, ?_⟩⟩
    apply Nat.lt_of_not_le
    intro late
    obtain ⟨diagonal, visited, met⟩ :=
      exists_meets parity small nextReaches otherReaches behind late
    exact unmet diagonal visited met

end Rounds

/-- After a round in which they have not met, the two frontiers go on towards each other, and
not all lines are used up. -/
structure Unmet (oldSize newSize limit round : Nat) (frontiers : Frontier × Frontier) : Prop where
  forwardFits : frontiers.1.Fits limit
  backwardFits : frontiers.2.Fits limit
  forward : frontiers.1.Reaches oldSize newSize round
  backward : frontiers.2.Reaches oldSize newSize round
  forwardApart : ((oldSize : Int) - newSize + (1 : Nat)) % 2 = 0 →
    frontiers.1.IsApart oldSize newSize 1 round
  backwardApart : ((oldSize : Int) - newSize + (0 : Nat)) % 2 = 0 →
    frontiers.2.IsApart oldSize newSize 0 round
  early : 2 * round < oldSize + newSize

variable {old new : List Text}

/-- The point at which the search from the front enters a diagonal is a proper one. -/
theorem forwardPoint_isProper {entered : Nat} (used : round + 1 + diagonal ≤ 2 * entered)
    (visited : diagonal ∈ diagonals (round + 1))
    (oldInside : entered ≤ old.length) (newInside : entered ≤ new.length + diagonal)
    (notCorner : 2 * entered < old.length + new.length + diagonal) (equal : Nat) :
    (forwardPoint diagonal entered equal).IsProper old new := by
  have inside := mem_diagonals.1 visited
  refine ⟨?_, oldInside, ?_, ?_⟩ <;> simp only [forwardPoint] <;> omega

/-- The point to which the search from the back comes is a proper one: lines agree up to the
corner only if the last two of them do. -/
theorem backwardPoint_isProper {entered : Nat} (oldSome : old ≠ []) (newSome : new ≠ [])
    (first : old.head? ≠ new.head?) (used : round + 1 + diagonal ≤ 2 * entered)
    (visited : diagonal ∈ diagonals (round + 1))
    (oldInside : entered ≤ old.length) (newInside : entered ≤ new.length + diagonal)
    (notCorner : 2 * entered < old.length + new.length + diagonal) :
    (backwardPoint old.length new.length diagonal entered
      (agreement old.reverse.toArray new.reverse.toArray entered
        (entered - diagonal).toNat)).IsProper old new := by
  have inside := mem_diagonals.1 visited
  have oldPos := List.length_pos_iff.2 oldSome
  have newPos := List.length_pos_iff.2 newSome
  have short : ¬ (old.length ≤ entered + agreement old.reverse.toArray
        new.reverse.toArray entered (entered - diagonal).toNat ∧
      new.length ≤ (entered - diagonal).toNat + agreement old.reverse.toArray
        new.reverse.toArray entered (entered - diagonal).toNat) := by
    rintro ⟨oldEnd, newEnd⟩
    rcases agreement_cases old.reverse.toArray new.reverse.toArray entered
      (entered - diagonal).toNat with none | ⟨line, oldLine, newLine⟩
    · omega
    · have oldLast := (Array.getElem?_eq_some_iff.1 oldLine).1
      have newLast := (Array.getElem?_eq_some_iff.1 newLine).1
      rw [List.size_toArray, List.length_reverse] at oldLast newLast
      apply first
      rw [List.getElem?_toArray, List.getElem?_reverse oldLast] at oldLine
      rw [List.getElem?_toArray, List.getElem?_reverse newLast] at newLine
      rw [List.head?_eq_getElem?, List.head?_eq_getElem?]
      exact (congrArg (old[·]?) (by omega)).trans (oldLine.trans
        (newLine.symm.trans (congrArg (new[·]?) (by omega))))
  refine ⟨?_, ?_, ?_, ?_⟩ <;> simp only [backwardPoint] <;> omega

/-- A round of the search for a split point between lines. -/
def searchLines (old new : List Text) (frontiers : Frontier × Frontier) (round : Nat) :
    Except SplitPoint (Frontier × Frontier) :=
  searchRound old.toArray new.toArray old.reverse.toArray new.reverse.toArray frontiers round

theorem searchLines_eq (old new : List Text) (frontiers : Frontier × Frontier) (round : Nat) :
    searchLines old new frontiers round = do
      let forward ← visit old.toArray new.toArray 1 round frontiers.2 forwardPoint
        (diagonals round) frontiers.1
      let backward ← visit old.reverse.toArray new.reverse.toArray 0 round forward
        (backwardPoint old.length new.length) (diagonals round) frontiers.2
      return (forward, backward) := by
  simp [searchLines, searchRound, forwardRound_eq, backwardRound_eq]

/-- A round of the search finds a proper split point, or the search goes on. -/
theorem searchLines_cases (oldSome : old ≠ []) (newSome : new ≠ [])
    (first : old.head? ≠ new.head?) {frontiers : Frontier × Frontier}
    (unmet : Unmet old.length new.length limit round frontiers) (room : round + 1 < limit) :
    (∃ point, searchLines old new frontiers (round + 1) = .error point ∧
      point.IsProper old new) ∨
    ∃ next, searchLines old new frontiers (round + 1) = .ok next ∧
      Unmet old.length new.length limit (round + 1) next := by
  rcases visit_step List.size_toArray List.size_toArray unmet.forwardFits room unmet.forward
      unmet.backward rfl (Nat.le_refl 1) unmet.forwardApart forwardPoint with
    ⟨diagonal, visited, oldInside, newInside, notCorner, stopped⟩ |
      ⟨forward, went, forwardFits, forwardReaches, forwardApart⟩
  · have found := searchLines_eq old new frontiers (round + 1)
    rw [stopped] at found
    exact .inl ⟨_, found, forwardPoint_isProper (unmet.forward.le_enter visited) visited oldInside
      newInside notCorner _⟩
  · have rest : searchLines old new frontiers (round + 1) = do
        let backward ← visit old.reverse.toArray new.reverse.toArray 0 (round + 1) forward
          (backwardPoint old.length new.length) (diagonals (round + 1)) frontiers.2
        return (forward, backward) := by
      rw [searchLines_eq, went]
      rfl
    have oldSize : old.reverse.toArray.size = old.length := by simp
    have newSize : new.reverse.toArray.size = new.length := by simp
    rcases visit_step oldSize newSize unmet.backwardFits room unmet.backward forwardReaches
        rfl (Nat.zero_le 1) unmet.backwardApart (backwardPoint old.length new.length) with
      ⟨diagonal, visited, oldInside, newInside, notCorner, stopped⟩ |
        ⟨backward, wentBack, backwardFits, backwardReaches, backwardApart⟩
    · rw [stopped] at rest
      exact .inl ⟨_, rest, backwardPoint_isProper oldSome newSome first
        (unmet.backward.le_enter visited) visited oldInside newInside notCorner⟩
    · refine .inr ⟨(forward, backward), ?_, forwardFits, backwardFits, forwardReaches,
        backwardReaches, fun parity => (forwardApart parity).1,
        fun parity => (backwardApart parity).1, ?_⟩
      · rw [rest, wentBack]
        rfl
      · -- One of the two ends was on its turn to meet the other.
        by_cases even : ((old.length : Int) - new.length + (0 : Nat)) % 2 = 0
        · have early := (backwardApart even).2
          omega
        · have early := (forwardApart (by omega)).2
          omega

/-- Nothing is used up in the first round, because the first lines differ. -/
theorem advance_start {old new : Array Text} (first : old[0]? ≠ new[0]?) (limit : Nat) :
    (start limit).advance old new 0 0 = 0 := by
  have entered : (start limit).enter 0 0 = 0 := by
    rw [enter, get_start, get_start, if_pos (.inl rfl)]
  have equal : agreement old new 0 0 = 0 := by
    rw [agreement]
    split
    · next inside =>
        apply if_neg
        intro same
        apply first
        rw [Array.getElem?_eq_getElem inside.1, Array.getElem?_eq_getElem inside.2, same]
    · rfl
  rw [advance, Frontier.equal, entered]
  exact (Nat.zero_add _).trans equal

/-- After a round in which nothing was used up, the search has not left the texts. -/
theorem reaches_zero (nothing : frontier.get 0 = 0) (oldSize newSize : Nat) :
    frontier.Reaches oldSize newSize 0 := by
  have only {diagonal : Int} (visited : diagonal ∈ diagonals 0) : diagonal = 0 := by
    rw [mem_diagonals] at visited
    omega
  refine ⟨?_, ?_, ?_⟩ <;> intro diagonal visited <;> obtain rfl := only visited <;> omega

theorem isApart_zero (nothing : frontier.get 0 = 0) (oldPos : 0 < oldSize) (newPos : 0 < newSize)
    (slack : Nat) : frontier.IsApart oldSize newSize slack 0 := by
  intro diagonal visited _
  rw [mem_diagonals] at visited
  obtain rfl : diagonal = 0 := by omega
  omega

/-- The search does not end in its first round. -/
theorem exists_searchLines_start (oldSome : old ≠ []) (newSome : new ≠ [])
    (first : old.head? ≠ new.head?) (last : old.getLast? ≠ new.getLast?) (room : 0 < limit) :
    ∃ next, searchLines old new (start limit, start limit) 0 = .ok next ∧
      Unmet old.length new.length limit 0 next := by
  have oldPos := List.length_pos_iff.2 oldSome
  have newPos := List.length_pos_iff.2 newSome
  have only {diagonal : Int} (visited : diagonal ∈ diagonals 0) : diagonal = 0 := by
    rw [mem_diagonals] at visited
    omega
  have origin : (0 : Int) ∈ diagonals 0 := mem_diagonals.2 (by omega)
  have forwardStart := @advance_start old.toArray new.toArray
    (by simpa [← List.head?_eq_getElem?] using first) limit
  have backwardStart := @advance_start old.reverse.toArray new.reverse.toArray
    (by simpa [← List.head?_eq_getElem?] using last) limit
  rcases visit_cases (fits_start limit) room old.toArray new.toArray 1 (start limit) forwardPoint
    with ⟨diagonal, visited, ⟨-, near, -⟩, -⟩ | ⟨forward, went, forwardFits, forwardMoved⟩
  · omega
  have forwardZero : forward.get 0 = 0 := (forwardMoved 0 origin).1.trans forwardStart
  rcases visit_cases (fits_start limit) room old.reverse.toArray new.reverse.toArray 0 forward
      (backwardPoint old.length new.length) with
    ⟨diagonal, visited, ⟨-, near, met⟩, -⟩ | ⟨backward, wentBack, backwardFits, backwardMoved⟩
  · have none : forward.get ((old.reverse.toArray.size : Int) - new.reverse.toArray.size -
        diagonal) = 0 := by
      rw [only visited] at near ⊢
      rw [show (old.reverse.toArray.size : Int) - new.reverse.toArray.size - 0 = 0 by omega]
      exact forwardZero
    rw [none, only visited, backwardStart, List.size_toArray, List.length_reverse] at met
    omega
  have backwardZero : backward.get 0 = 0 := (backwardMoved 0 origin).1.trans backwardStart
  refine ⟨(forward, backward), ?_, forwardFits, backwardFits, reaches_zero forwardZero ..,
    reaches_zero backwardZero .., fun _ => isApart_zero forwardZero oldPos newPos 1,
    fun _ => isApart_zero backwardZero oldPos newPos 0, by omega⟩
  rw [searchLines_eq, went]
  show (do
    let backward ← visit old.reverse.toArray new.reverse.toArray 0 0 forward
      (backwardPoint old.length new.length) (diagonals 0) (start limit)
    return (forward, backward)) = _
  rw [wentBack]
  rfl

/-- After any number of rounds, a proper split point is found or the search goes on. -/
theorem searchLines_rounds (oldSome : old ≠ []) (newSome : new ≠ [])
    (first : old.head? ≠ new.head?) (last : old.getLast? ≠ new.getLast?) (room : round < limit) :
    (∃ point, (List.range (round + 1)).foldlM (searchLines old new) (start limit, start limit) =
        .error point ∧ point.IsProper old new) ∨
      ∃ next, (List.range (round + 1)).foldlM (searchLines old new) (start limit, start limit) =
          .ok next ∧ Unmet old.length new.length limit round next := by
  induction round with
  | zero =>
      obtain ⟨next, went, unmet⟩ := exists_searchLines_start oldSome newSome first last room
      refine .inr ⟨next, ?_, unmet⟩
      show (searchLines old new (start limit, start limit) 0 >>= pure) = _
      rw [went]
      rfl
  | succ round ih =>
      rw [List.range_succ, List.foldlM_append]
      rcases ih (by omega) with ⟨point, found, proper⟩ | ⟨frontiers, went, unmet⟩
      · rw [found]
        exact .inl ⟨point, rfl, proper⟩
      · rw [went]
        have last : (Except.ok frontiers >>= fun frontiers =>
            [round + 1].foldlM (searchLines old new) frontiers) =
              searchLines old new frontiers (round + 1) := by
          show (searchLines old new frontiers (round + 1) >>= pure) = _
          exact bind_pure _
        rw [last]
        exact searchLines_cases oldSome newSome first unmet room

/-- **A split point is found.** Between lines that have no first line and no last line in common,
the search finds a point that splits them into smaller halves. -/
theorem exists_splitPoint? (oldSome : old ≠ []) (newSome : new ≠ [])
    (first : old.head? ≠ new.head?) (last : old.getLast? ≠ new.getLast?) :
    ∃ point, splitPoint? old new = some point ∧ point.IsProper old new := by
  have rounds := @searchLines_rounds ((old.length + new.length + 1) / 2 + 1)
    ((old.length + new.length + 1) / 2) old new oldSome newSome first last (Nat.lt_succ_self _)
  rcases rounds with ⟨point, found, proper⟩ | ⟨frontiers, -, unmet⟩
  · refine ⟨point, ?_, proper⟩
    unfold searchLines at found
    simp only [splitPoint?, found]
  · have early := unmet.early
    omega

/-- Behind the lines that two lists have in common, their lines differ. -/
theorem head?_drop_sharedFront (old new : List Text)
    (oldSome : old.drop (sharedFront old new).length ≠ []) :
    (old.drop (sharedFront old new).length).head? ≠
      (new.drop (sharedFront old new).length).head? := by
  fun_induction sharedFront old new with
  | case1 first old new ih => exact ih (by simpa using oldSome)
  | case2 first old second new different => simpa using different
  | case3 old new notBoth =>
      cases old with
      | nil => exact absurd rfl oldSome
      | cons first old =>
          cases new with
          | nil => simp
          | cons second new => exact absurd rfl (notBoth first old second new rfl)

/-- The lines that are left have no first line in common. -/
theorem head?_trim (oldSome : (trim old new).old ≠ []) (newSome : (trim old new).new ≠ []) :
    (trim old new).old.head? ≠ (trim old new).new.head? := by
  have oldRest := congrArg (List.drop (trim old new).front.length) (trim_old old new)
  have newRest := congrArg (List.drop (trim old new).front.length) (trim_new old new)
  rw [List.append_assoc, List.drop_left] at oldRest newRest
  have differ : (old.drop (trim old new).front.length).head? ≠
      (new.drop (trim old new).front.length).head? := by
    apply head?_drop_sharedFront
    show old.drop (trim old new).front.length ≠ []
    rw [← oldRest]
    exact List.append_ne_nil_of_left_ne_nil oldSome _
  rwa [← oldRest, ← newRest, List.head?_append, List.head?_append,
    List.head?_eq_some_head oldSome, List.head?_eq_some_head newSome, Option.some_or,
    Option.some_or, ← List.head?_eq_some_head oldSome,
    ← List.head?_eq_some_head newSome] at differ

/-- The lines that are left have no last line in common. -/
theorem getLast?_trim (oldSome : (trim old new).old ≠ []) :
    (trim old new).old.getLast? ≠ (trim old new).new.getLast? := by
  simp only [trim, List.getLast?_reverse] at oldSome ⊢
  exact head?_drop_sharedFront _ _ (by simpa using oldSome)

/-- **The search for a script divides what is left.** Where lines of both texts are left between
the common ones, it goes on with smaller halves. -/
theorem exists_script_halves (oldSome : (trim old new).old ≠ [])
    (newSome : (trim old new).new ≠ []) :
    ∃ point, splitPoint? (trim old new).old (trim old new).new = some point ∧
      point.IsProper (trim old new).old (trim old new).new ∧
      script old new = (trim old new).front.map .keep ++
        (script ((trim old new).old.take point.old) ((trim old new).new.take point.new) ++
          script ((trim old new).old.drop point.old) ((trim old new).new.drop point.new)) ++
        (trim old new).back.map .keep := by
  obtain ⟨point, found, proper⟩ := exists_splitPoint? oldSome newSome
    (head?_trim oldSome newSome) (getLast?_trim oldSome)
  refine ⟨point, found, proper, ?_⟩
  rw [script]
  simp only [found, if_pos proper, oldSome, newSome, or_self, if_false]

end Diff

end AvailabilityAnnotations

/-
# Hunks are a patch

The hunks of a script leave out kept lines only. So old and new lines can be walked along at
the same pace: outside the hunks they are the same lines, and at a hunk the one side has the
lines that the hunk reads and the other one those that it writes. `Patches` is this walk, and
`patches_hunksFrom` takes it along the runs of edits that the hunks are made of.

What a patch has to be is read off the walk afterwards: each hunk shows exactly the lines of
its two ranges, the ranges rise and have lines between them, the lines outside agree, and
putting the new lines of each hunk in the place of its old ones gives the new text
(`IsPatch`).
-/

import AvailabilityAnnotations.Diff.Unified
import AvailabilityAnnotations.Proofs.Diff.Script

namespace AvailabilityAnnotations

namespace Diff

variable {old new : List Text} {edits : List Edit} {hunks : List Hunk} {oldAt newAt : Nat}

/-- Every edit is either shown or left out. -/
theorem length_shownBehind (left : Nat) (edits : List Edit) :
    (shownBehind left edits).length = edits.length := by
  induction edits generalizing left with
  | nil => rfl
  | cons edit edits ih =>
      rw [shownBehind]
      split <;> simp [ih]

theorem length_shown (edits : List Edit) : (shown edits).length = edits.length := by
  simp [shown, length_shownBehind]

/-- An edit that does not stand close behind a change is no change. -/
theorem isChange_of_mem_shownBehind {left : Nat} {edit : Edit}
    (member : (false, edit) ∈ (shownBehind left edits).zip edits) : edit.isChange = false := by
  induction edits generalizing left with
  | nil => simp at member
  | cons first edits ih =>
      rw [shownBehind] at member
      split at member
      · next change => exact ih (by simpa using member)
      · next kept =>
          rw [List.zip_cons_cons, List.mem_cons] at member
          rcases member with here | later
          · obtain ⟨-, rfl⟩ := Prod.mk.inj here
            simpa using kept
          · exact ih later

/-- What neither of two flags shows is left out by the first one. -/
private theorem mem_zip_of_mem_zip_or {first second : List Bool} {edit : Edit}
    (member : (false, edit) ∈ (List.zipWith (· || ·) first second).zip edits) :
    (false, edit) ∈ first.zip edits := by
  induction first generalizing second edits with
  | nil => simp at member
  | cons flag first ih =>
      cases second with
      | nil => simp at member
      | cons other second =>
          cases edits with
          | nil => simp at member
          | cons next edits =>
              rw [List.zipWith_cons_cons, List.zip_cons_cons, List.mem_cons] at member
              rw [List.zip_cons_cons, List.mem_cons]
              rcases member with here | later
              · obtain ⟨hidden, rfl⟩ := Prod.mk.inj here
                have both : flag = false ∧ other = false := by simpa using hidden
                rw [both.1]
                exact .inl rfl
              · exact .inr (ih later)

/-- An edit that is left out is no change. -/
theorem isChange_of_mem_shown {edit : Edit} (member : (false, edit) ∈ (shown edits).zip edits) :
    edit.isChange = false :=
  isChange_of_mem_shownBehind (mem_zip_of_mem_zip_or member)

/-- Edits without a change read what they write. -/
theorem oldLines_eq_newLines (kept : ∀ edit ∈ edits, edit.isChange = false) :
    oldLines edits = newLines edits := by
  induction edits with
  | nil => rfl
  | cons edit edits ih =>
      have others := ih fun edit member => kept edit (List.mem_cons_of_mem _ member)
      cases edit with
      | keep line => exact congrArg (line :: ·) others
      | delete line => exact absurd (kept _ List.mem_cons_self) (by simp [Edit.isChange])
      | insert line => exact absurd (kept _ List.mem_cons_self) (by simp [Edit.isChange])

/-- Edits without a change read a line each. -/
theorem length_oldLines (kept : ∀ edit ∈ edits, edit.isChange = false) :
    (oldLines edits).length = edits.length := by
  induction edits with
  | nil => rfl
  | cons edit edits ih =>
      have others := ih fun edit member => kept edit (List.mem_cons_of_mem _ member)
      cases edit with
      | keep line => simpa [oldLines, Edit.oldLine?] using others
      | delete line => exact absurd (kept _ List.mem_cons_self) (by simp [Edit.isChange])
      | insert line => exact absurd (kept _ List.mem_cons_self) (by simp [Edit.isChange])

/-- Runs as they come: none is empty, one that is left out has no changes, and of two
neighbours exactly one is left out. -/
inductive AreRuns : List (Bool × List Edit) → Prop
  | nil : AreRuns []
  | cons {isShown : Bool} {edits : List Edit} {others : List (Bool × List Edit)}
      (nonempty : edits ≠ [])
      (kept : isShown = false → ∀ edit ∈ edits, edit.isChange = false)
      (border : ∀ next ∈ others.head?, next.1 = !isShown) (rest : AreRuns others) :
      AreRuns ((isShown, edits) :: others)

/-- Cutting into runs loses nothing. -/
theorem flatMap_runs (items : List (Bool × Edit)) :
    (runs items).flatMap Prod.snd = items.map Prod.snd := by
  induction items with
  | nil => rfl
  | cons item items ih =>
      obtain ⟨isShown, edit⟩ := item
      rw [runs]
      cases shape : runs items with
      | nil =>
          rw [shape] at ih
          simp [← ih]
      | cons run others =>
          rw [shape] at ih
          rw [List.map_cons, ← ih]
          dsimp only
          split <;> simp

/-- Edits that are left out only if they are no changes fall into runs. -/
theorem areRuns_runs {items : List (Bool × Edit)}
    (kept : ∀ edit, (false, edit) ∈ items → edit.isChange = false) : AreRuns (runs items) := by
  induction items with
  | nil => exact .nil
  | cons item items ih =>
      obtain ⟨isShown, edit⟩ := item
      have others := ih fun edit member => kept edit (List.mem_cons_of_mem _ member)
      have own : isShown = false → edit.isChange = false := by
        rintro rfl
        exact kept edit List.mem_cons_self
      rw [runs]
      cases shape : runs items with
      | nil => exact .cons (by simp) (by simpa using own) (by simp) .nil
      | cons run rest =>
          obtain ⟨next, edits⟩ := run
          rw [shape] at others
          dsimp only
          split
          · next same =>
              subst same
              cases others with
              | cons nonempty keptRun border rest =>
                  refine .cons (by simp) ?_ border rest
                  intro hidden
                  exact List.forall_mem_cons.2 ⟨own hidden, keptRun hidden⟩
          · next different =>
              refine .cons (by simp) (by simpa using own) ?_ others
              intro found first
              obtain rfl : (next, edits) = found := by simpa using first
              cases isShown <;> cases next <;> simp_all

/-- Old and new lines side by side, behind the given numbers of lines: kept lines that are
left out, a hunk, and so on. Behind a hunk at least one line is left out in front of the next
one. -/
inductive Patches : Nat → Nat → List Hunk → List Text → List Text → Prop
  | done (oldAt newAt : Nat) (kept : List Text) : Patches oldAt newAt [] kept kept
  | hunk {oldAt newAt : Nat} (kept : List Text) {hunk : Hunk} {hunks : List Hunk}
      {old new : List Text} (oldStart_eq : hunk.oldStart = oldAt + kept.length)
      (newStart_eq : hunk.newStart = newAt + kept.length)
      (apart : ∀ next ∈ hunks.head?, hunk.oldStart + hunk.oldLength < next.oldStart)
      (later : Patches (hunk.oldStart + hunk.oldLength) (hunk.newStart + hunk.newLength)
        hunks old new) :
      Patches oldAt newAt (hunk :: hunks) (kept ++ (oldLines hunk.edits ++ old))
        (kept ++ (newLines hunk.edits ++ new))

/-- Kept lines in front of the walk. -/
theorem Patches.prepend (kept : List Text)
    (patches : Patches (oldAt + kept.length) (newAt + kept.length) hunks old new) :
    Patches oldAt newAt hunks (kept ++ old) (kept ++ new) := by
  cases patches with
  | done _ _ more => exact .done ..
  | hunk more oldStart_eq newStart_eq apart later =>
      rw [← List.append_assoc kept more, ← List.append_assoc kept more]
      apply Patches.hunk (kept ++ more) _ _ apart later
      · rw [oldStart_eq, List.length_append, Nat.add_assoc]
      · rw [newStart_eq, List.length_append, Nat.add_assoc]

/-- No hunk begins in front of the place where the runs begin. -/
theorem le_oldStart_of_mem_hunksFrom {runs : List (Bool × List Edit)} {hunk : Hunk}
    (member : hunk ∈ hunksFrom oldAt newAt runs) : oldAt ≤ hunk.oldStart := by
  induction runs generalizing oldAt newAt with
  | nil => simp [hunksFrom] at member
  | cons run runs ih =>
      obtain ⟨isShown, edits⟩ := run
      rw [hunksFrom] at member
      split at member
      · rcases List.mem_cons.1 member with rfl | later
        · exact Nat.le_refl _
        · have behind := ih later
          omega
      · have behind := ih member
        omega

/-- The hunks of runs walk along what the runs read and write. -/
theorem patches_hunksFrom {runs : List (Bool × List Edit)} (areRuns : AreRuns runs)
    (oldAt newAt : Nat) :
    Patches oldAt newAt (hunksFrom oldAt newAt runs) (oldLines (runs.flatMap Prod.snd))
      (newLines (runs.flatMap Prod.snd)) := by
  induction areRuns generalizing oldAt newAt with
  | nil => exact .done oldAt newAt []
  | @cons isShown edits others nonempty kept border rest ih =>
      rw [List.flatMap_cons, oldLines_append, newLines_append]
      cases isShown with
      | true =>
          -- The next run is left out, and it has a line.
          have apart : ∀ next ∈ (hunksFrom (oldAt + (oldLines edits).length)
              (newAt + (newLines edits).length) others).head?,
              oldAt + (oldLines edits).length < next.oldStart := by
            intro next first
            cases rest with
            | nil => simp [hunksFrom] at first
            | @cons otherShown hidden others otherNonempty otherKept _ _ =>
                obtain rfl : otherShown = false := border _ rfl
                have lines := length_oldLines (otherKept rfl)
                have positive := List.length_pos_iff.2 otherNonempty
                have behind := le_oldStart_of_mem_hunksFrom
                  (List.mem_of_mem_head? (by simpa [hunksFrom] using first))
                omega
          show Patches oldAt newAt (⟨oldAt, newAt, edits⟩ :: hunksFrom _ _ others)
            ([] ++ (oldLines edits ++ _)) ([] ++ (newLines edits ++ _))
          exact .hunk [] rfl rfl apart (ih ..)
      | false =>
          have same := oldLines_eq_newLines (kept rfl)
          have walk := ih (oldAt + (oldLines edits).length) (newAt + (newLines edits).length)
          show Patches oldAt newAt (hunksFrom _ _ others) (oldLines edits ++ _)
            (newLines edits ++ _)
          rw [← same] at walk ⊢
          exact walk.prepend _

/-- The hunks of a script walk along its old and its new lines. -/
theorem IsScript.patches (isScript : IsScript old new edits) :
    Patches 0 0 (Diff.hunks edits) old new := by
  have areRuns : AreRuns (runs ((shown edits).zip edits)) :=
    areRuns_runs fun _ => isChange_of_mem_shown
  have walk := patches_hunksFrom areRuns 0 0
  have whole : ((shown edits).zip edits).map Prod.snd = edits :=
    List.map_snd_zip (Nat.le_of_eq (length_shown edits).symm)
  rwa [flatMap_runs, whole, isScript.reads, isScript.writes] at walk

/-- Put the new lines of each hunk in the place of its old ones. The number says how many old
lines there were in front of those that are given. -/
def patchFrom (passed : Nat) : List Hunk → List Text → List Text
  | [], old => old
  | hunk :: hunks, old =>
      old.take (hunk.oldStart - passed) ++ newLines hunk.edits ++
        patchFrom (hunk.oldStart + hunk.oldLength) hunks
          (old.drop (hunk.oldStart - passed + hunk.oldLength))

/-- The old lines with all hunks applied. -/
def patch (hunks : List Hunk) (old : List Text) : List Text :=
  patchFrom 0 hunks old

/-- The old range of a hunk, and the new one: the number of lines in front of it and the
number of lines in it. -/
def Hunk.oldRange (hunk : Hunk) : Nat × Nat :=
  (hunk.oldStart, hunk.oldLength)

@[inherit_doc Hunk.oldRange]
def Hunk.newRange (hunk : Hunk) : Nat × Nat :=
  (hunk.newStart, hunk.newLength)

/-- The lines between rising ranges, gap by gap, from the front to the back. -/
def gapsFrom (passed : Nat) : List (Nat × Nat) → List Text → List (List Text)
  | [], lines => [lines]
  | (start, length) :: ranges, lines =>
      lines.take (start - passed) ::
        gapsFrom (start + length) ranges (lines.drop (start - passed + length))

/-- The hunks lead from the old lines to the new ones. -/
structure IsPatch (hunks : List Hunk) (old new : List Text) : Prop where
  /-- Kept and deleted lines of a hunk are the old lines of its range. -/
  reads : ∀ hunk ∈ hunks, hunk.oldStart + hunk.oldLength ≤ old.length ∧
    (old.drop hunk.oldStart).take hunk.oldLength = oldLines hunk.edits
  /-- Kept and inserted lines of a hunk are the new lines of its range. -/
  writes : ∀ hunk ∈ hunks, hunk.newStart + hunk.newLength ≤ new.length ∧
    (new.drop hunk.newStart).take hunk.newLength = newLines hunk.edits
  /-- The ranges rise, with at least one line between any two of them. -/
  rising : hunks.Pairwise fun first second =>
    first.oldStart + first.oldLength < second.oldStart ∧
      first.newStart + first.newLength < second.newStart
  /-- Outside the ranges the old lines are the new ones. -/
  gaps : gapsFrom 0 (hunks.map Hunk.oldRange) old = gapsFrom 0 (hunks.map Hunk.newRange) new
  /-- Applying the hunks to the old lines gives the new ones. -/
  patched : patch hunks old = new

namespace Patches

/-- Every hunk shows the old and the new lines of its ranges. -/
theorem ranges (patches : Patches oldAt newAt hunks old new) {hunk : Hunk}
    (member : hunk ∈ hunks) :
    ∃ oldFront newFront oldRest newRest,
      old = oldFront ++ (oldLines hunk.edits ++ oldRest) ∧
      new = newFront ++ (newLines hunk.edits ++ newRest) ∧
      hunk.oldStart = oldAt + oldFront.length ∧ hunk.newStart = newAt + newFront.length := by
  induction patches with
  | done => simp at member
  | @hunk oldAt newAt kept first hunks old new oldStart_eq newStart_eq _ _ ih =>
      rcases List.mem_cons.1 member with rfl | later
      · exact ⟨kept, kept, old, new, rfl, rfl, oldStart_eq, newStart_eq⟩
      · obtain ⟨oldFront, newFront, oldRest, newRest, rfl, rfl, oldHere, newHere⟩ := ih later
        refine ⟨kept ++ oldLines first.edits ++ oldFront, kept ++ newLines first.edits ++ newFront,
          oldRest, newRest, by simp, by simp, ?_, ?_⟩
        · rw [oldHere, oldStart_eq, Hunk.oldLength, List.length_append, List.length_append]
          omega
        · rw [newHere, newStart_eq, Hunk.newLength, List.length_append, List.length_append]
          omega

/-- The hunks rise. -/
theorem rising (patches : Patches oldAt newAt hunks old new) :
    hunks.Pairwise fun first second =>
      first.oldStart + first.oldLength < second.oldStart ∧
        first.newStart + first.newLength < second.newStart := by
  induction patches with
  | done => exact .nil
  | @hunk oldAt newAt kept hunk hunks old new _ _ apart later ih =>
      refine .cons ?_ ih
      intro second member
      cases later with
      | done => simp at member
      | @hunk _ _ gap next others _ _ oldStart_eq newStart_eq _ behind =>
          have strict := apart next rfl
          rcases List.mem_cons.1 member with rfl | farther
          · omega
          · obtain ⟨oldFront, newFront, _, _, _, _, oldHere, newHere⟩ := behind.ranges farther
            omega

/-- The lines outside the ranges agree. -/
theorem gaps (patches : Patches oldAt newAt hunks old new) :
    gapsFrom oldAt (hunks.map Hunk.oldRange) old =
      gapsFrom newAt (hunks.map Hunk.newRange) new := by
  induction patches with
  | done => rfl
  | @hunk oldAt newAt kept hunk hunks old new oldStart_eq newStart_eq _ _ ih =>
      have oldGap : hunk.oldStart - oldAt = kept.length := by omega
      have newGap : hunk.newStart - newAt = kept.length := by omega
      simp only [List.map_cons, gapsFrom, Hunk.oldRange, Hunk.newRange] at ih ⊢
      rw [oldGap, newGap, List.take_left, List.take_left, ← List.drop_drop, List.drop_left,
        ← List.drop_drop, List.drop_left, Hunk.oldLength, List.drop_left, Hunk.newLength,
        List.drop_left]
      exact congrArg _ ih

/-- Applying the hunks gives the new lines. -/
theorem patched (patches : Patches oldAt newAt hunks old new) :
    patchFrom oldAt hunks old = new := by
  induction patches with
  | done => rfl
  | @hunk oldAt newAt kept hunk hunks old new oldStart_eq _ _ _ ih =>
      have gap : hunk.oldStart - oldAt = kept.length := by omega
      have behind : (kept ++ (oldLines hunk.edits ++ old)).drop (kept.length + hunk.oldLength) =
          old := by
        rw [← List.drop_drop, List.drop_left, Hunk.oldLength, List.drop_left]
      rw [patchFrom, gap, behind, ih, List.take_left, List.append_assoc]

end Patches

/-- The hunks of a script are a patch from its old to its new lines. -/
theorem IsScript.isPatch_hunks (isScript : IsScript old new edits) :
    IsPatch (Diff.hunks edits) old new where
  reads := by
    intro hunk member
    obtain ⟨front, _, rest, _, rfl, _, start, _⟩ := isScript.patches.ranges member
    rw [Nat.zero_add] at start
    rw [start, Hunk.oldLength, List.drop_left, List.take_left]
    simp
  writes := by
    intro hunk member
    obtain ⟨_, front, _, rest, _, rfl, _, start⟩ := isScript.patches.ranges member
    rw [Nat.zero_add] at start
    rw [start, Hunk.newLength, List.drop_left, List.take_left]
    simp
  rising := isScript.patches.rising
  gaps := isScript.patches.gaps
  patched := isScript.patches.patched

end Diff

end AvailabilityAnnotations

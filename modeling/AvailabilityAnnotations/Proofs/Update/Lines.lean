/-
# Updating line by line

Whether a line can be updated, and what becomes of its body, depends on the body alone.
`Rules.Knows` and `Rules.renew` say so. A text can be updated exactly if each of its lines
can be, and the updated text has the renewed lines with their old endings. As a renewed
body stays within its line, the updated text is cut at the same places, and updating it
again renews the same lines once more.
-/

import AvailabilityAnnotations.Proofs.Annotation.Search
import AvailabilityAnnotations.Proofs.Rules.Standard
import AvailabilityAnnotations.Proofs.Text.Line

namespace AvailabilityAnnotations

namespace Update

/-- The new body of a line, or its old one, stands in front of the rest. -/
theorem precede_content (rest : Update) (number : Nat) (line : Line) (body? : Option Text) :
    (rest.precede number line body?).content =
      body?.getD line.body ++ line.ending.text ++ rest.content := by
  cases body? <;> simp [precede, Line.text]

/-- The number of a line is put in front of the others if its body is another one. -/
theorem precede_changedLines (rest : Update) (number : Nat) (line : Line) (body? : Option Text) :
    (rest.precede number line body?).changedLines =
      if body?.getD line.body = line.body then rest.changedLines
      else number :: rest.changedLines := by
  cases body? <;> simp [precede]

end Update

namespace Rules

variable {rules : Rules} {path : Path} {number : Nat}

/-- The annotation of the body, if it has one, names a version of the table. -/
def Knows (rules : Rules) (body : Text) : Prop :=
  ∀ occurrence, rules.findAnnotation? body = some occurrence →
    ∃ platforms, rules.table.platforms? occurrence.annotation.token = some platforms

/-- The body with its annotation written anew. -/
def renew (rules : Rules) (body : Text) : Text :=
  match rules.findAnnotation? body with
  | none => body
  | some occurrence =>
      match rules.table.platforms? occurrence.annotation.token with
      | none => body
      | some platforms => rules.rewritten occurrence platforms

/-- One look into the table tells whether a version is known. -/
theorem knows_of_found {body platforms : Text} {occurrence : Occurrence}
    (found : rules.findAnnotation? body = some occurrence)
    (known : rules.table.platforms? occurrence.annotation.token = some platforms) :
    rules.Knows body := by
  intro other foundOther
  obtain rfl := Option.some.inj (found.symm.trans foundOther)
  exact ⟨platforms, known⟩

/-- A body with an annotation of a known version is written anew. -/
theorem renew_of_found {body platforms : Text} {occurrence : Occurrence}
    (found : rules.findAnnotation? body = some occurrence)
    (known : rules.table.platforms? occurrence.annotation.token = some platforms) :
    rules.renew body = rules.rewritten occurrence platforms := by
  simp [renew, found, known]

/-- The line with its annotation written anew. -/
def renewLine (rules : Rules) (line : Line) : Line :=
  { line with body := rules.renew line.body }

/-- A line can be updated exactly if its version is known, and then it is renewed. -/
theorem updateLine_eq_ok_iff (path : Path) (number : Nat) {body : Text} :
    (∃ body?, rules.updateLine path number body = .ok body?) ↔ rules.Knows body := by
  unfold updateLine Knows
  cases found : rules.findAnnotation? body with
  | none => simp
  | some occurrence =>
      cases known : rules.table.platforms? occurrence.annotation.token <;> simp [known]

/-- The new body of a line that was updated, or else its old one, is the renewed body. -/
theorem getD_of_updateLine {body : Text} {body? : Option Text}
    (updated : rules.updateLine path number body = .ok body?) :
    body?.getD body = rules.renew body := by
  unfold updateLine at updated
  unfold renew
  cases found : rules.findAnnotation? body with
  | none =>
      rw [found] at updated
      cases updated
      rfl
  | some occurrence =>
      rw [found] at updated
      cases known : rules.table.platforms? occurrence.annotation.token with
      | none => simp [known] at updated
      | some platforms =>
          obtain rfl : some _ = body? := by simpa [known] using updated
          simp [known, rewritten]

/-- Lines can be updated if the first one can be and the others can be. -/
theorem updateLines_cons_eq_ok_iff {line : Line} {lines : List Line} {update : Update} :
    rules.updateLines path number (line :: lines) = .ok update ↔
      ∃ body? rest, rules.updateLine path number line.body = .ok body? ∧
        rules.updateLines path (number + 1) lines = .ok rest ∧
          update = rest.precede number line body? := by
  rw [updateLines]
  cases rules.updateLine path number line.body with
  | error failure => simp
  | ok body? =>
      cases rules.updateLines path (number + 1) lines with
      | error failure => simp
      | ok rest => simp [eq_comm]

/-- Lines can be updated exactly if all their versions are known. -/
theorem exists_updateLines_iff {lines : List Line} :
    (∃ update, rules.updateLines path number lines = .ok update) ↔
      ∀ line ∈ lines, rules.Knows line.body := by
  induction lines generalizing number with
  | nil => simp [updateLines]
  | cons line lines ih =>
      have others := @ih (number + 1)
      rw [List.forall_mem_cons, ← others, ← updateLine_eq_ok_iff path number]
      simp only [updateLines_cons_eq_ok_iff]
      constructor
      · rintro ⟨_, body?, rest, first, others, rfl⟩
        exact ⟨⟨body?, first⟩, rest, others⟩
      · rintro ⟨⟨body?, first⟩, rest, others⟩
        exact ⟨_, body?, rest, first, others, rfl⟩

/-- Each line of a text that can be updated can be updated by itself, under any number. -/
theorem exists_updateLine_of_mem {lines : List Line} {update : Update}
    (updated : rules.updateLines path number lines = .ok update) {line : Line}
    (member : line ∈ lines) (own : Nat) :
    ∃ body?, rules.updateLine path own line.body = .ok body? ∧
      body?.getD line.body = rules.renew line.body := by
  have known := exists_updateLines_iff.1 ⟨update, updated⟩ line member
  obtain ⟨body?, passed⟩ := (updateLine_eq_ok_iff path own).2 known
  exact ⟨body?, passed, getD_of_updateLine passed⟩

/-- The line has another body when it is renewed. -/
def isRenewed (rules : Rules) (line : Line) : Bool :=
  rules.renew line.body ≠ line.body

/-- The updated text consists of the renewed lines, and the numbers that are reported are those
of the lines with another body. -/
theorem updateLines_eq_ok {lines : List Line} {update : Update}
    (updated : rules.updateLines path number lines = .ok update) :
    update.content = Line.join (lines.map rules.renewLine) ∧
      update.changedLines =
        ((lines.zipIdx number).filter fun numbered => rules.isRenewed numbered.1).map Prod.snd := by
  induction lines generalizing number update with
  | nil =>
      cases updated
      exact ⟨rfl, rfl⟩
  | cons line lines ih =>
      obtain ⟨body?, rest, first, others, rfl⟩ := updateLines_cons_eq_ok_iff.1 updated
      obtain ⟨content, changed⟩ := ih others
      have body := getD_of_updateLine first
      constructor
      · rw [Update.precede_content, body, content]
        rfl
      · rw [Update.precede_changedLines, body, changed, List.zipIdx_cons]
        split
        · next same => simp [isRenewed, same]
        · next different => simp [isRenewed, different]

/-- There are as many numbers as lines with another body. -/
theorem length_changedLines {lines : List Line} {update : Update}
    (updated : rules.updateLines path number lines = .ok update) :
    update.changedLines.length = lines.countP rules.isRenewed := by
  rw [(updateLines_eq_ok updated).2, List.length_map, ← List.countP_eq_length_filter]
  calc (lines.zipIdx number).countP (fun numbered => rules.isRenewed numbered.1)
      = ((lines.zipIdx number).map Prod.fst).countP rules.isRenewed := by
        rw [List.countP_map]
        rfl
    _ = lines.countP rules.isRenewed := by rw [List.zipIdx_map_fst]

/-- What an update consists of: the renewed lines, and no changes exactly if no line is
different. -/
theorem updateLines_sound {lines : List Line} {update : Update}
    (updated : rules.updateLines path number lines = .ok update) :
    update.content = Line.join (lines.map rules.renewLine) ∧
      (update.changedLines = [] ↔ ∀ line ∈ lines, rules.renew line.body = line.body) := by
  refine ⟨(updateLines_eq_ok updated).1, ?_⟩
  rw [← List.length_eq_zero_iff, length_changedLines updated, List.countP_eq_zero]
  simp [isRenewed]

/-- The attribute, the placeholder and the lists of the table are free of line feeds. -/
structure IsLineFree (rules : Rules) : Prop where
  keyword : '\n' ∉ rules.keyword
  placeholder : '\n' ∉ rules.placeholder
  lists : ∀ entry ∈ rules.table.entries, '\n' ∉ entry.2

theorem initial_isLineFree (mode : Mode) : (Rules.initial mode).IsLineFree where
  keyword := by cases mode <;> decide
  placeholder := by cases mode <;> decide
  lists := (by decide : ∀ entry ∈ PlatformTable.system.entries, '\n' ∉ entry.2)

theorem IsLineFree.inMode (lineFree : rules.IsLineFree) (mode : Mode) :
    (rules.inMode mode).IsLineFree :=
  ⟨lineFree.keyword, lineFree.placeholder, lineFree.lists⟩

/-- What is written ends in a parenthesis or in the slash of a comment. -/
theorem getLast?_write (rules : Rules) (dialect : Dialect) (token platforms : Text) :
    (rules.write dialect token platforms).getLast? = some ')' ∨
      (rules.write dialect token platforms).getLast? = some '/' := by
  have clause : ", *)".toList.getLast? = some ')' := by decide
  have comment : ", *)*/".toList.getLast? = some '/' := by decide
  cases dialect <;> cases mode : rules.mode <;>
    simp only [write, mode, List.getLast?_append, clause, comment, Option.some_or, true_or, or_true]

/-- What is written for a token without line feeds has none. -/
theorem IsLineFree.write (lineFree : rules.IsLineFree) {token platforms : Text}
    (tokenFree : '\n' ∉ token)
    (known : rules.table.platforms? token = some platforms) (dialect : Dialect) :
    '\n' ∉ rules.write dialect token platforms := by
  have listFree := lineFree.lists _ (PlatformTable.platforms?_eq_some_iff.1 known)
  cases dialect <;> cases mode : rules.mode <;>
    simp [Rules.write, mode, lineFree.keyword, lineFree.placeholder, listFree, tokenFree]

/-- A line stays a line when it is renewed. -/
theorem IsLineFree.renewLine (lineFree : rules.IsLineFree) {line : Line}
    (wellFormed : line.IsWellFormed) : (rules.renewLine line).IsWellFormed := by
  obtain ⟨body, ending⟩ := line
  cases found : rules.findAnnotation? body with
  | none => simpa [Rules.renewLine, renew, found] using wellFormed
  | some occurrence =>
      cases known : rules.table.platforms? occurrence.annotation.token with
      | none => simpa [Rules.renewLine, renew, found, known] using wellFormed
      | some platforms =>
          obtain ⟨rfl, token⟩ := findAnnotation?_line found
          have tokenFree : '\n' ∉ occurrence.annotation.token := by
            intro member
            exact wellFormed.free (by simp [Occurrence.line, token.subset member])
          have last := rules.getLast?_write occurrence.annotation.dialect
            occurrence.annotation.token platforms
          have renewed : rules.renewLine ⟨occurrence.line, ending⟩ =
              ⟨occurrence.before ++ rules.write occurrence.annotation.dialect
                occurrence.annotation.token platforms ++ occurrence.after, ending⟩ := by
            simp [Rules.renewLine, renew_of_found found known, rewritten, Occurrence.replaceBy]
          rw [renewed]
          refine wellFormed.exchange ?_ (lineFree.write tokenFree known _) ?_
          · rintro empty
            simp [empty] at last
          · rcases last with last | last <;> simp [last]

/-- The updated text has the renewed lines. -/
theorem split_content (lineFree : rules.IsLineFree) {text : Text} {update : Update}
    (updated : rules.updateText path text = .ok update) :
    Line.split update.content = (Line.split text).map rules.renewLine := by
  have cut : Line.IsCut ((Line.split text).map rules.renewLine) :=
    (Line.isCut_split text).map rules.renewLine (fun _ => rfl) fun _ => lineFree.renewLine
  exact Line.split_eq_iff.2 ⟨cut, (updateLines_sound updated).1.symm⟩

/-- Updating an updated text succeeds and changes nothing exactly if every renewed line has
a known version and is its own renewal. -/
theorem updateText_content_iff_renew (lineFree : rules.IsLineFree) {text : Text}
    {update : Update} (updated : rules.updateText path text = .ok update) :
    (∃ again, rules.updateText path update.content = .ok again ∧
        again.content = update.content ∧ again.changedLines = []) ↔
      ∀ line ∈ Line.split text, rules.Knows (rules.renew line.body) ∧
        rules.renew (rules.renew line.body) = rules.renew line.body := by
  have cut := split_content lineFree updated
  constructor
  · rintro ⟨again, passed, -, unchanged⟩
    rw [updateText, cut] at passed
    have known := exists_updateLines_iff.1 ⟨again, passed⟩
    have same := (updateLines_sound passed).2.1 unchanged
    rw [List.forall_mem_map] at known same
    exact fun line member => ⟨known line member, same line member⟩
  · intro settled
    have all : ∀ line ∈ Line.split update.content,
        rules.Knows line.body ∧ rules.renew line.body = line.body := by
      rw [cut]
      exact List.forall_mem_map.2 settled
    obtain ⟨again, passed⟩ : ∃ again, rules.updateText path update.content = .ok again :=
      exists_updateLines_iff.2 fun line member => (all line member).1
    obtain ⟨content, changed⟩ := updateLines_sound passed
    refine ⟨again, passed, ?_, changed.2 fun line member => (all line member).2⟩
    have same : (Line.split update.content).map rules.renewLine =
        (Line.split update.content).map id :=
      List.map_congr_left fun line member => by rw [renewLine, (all line member).2, id]
    rw [content, same, List.map_id, Line.join_split]

end Rules

end AvailabilityAnnotations

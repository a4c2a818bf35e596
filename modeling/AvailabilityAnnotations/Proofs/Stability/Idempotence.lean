/-
# When a second pass changes nothing

A second pass in the same mode should find what the first one wrote and write it once
more. It does so in every line without an annotation of the old dialect, and in a line
with one exactly if the annotation completes no other one and, in comment mode, no clause
stands behind it, which the second pass would take.

That nothing else can help is seen from an at sign. Whatever a completed annotation
takes as its arguments reaches over the attribute that the first pass wrote. What the
rules write themselves holds no at sign there, so the second pass changes the line.
-/

import AvailabilityAnnotations.Proofs.Stability.Dialect
import AvailabilityAnnotations.Proofs.Update.Lines

namespace AvailabilityAnnotations

/-- A pass leaves the annotation in a state that the next pass in this mode keeps: it
completes no other annotation, and in comment mode no clause stands behind it. -/
structure Occurrence.IsSettled (mode : Mode) (occurrence : Occurrence) : Prop where
  notNew : ¬ CompletesNew mode occurrence.before
  notOld : ¬ CompletesOld mode occurrence.before occurrence.after
  noClause : mode = .comments → ∀ arguments rest, ')' ∉ arguments →
    occurrence.after ≠ OldForm.clause "@available".toList arguments ++ rest

namespace Rules

/-- The placeholder and the lists hold no at sign, and the placeholder closes nothing. -/
structure IsInert (rules : Rules) : Prop where
  closes : ')' ∉ rules.placeholder
  placeholder : '@' ∉ rules.placeholder
  lists : ∀ entry ∈ rules.table.entries, '@' ∉ entry.2

theorem initial_isInert (mode : Mode) : (Rules.initial mode).IsInert where
  closes := by cases mode <;> decide
  placeholder := by cases mode <;> decide
  lists := (by decide : ∀ entry ∈ PlatformTable.system.entries, '@' ∉ entry.2)

variable {rules : Rules} {line platforms : Text} {occurrence : Occurrence}

/-- A line that is its own renewal has its annotation as the rules write it. -/
theorem exists_write_of_renew (found : rules.findAnnotation? line = some occurrence)
    (knows : rules.Knows line) (same : rules.renew line = line) :
    ∃ platforms, rules.table.platforms? occurrence.annotation.token = some platforms ∧
      rules.write occurrence.annotation.dialect occurrence.annotation.token platforms =
        occurrence.written := by
  obtain ⟨platforms, known⟩ := knows occurrence found
  refine ⟨platforms, known, ?_⟩
  rw [renew_of_found found known, (findAnnotation?_line found).1, rewritten,
    Occurrence.replaceBy, Occurrence.line] at same
  exact List.append_cancel_left (List.append_cancel_right same)

/-- In a line that is its own renewal, no at sign stands among the arguments of a new
annotation. -/
theorem at_notMem_arguments (standard : rules.IsStandard) (inert : rules.IsInert)
    (found : Dialect.new.find? rules.keyword rules.table.package line = some occurrence)
    (knows : rules.Knows line) (same : rules.renew line = line) {form : NewForm}
    (formed : form.IsWellFormed)
    (meaning : occurrence.annotation = form.annotation rules.table.package)
    (written : occurrence.written = form.write rules.keyword rules.table.package) :
    '@' ∉ form.arguments := by
  obtain ⟨platforms, known, shape⟩ :=
    exists_write_of_renew (findAnnotation?_of_new found) knows same
  have member := PlatformTable.platforms?_eq_some_iff.1 known
  obtain ⟨newFormed, -⟩ := rules.newForm_isWellFormed formed.version_ne_nil
    formed.version_chars (standard.plainLists _ member) inert.closes
  rw [meaning] at shape
  have parts : (rules.newForm form.version platforms).writeParts ++ [] = form.writeParts ++ [] := by
    have whole : rules.write .new (rules.table.package ++ ' ' :: form.version) platforms =
      form.write rules.keyword rules.table.package := shape.trans written
    rw [write_new, NewForm.write, NewForm.write] at whole
    rw [List.append_cancel_left whole]
  rw [← NewForm.arguments_unique newFormed.star_notMem
    (forall_isArgumentChar_iff.1 newFormed.arguments_chars) formed.star_notMem
    (forall_isArgumentChar_iff.1 formed.arguments_chars) parts]
  have listFree : '@' ∉ platforms := inert.lists _ member
  unfold newForm
  cases rules.mode with
  | attributes => simp [listFree]
  | comments => simp [inert.placeholder]

/-- In a line that is its own renewal, no at sign stands in the clause inside the comment
of an old annotation. -/
theorem at_notMem_inside (standard : rules.IsStandard) (inert : rules.IsInert)
    (found : rules.findAnnotation? line = some occurrence)
    (knows : rules.Knows line) (same : rules.renew line = line) {form : OldForm}
    (formed : form.IsWellFormed)
    (meaning : occurrence.annotation = form.annotation rules.keyword rules.table.package)
    (written : occurrence.written = form.write rules.keyword rules.table.package) :
    ∀ arguments ∈ form.inside?, '@' ∉ arguments := by
  obtain ⟨platforms, known, shape⟩ := exists_write_of_renew found knows same
  have member := PlatformTable.platforms?_eq_some_iff.1 known
  have oldFormed := rules.oldForm_isWellFormed formed.version_ne_nil formed.version_chars
    (standard.plainLists _ member)
  rw [meaning] at shape
  have parts : (rules.oldForm form.version platforms).writeParts rules.keyword =
      form.writeParts rules.keyword := by
    have whole : rules.write .old (rules.table.package ++ ' ' :: form.version) platforms =
      form.write rules.keyword rules.table.package := shape.trans written
    rw [write_old, OldForm.write, OldForm.write] at whole
    exact List.append_cancel_left whole
  rw [← OldForm.inside?_unique oldFormed formed parts]
  have listFree : '@' ∉ platforms := inert.lists _ member
  unfold oldForm
  cases rules.mode with
  | attributes => simp
  | comments => simp [listFree]

namespace IsOldOccurrence

variable {version : Text}

/-- A new annotation that came into being takes an at sign among its arguments. -/
theorem at_mem_arguments (isOld : rules.IsOldOccurrence occurrence version platforms)
    (standard : rules.IsStandard) (versionFree : ')' ∉ version) {again : Occurrence}
    (found : Dialect.new.find? rules.keyword rules.table.package
      (rules.rewritten occurrence platforms) = some again)
    {form : NewForm} (formed : form.IsWellFormed)
    (written : again.written = form.write rules.keyword rules.table.package) :
    '@' ∈ form.arguments := by
  have cut := (findAnnotation?_line (findAnnotation?_of_new found)).1
  rw [isOld.rewritten_eq standard, Occurrence.line, written, NewForm.write,
    standard.keyword_eq, standard.package_eq, opening_new] at cut
  have place : newOpening ++ (form.writeParts ++ again.after) <:+ occurrence.before ++
      (oldOpening ++ (rules.oldForm version platforms).writeParts "@available".toList ++
        occurrence.after) := by
    rw [cut]
    exact ⟨again.before, by simp⟩
  rcases isOld.new_cases standard.keyword_eq formed place with
    ⟨arguments, later, -, inside, shape⟩ | ⟨-, -, inside⟩
  · obtain ⟨run, runFree, atMem, runShape⟩ := isOld.exists_run versionFree occurrence.after
    have free := (formed.cutArguments inside).2
    -- Both reach to the first closing parenthesis.
    have both : (later ++ ['*']) ++ ')' :: again.after =
        (run ++ ['*']) ++ ')' :: (rules.oldEnding ++ occurrence.after) := by
      simpa using shape.symm.trans runShape
    obtain ⟨same, -⟩ := Text.cut_unique (by simp [free]) (by simp [runFree]) both
    rw [inside, List.append_cancel_right same]
    exact List.mem_append_right _ atMem
  · simp [inside]

/-- An old annotation that came into being takes an at sign into its clause. -/
theorem at_mem_inside (isOld : rules.IsOldOccurrence occurrence version platforms)
    (standard : rules.IsStandard) (versionFree : ')' ∉ version) {again : Occurrence}
    {back : Text} (nonempty : back ≠ []) (before : occurrence.before = again.before ++ back)
    {form : OldForm} (formed : form.IsWellFormed)
    (written : again.written = form.write rules.keyword rules.table.package)
    (cut : rules.rewritten occurrence platforms = again.line) :
    ∃ arguments ∈ form.inside?, '@' ∈ arguments := by
  rw [isOld.rewritten_eq standard, Occurrence.line, before, written, OldForm.write,
    standard.keyword_eq, standard.package_eq, opening_old] at cut
  have shape : back ++ (oldOpening ++ (rules.oldForm version platforms).writeParts
      "@available".toList ++ occurrence.after) =
        oldOpening ++ (form.writeParts "@available".toList ++ again.after) :=
    (List.append_right_inj again.before).1 (by simpa using cut)
  obtain ⟨arguments, later, behind, -, inside, closes⟩ :=
    isOld.old_cases formed ⟨again.before, before.symm⟩ nonempty shape
  obtain ⟨run, runFree, atMem, runShape⟩ := isOld.exists_run versionFree occurrence.after
  have both : later ++ ')' :: '*' :: '/' :: behind =
      (run ++ ['*']) ++ ')' :: (rules.oldEnding ++ occurrence.after) := by
    simpa using closes.symm.trans runShape
  obtain ⟨rfl, -⟩ := Text.cut_unique (formed.cutInside inside).2 (by simp [runFree]) both
  exact ⟨_, inside, by simp [atMem]⟩

/-- The line that was written is its own renewal exactly if the annotation is settled. -/
theorem renew_iff (isOld : rules.IsOldOccurrence occurrence version platforms)
    (standard : rules.IsStandard) (inert : rules.IsInert) (plain : ':' ∉ version ∧ ')' ∉ version)
    (known : rules.table.platforms? occurrence.annotation.token = some platforms) :
    rules.Knows (rules.rewritten occurrence platforms) ∧
        rules.renew (rules.rewritten occurrence platforms) = rules.rewritten occurrence platforms ↔
      occurrence.IsSettled rules.mode := by
  constructor
  · rintro ⟨knows, same⟩
    have noNew (again : Occurrence) : Dialect.new.find? rules.keyword rules.table.package
        (rules.rewritten occurrence platforms) ≠ some again := by
      intro found
      obtain ⟨form, formed, meaning, written, -⟩ := Dialect.find?_new_sound found
      exact at_notMem_arguments standard inert found knows same formed meaning written
        (isOld.at_mem_arguments standard plain.2 found formed written)
    have notNew : ¬ CompletesNew rules.mode occurrence.before := by
      intro completes
      obtain ⟨again, found⟩ := isOld.exists_new_of_completes standard plain completes
      exact noNew again found
    have notOld : ¬ CompletesOld rules.mode occurrence.before occurrence.after := by
      intro completes
      obtain ⟨again, back, found, nonempty, before⟩ :=
        isOld.exists_old_of_completes standard plain completes
      obtain ⟨form, formed, meaning, written, cut, -⟩ := Dialect.find?_old_sound found
      obtain ⟨arguments, inside, atMem⟩ :=
        isOld.at_mem_inside standard plain.2 nonempty before formed written cut
      have counts := findAnnotation?_eq_some_iff.2
        (.inr ⟨Option.eq_none_iff_forall_ne_some.2 noNew, found⟩)
      exact at_notMem_inside standard inert counts knows same formed meaning written arguments
        inside atMem
    refine ⟨notNew, notOld, ?_⟩
    obtain ⟨again, found, dialect, token, before, left⟩ := isOld.exists_again standard notNew
      fun opened closes => notOld ⟨opened, (isOld.closesComment_iff plain.2 _).1 closes⟩
    rw [renew_of_found found (token ▸ known), rewritten, rewritten, dialect, isOld.dialect_eq,
      token, Occurrence.replaceBy, Occurrence.replaceBy, before, left] at same
    rw [← standard.keyword_eq]
    exact unclaimed_eq_self_iff.1 (List.append_cancel_left same)
  · rintro ⟨notNew, notOld, noClause⟩
    obtain ⟨again, found, dialect, token, before, left⟩ := isOld.exists_again standard notNew
      fun opened closes => notOld ⟨opened, (isOld.closesComment_iff plain.2 _).1 closes⟩
    rw [← standard.keyword_eq] at noClause
    refine ⟨knows_of_found found (token ▸ known), ?_⟩
    rw [renew_of_found found (token ▸ known), rewritten, rewritten, dialect, isOld.dialect_eq,
      token, Occurrence.replaceBy, Occurrence.replaceBy, before, left,
      unclaimed_eq_self_iff.2 noClause]

end IsOldOccurrence

/-- A line without an annotation of the old dialect is renewed once and for all. -/
theorem renew_renew_of_new (standard : rules.IsStandard) (inert : rules.IsInert)
    (found : Dialect.new.find? rules.keyword rules.table.package line = some occurrence)
    (knows : rules.Knows line) :
    rules.Knows (rules.renew line) ∧ rules.renew (rules.renew line) = rules.renew line := by
  have counts := findAnnotation?_of_new found
  obtain ⟨platforms, known⟩ := knows occurrence counts
  obtain ⟨again, foundAgain, renewed⟩ := exists_renewed_new standard inert.closes found known
  have knownAgain : rules.table.platforms? again.annotation.token = some platforms :=
    renewed.token_eq ▸ known
  have countsAgain := findAnnotation?_of_new foundAgain
  rw [renew_of_found counts known]
  refine ⟨knows_of_found countsAgain knownAgain, ?_⟩
  rw [renew_of_found countsAgain knownAgain, rewritten, rewritten, renewed.dialect_eq,
    renewed.token_eq, renewed.replaceBy_eq]

/-- A line is renewed once and for all exactly if an annotation of the old dialect in it is
settled. -/
theorem renew_renew_iff {mode : Mode} (knows : (Rules.initial mode).Knows line) :
    (Rules.initial mode).Knows ((Rules.initial mode).renew line) ∧
        (Rules.initial mode).renew ((Rules.initial mode).renew line) =
          (Rules.initial mode).renew line ↔
      ∀ occurrence, (Rules.initial mode).findAnnotation? line = some occurrence →
        occurrence.annotation.dialect = .old → occurrence.IsSettled mode := by
  have standard := Rules.initial_isStandard mode
  cases found : (Rules.initial mode).findAnnotation? line with
  | none =>
      have same : (Rules.initial mode).renew line = line := by simp [renew, found]
      simp [same, knows]
  | some occurrence =>
      simp only [Option.some.injEq, forall_eq']
      obtain ⟨platforms, known⟩ := knows occurrence found
      rcases findAnnotation?_dialect found with ⟨new, foundNew⟩ | ⟨old, -⟩
      · simp only [new, reduceCtorEq, false_implies, iff_true]
        exact renew_renew_of_new standard (initial_isInert mode) foundNew knows
      · obtain ⟨version, isOld, -⟩ := exists_isOldOccurrence standard found old known
        have plain := isOld.version_plain PlatformTable.system_hasPlainTokens known
        rw [renew_of_found found known]
        exact (isOld.renew_iff standard (initial_isInert mode) plain known).trans
          ⟨fun settled _ => settled, fun settled => settled old⟩

/-- **When a second pass changes nothing.** Updating an updated text in the same mode
succeeds with the same text and reports no changes exactly if every annotation of the old
dialect that counts in a line of the first text is settled. -/
theorem updateText_content_iff (mode : Mode) {path : Path} {text : Text} {update : Update}
    (updated : (Rules.initial mode).updateText path text = .ok update) :
    (∃ again, (Rules.initial mode).updateText path update.content = .ok again ∧
        again.content = update.content ∧ again.changedLines = []) ↔
      ∀ line ∈ Line.split text, ∀ occurrence,
        (Rules.initial mode).findAnnotation? line.body = some occurrence →
          occurrence.annotation.dialect = .old → occurrence.IsSettled mode := by
  rw [updateText_content_iff_renew (initial_isLineFree mode) updated]
  have known := exists_updateLines_iff.1 ⟨update, updated⟩
  constructor
  · intro settled line member
    exact (renew_renew_iff (known line member)).1 (settled line member)
  · intro settled line member
    exact (renew_renew_iff (known line member)).2 (settled line member)

/-- Between harmless texts an annotation is settled after one pass. -/
theorem updateText_content_harmless :
    let rules := Rules.initial .comments
    let text := "x/*System 0.0.2*/@available(macOS 10, *)y".toList
    let once := ("x/*System 0.0.2, @available(macOS 12.0, iOS 15.0, watchOS 8.0, tvOS 15.0, " ++
      "*)*/y").toList
    rules.updateText (.ofString "A.swift") text = .ok ⟨once, 1, [1]⟩ ∧
      ∃ again, rules.updateText (.ofString "A.swift") once = .ok again ∧
        again.content = once ∧ again.changedLines = [] := by
  intro rules text once
  have updated : rules.updateText (.ofString "A.swift") text = .ok ⟨once, 1, [1]⟩ := by rfl
  refine ⟨updated, (updateText_content_iff .comments updated).2 ?_⟩
  intro line member occurrence found _
  obtain rfl : line = ⟨text, .none⟩ := List.mem_singleton.1 member
  have here : rules.findAnnotation? text = some
      ⟨⟨⟨.old, "System 0.0.2".toList, some "@available(macOS 10, *)".toList⟩,
        "/*System 0.0.2*/@available(macOS 10, *)".toList, "y".toList⟩, "x".toList⟩ := by decide
  obtain rfl := Option.some.inj (here.symm.trans found)
  refine ⟨not_completesNew (by decide), not_completesOld (by decide), ?_⟩
  intro _ arguments rest _ same
  cases same

/-- **A second pass can change a text.** In comment mode the second pass takes a clause that
stands behind the one that the first pass wrote. -/
theorem not_forall_updateText_content :
    ¬ ∀ (mode : Mode) (path : Path) (text : Text) (update : Update),
      (Rules.initial mode).updateText path text = .ok update →
        ∃ again, (Rules.initial mode).updateText path update.content = .ok again ∧
          again.content = update.content ∧ again.changedLines = [] := by
  intro always
  let text := "/*System 0.0.2*/@available(macOS 12.0, *)@available(swift 5.5)".toList
  let once := ("/*System 0.0.2, @available(macOS 12.0, iOS 15.0, watchOS 8.0, tvOS 15.0, *)*/" ++
    "@available(swift 5.5)").toList
  have updated : (Rules.initial .comments).updateText (.ofString "A.swift") text =
      .ok ⟨once, 1, [1]⟩ := by rfl
  obtain ⟨again, passed, -, unchanged⟩ := always .comments (.ofString "A.swift") text _ updated
  have changed : (((Rules.initial .comments).updateText (.ofString "A.swift") once).toOption.map
      (·.changedLines)) = some [1] := by decide
  rw [passed] at changed
  simp [Except.toOption, unchanged] at changed

end Rules

end AvailabilityAnnotations

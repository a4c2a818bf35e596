/-
# Reading collections

The loops that read arrays and objects, compared with the grammar. Given the text of a
collection, a loop hands the text of each part in turn to the reader of the parts and ends
behind the closing bracket. For items the reader must succeed on each of them
(`readItems_append`). Members change a state, and a member may be refused: `Run` says how the
state goes from member to member, and `readMembers_run` that the loop goes the same way.
-/

import AvailabilityAnnotations.Json.Collection
import AvailabilityAnnotations.Proofs.Json.Scalar

namespace AvailabilityAnnotations

namespace Json

variable {text rest before blank : Text} {char closing : Char} {rounds : Nat}

/-- Blanks end at a character that is none. -/
theorem skipBlank_append_cons (before_blank : IsBlankRun before) (notBlank : char ∉ blanks)
    (rest : Text) : skipBlank (before ++ char :: rest) = char :: rest := by
  rw [skipBlank_append before_blank, skipBlank_cons notBlank]

/-- What stands behind a part of a collection: the further parts and the closing bracket. -/
def remainder (parts : List Text) (blank : Text) (closing : Char) (rest : Text) : Text :=
  parts.flatMap (',' :: ·) ++ (blank ++ closing :: rest)

theorem remainder_nil : remainder [] blank closing rest = blank ++ closing :: rest :=
  rfl

theorem remainder_cons (part : Text) (parts : List Text) :
    remainder (part :: parts) blank closing rest =
      ',' :: (part ++ remainder parts blank closing rest) := by
  simp [remainder]

/-- What stands behind the opening bracket of a collection. -/
def contents (parts : List Text) (blank : Text) (closing : Char) (rest : Text) : Text :=
  separated parts ++ (blank ++ closing :: rest)

theorem collection_append (opening : Char) (parts : List Text) (rest : Text) :
    collection opening parts blank closing ++ rest =
      opening :: contents parts blank closing rest := by
  simp [collection, contents]

theorem contents_nil : contents [] blank closing rest = blank ++ closing :: rest :=
  rfl

theorem contents_cons (part : Text) (parts : List Text) :
    contents (part :: parts) blank closing rest = part ++ remainder parts blank closing rest := by
  simp [contents, separated, remainder]

/-- A part ends where the comma or the closing bracket behind it stands. -/
theorem isStop_remainder (blank_blank : IsBlankRun blank)
    (isClosing : closing = ']' ∨ closing = '\x7d') (parts : List Text) (rest : Text) :
    IsStop (remainder parts blank closing rest) := by
  cases parts with
  | nil =>
      have atBracket : IsStop (closing :: rest) := by
        rintro _ ⟨⟩
        exact .inr (.inr isClosing)
      rw [remainder_nil]
      exact isStop_append blank_blank atBracket
  | cons part parts =>
      rintro _ ⟨⟩
      exact .inr (.inl rfl)

/-- So does a part with the blanks behind it. -/
theorem isStop_after (padded : Padded) (blank_blank : IsBlankRun blank)
    (isClosing : closing = ']' ∨ closing = '\x7d') (parts : List Text) (rest : Text) :
    IsStop (padded.after ++ remainder parts blank closing rest) :=
  isStop_append padded.after_blank (isStop_remainder blank_blank isClosing parts rest)

/-- Every further part has a comma, so there are fewer of them than characters. -/
theorem length_lt_remainder {Part : Type} (parts : List Part) (text : Part → Text) (blank : Text)
    (closing : Char) (rest : Text) :
    parts.length < (remainder (parts.map text) blank closing rest).length := by
  induction parts with
  | nil =>
      rw [List.map_nil, remainder_nil, List.length_nil, List.length_append, List.length_cons]
      omega
  | cons part parts ih =>
      rw [List.map_cons, remainder_cons, List.length_cons, List.length_cons, List.length_append]
      omega

/-- The first character of a value is neither a blank nor a closing bracket. -/
def StartsValue (body : Text) : Prop :=
  ∃ char rest, body = char :: rest ∧ char ∉ blanks ∧ char ≠ ']'

theorem skipBlank_front {padded : Padded} (starts : StartsValue padded.body) (rest : Text) :
    ∃ char more, skipBlank (padded.front ++ rest) = char :: more ∧ char ≠ ']' := by
  obtain ⟨char, body, body_eq, notBlank, notClosing⟩ := starts
  refine ⟨char, body ++ rest, ?_, notClosing⟩
  rw [Padded.front, body_eq, List.append_assoc, List.cons_append,
    skipBlank_append_cons padded.before_blank notBlank]

section Items

variable {Part Item : Type} {item : Part → Padded} {value : Part → Item} {parts : List Part}
  {readItem : Text → Except Problem (Item × Text)}

/-- The loop over the further items reads each of them. -/
theorem readMoreItems_append
    (reads : ∀ part ∈ parts, ∀ rest, IsStop rest →
      readItem ((item part).front ++ rest) = .ok (value part, rest))
    (blank_blank : IsBlankRun blank) (before_blank : IsBlankRun before)
    (enough : parts.length < rounds) (rest : Text) :
    readMoreItems readItem rounds
        (before ++ remainder (parts.map fun part => (item part).text) blank ']' rest) =
      .ok (parts.map value, rest) := by
  induction parts generalizing before rounds with
  | nil =>
      obtain ⟨rounds, rfl⟩ := Nat.exists_eq_add_one_of_ne_zero (Nat.ne_zero_of_lt enough)
      rw [readMoreItems, List.map_nil, remainder_nil, skipBlank_append before_blank,
        skipBlank_append_cons blank_blank (by decide)]
      rfl
  | cons part parts ih =>
      obtain ⟨rounds, rfl⟩ := Nat.exists_eq_add_one_of_ne_zero (Nat.ne_zero_of_lt enough)
      have first := reads part List.mem_cons_self _ (isStop_after (item part) blank_blank (.inl rfl)
        (parts.map fun part => (item part).text) rest)
      have later := ih (fun part member => reads part (List.mem_cons_of_mem _ member))
        (item part).after_blank (Nat.lt_of_succ_lt_succ enough)
      rw [readMoreItems, List.map_cons, remainder_cons,
        skipBlank_append_cons before_blank (by decide), Padded.text, List.append_assoc]
      simp only [first, later, bind, Except.bind]
      rfl

/-- The items of an array are read, each with its value, up to the closing bracket. -/
theorem readItems_append
    (reads : ∀ part ∈ parts, ∀ rest, IsStop rest →
      readItem ((item part).front ++ rest) = .ok (value part, rest))
    (starts : ∀ part ∈ parts, StartsValue (item part).body) (blank_blank : IsBlankRun blank)
    (rest : Text) :
    readItems readItem (contents (parts.map fun part => (item part).text) blank ']' rest) =
      .ok (parts.map value, rest) := by
  cases parts with
  | nil =>
      rw [List.map_nil, contents_nil, readItems, skipBlank_append_cons blank_blank (by decide)]
      rfl
  | cons part parts =>
      rw [List.map_cons, contents_cons, Padded.text, List.append_assoc]
      have first := reads part List.mem_cons_self _ (isStop_after (item part) blank_blank (.inl rfl)
        (parts.map fun part => (item part).text) rest)
      have enough : parts.length < ((item part).front ++ ((item part).after ++
          remainder (parts.map fun part => (item part).text) blank ']' rest)).length + 1 := by
        have bound := length_lt_remainder parts (fun part => (item part).text) blank ']' rest
        simp only [List.length_append]
        omega
      have later := readMoreItems_append
        (fun part member => reads part (List.mem_cons_of_mem _ member))
        blank_blank (item part).after_blank enough rest
      obtain ⟨char, more, skipped, notClosing⟩ := skipBlank_front (starts part List.mem_cons_self)
        ((item part).after ++ remainder (parts.map fun part => (item part).text) blank ']' rest)
      rw [readItems, skipped]
      simp only [if_neg notClosing, first, later, bind, Except.bind]
      rfl

/-- A reader that goes as far as another one on each item goes as far on the items behind the
first. -/
theorem readMoreItems_agree {Other : Type} {other : Text → Except Problem (Other × Text)}
    (agree : ∀ text item left, readItem text = .ok (item, left) →
      ∃ item, other text = .ok (item, left))
    {items : List Item} {left : Text}
    (read : readMoreItems readItem rounds text = .ok (items, left)) :
    ∃ items, readMoreItems other rounds text = .ok (items, left) := by
  induction rounds generalizing text items with
  | zero => cases read
  | succ rounds ih =>
      rw [readMoreItems] at read ⊢
      cases skipped : skipBlank text with
      | nil => rw [skipped] at read; cases read
      | cons char rest =>
          rw [skipped] at read
          by_cases closing : char = ']'
          · simp only [closing, if_true, Except.ok.injEq, Prod.mk.injEq] at read ⊢
            exact ⟨[], rfl, read.2⟩
          · by_cases comma : char = ','
            · simp only [if_neg closing, if_pos comma] at read ⊢
              obtain ⟨⟨item, behind⟩, first, later⟩ := bind_eq_ok_iff.1 read
              obtain ⟨⟨others, last⟩, further, same⟩ := bind_eq_ok_iff.1 later
              cases same
              obtain ⟨item, first⟩ := agree _ _ _ first
              obtain ⟨others, further⟩ := ih further
              exact ⟨item :: others, by simp only [first, further, bind, Except.bind]; rfl⟩
            · simp only [if_neg closing, if_neg comma] at read
              cases read

/-- A reader that goes as far as another one on each item goes as far on an array. -/
theorem readItems_agree {Other : Type} {other : Text → Except Problem (Other × Text)}
    (agree : ∀ text item left, readItem text = .ok (item, left) →
      ∃ item, other text = .ok (item, left))
    {items : List Item} {left : Text} (read : readItems readItem text = .ok (items, left)) :
    ∃ items, readItems other text = .ok (items, left) := by
  rw [readItems] at read ⊢
  cases skipped : skipBlank text with
  | nil => rw [skipped] at read; cases read
  | cons char rest =>
      rw [skipped] at read
      by_cases closing : char = ']'
      · simp only [closing, if_true, Except.ok.injEq, Prod.mk.injEq] at read ⊢
        exact ⟨[], rfl, read.2⟩
      · simp only [if_neg closing] at read ⊢
        obtain ⟨⟨item, behind⟩, first, later⟩ := bind_eq_ok_iff.1 read
        obtain ⟨⟨others, last⟩, further, same⟩ := bind_eq_ok_iff.1 later
        cases same
        obtain ⟨item, first⟩ := agree _ _ _ first
        obtain ⟨others, further⟩ := readMoreItems_agree agree further
        exact ⟨item :: others, by simp only [first, further, bind, Except.bind]; rfl⟩

end Items

section Members

variable {Part State : Type} {member : Part → Member} {parts : List Part} {state : State}
  {readMember : State → Text → Except Problem (State × Text)}
  {Step : State → Part → Except Problem State → Prop}

/-- How a state goes from part to part, up to the end or to the first part that is refused. -/
inductive Run (Step : State → Part → Except Problem State → Prop) :
    State → List Part → Except Problem State → Prop
  | done {state : State} : Run Step state [] (.ok state)
  | refused {state : State} {part : Part} {parts : List Part} {problem : Problem} :
      Step state part (.error problem) → Run Step state (part :: parts) (.error problem)
  | further {state next : State} {part : Part} {parts : List Part}
      {outcome : Except Problem State} : Step state part (.ok next) →
      Run Step next parts outcome → Run Step state (part :: parts) outcome

/-- A run whose steps are computed is computed. -/
theorem Run.eq_foldlM {step : State → Part → Except Problem State}
    {outcome : Except Problem State}
    (run : Run (fun state part outcome => outcome = step state part) state parts outcome) :
    outcome = parts.foldlM step state := by
  induction run with
  | done => rfl
  | refused first => rw [List.foldlM_cons, ← first]; rfl
  | further first _ ih => rw [List.foldlM_cons, ← first, ih]; rfl

/-- A reader of members takes one step for each of them, whatever the state is, and if it does
not refuse the member, it reads the whole of it. -/
def Follows (readMember : State → Text → Except Problem (State × Text))
    (Step : State → Part → Except Problem State → Prop) (member : Part → Member)
    (parts : List Part) : Prop :=
  ∀ part ∈ parts, ∀ state rest, IsStop rest → ∃ outcome, Step state part outcome ∧
    readMember state ((member part).inner ++ rest) = outcome.map (·, rest)

/-- The loop over the further members runs as its steps do. -/
theorem readMoreMembers_run (follows : Follows readMember Step member parts)
    (blank_blank : IsBlankRun blank) (before_blank : IsBlankRun before)
    (enough : parts.length < rounds) (state : State) (rest : Text) :
    ∃ outcome, Run Step state parts outcome ∧
      readMoreMembers readMember rounds state
          (before ++ remainder (parts.map fun part => (member part).text) blank '\x7d' rest) =
        outcome.map (·, rest) := by
  induction parts generalizing before rounds state with
  | nil =>
      obtain ⟨rounds, rfl⟩ := Nat.exists_eq_add_one_of_ne_zero (Nat.ne_zero_of_lt enough)
      refine ⟨_, .done, ?_⟩
      rw [readMoreMembers, List.map_nil, remainder_nil, skipBlank_append before_blank,
        skipBlank_append_cons blank_blank (by decide)]
      rfl
  | cons part parts ih =>
      obtain ⟨rounds, rfl⟩ := Nat.exists_eq_add_one_of_ne_zero (Nat.ne_zero_of_lt enough)
      obtain ⟨first, step, read⟩ := follows part List.mem_cons_self state _
        (isStop_after (member part).value blank_blank (.inr rfl)
          (parts.map fun part => (member part).text) rest)
      rw [readMoreMembers, List.map_cons, remainder_cons,
        skipBlank_append_cons before_blank (by decide), Member.text, List.append_assoc,
        List.cons_append, List.append_assoc]
      simp only [skipBlank_append_cons (member part).before_blank (show '"' ∉ blanks by decide),
        read]
      cases first with
      | error problem => exact ⟨_, .refused step, rfl⟩
      | ok next =>
          obtain ⟨outcome, run, later⟩ := ih
            (fun part member => follows part (List.mem_cons_of_mem _ member))
            (member part).value.after_blank (Nat.lt_of_succ_lt_succ enough) next
          exact ⟨outcome, .further step run, later⟩

/-- The loop over the members of an object runs as its steps do. -/
theorem readMembers_run (follows : Follows readMember Step member parts)
    (blank_blank : IsBlankRun blank) (state : State) (rest : Text) :
    ∃ outcome, Run Step state parts outcome ∧
      readMembers readMember state
          (contents (parts.map fun part => (member part).text) blank '\x7d' rest) =
        outcome.map (·, rest) := by
  cases parts with
  | nil =>
      refine ⟨_, .done, ?_⟩
      rw [List.map_nil, contents_nil, readMembers, skipBlank_append_cons blank_blank (by decide)]
      rfl
  | cons part parts =>
      rw [List.map_cons, contents_cons, Member.text, List.append_assoc, List.cons_append,
        List.append_assoc]
      obtain ⟨first, step, read⟩ := follows part List.mem_cons_self state _
        (isStop_after (member part).value blank_blank (.inr rfl)
          (parts.map fun part => (member part).text) rest)
      have enough (front inner : Text) : parts.length < (front ++ '"' :: (inner ++
          ((member part).value.after ++ remainder (parts.map fun part => (member part).text)
            blank '\x7d' rest))).length + 1 := by
        have bound := length_lt_remainder parts (fun part => (member part).text) blank '\x7d' rest
        simp only [List.length_append, List.length_cons]
        omega
      rw [readMembers, skipBlank_append_cons (member part).before_blank (by decide)]
      simp only [read]
      cases first with
      | error problem => exact ⟨_, .refused step, rfl⟩
      | ok next =>
          obtain ⟨outcome, run, later⟩ := readMoreMembers_run
            (fun part member => follows part (List.mem_cons_of_mem _ member)) blank_blank
            (member part).value.after_blank (enough _ _) next rest
          exact ⟨outcome, .further step run, later⟩

end Members

end Json

end AvailabilityAnnotations

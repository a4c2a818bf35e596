/-
# Reading configurations

From the text of an object that gives each of its fields once, in any order and with any other
members between them, exactly what it gives is read, and from an array the same as from an
object that gives the first fields (`ofJson_isObject`, `ofJson_isArray`). An object that names a
field twice is refused, even if other values in it are of the wrong shape
(`exists_ofJson_error`).
-/

import AvailabilityAnnotations.Proofs.Config.Member

namespace AvailabilityAnnotations

namespace Config

open Json (Problem Padded Member IsBlankRun IsBody IsValue Run Follows collection contents
  remainder skipBlank skipBlank_append_cons)

variable {text before blank front back : Text} {given : Given}

/-- The texts of objects that give these settings, each of them once. -/
def Given.IsObject (given : Given) (text : Text) : Prop :=
  ∃ (parts : List (Member × Option Setting)) (front blank back : Text),
    IsBlankRun front ∧ IsBlankRun blank ∧ IsBlankRun back ∧
    (∀ part ∈ parts, Gives part.1 part.2) ∧ given.ListedBy (parts.filterMap Prod.snd) ∧
    text = front ++ (collection '\x7b' (parts.map fun part => part.1.text) blank '\x7d' ++ back)

/-- The texts of arrays that give these settings, which are those of the first fields. -/
def Given.IsArray (given : Given) (text : Text) : Prop :=
  ∃ (items : List (Padded × Setting)) (front blank back : Text),
    IsBlankRun front ∧ IsBlankRun blank ∧ IsBlankRun back ∧
    (∀ item ∈ items, item.2.IsWritten item.1.body) ∧
    (items.map fun item => item.2.field) <+: Field.all ∧ given.ListedBy (items.map Prod.snd) ∧
    text = front ++ (collection '[' (items.map fun item => item.1.text) blank ']' ++ back)

/-- The texts of objects with two members that name the same field. -/
def RepeatsField (text : Text) : Prop :=
  ∃ (members : List Member) (front blank back : Text),
    IsBlankRun front ∧ IsBlankRun blank ∧ IsBlankRun back ∧
    (∀ member ∈ members, IsBody member.key ∧ IsValue member.value.body) ∧
    (∃ field first second, [first, second].Sublist members ∧ Names first field ∧
      Names second field) ∧
    text = front ++ (collection '\x7b' (members.map Member.text) blank '\x7d' ++ back)

theorem skipBlank_of_isBlankRun (back_blank : IsBlankRun back) : skipBlank back = [] := by
  have skipped := Json.skipBlank_append back_blank []
  rwa [List.append_nil] at skipped

/-- What the members of an object come to is what the whole text comes to. -/
theorem ofJson_object {parts : List Text} {outcome : Except Problem Given}
    (front_blank : IsBlankRun front) (back_blank : IsBlankRun back)
    (read : Json.readMembers readMember {} (contents parts blank '\x7d' back) =
      outcome.map (·, back)) :
    ofJson (front ++ (collection '\x7b' parts blank '\x7d' ++ back)) =
      outcome.map Given.complete := by
  rw [ofJson, Json.collection_append, skipBlank_append_cons front_blank (by decide)]
  simp only [if_true, read]
  cases outcome with
  | error problem => rfl
  | ok given =>
      simp only [Except.map, bind, Except.bind, skipBlank_of_isBlankRun back_blank, if_true]
      rfl

theorem ofJson_array {parts : List Text} (front_blank : IsBlankRun front)
    (back_blank : IsBlankRun back)
    (read : readFields true Field.all {} (contents parts blank ']' back) = .ok (given, back)) :
    ofJson (front ++ (collection '[' parts blank ']' ++ back)) = .ok given.complete := by
  rw [ofJson, Json.collection_append, skipBlank_append_cons front_blank (by decide)]
  simp only [show '[' ≠ '\x7b' by decide, if_false, if_true, read, bind, Except.bind,
    skipBlank_of_isBlankRun back_blank]
  rfl

/-- From an object exactly what it gives is read. -/
theorem ofJson_isObject (isObject : given.IsObject text) : ofJson text = .ok given.complete := by
  obtain ⟨parts, front, blank, back, front_blank, blank_blank, back_blank, gives, listed, rfl⟩ :=
    isObject
  have follows : Follows readMember (fun given part outcome => outcome = given.take part.2)
      Prod.fst parts :=
    fun part member given rest stop => ⟨_, rfl, readMember_gives (gives part member) stop⟩
  obtain ⟨outcome, run, read⟩ := Json.readMembers_run follows blank_blank {} back
  have fresh : ∀ setting ∈ parts.filterMap Prod.snd, ({} : Given).has setting.field = false := by
    intro setting _
    rw [Given.has_eq, Given.get?_empty]
    rfl
  have taken : outcome = .ok given := by
    rw [run.eq_foldlM, foldlM_take listed.1 fresh, Given.foldl_put listed]
  rw [ofJson_object front_blank back_blank read, taken]
  rfl

/-- An object that names a field twice is refused. -/
theorem exists_ofJson_error (repeats : RepeatsField text) :
    ∃ problem, ofJson text = .error problem := by
  obtain ⟨members, front, blank, back, front_blank, blank_blank, back_blank, sound,
    ⟨field, first, second, twice, namesFirst, namesSecond⟩, rfl⟩ := repeats
  have follows : Follows readMember Adds (fun member => member) members :=
    fun member inside given rest stop =>
      exists_readMember (sound member inside).1 (sound member inside).2 given stop
  obtain ⟨outcome, run, read⟩ := Json.readMembers_run follows blank_blank {} back
  rw [ofJson_object front_blank back_blank read]
  cases outcome with
  | error problem => exact ⟨problem, rfl⟩
  | ok last =>
      have apart := List.pairwise_iff_forall_sublist.1 (pairwise_of_run run) twice
      exact absurd namesSecond (apart field namesFirst)

section Arrays

variable {items : List (Padded × Setting)} {fields : List Field} {rest : Text}

/-- What stands for a setting is a value. -/
theorem Setting.IsWritten.isValue {setting : Setting} (isWritten : setting.IsWritten text) :
    Json.IsValue text := by
  cases setting with
  | root | extension | keyword | placeholder | mode => exact IsString.isValue isWritten
  | sourceDirectories =>
      obtain ⟨items, blank, blank_blank, areStrings, -, rfl⟩ := isWritten
      rw [show items.map (fun item => item.1.text) = (items.map Prod.fst).map Padded.text by simp]
      exact .array blank_blank (List.forall_mem_map.2 fun item member =>
        (areStrings item member).isValue)
  | dryRun isDry =>
      obtain rfl := isWritten
      cases isDry <;> exact .word (by decide)

theorem readFields_closing {isFirst : Bool} (skipped : skipBlank text = ']' :: rest) :
    readFields isFirst fields given text = .ok (given, rest) := by
  rw [readFields.eq_def]
  simp only [skipped]
  rfl

theorem readFields_comma {field : Field} (skipped : skipBlank text = ',' :: rest) :
    readFields false (field :: fields) given text = (do
      let (given, rest) ← readField given rest field
      readFields false fields given rest) := by
  rw [readFields.eq_def]
  simp only [skipped]
  rfl

theorem readFields_first {field : Field} {char : Char} (skipped : skipBlank text = char :: rest)
    (notClosing : char ≠ ']') :
    readFields true (field :: fields) given text = (do
      let (given, rest) ← readField given text field
      readFields false fields given rest) := by
  rw [readFields.eq_def]
  simp only [skipped, if_neg notClosing, if_true]

/-- The loop over the further items puts each of them into its field. -/
theorem readFields_more (areWritten : ∀ item ∈ items, item.2.IsWritten item.1.body)
    (inOrder : (items.map fun item => item.2.field) <+: fields) (blank_blank : IsBlankRun blank)
    (before_blank : IsBlankRun before) (rest : Text) :
    readFields false fields given
        (before ++ remainder (items.map fun item => item.1.text) blank ']' rest) =
      .ok ((items.map Prod.snd).foldl Given.put given, rest) := by
  induction items generalizing before fields given with
  | nil =>
      refine readFields_closing ?_
      rw [List.map_nil, Json.remainder_nil, Json.skipBlank_append before_blank,
        skipBlank_append_cons blank_blank (by decide)]
  | cons item items ih =>
      rw [List.forall_mem_cons] at areWritten
      obtain ⟨others, rfl⟩ := inOrder
      have skipped : skipBlank (before ++
          remainder ((item :: items).map fun item => item.1.text) blank ']' rest) =
          ',' :: (item.1.before ++ (item.1.body ++ (item.1.after ++
            remainder (items.map fun item => item.1.text) blank ']' rest))) := by
        rw [List.map_cons, Json.remainder_cons, skipBlank_append_cons before_blank (by decide),
          Padded.text, Padded.front, List.append_assoc, List.append_assoc]
      rw [List.map_cons, List.cons_append, readFields_comma skipped,
        readField_append areWritten.1 item.1.before_blank]
      exact ih areWritten.2 (List.prefix_append _ others) item.1.after_blank

/-- The items of an array are put into the first fields in turn. -/
theorem readFields_append (areWritten : ∀ item ∈ items, item.2.IsWritten item.1.body)
    (inOrder : (items.map fun item => item.2.field) <+: fields) (blank_blank : IsBlankRun blank)
    (rest : Text) :
    readFields true fields given (contents (items.map fun item => item.1.text) blank ']' rest) =
      .ok ((items.map Prod.snd).foldl Given.put given, rest) := by
  cases items with
  | nil =>
      refine readFields_closing ?_
      rw [List.map_nil, Json.contents_nil, skipBlank_append_cons blank_blank (by decide)]
  | cons item items =>
      rw [List.forall_mem_cons] at areWritten
      obtain ⟨others, rfl⟩ := inOrder
      obtain ⟨char, more, skipped, notClosing⟩ := Json.skipBlank_front areWritten.1.isValue.starts
        (item.1.after ++ remainder (items.map fun item => item.1.text) blank ']' rest)
      rw [List.map_cons, List.map_cons, List.cons_append, Json.contents_cons, Padded.text,
        List.append_assoc, readFields_first skipped notClosing, Padded.front, List.append_assoc,
        readField_append areWritten.1 item.1.before_blank]
      exact readFields_more areWritten.2 (List.prefix_append _ others) blank_blank
        item.1.after_blank rest

/-- From an array exactly what it gives is read. -/
theorem ofJson_isArray (isArray : given.IsArray text) : ofJson text = .ok given.complete := by
  obtain ⟨items, front, blank, back, front_blank, blank_blank, back_blank, areWritten, inOrder,
    listed, rfl⟩ := isArray
  refine ofJson_array front_blank back_blank ?_
  rw [readFields_append areWritten inOrder blank_blank, Given.foldl_put listed]

end Arrays

end Config

end AvailabilityAnnotations

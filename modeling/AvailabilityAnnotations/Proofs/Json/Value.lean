/-
# Passing over values

Every value of the grammar is passed over up to its end, however deeply its collections are
nested (`skipNested_append`). This is an induction on the grammar: each level of brackets
takes one level of the depth, and the length of the text bounds the levels.
-/

import AvailabilityAnnotations.Proofs.Json.Collection

namespace AvailabilityAnnotations

namespace Json

variable {text rest before between body : Text} {char : Char} {depth : Nat}

theorem readColon_append (between_blank : IsBlankRun between) (rest : Text) :
    readColon (between ++ ':' :: rest) = .ok rest := by
  rw [readColon, skipBlank_append_cons between_blank (by decide)]
  rfl

/-- A number starts with a digit or a minus sign. -/
theorem IsNumber.starts (isNumber : IsNumber text) :
    ∃ char rest, text = char :: rest ∧ startsNumber char = true := by
  obtain ⟨sign, whole, fraction, exponent, rfl | rfl, isWhole, -, -, rfl⟩ := isNumber
  · obtain ⟨digit, more, rfl⟩ := List.exists_cons_of_ne_nil isWhole.1.1
    exact ⟨digit, _, rfl, by simp [startsNumber, isWhole.1.2 digit List.mem_cons_self]⟩
  · exact ⟨'-', _, rfl, rfl⟩

/-- What a number starts with tells it from all other values. -/
theorem ne_of_startsNumber (starts : startsNumber char = true) :
    char ∉ blanks ∧ char ≠ ']' ∧ char ≠ 'n' ∧ char ≠ 't' ∧ char ≠ 'f' ∧ char ≠ '"' ∧
      char ≠ '[' ∧ char ≠ '\x7b' := by
  refine ⟨fun member => ?_, ?_, ?_, ?_, ?_, ?_, ?_, ?_⟩
  · simp only [blanks, List.mem_cons, List.not_mem_nil, or_false] at member
    rcases member with rfl | rfl | rfl | rfl <;> exact absurd starts (by decide)
  all_goals
    rintro rfl
    exact absurd starts (by decide)

theorem IsValue.starts (isValue : IsValue text) : StartsValue text := by
  cases isValue with
  | word known =>
      simp only [words, List.mem_cons, List.not_mem_nil, or_false] at known
      rcases known with rfl | rfl | rfl <;> exact ⟨_, _, rfl, by decide, by decide⟩
  | number isNumber =>
      obtain ⟨char, rest, rfl, starts⟩ := isNumber.starts
      obtain ⟨notBlank, notClosing, -⟩ := ne_of_startsNumber starts
      exact ⟨char, rest, rfl, notBlank, notClosing⟩
  | string => exact ⟨'"', _, rfl, by decide, by decide⟩
  | array => exact ⟨'[', _, rfl, by decide, by decide⟩
  | object => exact ⟨'\x7b', _, rfl, by decide, by decide⟩

/-- A part is shorter than its collection. -/
theorem length_lt_collection {part : Text} {parts : List Text} (member : part ∈ parts)
    (opening : Char) (blank : Text) (closing : Char) :
    part.length < (collection opening parts blank closing).length := by
  have inner : part.length ≤ (separated parts).length := by
    cases parts with
    | nil => cases member
    | cons first parts =>
        rw [separated, List.length_append]
        rcases List.mem_cons.1 member with rfl | later
        · omega
        · obtain ⟨earlier, others, rfl⟩ := List.append_of_mem later
          simp only [List.flatMap_append, List.flatMap_cons, List.length_append, List.length_cons]
          omega
  rw [collection, List.length_cons, List.length_append]
  omega

theorem Padded.length_body_le (padded : Padded) : padded.body.length ≤ padded.text.length := by
  simp only [text, front, List.length_append]
  omega

theorem Member.length_value_le (member : Member) :
    member.value.body.length ≤ member.text.length := by
  simp only [text, inner, Padded.front, List.length_append, List.length_cons]
  omega

theorem foldlM_ok {Part : Type} (parts : List Part) :
    parts.foldlM (fun _ _ => (.ok () : Except Problem Unit)) () = .ok () := by
  induction parts with
  | nil => rfl
  | cons _ _ ih => exact ih

/-- Pass over a member, after the opening quote of its key. -/
def skipMember (depth : Nat) (text : Text) : Except Problem (Unit × Text) := do
  let rest ← readColon (← skipString text)
  return ((), ← skipNested depth rest)

theorem skipNested_array (before_blank : IsBlankRun before) :
    skipNested (depth + 1) (before ++ '[' :: rest) =
      (readItems (fun item => (skipNested depth item).map ((), ·)) rest).map Prod.snd := by
  rw [skipNested, skipBlank_append_cons before_blank (by decide)]
  rfl

theorem skipNested_object (before_blank : IsBlankRun before) :
    skipNested (depth + 1) (before ++ '\x7b' :: rest) =
      (readMembers (fun _ => skipMember depth) () rest).map Prod.snd := by
  rw [skipNested, skipBlank_append_cons before_blank (by decide)]
  rfl

theorem skipNested_string (before_blank : IsBlankRun before) :
    skipNested (depth + 1) (before ++ '"' :: rest) = skipString rest := by
  rw [skipNested, skipBlank_append_cons before_blank (by decide)]
  rfl

/-- The key of a member is passed over up to its closing quote. -/
theorem skipString_inner {member : Member} (isBody : IsBody member.key) (rest : Text) :
    skipString (member.inner ++ rest) =
      .ok (member.between ++ ':' :: (member.value.front ++ rest)) := by
  simpa [Member.inner] using
    skipString_body isBody (member.between ++ ':' :: (member.value.front ++ rest))

/-- A member is passed over if its value is. -/
theorem skipMember_append {member : Member} (isBody : IsBody member.key)
    (passed : skipNested depth (member.value.front ++ rest) = .ok rest) :
    skipMember depth (member.inner ++ rest) = .ok ((), rest) := by
  have colon := readColon_append member.between_blank (member.value.front ++ rest)
  simp only [skipMember, skipString_inner isBody, colon, passed, bind, Except.bind]
  rfl

/-- A value is passed over if its text is shorter than the depth. -/
theorem skipNested_append (isValue : IsValue text) (deep : text.length < depth)
    (before_blank : IsBlankRun before) (stop : IsStop rest) :
    skipNested depth (before ++ (text ++ rest)) = .ok rest := by
  induction isValue generalizing before rest depth with
  | word known =>
      obtain ⟨depth, rfl⟩ := Nat.exists_eq_add_one_of_ne_zero (Nat.ne_zero_of_lt deep)
      simp only [words, List.mem_cons, List.not_mem_nil, or_false] at known
      rcases known with rfl | rfl | rfl
      · show skipNested (depth + 1) (before ++ 'n' :: ("ull".toList ++ rest)) = _
        rw [skipNested, skipBlank_append_cons before_blank (by decide)]
        exact readWord_append _ rest
      · show skipNested (depth + 1) (before ++ 't' :: ("rue".toList ++ rest)) = _
        rw [skipNested, skipBlank_append_cons before_blank (by decide)]
        exact readWord_append _ rest
      · show skipNested (depth + 1) (before ++ 'f' :: ("alse".toList ++ rest)) = _
        rw [skipNested, skipBlank_append_cons before_blank (by decide)]
        exact readWord_append _ rest
  | number isNumber =>
      obtain ⟨depth, rfl⟩ := Nat.exists_eq_add_one_of_ne_zero (Nat.ne_zero_of_lt deep)
      obtain ⟨char, more, rfl, starts⟩ := isNumber.starts
      obtain ⟨notBlank, -, n, t, f, quote, bracket, brace⟩ := ne_of_startsNumber starts
      have skipped := skipNumber_append isNumber stop
      rw [List.cons_append] at skipped ⊢
      rw [skipNested, skipBlank_append_cons before_blank notBlank]
      simp only [n, t, f, quote, bracket, brace, starts, if_false, if_true, skipped]
  | string isBody =>
      obtain ⟨depth, rfl⟩ := Nat.exists_eq_add_one_of_ne_zero (Nat.ne_zero_of_lt deep)
      rw [quoted, List.cons_append, List.append_assoc, skipNested_string before_blank]
      exact skipString_body isBody rest
  | @array items blank blank_blank areValues ih =>
      obtain ⟨depth, rfl⟩ := Nat.exists_eq_add_one_of_ne_zero (Nat.ne_zero_of_lt deep)
      have reads : ∀ item ∈ items, ∀ rest, IsStop rest →
          (skipNested depth (item.front ++ rest)).map ((), ·) = .ok ((), rest) := by
        intro item member rest stop
        have shorter := length_lt_collection (List.mem_map_of_mem (f := Padded.text) member)
          '[' blank ']'
        have inside := item.length_body_le
        rw [Padded.front, List.append_assoc,
          ih item member (by omega) item.before_blank stop]
        rfl
      rw [collection_append, skipNested_array before_blank,
        readItems_append reads (fun item member => (areValues item member).starts) blank_blank]
      rfl
  | @object members blank blank_blank areBodies areValues ih =>
      obtain ⟨depth, rfl⟩ := Nat.exists_eq_add_one_of_ne_zero (Nat.ne_zero_of_lt deep)
      have follows : Follows (fun _ => skipMember depth) (fun _ _ outcome => outcome = .ok ())
          (fun member => member) members := by
        intro member inside _ rest stop
        have shorter := length_lt_collection (List.mem_map_of_mem (f := Member.text) inside)
          '\x7b' blank '\x7d'
        have value := member.length_value_le
        refine ⟨_, rfl, skipMember_append (areBodies member inside) ?_⟩
        rw [Padded.front, List.append_assoc,
          ih member inside (by omega) member.value.before_blank stop]
      obtain ⟨outcome, run, read⟩ :=
        readMembers_run follows blank_blank () rest
      have passed : outcome = .ok () := run.eq_foldlM.trans (foldlM_ok members)
      rw [collection_append, skipNested_object before_blank, read, passed]
      rfl

end Json

end AvailabilityAnnotations

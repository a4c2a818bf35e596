/-
# Reading the members of an object

What an object gives is said member by member (`Gives`), without regard to the order: a member
whose key spells the key of a field gives that field a value, and a member with another key
gives nothing, whatever its value is. Members that give different fields are all taken
(`readMember_gives`, `foldlM_take`).

Of members in general, whose values may be of the wrong shape, each is taken as a whole or
refused (`exists_readMember`), and a run that takes all of them meets no field twice
(`pairwise_of_run`).
-/

import AvailabilityAnnotations.Proofs.Config.Field

namespace AvailabilityAnnotations

namespace Config

open Json (Problem Padded Member IsBody IsStop IsValue Spells Run)

variable {rest key : Text} {given : Given} {setting : Setting}
  {field : Field} {member : Member}

namespace Field

@[simp] theorem ofKey?_key (field : Field) : ofKey? field.key.toList = some field := by
  cases field <;> decide

theorem ofKey?_eq_none (other : ∀ field : Field, field.key.toList ≠ key) : ofKey? key = none := by
  rw [ofKey?, List.find?_eq_none]
  exact fun field _ same => other field (of_decide_eq_true same)

end Field

/-- A member names a field by spelling its key. -/
def Names (member : Member) (field : Field) : Prop :=
  Spells field.key.toList member.key

/-- What a member of an object gives. -/
inductive Gives (member : Member) : Option Setting → Prop
  | setting {setting : Setting} : Names member setting.field →
      setting.IsWritten member.value.body → Gives member (some setting)
  | nothing {key : Text} : Spells key member.key → (∀ field : Field, field.key.toList ≠ key) →
      IsValue member.value.body → Gives member none

section Members

theorem readString_inner (spells : Spells key member.key) (rest : Text) :
    Json.readString (member.inner ++ rest) =
      .ok (key, member.between ++ ':' :: (member.value.front ++ rest)) := by
  simpa [Member.inner] using
    Json.readString_spells spells (member.between ++ ':' :: (member.value.front ++ rest))

/-- The value of a member that names a field is read for the field, unless it was given before. -/
theorem readMember_of_names (names : Names member field) (rest : Text) :
    readMember given (member.inner ++ rest) =
      if given.has field then .error .mismatched
      else readField given (member.value.front ++ rest) field := by
  simp only [readMember, readString_inner names, Field.ofKey?_key,
    Json.readColon_append member.between_blank, bind, Except.bind]

/-- The value of another member is passed over. -/
theorem readMember_of_other (spells : Spells key member.key)
    (other : ∀ field : Field, field.key.toList ≠ key) (rest : Text) :
    readMember given (member.inner ++ rest) =
      (Json.skipValue (member.value.front ++ rest)).map (given, ·) := by
  simp only [readMember, readString_inner spells, Field.ofKey?_eq_none other,
    Json.readColon_append member.between_blank, bind, Except.bind]
  rfl

theorem skipValue_front {padded : Padded} (isValue : IsValue padded.body) (stop : IsStop rest) :
    Json.skipValue (padded.front ++ rest) = .ok rest := by
  rw [Json.skipValue, Padded.front, List.append_assoc]
  refine Json.skipNested_append isValue ?_ padded.before_blank stop
  simp only [List.length_append]
  omega

theorem has_put (given : Given) (setting : Setting) (field : Field) :
    (given.put setting).has field = (decide (field = setting.field) || given.has field) := by
  rw [Given.has_eq, Given.get?_put, Given.has_eq]
  by_cases same : field = setting.field <;> simp [same]

/-- Take what a member gives. A field is not taken twice. -/
def Given.take (given : Given) : Option Setting → Except Problem Given
  | none => .ok given
  | some setting => if given.has setting.field then .error .mismatched else .ok (given.put setting)

theorem readMember_gives {gift : Option Setting} (gives : Gives member gift) (stop : IsStop rest) :
    readMember given (member.inner ++ rest) = (given.take gift).map (·, rest) := by
  cases gives with
  | setting names isWritten =>
      rw [readMember_of_names names, Given.take, Padded.front, List.append_assoc,
        readField_append isWritten member.value.before_blank]
      split <;> rfl
  | nothing spells other isValue =>
      rw [readMember_of_other spells other, skipValue_front isValue stop]
      rfl

/-- Members that give different fields, none of them given before, are all taken. -/
theorem foldlM_take {parts : List (Member × Option Setting)}
    (once : ((parts.filterMap Prod.snd).map Setting.field).Nodup)
    (fresh : ∀ setting ∈ parts.filterMap Prod.snd, given.has setting.field = false) :
    parts.foldlM (fun given part => given.take part.2) given =
      .ok ((parts.filterMap Prod.snd).foldl Given.put given) := by
  induction parts generalizing given with
  | nil => rfl
  | cons part parts ih =>
      obtain ⟨member, gift⟩ := part
      cases gift with
      | none => exact ih once fresh
      | some setting =>
          have gifts : ((member, some setting) :: parts).filterMap Prod.snd =
              setting :: parts.filterMap Prod.snd := rfl
          rw [gifts, List.map_cons, List.nodup_cons] at once
          rw [gifts, List.forall_mem_cons] at fresh
          have later : ∀ other ∈ parts.filterMap Prod.snd,
              (given.put setting).has other.field = false := by
            intro other inside
            have differs : other.field ≠ setting.field := fun same =>
              once.1 (same ▸ List.mem_map_of_mem inside)
            rw [has_put, decide_eq_false differs, Bool.false_or]
            exact fresh.2 other inside
          rw [List.foldlM_cons, Given.take, fresh.1]
          exact ih once.2 later

end Members

section Repetition

/-- What a member can do to what was given: keep all of it, and give the fields that it names
for the first time. -/
def Adds (given : Given) (member : Member) (outcome : Except Problem Given) : Prop :=
  ∀ next, outcome = .ok next → (∀ field, given.has field = true → next.has field = true) ∧
    ∀ field, Names member field → given.has field = false ∧ next.has field = true

/-- The two ways in which a member is read: its value is passed over, or read for a field that
was not given before. -/
theorem readMember_eq_ok {text left : Text} {next : Given}
    (read : readMember given text = .ok (next, left)) :
    ∃ key behindKey behindColon, Json.readString text = .ok (key, behindKey) ∧
      Json.readColon behindKey = .ok behindColon ∧
      (Field.ofKey? key = none ∧ next = given ∧ Json.skipValue behindColon = .ok left ∨
        ∃ field, Field.ofKey? key = some field ∧ given.has field = false ∧
          readField given behindColon field = .ok (next, left)) := by
  obtain ⟨⟨key, behindKey⟩, string, read⟩ := Json.bind_eq_ok_iff.1 read
  cases found : Field.ofKey? key with
  | none =>
      simp only [found] at read
      obtain ⟨behindColon, colon, read⟩ := Json.bind_eq_ok_iff.1 read
      obtain ⟨behind, passed, same⟩ := Json.bind_eq_ok_iff.1 read
      cases same
      exact ⟨key, behindKey, behindColon, string, colon, .inl ⟨found, rfl, passed⟩⟩
  | some field =>
      simp only [found] at read
      cases has : given.has field with
      | true =>
          rw [if_pos has] at read
          cases read
      | false =>
          rw [has, if_neg Bool.false_ne_true] at read
          obtain ⟨behindColon, colon, value⟩ := Json.bind_eq_ok_iff.1 read
          exact ⟨key, behindKey, behindColon, string, colon, .inr ⟨field, found, has, value⟩⟩

/-- The key of a member ends at its closing quote, since it can be passed over up to there. -/
theorem behindKey_eq {behindKey : Text} (isBody : IsBody member.key)
    (string : Json.readString (member.inner ++ rest) = .ok (key, behindKey)) :
    behindKey = member.between ++ ':' :: (member.value.front ++ rest) := by
  have passed := Json.skipString_inner isBody rest
  rw [Json.skipString_of_readString string] at passed
  exact Except.ok.inj passed

/-- Whatever the shape of its value is, a member that is read is read up to its end. -/
theorem left_eq_of_readMember {left : Text} {next : Given} (isBody : IsBody member.key)
    (isValue : IsValue member.value.body) (stop : IsStop rest)
    (read : readMember given (member.inner ++ rest) = .ok (next, left)) : left = rest := by
  obtain ⟨key, behindKey, behindColon, string, colon, ways⟩ := readMember_eq_ok read
  obtain rfl := behindKey_eq isBody string
  rw [Json.readColon_append member.between_blank] at colon
  cases colon
  rcases ways with ⟨-, -, passed⟩ | ⟨field, -, -, value⟩
  · rw [skipValue_front isValue stop] at passed
    exact (Except.ok.inj passed).symm
  · obtain ⟨passed, -⟩ := skipNested_of_readField value member.value.body.length
    rw [Padded.front, List.append_assoc, Json.skipNested_append isValue (by omega)
      member.value.before_blank stop] at passed
    exact (Except.ok.inj passed).symm

/-- A member that is read gives the field that it names for the first time. -/
theorem adds_of_readMember {left : Text} {next : Given}
    (read : readMember given (member.inner ++ rest) = .ok (next, left)) :
    Adds given member (.ok next) := by
  obtain ⟨key, behindKey, behindColon, string, -, ways⟩ := readMember_eq_ok read
  have named (field : Field) (names : Names member field) : Field.ofKey? key = some field := by
    rw [readString_inner names rest] at string
    cases string
    exact Field.ofKey?_key field
  rintro _ ⟨⟩
  rcases ways with ⟨unknown, rfl, -⟩ | ⟨field, found, has, value⟩
  · refine ⟨fun _ has => has, fun field names => ?_⟩
    rw [named field names] at unknown
    cases unknown
  · obtain ⟨-, setting, rfl, rfl⟩ := skipNested_of_readField value 0
    refine ⟨fun other known => by rw [has_put, known, Bool.or_true], fun other names => ?_⟩
    obtain rfl : setting.field = other := Option.some.inj (found ▸ named other names)
    exact ⟨has, by rw [has_put, decide_eq_true rfl, Bool.true_or]⟩

/-- The reader of members takes a whole member or refuses it. -/
theorem exists_readMember (isBody : IsBody member.key) (isValue : IsValue member.value.body)
    (given : Given) (stop : IsStop rest) :
    ∃ outcome, Adds given member outcome ∧
      readMember given (member.inner ++ rest) = outcome.map (·, rest) := by
  cases read : readMember given (member.inner ++ rest) with
  | error problem =>
      have refused : Adds given member (.error problem) := by
        intro next impossible
        cases impossible
      exact ⟨.error problem, refused, rfl⟩
  | ok result =>
      obtain ⟨next, left⟩ := result
      obtain rfl := left_eq_of_readMember isBody isValue stop read
      exact ⟨.ok next, adds_of_readMember read, rfl⟩

/-- A run that takes all members meets no field that was given before. -/
theorem not_names_of_run {members : List Member} {last : Given}
    (run : Run Adds given members (.ok last)) (has : given.has field = true) :
    ∀ member ∈ members, ¬ Names member field := by
  generalize outcome_eq : (Except.ok last : Except Problem Given) = outcome at run
  induction run with
  | done => simp
  | refused => cases outcome_eq
  | @further given next member members outcome step later ih =>
      obtain ⟨keeps, adds⟩ := step next rfl
      rw [List.forall_mem_cons]
      refine ⟨fun names => ?_, ih (keeps field has) outcome_eq⟩
      rw [(adds field names).1] at has
      cases has

/-- No two members of a run that takes all of them name the same field. -/
theorem pairwise_of_run {members : List Member} {last : Given}
    (run : Run Adds given members (.ok last)) :
    members.Pairwise fun first second => ∀ field, Names first field → ¬ Names second field := by
  generalize outcome_eq : (Except.ok last : Except Problem Given) = outcome at run
  induction run with
  | done => exact .nil
  | refused => cases outcome_eq
  | @further given next member members outcome step later ih =>
      subst outcome_eq
      refine .cons (fun second inside field names => ?_) (ih rfl)
      exact not_names_of_run later ((step next rfl).2 field names).2 second inside

end Repetition

end Config

end AvailabilityAnnotations

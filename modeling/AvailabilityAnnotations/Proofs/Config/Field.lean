/-
# Reading the value of a field

A field is read from every text that stands for a value of it (`readField_append`). Whatever
else stands in its place, a field that is read takes no more and no less than the value that
stands there, as if it had been passed over (`skipNested_of_readField`).
-/

import AvailabilityAnnotations.Proofs.Config.Setting
import AvailabilityAnnotations.Proofs.Json.Value

namespace AvailabilityAnnotations

namespace Config

open Json (Problem Padded IsBlankRun IsStop skipBlank skipNested skipBlank_append_cons)

variable {string text before rest left : Text} {given : Given} {setting : Setting}
  {field : Field} {depth : Nat}

theorem readText_append (isString : IsString string text) (before_blank : IsBlankRun before)
    (rest : Text) : readText (before ++ (text ++ rest)) = .ok (string, rest) := by
  obtain ⟨body, spells, rfl⟩ := isString
  rw [readText, Json.quoted, List.cons_append, List.append_assoc,
    skipBlank_append_cons before_blank (by decide)]
  exact Json.readString_spells spells rest

theorem IsString.isValue (isString : IsString string text) : Json.IsValue text := by
  obtain ⟨body, spells, rfl⟩ := isString
  exact .string spells.isBody

theorem readPaths_append {paths : List Path} (isPaths : IsPaths paths text)
    (before_blank : IsBlankRun before) (rest : Text) :
    readPaths (before ++ (text ++ rest)) = .ok (paths, rest) := by
  obtain ⟨items, blank, blank_blank, areStrings, rfl, rfl⟩ := isPaths
  have reads : ∀ item ∈ items, ∀ rest, IsStop rest →
      readPath (item.1.front ++ rest) = .ok (item.2, rest) := by
    intro item member rest _
    rw [readPath, Padded.front, List.append_assoc,
      readText_append (areStrings item member) item.1.before_blank]
    rfl
  rw [readPaths, Json.collection_append, skipBlank_append_cons before_blank (by decide)]
  exact Json.readItems_append reads (fun item member => (areStrings item member).isValue.starts)
    blank_blank rest

theorem readModeWord_append {choice : Mode} {body : Text}
    (spells : Json.Spells choice.word.toList body) (rest : Text) :
    readModeWord (body ++ '"' :: rest) = .ok (choice, rest) := by
  simp only [readModeWord, Json.readString_spells spells, bind, Except.bind, Mode.ofWord?_word]
  rfl

theorem readMode_append {choice : Mode} (isString : IsString choice.word.toList text)
    (before_blank : IsBlankRun before) (rest : Text) :
    readMode (before ++ (text ++ rest)) = .ok (choice, rest) := by
  obtain ⟨body, spells, rfl⟩ := isString
  rw [readMode, Json.quoted, List.cons_append, List.append_assoc,
    skipBlank_append_cons before_blank (by decide)]
  exact readModeWord_append spells rest

theorem readFlag_append (isDry : Bool) (before_blank : IsBlankRun before) (rest : Text) :
    readFlag (before ++ ((if isDry then "true".toList else "false".toList) ++ rest)) =
      .ok (isDry, rest) := by
  cases isDry with
  | true =>
      show readFlag (before ++ 't' :: ("rue".toList ++ rest)) = _
      rw [readFlag, skipBlank_append_cons before_blank (by decide)]
      show (Json.readWord "rue".toList ("rue".toList ++ rest)).map (true, ·) = _
      rw [Json.readWord_append]
      rfl
  | false =>
      show readFlag (before ++ 'f' :: ("alse".toList ++ rest)) = _
      rw [readFlag, skipBlank_append_cons before_blank (by decide)]
      show (Json.readWord "alse".toList ("alse".toList ++ rest)).map (false, ·) = _
      rw [Json.readWord_append]
      rfl

/-- A field is read from every text that stands for a value of it. -/
theorem readField_append (isWritten : setting.IsWritten text) (before_blank : IsBlankRun before)
    (rest : Text) :
    readField given (before ++ (text ++ rest)) setting.field = .ok (given.put setting, rest) := by
  cases setting with
  | root path =>
      rw [Setting.field, readField, readPath, readText_append isWritten before_blank]
      rfl
  | sourceDirectories paths =>
      rw [Setting.field, readField, readPaths_append isWritten before_blank]
      rfl
  | extension string | keyword string | placeholder string =>
      rw [Setting.field, readField, readText_append isWritten before_blank]
      rfl
  | mode choice =>
      rw [Setting.field, readField, readMode_append isWritten before_blank]
      rfl
  | dryRun isDry =>
      obtain rfl := isWritten
      rw [Setting.field, readField, readFlag_append isDry before_blank]
      rfl

theorem skipNested_of_readText (read : readText text = .ok (string, left)) :
    skipNested (depth + 1) text = .ok left := by
  rw [readText] at read
  split at read
  · next skipped =>
      rw [skipNested, skipped]
      exact Json.skipString_of_readString read
  · cases read

theorem skipNested_of_readPath {path : Path} (read : readPath text = .ok (path, left)) :
    skipNested (depth + 1) text = .ok left := by
  obtain ⟨⟨string, behind⟩, read, same⟩ := Json.map_eq_ok_iff.1 read
  cases same
  exact skipNested_of_readText read

theorem skipNested_of_readPaths {paths : List Path} (read : readPaths text = .ok (paths, left)) :
    skipNested (depth + 2) text = .ok left := by
  rw [readPaths] at read
  split at read
  · next rest skipped =>
      have agree (text : Text) (path : Path) (left : Text)
          (read : readPath text = .ok (path, left)) :
          ∃ item, (skipNested (depth + 1) text).map ((), ·) = .ok (item, left) :=
        ⟨(), by rw [skipNested_of_readPath read]; rfl⟩
      obtain ⟨items, passed⟩ := Json.readItems_agree agree read
      rw [skipNested, skipped]
      show (Json.readItems _ rest).map Prod.snd = _
      rw [passed]
      rfl
  · cases read

theorem skipNested_of_readFlag {isDry : Bool} (read : readFlag text = .ok (isDry, left)) :
    skipNested (depth + 1) text = .ok left := by
  rw [readFlag] at read
  split at read
  · next skipped =>
      obtain ⟨behind, word, same⟩ := Json.map_eq_ok_iff.1 read
      cases same
      rw [skipNested, skipped]
      exact word
  · next skipped =>
      obtain ⟨behind, word, same⟩ := Json.map_eq_ok_iff.1 read
      cases same
      rw [skipNested, skipped]
      exact word
  · cases read

theorem skipString_of_readModeWord {choice : Mode} (read : readModeWord text = .ok (choice, left)) :
    Json.skipString text = .ok left := by
  obtain ⟨⟨word, behind⟩, string, known⟩ := Json.bind_eq_ok_iff.1 read
  cases found : Mode.ofWord? word with
  | none => simp [found] at known
  | some mode =>
      simp only [found] at known
      cases known
      exact Json.skipString_of_readString string

theorem skipNested_of_readNull (read : readNull text = .ok left) :
    skipNested (depth + 1) text = .ok left := by
  rw [readNull] at read
  split at read
  · next skipped =>
      rw [skipNested, skipped]
      exact read
  · cases read

/-- The one member of an object that stands for a mode is passed over as any member. -/
theorem skipMember_of_readModeWord {choice : Mode} {behindWord behindColon : Text}
    (word : readModeWord text = .ok (choice, behindWord))
    (colon : Json.readColon behindWord = .ok behindColon)
    (null : readNull behindColon = .ok left) :
    Json.skipMember (depth + 1) text = .ok ((), left) := by
  simp only [Json.skipMember, skipString_of_readModeWord word, colon, skipNested_of_readNull null,
    bind, Except.bind]
  rfl

theorem readMoreMembers_of_readObjectEnd {State : Type}
    {readMember : State → Text → Except Problem (State × Text)} {rounds : Nat} {state : State}
    (read : readObjectEnd text = .ok left) :
    Json.readMoreMembers readMember (rounds + 1) state text = .ok (state, left) := by
  rw [readObjectEnd] at read
  rw [Json.readMoreMembers]
  cases skipped : skipBlank text with
  | nil => rw [skipped] at read; cases read
  | cons char rest =>
      rw [skipped] at read
      by_cases isBrace : char = '\x7d'
      · simp only [if_pos isBrace, Except.ok.injEq] at read
        simp only [if_pos isBrace, read]
      · simp only [if_neg isBrace] at read
        cases read

/-- The two ways in which a mode is read: from its word, and from an object. -/
theorem readMode_eq_ok {choice : Mode} (read : readMode text = .ok (choice, left)) :
    (∃ rest, skipBlank text = '"' :: rest ∧ readModeWord rest = .ok (choice, left)) ∨
      ∃ rest key behindWord behindColon behindNull, skipBlank text = '\x7b' :: rest ∧
        skipBlank rest = '"' :: key ∧ readModeWord key = .ok (choice, behindWord) ∧
        Json.readColon behindWord = .ok behindColon ∧ readNull behindColon = .ok behindNull ∧
        readObjectEnd behindNull = .ok left := by
  rw [readMode] at read
  split at read
  · cases read
  · next char rest skipped =>
      by_cases isQuote : char = '"'
      · rw [if_pos isQuote] at read
        exact .inl ⟨rest, isQuote ▸ skipped, read⟩
      rw [if_neg isQuote] at read
      by_cases isBrace : char = '\x7b'
      · rw [if_pos isBrace] at read
        split at read
        · cases read
        · next char key behindBrace =>
            by_cases isKey : char = '"'
            · rw [if_pos isKey] at read
              obtain ⟨⟨_, behindWord⟩, word, read⟩ := Json.bind_eq_ok_iff.1 read
              obtain ⟨behindColon, colon, read⟩ := Json.bind_eq_ok_iff.1 read
              obtain ⟨behindNull, null, read⟩ := Json.bind_eq_ok_iff.1 read
              obtain ⟨_, ended, same⟩ := Json.bind_eq_ok_iff.1 read
              cases same
              exact .inr ⟨rest, key, behindWord, behindColon, behindNull, isBrace ▸ skipped,
                isKey ▸ behindBrace, word, colon, null, ended⟩
            · rw [if_neg isKey] at read
              cases read
      · rw [if_neg isBrace] at read
        cases read

theorem skipNested_of_readMode {choice : Mode} (read : readMode text = .ok (choice, left)) :
    skipNested (depth + 2) text = .ok left := by
  rcases readMode_eq_ok read with ⟨rest, skipped, word⟩ |
    ⟨rest, key, behindWord, behindColon, behindNull, skipped, behindBrace, word, colon, null, ended⟩
  · rw [skipNested, skipped]
    exact skipString_of_readModeWord word
  · rw [skipNested, skipped]
    show (Json.readMembers (fun _ => Json.skipMember (depth + 1)) () rest).map Prod.snd = _
    rw [Json.readMembers, behindBrace]
    simp only [skipMember_of_readModeWord word colon null, bind, Except.bind,
      readMoreMembers_of_readObjectEnd ended]
    rfl

/-- If a value can be passed over as far as it is read, it can when it is put into a field. -/
theorem skipNested_of_put {Value : Type} {read : Except Problem (Value × Text)}
    {next : Given} (make : Value → Setting)
    (passed : ∀ {value left}, read = .ok (value, left) → skipNested depth text = .ok left)
    (isField : ∀ value, (make value).field = field)
    (put : (read.map fun (value, rest) => (given.put (make value), rest)) = .ok (next, left)) :
    skipNested depth text = .ok left ∧
      ∃ setting : Setting, setting.field = field ∧ next = given.put setting := by
  obtain ⟨⟨value, behind⟩, done, same⟩ := Json.map_eq_ok_iff.1 put
  cases same
  exact ⟨passed done, make value, isField value, rfl⟩

/-- A field that is read could also have been passed over, and just as far. -/
theorem skipNested_of_readField {next : Given}
    (read : readField given text field = .ok (next, left)) (depth : Nat) :
    skipNested (depth + 2) text = .ok left ∧
      ∃ setting : Setting, setting.field = field ∧ next = given.put setting := by
  cases field with
  | root => exact skipNested_of_put .root skipNested_of_readPath (fun _ => rfl) read
  | sourceDirectories =>
      exact skipNested_of_put .sourceDirectories skipNested_of_readPaths (fun _ => rfl) read
  | extension =>
      exact skipNested_of_put .extension skipNested_of_readText (fun _ => rfl) read
  | keyword => exact skipNested_of_put .keyword skipNested_of_readText (fun _ => rfl) read
  | placeholder =>
      exact skipNested_of_put .placeholder skipNested_of_readText (fun _ => rfl) read
  | mode => exact skipNested_of_put .mode skipNested_of_readMode (fun _ => rfl) read
  | dryRun => exact skipNested_of_put .dryRun skipNested_of_readFlag (fun _ => rfl) read

end Config

end AvailabilityAnnotations

/-
# Reading and passing over scalars

The readers of strings and numbers, compared with the grammar. A string is read from all of
its spellings (`readString_spells`), and a string that nobody reads is passed over even if its
code units make up no characters (`skipString_body`). Whatever is read as a string could also
be passed over, and just as far (`skipString_of_readString`).

A number ends where something stands that cannot belong to it (`IsStop`).
-/

import AvailabilityAnnotations.Json.Scalar
import AvailabilityAnnotations.Proofs.Json.Grammar
import AvailabilityAnnotations.Proofs.Text.ByteOrder
import AvailabilityAnnotations.Proofs.Text.Literal

namespace AvailabilityAnnotations

namespace Json

variable {text rest string body part left : Text} {char mark : Char} {unit : Nat}

theorem bind_eq_ok_iff {Value Result : Type} {read : Except Problem Value}
    {next : Value → Except Problem Result} {result : Result} :
    (read >>= next) = .ok result ↔ ∃ value, read = .ok value ∧ next value = .ok result := by
  cases read <;> simp [bind, Except.bind]

theorem map_eq_ok_iff {Value Result : Type} {read : Except Problem Value}
    {change : Value → Result} {result : Result} :
    read.map change = .ok result ↔ ∃ value, read = .ok value ∧ change value = result := by
  cases read <;> simp [Except.map]

theorem isBlank_iff : isBlank char = true ↔ char ∈ blanks := by
  simp [isBlank, blanks, or_assoc]

/-- Blanks in front of a text are skipped. -/
theorem skipBlank_append (blank : IsBlankRun text) (rest : Text) :
    skipBlank (text ++ rest) = skipBlank rest :=
  List.dropWhile_append_of_pos fun char member => isBlank_iff.2 (blank char member)

theorem skipBlank_cons (notBlank : char ∉ blanks) (rest : Text) :
    skipBlank (char :: rest) = char :: rest :=
  List.dropWhile_cons_of_neg (mt isBlank_iff.1 notBlank)

/-- A word is read from itself. -/
theorem readWord_append (word rest : Text) : readWord word (word ++ rest) = .ok rest := by
  induction word with
  | nil => rfl
  | cons char word ih => simpa [readWord] using ih

theorem isControl_eq_false (plain : IsPlain char) : isControl char = false := by
  simpa [isControl] using plain.1

/-- Every short escape is known. -/
theorem escapedChar?_of_mem (known : (mark, char) ∈ shortEscapes) :
    escapedChar? mark = some char := by
  have all : ∀ escape ∈ shortEscapes, escapedChar? escape.1 = some escape.2 := by decide
  exact all _ known

theorem mark_ne_u (known : (mark, char) ∈ shortEscapes) : mark ≠ 'u' := by
  have all : ∀ escape ∈ shortEscapes, escape.1 ≠ 'u' := by decide
  exact all _ known

theorem hexDigit?_eq {value : Nat} (digit : IsHexDigit value char) :
    Text.hexDigit? char = some value := by
  have all : ∀ value < 16, Text.hexDigit? (Nat.digitChar value) = some value ∧
      Text.hexDigit? (Nat.digitChar value).toUpper = some value := by decide
  obtain ⟨small, rfl | rfl⟩ := digit
  · exact (all value small).1
  · exact (all value small).2

/-- Four digits stand for their code unit. -/
theorem hexUnit?_eq {a b c d : Char} (first : IsHexDigit (unit / 0x1000) a)
    (second : IsHexDigit (unit / 0x100 % 16) b) (third : IsHexDigit (unit / 0x10 % 16) c)
    (fourth : IsHexDigit (unit % 16) d) : hexUnit? a b c d = some unit := by
  have value : ((unit / 0x1000 * 16 + unit / 0x100 % 16) * 16 + unit / 0x10 % 16) * 16 +
      unit % 16 = unit := by omega
  simp [hexUnit?, hexDigit?_eq first, hexDigit?_eq second, hexDigit?_eq third,
    hexDigit?_eq fourth, value]

/-- The code of a character is not a unit of a pair. -/
theorem not_surrogate (char : Char) :
    isTrailing char.toNat = false ∧ isLeading char.toNat = false := by
  have valid := Text.code_valid char
  constructor <;> grind [isTrailing, isLeading]

/-- The units of a pair are told apart, and they stand for their character. -/
theorem pairedChar_units (char : Char) (large : 0x10000 ≤ char.toNat) :
    isTrailing (leadingUnit char) = false ∧ isLeading (leadingUnit char) = true ∧
      isTrailing (trailingUnit char) = true ∧
      pairedChar (leadingUnit char) (trailingUnit char) = char := by
  have limit := Text.code_lt char
  refine ⟨by grind [isTrailing, leadingUnit], by grind [isLeading, leadingUnit],
    by grind [isTrailing, trailingUnit], ?_⟩
  have code : 0x10000 + (leadingUnit char - 0xD800) * 0x400 + (trailingUnit char - 0xDC00) =
      char.toNat := by
    unfold leadingUnit trailingUnit
    omega
  rw [pairedChar, code, Char.ofNat_toNat]

/-- A character is read from each of its spellings, whatever follows. -/
theorem readString_spellsChar (spelling : SpellsChar char part) (rest : Text) :
    readString (part ++ rest) = pushFront char (readString rest) := by
  cases spelling with
  | plain plain =>
      have notControl := isControl_eq_false plain
      obtain ⟨-, notQuote, notBackslash⟩ := plain
      rw [List.singleton_append, readString.eq_7 _ _ notQuote] <;> simp [notBackslash, notControl]
  | short known =>
      have notUnit := mark_ne_u known
      rw [List.cons_append, List.singleton_append, readString.eq_6] <;>
        simp [notUnit, escapedChar?_of_mem known]
  | unit small unit =>
      obtain ⟨first, second, third, fourth⟩ := unit
      obtain ⟨notTrailing, notLeading⟩ := not_surrogate char
      show readString ('\\' :: 'u' :: _ :: _ :: _ :: _ :: rest) = _
      rw [readString.eq_4, hexUnit?_eq first second third fourth]
      simp [notTrailing, notLeading]
  | pair large leading trailing =>
      obtain ⟨first, second, third, fourth⟩ := leading
      obtain ⟨first', second', third', fourth'⟩ := trailing
      obtain ⟨notTrailing, isLeading, isTrailing, paired⟩ := pairedChar_units char large
      show readString
        ('\\' :: 'u' :: _ :: _ :: _ :: _ :: '\\' :: 'u' :: _ :: _ :: _ :: _ :: rest) = _
      rw [readString.eq_4, hexUnit?_eq first second third fourth]
      simp [notTrailing, isLeading, hexUnit?_eq first' second' third' fourth', isTrailing, paired]

/-- A string is read from each of its spellings. -/
theorem readString_spells (spelling : Spells string body) (rest : Text) :
    readString (body ++ '"' :: rest) = .ok (string, rest) := by
  induction spelling with
  | nil => rfl
  | cons first _ ih =>
      rw [List.append_assoc, readString_spellsChar first, ih]
      rfl

/-- A character or an escape is passed over, whatever follows. -/
theorem skipString_part (isPart : IsPart part) (rest : Text) :
    skipString (part ++ rest) = skipString rest := by
  cases isPart with
  | plain plain =>
      have notControl := isControl_eq_false plain
      obtain ⟨-, notQuote, notBackslash⟩ := plain
      rw [List.singleton_append, skipString.eq_7 _ _ notQuote] <;> simp [notBackslash, notControl]
  | short known =>
      have notUnit := mark_ne_u known
      rw [List.cons_append, List.singleton_append, skipString.eq_6] <;>
        simp [notUnit, escapedChar?_of_mem known]
  | unit unit =>
      obtain ⟨first, second, third, fourth⟩ := unit
      show skipString ('\\' :: 'u' :: _ :: _ :: _ :: _ :: rest) = _
      rw [skipString.eq_4, hexUnit?_eq first second third fourth]
      rfl

/-- Any string is passed over up to its closing quote. -/
theorem skipString_body (isBody : IsBody body) (rest : Text) :
    skipString (body ++ '"' :: rest) = .ok rest := by
  induction isBody with
  | nil => rfl
  | cons first _ ih => rw [List.append_assoc, skipString_part first, ih]

/-- What spells a string can stand between quotes. -/
theorem Spells.isBody (spelling : Spells string body) : IsBody body := by
  induction spelling with
  | nil => exact .nil
  | cons first _ ih =>
      cases first with
      | plain plain => exact .cons (.plain plain) ih
      | short known => exact .cons (.short known) ih
      | unit small unit => exact .cons (.unit unit) ih
      | pair large leading trailing =>
          rw [List.append_assoc]
          exact .cons (.unit leading) (.cons (.unit trailing) ih)

theorem pushFront_eq_ok_iff {read : Except Problem (Text × Text)} :
    pushFront char read = .ok (string, rest) ↔
      ∃ later, read = .ok (later, rest) ∧ string = char :: later := by
  rw [pushFront, map_eq_ok_iff]
  constructor
  · rintro ⟨⟨later, left⟩, rfl, same⟩
    cases same
    exact ⟨later, rfl, rfl⟩
  · rintro ⟨later, rfl, rfl⟩
    exact ⟨_, rfl, rfl⟩

/-- What is read as a string could also be passed over, and just as far. -/
theorem skipString_of_readString (read : readString text = .ok (string, left)) :
    skipString text = .ok left := by
  -- Only five of the cases succeed: the end, a pair, a unit, a short escape, a plain character.
  fun_induction readString text generalizing string <;> try cases read
  case case2 => rfl
  case case9 first _ _ _ _ _ _ _ _ second _ ih =>
      obtain ⟨later, read, -⟩ := pushFront_eq_ok_iff.1 read
      rw [skipString.eq_4, first, Option.isSome_some, if_pos rfl, skipString.eq_4, second,
        Option.isSome_some, if_pos rfl, ih read]
  case case13 known _ _ ih =>
      obtain ⟨later, read, -⟩ := pushFront_eq_ok_iff.1 read
      rw [skipString.eq_4, known, Option.isSome_some, if_pos rfl, ih read]
  case case16 notDigits notUnit _ known ih =>
      obtain ⟨later, read, -⟩ := pushFront_eq_ok_iff.1 read
      rw [skipString.eq_6 _ _ notDigits notUnit, known, Option.isSome_some, if_pos rfl, ih read]
  case case18 notQuote atEnd digits unit escape notControl ih =>
      obtain ⟨later, read, -⟩ := pushFront_eq_ok_iff.1 read
      rw [skipString.eq_7 _ _ notQuote atEnd digits unit escape, if_neg notControl, ih read]

/-- What stands behind a value belongs to no number: a blank, a comma or a closing bracket, or
nothing at all. -/
def IsStop (rest : Text) : Prop :=
  ∀ char ∈ rest.head?, char ∈ blanks ∨ char = ',' ∨ char = ']' ∨ char = '\x7d'

/-- A stop is none of the characters that a number can go on with. -/
theorem IsStop.ends (stop : IsStop rest) :
    ∀ char ∈ rest.head?, char.isDigit = false ∧ char ≠ '.' ∧ char ≠ 'e' ∧ char ≠ 'E' := by
  intro char first
  have cases := stop char first
  simp only [blanks, List.mem_cons, List.not_mem_nil, or_false] at cases
  rcases cases with (rfl | rfl | rfl | rfl) | rfl | rfl | rfl <;> decide

/-- Blanks in front of a stop are a stop. -/
theorem isStop_append (blank : IsBlankRun text) (stop : IsStop rest) : IsStop (text ++ rest) := by
  cases text with
  | nil => exact stop
  | cons char text =>
      rintro _ ⟨⟩
      exact .inl (blank char List.mem_cons_self)

section Numbers

variable {digits : Text}

/-- Digits are read up to the first other character. -/
theorem readDigits_append (isDigits : IsDigits digits)
    (ended : ∀ char ∈ rest.head?, char.isDigit = false) :
    readDigits (digits ++ rest) = .ok (digits, rest) := by
  obtain ⟨nonempty, inside⟩ := isDigits
  have run : (digits ++ rest).takeWhile Char.isDigit = digits ∧
      (digits ++ rest).dropWhile Char.isDigit = rest := by
    cases rest with
    | nil =>
        rw [List.takeWhile_append_of_pos inside, List.dropWhile_append_of_pos inside]
        exact ⟨List.append_nil digits, rfl⟩
    | cons stop rest =>
        have outside : stop.isDigit = false := ended stop rfl
        exact ⟨Text.takeWhile_append_stop inside outside rest,
          Text.dropWhile_append_stop inside outside rest⟩
  obtain ⟨digit, more, rfl⟩ := List.exists_cons_of_ne_nil nonempty
  have isDigit : digit.isDigit = true := inside digit List.mem_cons_self
  rw [readDigits.eq_def]
  simp only [List.cons_append, isDigit, if_true] at run ⊢
  rw [run.1, run.2]

theorem readWhole_append (isWhole : IsWhole digits)
    (ended : ∀ char ∈ rest.head?, char.isDigit = false) :
    readWhole (digits ++ rest) = .ok (digits, rest) := by
  obtain ⟨isDigits, alone⟩ := isWhole
  simp only [readWhole, readDigits_append isDigits ended, bind, Except.bind]
  split
  · simp at alone
  · rfl

theorem readFraction_append (isFraction : IsFraction text)
    (ended : ∀ char ∈ rest.head?, char.isDigit = false ∧ char ≠ '.') :
    ∃ digits, readFraction (text ++ rest) = .ok (digits, rest) := by
  rcases isFraction with rfl | ⟨digits, isDigits, rfl⟩
  · refine ⟨[], ?_⟩
    rw [readFraction.eq_def, List.nil_append]
    split
    · next rest => exact absurd rfl (ended '.' rfl).2
    · rfl
  · exact ⟨digits, readDigits_append isDigits fun char first => (ended char first).1⟩

theorem readExponent_append (isExponent : IsExponent text)
    (ended : ∀ char ∈ rest.head?, char.isDigit = false ∧ char ≠ 'e' ∧ char ≠ 'E') :
    ∃ exponent, readExponent (text ++ rest) = .ok (exponent, rest) := by
  rcases isExponent with rfl | ⟨mark, sign, digits, isMark, isSign, isDigits, rfl⟩
  · refine ⟨0, ?_⟩
    rw [List.nil_append, readExponent.eq_def]
    cases rest with
    | nil => rfl
    | cons char rest => simp [(ended char rfl).2]
  · have read := readDigits_append isDigits fun char first => (ended char first).1
    obtain ⟨digit, more, rfl⟩ := List.exists_cons_of_ne_nil isDigits.1
    have isDigit : digit.isDigit = true := isDigits.2 digit List.mem_cons_self
    have notMinus : digit ≠ '-' := by
      rintro rfl
      exact absurd isDigit (by decide)
    have notPlus : digit ≠ '+' := by
      rintro rfl
      exact absurd isDigit (by decide)
    rw [List.cons_append] at read
    rcases isSign with rfl | rfl | rfl
    · exact ⟨_, by simp [readExponent, isMark, notMinus, notPlus, read, Except.map]; rfl⟩
    · exact ⟨_, by simp [readExponent, isMark, read, Except.map]; rfl⟩
    · exact ⟨_, by simp [readExponent, isMark, read, Except.map]; rfl⟩

/-- Read a number without a sign. -/
def readUnsigned (text : Text) : Except Problem (Number × Text) := do
  let (whole, rest) ← readWhole text
  let (fraction, rest) ← readFraction rest
  let (exponent, rest) ← readExponent rest
  return (⟨whole, fraction, exponent⟩, rest)

theorem readNumber_sign {sign : Text} (isSign : sign = [] ∨ sign = ['-'])
    (unsigned : ∀ char ∈ text.head?, char ≠ '-') :
    readNumber (sign ++ text) = readUnsigned text := by
  rcases isSign with rfl | rfl
  · rw [List.nil_append, readNumber.eq_def]
    split
    · exact absurd rfl (unsigned '-' rfl)
    · rfl
  · rfl

/-- A number is passed over up to a stop. -/
theorem skipNumber_append (isNumber : IsNumber text) (stop : IsStop rest) :
    skipNumber (text ++ rest) = .ok rest := by
  obtain ⟨sign, whole, fraction, exponent, isSign, isWhole, isFraction, isExponent, rfl⟩ :=
    isNumber
  have afterExponent := stop.ends
  obtain ⟨power, readPower⟩ := readExponent_append isExponent fun char first =>
    ⟨(afterExponent char first).1, (afterExponent char first).2.2⟩
  have afterFraction : ∀ char ∈ (exponent ++ rest).head?, char.isDigit = false ∧ char ≠ '.' := by
    rcases isExponent with rfl | ⟨mark, _, _, isMark, -, -, rfl⟩
    · exact fun char first => ⟨(afterExponent char first).1, (afterExponent char first).2.1⟩
    · rintro _ ⟨⟩
      rcases isMark with rfl | rfl <;> decide
  obtain ⟨digits, readPoint⟩ := readFraction_append isFraction afterFraction
  have afterWhole : ∀ char ∈ (fraction ++ (exponent ++ rest)).head?, char.isDigit = false := by
    rcases isFraction with rfl | ⟨_, -, rfl⟩
    · exact fun char first => (afterFraction char first).1
    · rintro _ ⟨⟩
      decide
  have readInteger := readWhole_append isWhole afterWhole
  have unsigned : readNumber (sign ++ (whole ++ (fraction ++ (exponent ++ rest)))) =
      readUnsigned (whole ++ (fraction ++ (exponent ++ rest))) := by
    refine readNumber_sign isSign fun char first => ?_
    obtain ⟨digit, more, rfl⟩ := List.exists_cons_of_ne_nil isWhole.1.1
    cases first
    rintro rfl
    exact absurd (isWhole.1.2 '-' List.mem_cons_self) (by decide)
  rw [skipNumber]
  simp only [List.append_assoc]
  rw [unsigned]
  simp only [readUnsigned, readInteger, readPoint, readPower, bind, Except.bind]
  rfl

end Numbers

end Json

end AvailabilityAnnotations

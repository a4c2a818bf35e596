/-
# The order of bytes

Names stand in the order of their characters, and a file system compares the bytes of
their UTF-8 encodings. Both orders are the same (`byteList_lt`).

The reason lies in the encoding of one character: its first byte is larger the more bytes
there are, and the bytes of one length hold the bits of the code from the highest to the
lowest. So of two different characters the smaller one has the smaller byte at the first
place where their encodings differ, and there is such a place
(`utf8EncodeChar_append_lt`).
-/

import Mathlib.Algebra.Group.Nat.Defs
import AvailabilityAnnotations.Proofs.FileSystem.Access

namespace AvailabilityAnnotations

namespace Text

/-- The bytes of a text, one after the other. -/
def byteList (text : Text) : List UInt8 :=
  text.bytes.data.toList

theorem byteList_eq (text : Text) : text.byteList = text.flatMap String.utf8EncodeChar := by
  simp [byteList, bytes, String.toUTF8, String.ofList, List.utf8Encode]

/-- The number of bytes behind the first one in the encoding of a character. -/
def laterBytes (code : Nat) : Nat :=
  if code < 0x80 then 0 else if code < 0x800 then 1 else if code < 0x10000 then 2 else 3

/-- What the first byte holds beside the highest bits of the code. It tells the number of
bytes that follow. -/
def lengthMark : Nat → Nat
  | 0 => 0
  | 1 => 0xc0
  | 2 => 0xe0
  | _ => 0xf0

/-- The first byte of the encoding of a character. -/
def firstByte (code : Nat) : Nat :=
  code / 64 ^ laterBytes code + lengthMark (laterBytes code)

/-- The last `count` bytes of the encoding of a character, with six bits in each. -/
def digitBytes (code : Nat) : Nat → List UInt8
  | 0 => []
  | count + 1 => UInt8.ofNat (code / 64 ^ count % 64 + 0x80) :: digitBytes code count

/-- How many bytes there are depends on the size of the code. -/
theorem laterBytes_cases (code : Nat) :
    laterBytes code = 0 ∧ code < 0x80 ∨ laterBytes code = 1 ∧ 0x80 ≤ code ∧ code < 0x800 ∨
      laterBytes code = 2 ∧ 0x800 ≤ code ∧ code < 0x10000 ∨
      laterBytes code = 3 ∧ 0x10000 ≤ code := by
  grind [laterBytes]

theorem laterBytes_le {first second : Nat} (smaller : first ≤ second) :
    laterBytes first ≤ laterBytes second := by
  grind [laterBytes]

/-- The codes of characters leave out those that stand for halves of a pair. -/
theorem code_valid (char : Char) :
    char.toNat < 0xD800 ∨ 0xDFFF < char.toNat ∧ char.toNat < 0x110000 :=
  char.valid

theorem code_lt (char : Char) : char.toNat < 0x110000 := by
  have valid := code_valid char
  omega

/-- The encoding of a character is its first byte and the bytes with the lower bits. -/
theorem utf8EncodeChar_eq (char : Char) :
    String.utf8EncodeChar char =
      UInt8.ofNat (firstByte char.toNat) :: digitBytes char.toNat (laterBytes char.toNat) := by
  have limit := code_lt char
  unfold String.utf8EncodeChar
  unfold Char.toNat at limit ⊢
  generalize char.val.toNat = code at limit
  rcases laterBytes_cases code with ⟨count, _⟩ | ⟨count, _, _⟩ | ⟨count, _, _⟩ | ⟨count, _⟩
  · rw [if_pos (by omega), firstByte, count]
    simp [digitBytes, lengthMark]
  · rw [if_neg (by omega), if_pos (by omega), firstByte, count]
    have whole : code / 64 % 32 = code / 64 := by omega
    simp [digitBytes, lengthMark, whole]
  · rw [if_neg (by omega), if_neg (by omega), if_pos (by omega), firstByte, count]
    have whole : code / 4096 % 16 = code / 4096 := by omega
    simp [digitBytes, lengthMark, whole]
  · rw [if_neg (by omega), if_neg (by omega), if_neg (by omega), firstByte, count]
    have whole : code / 262144 % 8 = code / 262144 := by omega
    simp [digitBytes, lengthMark, whole]

theorem firstByte_lt {code : Nat} (limit : code < 0x110000) : firstByte code < 256 := by
  unfold firstByte
  rcases laterBytes_cases code with ⟨count, _⟩ | ⟨count, _, _⟩ | ⟨count, _, _⟩ | ⟨count, _⟩ <;>
    simp only [count, lengthMark] <;> omega

/-- The first byte is larger the more bytes there are. -/
theorem firstByte_lt_firstByte {first second : Nat}
    (shorter : laterBytes first < laterBytes second) : firstByte first < firstByte second := by
  unfold firstByte
  rcases laterBytes_cases first with ⟨count, _⟩ | ⟨count, _, _⟩ | ⟨count, _, _⟩ | ⟨count, _⟩ <;>
    rcases laterBytes_cases second with
      ⟨count', _⟩ | ⟨count', _, _⟩ | ⟨count', _, _⟩ | ⟨count', _⟩ <;>
    simp only [count, count', lengthMark] at shorter ⊢ <;> omega

/-- Lists of bytes are compared by their heads first. -/
private theorem cons_ofNat_lt {first second : Nat} {firstRest secondRest : List UInt8}
    (isByte : second < 256) (before : first < second ∨ first = second ∧ firstRest < secondRest) :
    UInt8.ofNat first :: firstRest < UInt8.ofNat second :: secondRest := by
  rw [List.cons_lt_cons_iff]
  refine before.imp (fun smaller => ?_) (And.imp_left (congrArg _))
  rw [UInt8.lt_iff_toNat_lt, UInt8.toNat_ofNat', UInt8.toNat_ofNat']
  omega

/-- Of two codes that agree in all higher bits, the smaller one has the smaller bytes. -/
theorem digitBytes_append_lt {first second : Nat} (smaller : first < second) (count : Nat)
    (same : first / 64 ^ count = second / 64 ^ count) (firstRest secondRest : List UInt8) :
    digitBytes first count ++ firstRest < digitBytes second count ++ secondRest := by
  induction count with
  | zero =>
      have equal : first = second := by simpa using same
      omega
  | succ count ih =>
      have order : first / 64 ^ count ≤ second / 64 ^ count :=
        Nat.div_le_div_right (Nat.le_of_lt smaller)
      rw [Nat.pow_succ, ← Nat.div_div_eq_div_mul, ← Nat.div_div_eq_div_mul] at same
      refine cons_ofNat_lt (by omega) ?_
      rcases Nat.lt_or_eq_of_le order with less | equal
      · exact .inl (by omega)
      · exact .inr ⟨by rw [equal], ih equal⟩

/-- Of two characters, the smaller one has the smaller bytes, whatever follows them. -/
theorem utf8EncodeChar_append_lt {first second : Char} (before : first < second)
    (firstRest secondRest : List UInt8) :
    String.utf8EncodeChar first ++ firstRest < String.utf8EncodeChar second ++ secondRest := by
  have smaller : first.toNat < second.toNat := UInt32.lt_iff_toNat_lt.1 before
  rw [utf8EncodeChar_eq, utf8EncodeChar_eq]
  refine cons_ofNat_lt (firstByte_lt (code_lt second)) ?_
  rcases Nat.lt_or_eq_of_le (laterBytes_le (Nat.le_of_lt smaller)) with shorter | alike
  · exact .inl (firstByte_lt_firstByte shorter)
  · have order : first.toNat / 64 ^ laterBytes second.toNat ≤
        second.toNat / 64 ^ laterBytes second.toNat :=
      Nat.div_le_div_right (Nat.le_of_lt smaller)
    unfold firstByte
    rw [alike]
    rcases Nat.lt_or_eq_of_le order with less | equal
    · exact .inl (by omega)
    · exact .inr ⟨by rw [equal], digitBytes_append_lt smaller _ equal _ _⟩

/-- Texts stand in the order of their bytes. -/
theorem byteList_lt {first second : Text} (before : first < second) :
    first.byteList < second.byteList := by
  rw [byteList_eq, byteList_eq]
  induction first generalizing second with
  | nil =>
      cases second with
      | nil => exact absurd before (List.lt_irrefl [])
      | cons char second =>
          rw [List.flatMap_cons, utf8EncodeChar_eq]
          exact List.nil_lt_cons _ _
  | cons char first ih =>
      cases second with
      | nil => exact absurd before (List.not_lt_nil _)
      | cons char' second =>
          rw [List.flatMap_cons, List.flatMap_cons]
          rcases List.cons_lt_cons_iff.1 before with smaller | ⟨rfl, later⟩
          · exact utf8EncodeChar_append_lt smaller _ _
          · exact List.append_left_lt (ih later)

end Text

end AvailabilityAnnotations

import CheckedSql.Text.Basic
import CheckedSql.Total

namespace CheckedSql.Text

/-! The bytes of a text.

Offsets count the bytes of the encoding. A character in ASCII is one byte, which stands
in the encoding of no other character (`leadByte_eq_iff`, `ne_of_high`), so a class of
such characters can be read off single bytes. `decodeLossy` reads any bytes as a text,
and the bytes of a text as that text (`decodeLossy_bytes`).
-/

/-- The UTF-8 encoding of a text. -/
def bytes (text : List Char) : List UInt8 :=
  text.flatMap String.utf8EncodeChar

/-- The byte of a newline. -/
def newline : UInt8 := 10

/-- The first byte of a character. -/
def leadByte (char : Char) : UInt8 :=
  (String.utf8EncodeChar char).headD 0

/-- The bytes of a character after the first. -/
def trailBytes (char : Char) : List UInt8 :=
  (String.utf8EncodeChar char).tail

/-- Whether a class of characters lies in ASCII. -/
def InAscii (accepts : Char → Bool) : Prop :=
  ∀ char, accepts char = true → char.toNat < 128

theorem bytes_cons (char : Char) (rest : List Char) :
    bytes (char :: rest) = String.utf8EncodeChar char ++ bytes rest :=
  List.flatMap_cons

theorem bytes_append (left right : List Char) : bytes (left ++ right) = bytes left ++ bytes right :=
  List.flatMap_append

theorem length_bytes (text : List Char) : (bytes text).length = byteSize text := by
  induction text with
  | nil => rfl
  | cons char rest ih => rw [bytes_cons, List.length_append, ih, String.length_utf8EncodeChar]; rfl

/-- Offsets in a text are totals of the sizes of its characters. -/
theorem total_utf8Size (text : List Char) : total Char.utf8Size text = byteSize text := by
  induction text with
  | nil => rfl
  | cons char rest ih => rw [total_cons, ih, byteSize]

section Encoding

variable {char ascii : Char} {accepts : Char → Bool} {byte : UInt8}

theorem encoded_eq (char : Char) :
    String.utf8EncodeChar char = leadByte char :: trailBytes char := by
  have positive := char.utf8Size_pos
  rw [leadByte, trailBytes]
  cases encoded : String.utf8EncodeChar char with
  | nil =>
      rw [← String.length_utf8EncodeChar, encoded] at positive
      cases positive
  | cons lead trail => rfl

theorem encoded_ascii (narrow : char.toNat < 128) :
    String.utf8EncodeChar char = [char.toUInt8] := by
  have value : char.val.toNat = char.toNat := rfl
  simp only [String.utf8EncodeChar, value, if_pos (Nat.le_of_lt_succ narrow)]
  rfl

theorem utf8Size_eq (char : Char) : char.utf8Size = (trailBytes char).length + 1 := by
  rw [← String.length_utf8EncodeChar, encoded_eq, List.length_cons]

theorem utf8Size_of_narrow (narrow : char.toNat < 128) : char.utf8Size = 1 := by
  rw [← String.length_utf8EncodeChar, encoded_ascii narrow, List.length_singleton]

/-- All bytes of a character outside ASCII have the highest bit set. -/
theorem high_of_encoded (wide : 128 ≤ char.toNat) :
    ∀ byte ∈ String.utf8EncodeChar char, 128 ≤ byte.toNat := by
  have value : char.val.toNat = char.toNat := rfl
  simp only [String.utf8EncodeChar, value, if_neg (Nat.not_le_of_lt wide)]
  repeat' split
  all_goals
    simp
    omega

theorem high_of_trailBytes : ∀ byte ∈ trailBytes char, 128 ≤ byte.toNat := by
  intro byte member
  by_cases narrow : char.toNat < 128
  · rw [trailBytes, encoded_ascii narrow] at member
    cases member
  · exact high_of_encoded (Nat.le_of_not_lt narrow) byte (List.mem_of_mem_tail member)

theorem leadByte_ascii (narrow : char.toNat < 128) : leadByte char = char.toUInt8 := by
  rw [leadByte, encoded_ascii narrow]
  rfl

theorem high_of_leadByte (wide : 128 ≤ char.toNat) : 128 ≤ (leadByte char).toNat :=
  high_of_encoded wide _ (by rw [encoded_eq]; exact List.mem_cons_self)

theorem toNat_toUInt8 (narrow : ascii.toNat < 128) : ascii.toUInt8.toNat = ascii.toNat := by
  have value : ascii.toUInt8.toNat = ascii.toNat % 256 := rfl
  omega

/-- Only a character in ASCII starts with its byte. -/
theorem leadByte_eq_iff (narrow : ascii.toNat < 128) :
    leadByte char = ascii.toUInt8 ↔ char = ascii := by
  constructor
  · intro same
    have code := congrArg UInt8.toNat same
    rw [toNat_toUInt8 narrow] at code
    by_cases wide : 128 ≤ char.toNat
    · have high := high_of_leadByte wide
      omega
    · rw [leadByte_ascii (Nat.lt_of_not_le wide), toNat_toUInt8 (Nat.lt_of_not_le wide)] at code
      exact Char.ext (UInt32.toNat_inj.mp code)
  · rintro rfl
    exact leadByte_ascii narrow

theorem ne_of_high (narrow : ascii.toNat < 128) (high : 128 ≤ byte.toNat) :
    byte ≠ ascii.toUInt8 := by
  rintro rfl
  rw [toNat_toUInt8 narrow] at high
  omega

/-- A character in ASCII is seen by its byte. -/
theorem head?_bytes (narrow : ascii.toNat < 128) (text : List Char) :
    (bytes text).head? = some ascii.toUInt8 ↔ text.head? = some ascii := by
  cases text with
  | nil => simp [bytes]
  | cons char rest => simp [bytes_cons, encoded_eq, leadByte_eq_iff narrow]

/-- A newline is one byte, and no byte of another character. -/
theorem newline_not_mem_bytes (other : char ≠ '\n') : newline ∉ String.utf8EncodeChar char := by
  rw [encoded_eq, List.mem_cons, not_or]
  have narrow : '\n'.toNat < 128 := by decide
  exact ⟨fun same => other ((leadByte_eq_iff narrow).mp same.symm), fun member =>
    ne_of_high narrow (high_of_trailBytes _ member) rfl⟩

theorem toNat_ofUInt8 (byte : UInt8) : (Char.ofUInt8 byte).toNat = byte.toNat := rfl

theorem refuses_high (inAscii : InAscii accepts) (high : 128 ≤ byte.toNat) :
    accepts (Char.ofUInt8 byte) = false := by
  refine Bool.eq_false_iff.mpr fun accepted => ?_
  have narrow := inAscii _ accepted
  rw [toNat_ofUInt8] at narrow
  omega

/-- A class in ASCII is decided by the first byte. -/
theorem accepts_leadByte (inAscii : InAscii accepts) :
    accepts (Char.ofUInt8 (leadByte char)) = accepts char := by
  by_cases narrow : char.toNat < 128
  · have same : Char.ofUInt8 (leadByte char) = char := by
      refine Char.ext (UInt32.toNat_inj.mp ?_)
      rw [leadByte_ascii narrow]
      exact toNat_toUInt8 narrow
    rw [same]
  · rw [refuses_high inAscii (high_of_leadByte (Nat.le_of_not_lt narrow))]
    exact (Bool.eq_false_iff.mpr fun accepted => narrow (inAscii char accepted)).symm

theorem narrow_of_le {code : UInt32} (narrow : code.toNat < 128) (most : char.val ≤ code) :
    char.toNat < 128 :=
  Nat.lt_of_le_of_lt (UInt32.le_iff_toNat_le.mp most) narrow

theorem inAscii_isDigit : InAscii Char.isDigit := by
  intro char digit
  have within := (Bool.and_eq_true _ _).mp digit
  exact narrow_of_le (by decide) (of_decide_eq_true within.2)

theorem inAscii_isNamePart : InAscii isNamePart := by
  intro char part
  rcases (Bool.or_eq_true _ _).mp part with alphanum | underscore
  · rcases (Bool.or_eq_true _ _).mp alphanum with letter | digit
    · rcases (Bool.or_eq_true _ _).mp letter with upper | lower
      · have within : char.val ≥ 'A'.val ∧ char.val ≤ 'Z'.val := of_decide_eq_true upper
        exact narrow_of_le (by decide) within.2
      · have within := (Bool.and_eq_true _ _).mp lower
        exact narrow_of_le (by decide) (of_decide_eq_true within.2)
    · exact inAscii_isDigit char digit
  · cases eq_of_beq underscore
    decide

theorem inAscii_isNameStart : InAscii isNameStart :=
  fun char start => inAscii_isNamePart char (isNamePart_of_isNameStart start)

end Encoding

/-- Whether a byte may come second in a character, after this first byte. -/
def maySecond (lead second : UInt8) : Bool :=
  if lead = 0xE0 then 0xA0 ≤ second && second ≤ 0xBF
  else if lead = 0xED then 0x80 ≤ second && second ≤ 0x9F
  else if lead = 0xF0 then 0x90 ≤ second && second ≤ 0xBF
  else if lead = 0xF4 then 0x80 ≤ second && second ≤ 0x8F
  else 0xC2 ≤ lead && lead ≤ 0xF3 && 0x80 ≤ second && second ≤ 0xBF

/-- The number of bytes that are given up together where no character can be read: as
many as some character starts with, and one at least. -/
def brokenSize : List UInt8 → Nat
  | lead :: second :: third :: _ =>
      if maySecond lead second then if 0x80 ≤ third ∧ third ≤ 0xBF then 3 else 2 else 1
  | [lead, second] => if maySecond lead second then 2 else 1
  | _ => 1

/-- Reads bytes as a text. What is no character is replaced. -/
def decodeLossy : List UInt8 → List Char
  | [] => []
  | byte :: rest =>
      match (byte :: rest).toByteArray.utf8DecodeChar? 0 with
      | some char => char :: decodeLossy (rest.drop (char.utf8Size - 1))
      | none => '\ufffd' :: decodeLossy (rest.drop (brokenSize (byte :: rest) - 1))
termination_by bytes => bytes.length
decreasing_by
  all_goals
    rw [List.length_drop, List.length_cons]
    omega

/-- Nothing is replaced in the bytes of a text. -/
theorem decodeLossy_bytes (text : List Char) : decodeLossy (bytes text) = text := by
  induction text with
  | nil => exact decodeLossy.eq_1
  | cons char rest ih =>
      have decoded : (bytes (char :: rest)).toByteArray.utf8DecodeChar? 0 = some char := by
        rw [bytes_cons, List.toByteArray_append]
        exact ByteArray.utf8DecodeChar?_utf8EncodeChar_append
      have size : char.utf8Size - 1 = (trailBytes char).length := by
        rw [utf8Size_eq, Nat.add_sub_cancel]
      rw [bytes_cons, encoded_eq, List.cons_append] at decoded ⊢
      simp only [decodeLossy, decoded, size, List.drop_left, ih]

end CheckedSql.Text

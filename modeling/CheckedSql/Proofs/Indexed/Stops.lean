import CheckedSql.Proofs.Indexed.Lookup
import CheckedSql.Proofs.Sql.Grammar
import CheckedSql.Proofs.Text.Bytes

namespace CheckedSql.Sql.Indexed

open Text

/-- The offset past the quote that closes, if one does, from inside the quotes. The byte
after a backslash is not looked at, and may lie past the end. -/
def quotedStop? (source : List UInt8) (quote : UInt8) (offset : Nat) : Option (Option Nat) :=
  if _within : offset < source.length then do
    let byte ← source[offset]?
    if byte = '\\'.toUInt8 ∧ quote ≠ '`'.toUInt8 then quotedStop? source quote (offset + 2)
    else if byte = quote then
      if source[offset + 1]? = some quote then quotedStop? source quote (offset + 2)
      else return some (offset + 1)
    else quotedStop? source quote (offset + 1)
  else return none
termination_by source.length - offset

/-- The offset past a line comment: past its newline, or the end. -/
def lineStop? (source : List UInt8) (offset : Nat) : Option Nat := do
  let ahead ← range? source offset source.length
  return match ahead.findIdx? (· == newline) with
    | some index => offset + index + 1
    | none => source.length

/-- The index of the first star and slash. -/
def starSlash? : List UInt8 → Option Nat
  | first :: second :: rest =>
      if first = '*'.toUInt8 ∧ second = '/'.toUInt8 then some 0
      else (starSlash? (second :: rest)).map (· + 1)
  | _ => none

/-- The offset past a block comment: past its star and slash, or the end. -/
def blockStop? (source : List UInt8) (offset : Nat) : Option Nat := do
  let ahead ← range? source (offset + 2) source.length
  return match starSlash? ahead with
    | some index => offset + 2 + index + 2
    | none => source.length

/-- The offset past the bytes that go on with a name. -/
def nameStop? (source : List UInt8) (offset : Nat) : Option Nat :=
  if _within : offset < source.length then do
    let byte ← source[offset]?
    if isNamePart (Char.ofUInt8 byte) then nameStop? source (offset + 1) else return offset
  else return offset
termination_by source.length - offset

/-- Whether a text is what stands at an offset of bytes. -/
def Ahead (source : List UInt8) (offset : Nat) (text : List Char) : Prop :=
  source.drop offset = bytes text

namespace Ahead

variable {source : List UInt8} {offset : Nat} {char ascii : Char} {left rest : List Char}

theorem cons (ahead : Ahead source offset (char :: rest)) :
    source.drop offset = leadByte char :: (trailBytes char ++ bytes rest) := by
  rw [← List.cons_append, ← encoded_eq]
  exact ahead

theorem trail (ahead : Ahead source offset (char :: rest)) :
    source.drop (offset + 1) = trailBytes char ++ bytes rest :=
  drop_ahead ahead.cons

theorem append (ahead : Ahead source offset (left ++ rest)) :
    Ahead source (offset + byteSize left) rest := by
  rw [Ahead, ← List.drop_drop, show source.drop offset = _ from ahead, bytes_append, ← length_bytes,
    List.drop_left]

theorem next (ahead : Ahead source offset (char :: rest)) :
    Ahead source (offset + char.utf8Size) rest := by
  have further : Ahead source (offset + byteSize [char]) rest := append ahead
  exact further

theorem narrow (ahead : Ahead source offset (ascii :: rest)) (narrow : ascii.toNat < 128) :
    Ahead source (offset + 1) rest := by
  have further := ahead.trail
  rwa [trailBytes, encoded_ascii narrow, List.tail_cons, List.nil_append] at further

/-- A character in ASCII is seen by its byte. -/
theorem head_iff (ahead : Ahead source offset rest) (narrow : ascii.toNat < 128) :
    source[offset]? = some ascii.toUInt8 ↔ rest.head? = some ascii := by
  rw [getElem?_ahead ahead, head?_bytes narrow]

theorem range (ahead : Ahead source offset (char :: rest)) :
    range? source offset source.length = some (bytes (char :: rest)) := by
  rw [range?_to_end (Nat.le_of_lt (lt_of_ahead ahead.cons))]
  exact congrArg some ahead

theorem length (ahead : Ahead source offset (char :: rest)) :
    source.length = offset + byteSize (char :: rest) := by
  have size := congrArg List.length (show source.drop offset = bytes (char :: rest) from ahead)
  rw [List.length_drop, length_bytes] at size
  have within := lt_of_ahead ahead.cons
  omega

end Ahead

theorem inAscii_isQuote : InAscii isQuote := by
  intro char quoted
  simp only [isQuote, Bool.or_eq_true, beq_iff_eq] at quoted
  rcases quoted with (rfl | rfl) | rfl <;> decide

section QuotedStop

variable {source trail after : List UInt8} {offset : Nat} {quote char : Char} {rest : List Char}

/-- A byte that neither escapes nor closes is passed. -/
theorem quotedStop?_plain {byte : UInt8} (ahead : source.drop offset = byte :: after)
    (unescaped : byte = '\\'.toUInt8 → quote = '`') (different : byte ≠ quote.toUInt8) :
    quotedStop? source quote.toUInt8 offset = quotedStop? source quote.toUInt8 (offset + 1) := by
  have passes : ¬ (byte = '\\'.toUInt8 ∧ quote.toUInt8 ≠ '`'.toUInt8) := by
    rintro ⟨escape, other⟩
    exact other (by rw [unescaped escape])
  rw [quotedStop?, dif_pos (lt_of_ahead ahead), getElem?_ahead ahead]
  simp only [List.head?_cons, Option.bind_eq_bind, Option.bind_some, if_neg passes,
    if_neg different]

/-- The bytes of a character after its first neither escape nor close. -/
theorem quotedStop?_trail (isQuoted : isQuote quote = true)
    (high : ∀ byte ∈ trail, 128 ≤ byte.toNat) (ahead : source.drop offset = trail ++ after) :
    quotedStop? source quote.toUInt8 offset =
      quotedStop? source quote.toUInt8 (offset + trail.length) := by
  refine eq_past (fun offset byte after ahead high => ?_) high ahead
  exact quotedStop?_plain ahead (fun escape => absurd escape (ne_of_high (by decide) high))
    (ne_of_high (inAscii_isQuote quote isQuoted) high)

theorem quotedStop?_next (isQuoted : isQuote quote = true)
    (ahead : Ahead source offset (char :: rest))
    (unescaped : char = '\\' → quote = '`') (different : char ≠ quote) :
    quotedStop? source quote.toUInt8 offset =
      quotedStop? source quote.toUInt8 (offset + char.utf8Size) := by
  have narrow := inAscii_isQuote quote isQuoted
  rw [quotedStop?_plain ahead.cons
    (fun escape => unescaped ((leadByte_eq_iff (by decide)).mp escape))
    (mt (leadByte_eq_iff narrow).mp different),
    quotedStop?_trail isQuoted high_of_trailBytes ahead.trail, utf8Size_eq]
  exact congrArg (quotedStop? source quote.toUInt8) (by omega)

theorem quotedStop?_escape (escapes : quote ≠ '`') (isQuoted : isQuote quote = true)
    (ahead : Ahead source offset ('\\' :: rest)) :
    quotedStop? source quote.toUInt8 offset = quotedStop? source quote.toUInt8 (offset + 2) := by
  have other : quote.toUInt8 ≠ '`'.toUInt8 := by
    simp only [isQuote, Bool.or_eq_true, beq_iff_eq] at isQuoted
    rcases isQuoted with (rfl | rfl) | rfl
    · decide
    · decide
    · exact absurd rfl escapes
  rw [quotedStop?, dif_pos (lt_of_ahead ahead.cons), getElem?_ahead ahead.cons]
  exact if_pos ⟨rfl, other⟩

/-- The byte after a backslash is passed, be it a whole character or the first of one. -/
theorem quotedStop?_escaped (escapes : quote ≠ '`') (isQuoted : isQuote quote = true)
    (ahead : Ahead source offset ('\\' :: char :: rest)) :
    quotedStop? source quote.toUInt8 offset =
      quotedStop? source quote.toUInt8 (offset + 1 + char.utf8Size) := by
  have further := ahead.narrow (by decide)
  rw [quotedStop?_escape escapes isQuoted ahead,
    quotedStop?_trail isQuoted high_of_trailBytes further.trail, utf8Size_eq]
  exact congrArg (quotedStop? source quote.toUInt8) (by omega)

theorem quotedStop?_quote (isQuoted : isQuote quote = true)
    (ahead : Ahead source offset (quote :: rest)) :
    quotedStop? source quote.toUInt8 offset =
      if rest.head? = some quote then quotedStop? source quote.toUInt8 (offset + 2)
      else some (some (offset + 1)) := by
  have narrow := inAscii_isQuote quote isQuoted
  have notEscape : ¬ (leadByte quote = '\\'.toUInt8 ∧ quote.toUInt8 ≠ '`'.toUInt8) := by
    rintro ⟨escape, _⟩
    exact ne_escape_of_isQuote isQuoted ((leadByte_eq_iff (by decide)).mp escape)
  rw [quotedStop?, dif_pos (lt_of_ahead ahead.cons), getElem?_ahead ahead.cons]
  simp only [List.head?_cons, Option.bind_eq_bind, Option.bind_some, if_neg notEscape,
    if_pos (leadByte_ascii narrow), (ahead.narrow narrow).head_iff narrow]
  rfl

/-- Where quotes end is counted from before what is read of them first. -/
theorem map_stop {offset start : Nat} (first : List Char)
    (reached : start = offset + byteSize first)
    (read : Option (List Char × List Char)) :
    read.map (fun (body, _) => start + byteSize body + 1) =
      (read.map fun (body, after) => (first ++ body, after)).map
        fun (body, _) => offset + byteSize body + 1 := by
  rw [Option.map_map]
  refine Option.map_congr fun read _ => ?_
  simp only [Function.comp, byteSize_append, reached, Nat.add_assoc]

theorem quotedStop?_eq (isQuoted : isQuote quote = true) (ahead : Ahead source offset rest) :
    quotedStop? source quote.toUInt8 offset =
      some ((quotedBody quote rest).map fun (body, _) => offset + byteSize body + 1) := by
  have narrow := inAscii_isQuote quote isQuoted
  have escape : '\\'.toNat < 128 := by decide
  have sizes : '\\'.utf8Size = 1 ∧ quote.utf8Size = 1 :=
    ⟨utf8Size_of_narrow escape, utf8Size_of_narrow narrow⟩
  fun_induction quotedBody quote rest generalizing offset with
  | case1 =>
      rw [quotedStop?, dif_neg (not_lt_of_ahead ahead)]
      rfl
  | case2 rest backtick ih =>
      rw [quotedStop?_next isQuoted ahead (fun _ => backtick) (ne_escape_of_isQuote isQuoted).symm,
        ih ahead.next]
      exact congrArg some (map_stop ['\\'] rfl _)
  | case3 escapes =>
      -- The byte that the backslash takes with it would stand past the end.
      have ended := not_lt_of_ahead (ahead.narrow escape)
      rw [quotedStop?_escape escapes isQuoted ahead, quotedStop?, dif_neg (by omega)]
      rfl
  | case4 escapes escaped rest ih =>
      rw [quotedStop?_escaped escapes isQuoted ahead, ih (ahead.narrow escape).next]
      exact congrArg some (map_stop ['\\', escaped] (by simp only [byteSize, sizes]; omega) _)
  | case5 =>
      rw [quotedStop?_quote isQuoted ahead]
      rfl
  | case6 after notEscape ih =>
      rw [quotedStop?_quote isQuoted ahead, if_pos (by exact List.head?_cons),
        ih ((ahead.narrow narrow).narrow narrow)]
      exact congrArg some (map_stop [quote, quote] (by simp only [byteSize, sizes]) _)
  | case7 next after different =>
      rw [quotedStop?_quote isQuoted ahead, if_neg (by simpa using different)]
      rfl
  | case8 char rest notEscape notQuote ih =>
      rw [quotedStop?_next isQuoted ahead (fun escape => absurd escape notEscape) notQuote,
        ih ahead.next]
      exact congrArg some (map_stop [char] rfl _)

end QuotedStop

section Stops

variable {source trail after : List UInt8} {offset stop : Nat} {char : Char} {rest body : List Char}

/-- The first newline among the bytes of a text is the one that ends its first line. -/
theorem findIdx?_newline (text : List Char) :
    (bytes text).findIdx? (· == newline) =
      if '\n' ∈ text then some (byteSize (text.takeWhile (· != '\n'))) else none := by
  induction text with
  | nil => rfl
  | cons char rest ih =>
      by_cases same : char = '\n'
      · subst same
        rfl
      · have absent : (String.utf8EncodeChar char).findIdx? (· == newline) = none := by
          rw [List.findIdx?_eq_none_iff]
          intro byte member
          exact beq_false_of_ne fun found => newline_not_mem_bytes same (found ▸ member)
        rw [bytes_cons, List.findIdx?_append, absent, Option.none_or, ih,
          List.takeWhile_cons_of_pos (by simpa using same), String.length_utf8EncodeChar]
        simp only [List.mem_cons, Ne.symm same, false_or]
        split
        · simp [byteSize, Nat.add_comm]
        · rfl

theorem lineStop?_eq (ahead : Ahead source offset ('-' :: '-' :: rest)) :
    lineStop? source offset = some (offset + (lineSegment rest).1.size) := by
  have whole : source.length = offset + byteSize ('-' :: '-' :: rest) := ahead.length
  have parts := List.takeWhile_append_dropWhile (p := (· != '\n')) (l := rest)
  unfold lineStop? lineSegment
  rw [ahead.range]
  simp only [Option.bind_eq_bind, Option.bind_some, findIdx?_newline]
  cases ended : rest.dropWhile (· != '\n') with
  | nil =>
      rw [ended, List.append_nil] at parts
      have absent : '\n' ∉ '-' :: '-' :: rest := by
        intro member
        have inside := List.dropWhile_eq_nil_iff.mp ended '\n' (by simpa using member)
        cases inside
      rw [if_neg absent, whole]
      simp [Segment.size, Segment.text, parts]
  | cons found after =>
      have newline : found = '\n' := by
        have stopped := List.head?_dropWhile_not (· != '\n') rest
        simpa [ended] using stopped
      have present : '\n' ∈ '-' :: '-' :: rest := by
        rw [← parts, ended, newline]
        simp
      have oneByte : '\n'.utf8Size = 1 := rfl
      rw [if_pos present]
      simp [Segment.size, Segment.text, byteSize, byteSize_append, oneByte]
      omega

/-- A byte that is no star before a slash is passed. -/
theorem starSlash?_next {byte : UInt8}
    (opens : ¬ (byte = '*'.toUInt8 ∧ after.head? = some '/'.toUInt8)) :
    starSlash? (byte :: after) = (starSlash? after).map (· + 1) := by
  cases after with
  | nil => rfl
  | cons next after => rw [starSlash?, if_neg (by simpa using opens)]

theorem starSlash?_trail (high : ∀ byte ∈ trail, 128 ≤ byte.toNat) :
    starSlash? (trail ++ after) = (starSlash? after).map (· + trail.length) := by
  induction trail with
  | nil => simp
  | cons byte trail ih =>
      obtain ⟨first, further⟩ := List.forall_mem_cons.mp high
      have passes : byte ≠ '*'.toUInt8 := ne_of_high (by decide) first
      rw [List.cons_append, starSlash?_next (fun closes => passes closes.1), ih further,
        Option.map_map]
      rfl

theorem starSlash?_bytes (rest : List Char) :
    starSlash? (bytes rest) = (commentBody rest).map fun (body, _) => byteSize body := by
  fun_induction commentBody rest with
  | case1 => rfl
  | case2 rest => rfl
  | case3 char rest notEnd ih =>
      have opens : ¬ (leadByte char = '*'.toUInt8 ∧
          (trailBytes char ++ bytes rest).head? = some '/'.toUInt8) := by
        rintro ⟨star, slash⟩
        have same := (leadByte_eq_iff (by decide)).mp star
        subst same
        obtain ⟨further, parts⟩ := List.head?_eq_some_iff.mp
          ((head?_bytes (by decide) rest).mp slash)
        exact notEnd further rfl parts
      rw [bytes_cons, encoded_eq, List.cons_append, starSlash?_next opens,
        starSlash?_trail high_of_trailBytes, ih]
      simp only [Option.map_map]
      refine Option.map_congr fun read _ => ?_
      simp [byteSize, utf8Size_eq]
      omega

theorem nameStop?_eq (ahead : Ahead source offset rest) :
    nameStop? source offset = some (offset + byteSize (rest.takeWhile isNamePart)) := by
  induction rest generalizing offset with
  | nil =>
    rw [nameStop?, dif_neg (not_lt_of_ahead ahead)]
    rfl
  | cons char rest ih =>
    rw [nameStop?, dif_pos (lt_of_ahead ahead.cons), getElem?_ahead ahead.cons]
    simp only [List.head?_cons, Option.bind_eq_bind, Option.bind_some,
      accepts_leadByte inAscii_isNamePart]
    by_cases part : isNamePart char = true
    · have narrow := inAscii_isNamePart char part
      rw [if_pos part, ih (ahead.narrow narrow), List.takeWhile_cons_of_pos part]
      simp only [byteSize, utf8Size_of_narrow narrow, Nat.add_assoc]
    · rw [if_neg part, List.takeWhile_cons_of_neg part]
      rfl

theorem blockStop?_eq (ahead : Ahead source offset ('/' :: '*' :: rest)) :
    blockStop? source offset = some (offset + (blockSegment rest).1.size) := by
  have inside : Ahead source (offset + 2) rest := (ahead.narrow (by decide)).narrow (by decide)
  have whole : source.length = offset + byteSize ('/' :: '*' :: rest) := ahead.length
  have sizes : '/'.utf8Size = 1 ∧ '*'.utf8Size = 1 := ⟨rfl, rfl⟩
  have within : offset + 2 ≤ source.length := by
    simp only [whole, byteSize, sizes]
    omega
  unfold blockStop? blockSegment
  rw [range?_to_end within, show source.drop (offset + 2) = bytes rest from inside]
  simp only [Option.bind_eq_bind, Option.bind_some, starSlash?_bytes]
  cases commentBody rest with
  | none => simp [whole, Segment.size, Segment.text]
  | some read =>
      simp [Segment.size, Segment.text, byteSize, byteSize_append, sizes]
      omega

end Stops

end CheckedSql.Sql.Indexed

import CheckedSql.Proofs.Indexed.Scanning
import CheckedSql.Proofs.Sql.Likeness

namespace CheckedSql.Sql.Indexed

open Text

/-- The offsets between which to blank at an offset, if there are any, and the offset past
what stands there. The quotes of a literal stay, and all of a name in backticks. -/
def hiddenAt? (source : List UInt8) (offset : Nat) : Lookup (Option (Nat × Nat) × Nat) := do
  match ← passageAt? source offset with
  | .quoted quote stop =>
      if quote = '`'.toUInt8 then return (none, stop)
      else return (some (offset + 1, stop - 1), stop)
  | .comment stop => return (some (offset, stop), stop)
  | .other _ => return (none, offset + 1)

def hide? (masked : List UInt8) : Option (Nat × Nat) → Option (List UInt8)
  | some (start, stop) => changeRange? blankByte masked start stop
  | none => some masked

/-- Blanks in the bytes of a masked text what is to be blanked from an offset on. -/
def blankAt? (source masked : List UInt8) (offset : Nat) : Lookup (List UInt8) :=
  if _within : offset < source.length then do
    let (hidden, stop) ← hiddenAt? source offset
    let masked ← hide? masked hidden
    let ⟨stop, _further⟩ ← past? offset stop
    blankAt? source masked stop
  else return masked
termination_by source.length - offset

/-- The bytes of the masked text, before they are read as a text. -/
def maskedBytes? (text : List Char) : Lookup (List UInt8) :=
  blankAt? (bytes text) (bytes text) 0

def mask? (text : List Char) : Lookup (List Char) := do
  let masked ← maskedBytes? text
  return decodeLossy masked

section Blanks

variable {source masked after : List UInt8} {offset stop : Nat} {byte : UInt8} {char : Char}

theorem hiddenAt?_plain (ahead : source.drop offset = byte :: after) (plain : Plain byte) :
    hiddenAt? source offset = .found (.ok (none, offset + 1)) := by
  unfold hiddenAt?
  rw [passageAt?_plain ahead plain]
  rfl

theorem blankAt?_step {hidden : Option (Nat × Nat)} {blanked : List UInt8}
    (within : offset < source.length)
    (read : hiddenAt? source offset = .found (.ok (hidden, stop)))
    (hides : hide? masked hidden = some blanked) (further : offset < stop) :
    blankAt? source masked offset = blankAt? source blanked stop := by
  rw [blankAt?, dif_pos within, read]
  exact (Lookup.some_bind hides _).trans (Lookup.some_bind (past?_eq further) _)

theorem blankAt?_plain {plain : List UInt8} (each : ∀ byte ∈ plain, Plain byte)
    (ahead : source.drop offset = plain ++ after) :
    blankAt? source masked offset = blankAt? source masked (offset + plain.length) := by
  refine eq_past (fun offset byte after ahead plain => ?_) each ahead
  exact blankAt?_step (lt_of_ahead ahead) (hiddenAt?_plain ahead plain) rfl (Nat.lt_succ_self _)

theorem blankAt?_fault {fault : Fault} (within : offset < source.length)
    (read : hiddenAt? source offset = .found (.error fault)) :
    blankAt? source masked offset = .found (.error fault) := by
  rw [blankAt?, dif_pos within, read]
  rfl

/-- No byte of such a character starts quotes or a comment. -/
theorem plain_of_mem_encoded (unquoted : isQuote char = false) (notDash : char ≠ '-')
    (notSlash : char ≠ '/') : ∀ byte ∈ String.utf8EncodeChar char, Plain byte := by
  rw [encoded_eq]
  refine List.forall_mem_cons.mpr ⟨⟨?_, ?_, ?_⟩, fun byte member => ?_⟩
  · rwa [accepts_leadByte inAscii_isQuote]
  · exact mt (leadByte_eq_iff (by decide)).mp notDash
  · exact mt (leadByte_eq_iff (by decide)).mp notSlash
  · exact plain_of_high (high_of_trailBytes byte member)

theorem plain_of_isNamePart (part : isNamePart char = true) :
    ∀ byte ∈ String.utf8EncodeChar char, Plain byte := by
  refine plain_of_mem_encoded (isQuote_of_isNamePart part) ?_ ?_
  · rintro rfl
    cases part
  · rintro rfl
    cases part

/-- Names, colons and what else stands in markers and operators hide nothing. -/
theorem plain_of_marks {text : List Char}
    (parts : ∀ char ∈ text, isNamePart char = true ∨ char = ':' ∨ char = '=' ∨ char = '?') :
    ∀ byte ∈ bytes text, Plain byte := by
  intro byte member
  obtain ⟨char, present, encoded⟩ := List.mem_flatMap.mp member
  rcases parts char present with part | rfl | rfl | rfl
  · exact plain_of_isNamePart part byte encoded
  all_goals exact plain_of_mem_encoded rfl (by decide) (by decide) byte encoded

theorem hide?_literal (masked after : List UInt8) (quote : UInt8) (body : List UInt8) :
    hide? (masked ++ quote :: (body ++ [quote]) ++ after)
        (some (masked.length + 1, masked.length + 1 + body.length)) =
      some (masked ++ quote :: (body.map blankByte ++ [quote]) ++ after) := by
  have hidden := changeRange?_between blankByte (masked ++ [quote]) body (quote :: after)
  simpa [hide?] using hidden

theorem hide?_comment (masked comment after : List UInt8) :
    hide? (masked ++ comment ++ after) (some (masked.length, masked.length + comment.length)) =
      some (masked ++ comment.map blankByte ++ after) :=
  changeRange?_between blankByte masked comment after

end Blanks

/-- Whether the scan goes over a segment in one step. It goes over the others byte by
byte, and they hide nothing. -/
def Leaps : Segment → Prop
  | .positional | .colon | .operator _ | .named _ => False
  | .other char => char.toNat < 128
  | _ => True

/-- The offsets between which a segment hides what it holds. -/
def hidden? (offset : Nat) : Segment → Option (Nat × Nat)
  | .literal quote body => some (offset + 1, offset + (Segment.literal quote body).size - 1)
  | .lineComment body ended => some (offset, offset + (Segment.lineComment body ended).size)
  | .blockComment body closed => some (offset, offset + (Segment.blockComment body closed).size)
  | _ => none

section Segments

variable {text before rest : List Char} {masked : List UInt8} {char : Char} {offset : Nat}
  {segment : Segment}

theorem plain_of_not_leaps (legal : segment.Legal) (loose : ¬ Leaps segment) :
    segment.masked = segment.text ∧ ∀ byte ∈ bytes segment.text, Plain byte := by
  cases segment with
  | positional => exact ⟨rfl, plain_of_marks (by simp [Segment.text])⟩
  | colon => exact ⟨rfl, plain_of_marks (by simp [Segment.text])⟩
  | operator second =>
      refine ⟨rfl, plain_of_marks ?_⟩
      rcases legal with rfl | rfl <;> simp [Segment.text]
  | named name =>
      obtain ⟨first, later, rfl, starts, each⟩ := legal
      have parts := isNamePart_of_isNameStart starts
      refine ⟨rfl, plain_of_marks ?_⟩
      simpa [Segment.text, parts] using fun char member => .inl (each char member)
  | other char =>
      have high := high_of_encoded (Nat.le_of_not_lt loose)
      refine ⟨rfl, fun byte member => plain_of_high (high byte ?_)⟩
      simpa [Segment.text, bytes] using member
  | literal | identifier | lineComment | blockComment | unclosed => exact absurd trivial loose

/-- What a segment hides is blanked where it stands. -/
theorem hide?_segment (masked after : List UInt8) (legal : segment.Legal)
    (closed : segment.Closed) :
    hide? (masked ++ bytes segment.text ++ after) (hidden? masked.length segment) =
      some (masked ++ bytes segment.masked ++ after) := by
  have comment : segment.masked = blanked segment.text →
      hide? (masked ++ bytes segment.text ++ after)
        (some (masked.length, masked.length + segment.size)) =
        some (masked ++ bytes segment.masked ++ after) := by
    intro same
    rw [same, bytes_blanked, Segment.size, ← length_bytes]
    exact hide?_comment masked _ _
  cases segment with
  | literal quote body =>
      have narrow := inAscii_isQuote quote (isQuote_of_literal legal.1)
      have stop : masked.length + Segment.size (.literal quote body) - 1 =
          masked.length + 1 + (bytes body).length := by
        simp only [Segment.size, Segment.text, List.cons_append, byteSize, byteSize_append,
          utf8Size_of_narrow narrow, length_bytes]
        omega
      have written : ∀ inside, bytes (quote :: inside ++ [quote]) =
          quote.toUInt8 :: (bytes inside ++ [quote.toUInt8]) := by
        simp [bytes, encoded_ascii narrow]
      rw [hidden?, stop, Segment.text, Segment.masked, written, written, bytes_blanked]
      exact hide?_literal masked after quote.toUInt8 (bytes body)
  | lineComment => exact comment rfl
  | blockComment => exact comment rfl
  | unclosed => exact closed.elim
  | _ => rfl

/-- One step of the scan finds what its segment hides. -/
theorem hiddenAt?_eq (whole : text = before ++ char :: rest)
    (leaps : Leaps (firstSegment char rest).1) (closed : (firstSegment char rest).1.Closed) :
    hiddenAt? (bytes text) (byteSize before) =
      .found (.ok (hidden? (byteSize before) (firstSegment char rest).1,
        byteSize before + (firstSegment char rest).1.size)) := by
  have narrow : char.toNat < 128 := by
    by_contra wide
    rw [firstSegment_wide rest (Nat.le_of_not_lt wide)] at leaps
    exact wide leaps
  have read := passageAt?_eq narrow (ahead_of_split whole)
  have parts := firstSegment_text char rest
  have legal := (stops_firstSegment char rest).1
  unfold hiddenAt?
  rw [read]
  generalize firstSegment char rest = first at leaps closed parts legal ⊢
  obtain ⟨segment, further⟩ := first
  cases segment with
  | literal quote body =>
      cases parts
      have notBacktick : leadByte char ≠ '`'.toUInt8 := by
        intro same
        rcases legal.1 with rfl | rfl <;> cases (leadByte_eq_iff (by decide)).mp same
      exact if_neg notBacktick
  | identifier body =>
      cases parts
      rfl
  | lineComment => rfl
  | blockComment => rfl
  | other char =>
      cases parts
      rw [show Segment.size (.other char) = 1 from utf8Size_of_narrow narrow]
      rfl
  | unclosed => exact closed.elim
  | positional | colon | operator | named => exact leaps.elim

/-- Over a segment the scan blanks what the segment hides. -/
theorem blankAt?_segment (whole : text = before ++ char :: rest)
    (size : masked.length = byteSize before) (closed : (firstSegment char rest).1.Closed) :
    blankAt? (bytes text) (masked ++ bytes (char :: rest)) (byteSize before) =
      blankAt? (bytes text)
        (masked ++ bytes (firstSegment char rest).1.masked ++ bytes (firstSegment char rest).2)
        (byteSize before + (firstSegment char rest).1.size) := by
  have ahead : Ahead (bytes text) (byteSize before)
      ((firstSegment char rest).1.text ++ (firstSegment char rest).2) := by
    rw [firstSegment_text]
    exact ahead_of_split whole
  have legal := (stops_firstSegment char rest).1
  rw [← firstSegment_text char rest, bytes_append, ← List.append_assoc]
  by_cases leaps : Leaps (firstSegment char rest).1
  · have hides := hide?_segment masked (bytes (firstSegment char rest).2) legal closed
    rw [size] at hides
    exact blankAt?_step (lt_of_ahead (ahead_of_split whole).cons) (hiddenAt?_eq whole leaps closed)
      hides (Nat.lt_add_of_pos_right (firstSegment char rest).1.size_pos)
  · obtain ⟨same, plain⟩ := plain_of_not_leaps legal leaps
    rw [Ahead, bytes_append] at ahead
    rw [same, blankAt?_plain plain ahead, length_bytes, Segment.size]

theorem maskFrom_closed {segment : Segment} (closed : segment.Closed) (offset : Nat)
    (rest : List Segment) :
    maskFrom offset (segment :: rest) =
      (maskFrom (offset + segment.size) rest).map (segment.masked ++ ·) := by
  cases segment <;> first | rfl | exact closed.elim

theorem maskFrom_open {segment : Segment} (opened : ¬ segment.Closed) (offset : Nat)
    (rest : List Segment) :
    maskFrom offset (segment :: rest) = .error (.malformedQuery offset .unclosedQuote) := by
  cases segment <;> first | rfl | exact absurd trivial opened

theorem hiddenAt?_open (ahead : Ahead (bytes text) offset (char :: rest))
    (opened : ¬ (firstSegment char rest).1.Closed) :
    hiddenAt? (bytes text) offset = .found (.error (.malformedQuery offset .unclosedQuote)) := by
  have narrow : char.toNat < 128 := by
    refine Nat.lt_of_not_le fun wide => opened ?_
    rw [firstSegment_wide rest wide]
    trivial
  have passed : passage offset (leadByte char) (firstSegment char rest).1 =
      .error (.malformedQuery offset .unclosedQuote) := by
    cases found : (firstSegment char rest).1 <;> rw [found] at opened <;>
      first | rfl | exact absurd trivial opened
  unfold hiddenAt?
  rw [passageAt?_eq narrow ahead, passed]
  rfl

/-- The bytes ahead are blanked from every offset where a segment starts. -/
theorem blankAt?_eq (whole : text = before ++ rest) (size : masked.length = byteSize before) :
    blankAt? (bytes text) (masked ++ bytes rest) (byteSize before) =
      .found ((maskFrom (byteSize before) (split rest)).map fun hidden =>
        masked ++ bytes hidden) := by
  have ahead := ahead_of_split whole
  fun_induction split rest generalizing before masked with
  | case1 =>
      rw [blankAt?, dif_neg (not_lt_of_ahead ahead)]
      rfl
  | case2 char rest ih =>
      by_cases closed : (firstSegment char rest).1.Closed
      · have further :
            text = before ++ (firstSegment char rest).1.text ++ (firstSegment char rest).2 := by
          rw [List.append_assoc, firstSegment_text, whole]
        have reached : (masked ++ bytes (firstSegment char rest).1.masked).length =
            byteSize (before ++ (firstSegment char rest).1.text) := by
          rw [List.length_append, size, length_bytes, Segment.byteSize_masked, byteSize_append,
            Segment.size]
        have later := ih further reached (ahead_of_split further)
        rw [byteSize_append, ← Segment.size] at later
        rw [blankAt?_segment whole size closed, later, maskFrom_closed closed]
        cases maskFrom (byteSize before + (firstSegment char rest).1.size)
          (split (firstSegment char rest).2) with
        | error fault => rfl
        | ok hidden => simp only [Except.map, bytes_append, List.append_assoc]
      · rw [blankAt?_fault (lt_of_ahead ahead.cons) (hiddenAt?_open ahead closed),
          maskFrom_open closed]
        rfl

end Segments

theorem maskedBytes?_eq (text : List Char) :
    maskedBytes? text = .found ((mask text).map bytes) := by
  have read : blankAt? (bytes text) ([] ++ bytes text) (byteSize []) = _ :=
    blankAt?_eq (List.nil_append text).symm rfl
  exact read

/-- Blanking whole insides leaves whole characters, so that nothing is replaced. -/
theorem mask?_eq (text : List Char) : mask? text = .found (mask text) := by
  unfold mask?
  rw [maskedBytes?_eq]
  cases mask text with
  | error fault => rfl
  | ok masked => exact congrArg (fun read => Lookup.found (.ok read)) (decodeLossy_bytes masked)

end CheckedSql.Sql.Indexed

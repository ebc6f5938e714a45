import CheckedSql.Proofs.Indexed.Stops
import CheckedSql.Proofs.Sql.Scanning

namespace CheckedSql.Sql.Indexed

open Text

/-- What stands at an offset: quotes or a comment, with the offset past them, or the byte
of something else. -/
inductive Passage where
  | quoted (quote : UInt8) (stop : Nat)
  | comment (stop : Nat)
  | other (byte : UInt8)

def passageAt? (source : List UInt8) (offset : Nat) : Lookup Passage := do
  let byte ← (source[offset]? : Option UInt8)
  if isQuote (Char.ofUInt8 byte) then
    match ← quotedStop? source byte (offset + 1) with
    | some stop => return .quoted byte stop
    | none => throw (.malformedQuery offset .unclosedQuote)
  else if byte = '-'.toUInt8 ∧ source[offset + 1]? = some '-'.toUInt8 then
    return .comment (← lineStop? source offset)
  else if byte = '/'.toUInt8 ∧ source[offset + 1]? = some '*'.toUInt8 then
    return .comment (← blockStop? source offset)
  else return .other byte

/-- What a segment is passed as, where it starts with this byte. -/
def passage (offset : Nat) (byte : UInt8) (segment : Segment) : Except Fault Passage :=
  match segment with
  | .unclosed _ _ => .error (.malformedQuery offset .unclosedQuote)
  | .literal _ _ | .identifier _ => .ok (.quoted byte (offset + segment.size))
  | .lineComment _ _ | .blockComment _ _ => .ok (.comment (offset + segment.size))
  | _ => .ok (.other byte)

/-- A byte that starts neither quotes nor a comment, whatever follows it. -/
structure Plain (byte : UInt8) : Prop where
  unquoted : isQuote (Char.ofUInt8 byte) = false
  notDash : byte ≠ '-'.toUInt8
  notSlash : byte ≠ '/'.toUInt8

section Passages

variable {source after : List UInt8} {offset : Nat} {byte : UInt8} {char : Char} {rest : List Char}

theorem plain_of_high (high : 128 ≤ byte.toNat) : Plain byte :=
  ⟨refuses_high inAscii_isQuote high, ne_of_high (by decide) high, ne_of_high (by decide) high⟩

theorem passageAt?_plain (ahead : source.drop offset = byte :: after) (plain : Plain byte) :
    passageAt? source offset = .found (.ok (.other byte)) := by
  unfold passageAt?
  rw [Lookup.some_bind (getElem?_ahead ahead), plain.unquoted, if_neg Bool.false_ne_true,
    if_neg fun dashes => plain.notDash dashes.1, if_neg fun opens => plain.notSlash opens.1]
  rfl

theorem passage_line (offset : Nat) (byte : UInt8) (rest : List Char) :
    passage offset byte (lineSegment rest).1 =
      .ok (.comment (offset + (lineSegment rest).1.size)) := by
  unfold lineSegment
  simp only
  split <;> rfl

theorem passage_block (offset : Nat) (byte : UInt8) (rest : List Char) :
    passage offset byte (blockSegment rest).1 =
      .ok (.comment (offset + (blockSegment rest).1.size)) := by
  unfold blockSegment
  split <;> rfl

theorem firstSegment_colon (rest : List Char) : firstSegment ':' rest = colonSegment rest := rfl

theorem passage_colon (offset : Nat) (byte : UInt8) (rest : List Char) :
    passage offset byte (colonSegment rest).1 = .ok (.other byte) := by
  unfold colonSegment
  repeat' split
  all_goals rfl

theorem passageAt?_quote (isQuoted : isQuote char = true)
    (ahead : Ahead source offset (char :: rest)) :
    passageAt? source offset =
      .found (passage offset (leadByte char) (quotedSegment char rest).1) := by
  have narrow := inAscii_isQuote char isQuoted
  have size : char.utf8Size = 1 := utf8Size_of_narrow narrow
  have quoted : isQuote (Char.ofUInt8 (leadByte char)) = true := by
    rw [accepts_leadByte inAscii_isQuote, isQuoted]
  have stop := quotedStop?_eq isQuoted (ahead.narrow narrow)
  rw [← leadByte_ascii narrow] at stop
  unfold passageAt? quotedSegment
  rw [Lookup.some_bind (getElem?_ahead ahead.cons), if_pos quoted, Lookup.some_bind stop]
  cases quotedBody char rest with
  | none => rfl
  | some read =>
      have whole : offset + 1 + byteSize read.1 + 1 =
          offset + byteSize (char :: read.1 ++ [char]) := by
        simp only [List.cons_append, byteSize, byteSize_append, size]
        omega
      simp only [Option.map_some, whole]
      by_cases backtick : char = '`'
      · subst backtick
        rfl
      · rw [if_neg backtick]
        rfl

theorem passageAt?_eq (narrow : char.toNat < 128) (ahead : Ahead source offset (char :: rest)) :
    passageAt? source offset =
      .found (passage offset (leadByte char) (firstSegment char rest).1) := by
  by_cases isQuoted : isQuote char = true
  · rw [firstSegment_quote isQuoted, passageAt?_quote isQuoted ahead]
  have isDash : leadByte char = '-'.toUInt8 ↔ char = '-' := leadByte_eq_iff (by decide)
  have isSlash : leadByte char = '/'.toUInt8 ↔ char = '/' := leadByte_eq_iff (by decide)
  have nextDash : source[offset + 1]? = some '-'.toUInt8 ↔ rest.head? = some '-' :=
    (ahead.narrow narrow).head_iff (by decide)
  have nextStar : source[offset + 1]? = some '*'.toUInt8 ↔ rest.head? = some '*' :=
    (ahead.narrow narrow).head_iff (by decide)
  unfold passageAt?
  rw [Lookup.some_bind (getElem?_ahead ahead.cons), accepts_leadByte inAscii_isQuote,
    if_neg isQuoted]
  simp only [isDash, isSlash, nextDash, nextStar]
  by_cases line : char = '-' ∧ rest.head? = some '-'
  · obtain ⟨rfl, next⟩ := line
    obtain ⟨after, rfl⟩ := List.head?_eq_some_iff.mp next
    rw [if_pos ⟨rfl, next⟩, Lookup.some_bind (lineStop?_eq ahead), firstSegment, passage_line]
    rfl
  rw [if_neg line]
  by_cases block : char = '/' ∧ rest.head? = some '*'
  · obtain ⟨rfl, next⟩ := block
    obtain ⟨after, rfl⟩ := List.head?_eq_some_iff.mp next
    rw [if_pos ⟨rfl, next⟩, Lookup.some_bind (blockStop?_eq ahead), firstSegment, passage_block]
    rfl
  rw [if_neg block]
  by_cases question : char = '?'
  · subst question
    rfl
  by_cases colon : char = ':'
  · subst colon
    rw [firstSegment_colon, passage_colon]
    rfl
  rw [firstSegment_other (Bool.eq_false_iff.mpr isQuoted) question colon
    ⟨fun dash next => line ⟨dash, next⟩, fun slash next => block ⟨slash, next⟩⟩]
  rfl

end Passages

/-- The marker at a colon, if there is one, and the offset past what stands there. -/
def colonAt? (text : List Char) (offset : Nat) : Lookup (Option Slot × Nat) := do
  match (bytes text)[offset + 1]? with
  | none => throw (.malformedQuery offset .missingName)
  | some second =>
      if second = ':'.toUInt8 ∨ second = '='.toUInt8 then return (none, offset + 2)
      else if isNameStart (Char.ofUInt8 second) then
        let stop ← nameStop? (bytes text) (offset + 2)
        let name ← slice? Char.utf8Size text (offset + 1) stop
        return (some (.named (String.ofList name)), stop)
      else if (Char.ofUInt8 second).isDigit then
        throw (.malformedQuery offset .nameStartsWithDigit)
      else throw (.malformedQuery offset .missingName)

/-- The marker at an offset, if there is one, and the offset past what stands there. -/
def markerAt? (text : List Char) (offset : Nat) : Lookup (Option Slot × Nat) := do
  match ← passageAt? (bytes text) offset with
  | .quoted _ stop | .comment stop => return (none, stop)
  | .other byte =>
      if byte = '?'.toUInt8 then return (some .positional, offset + 1)
      else if byte = ':'.toUInt8 then colonAt? text offset
      else return (none, offset + 1)

/-- The markers from an offset on. A step that stays where it is would be a miss. -/
def markersAt? (text : List Char) (offset : Nat) : Lookup (List Marker) :=
  if _within : offset < (bytes text).length then do
    let (slot, stop) ← markerAt? text offset
    let ⟨stop, _further⟩ ← past? offset stop
    let later ← markersAt? text stop
    return slot.toList.map (⟨·, offset⟩) ++ later
  else return []
termination_by (bytes text).length - offset

section Markers

variable {text before rest : List Char} {char : Char} {offset : Nat}

theorem ahead_of_split (whole : text = before ++ rest) :
    Ahead (bytes text) (byteSize before) rest := by
  rw [Ahead, whole, bytes_append, ← length_bytes, List.drop_left]

theorem colonFault_split (rest : List Char) :
    colonFault (split rest) =
      if rest.head?.any Char.isDigit then .nameStartsWithDigit else .missingName := by
  have breaks := breaks_colon (segmented_split rest)
  rw [split_flatMap_text] at breaks
  generalize colonFault (split rest) = cause at breaks ⊢
  cases breaks with
  | digit head isDigit => simp [head, isDigit]
  | nameless other =>
      cases head : rest.head? with
      | none => rfl
      | some next => simp [other next head]

/-- What a segment makes of the step over it. -/
def step (offset : Nat) (read : Segment × List Char) : Except Fault (Option Slot × Nat) :=
  match read.1.fault? (split read.2) with
  | some cause => .error (.malformedQuery offset cause)
  | none => .ok (read.1.slot?, offset + read.1.size)

theorem nameStop?_named (whole : text = before ++ ':' :: char :: rest)
    (starts : isNameStart char = true) :
    nameStop? (bytes text) (byteSize before + 2) =
      some (byteSize before + 1 + byteSize (char :: rest.takeWhile isNamePart)) := by
  have narrow := inAscii_isNameStart char starts
  have ahead := ((ahead_of_split whole).narrow (by decide)).narrow narrow
  rw [nameStop?_eq ahead, byteSize, utf8Size_of_narrow narrow, ← Nat.add_assoc]

theorem slice?_named (whole : text = before ++ ':' :: char :: rest) :
    slice? Char.utf8Size text (byteSize before + 1)
        (byteSize before + 1 + byteSize (char :: rest.takeWhile isNamePart)) =
      some (char :: rest.takeWhile isNamePart) := by
  have colon : ':'.utf8Size = 1 := rfl
  refine (slice?_eq_some_iff Char.utf8Size_pos).mpr
    ⟨before ++ [':'], rest.dropWhile isNamePart, ?_, ?_, by rw [total_utf8Size]⟩
  · simp [whole, List.takeWhile_append_dropWhile]
  · rw [total_utf8Size, byteSize_append, byteSize, byteSize, colon]

theorem colonAt?_eq (whole : text = before ++ ':' :: rest) :
    colonAt? text (byteSize before) = .found (step (byteSize before) (colonSegment rest)) := by
  have ahead := ahead_of_split whole
  have further := ahead.narrow (by decide)
  unfold colonAt?
  cases rest with
  | nil =>
      rw [getElem?_ahead further]
      simp [bytes, colonSegment, step, Segment.fault?, colonFault_split]
      rfl
  | cons next rest =>
      have isColon : leadByte next = ':'.toUInt8 ↔ next = ':' := leadByte_eq_iff (by decide)
      have isEqual : leadByte next = '='.toUInt8 ↔ next = '=' := leadByte_eq_iff (by decide)
      rw [getElem?_ahead further.cons]
      simp only [List.head?_cons, isColon, isEqual, accepts_leadByte inAscii_isNameStart,
        accepts_leadByte inAscii_isDigit, colonSegment]
      by_cases operator : next = ':' ∨ next = '='
      · rw [if_pos operator, if_pos operator]
        rcases operator with rfl | rfl <;> rfl
      · rw [if_neg operator, if_neg operator]
        by_cases starts : isNameStart next = true
        · rw [if_pos starts, if_pos starts, Lookup.some_bind (nameStop?_named whole starts),
            Lookup.some_bind (slice?_named whole), Nat.add_assoc]
          rfl
        · rw [if_neg starts, if_neg starts]
          have cause : colonFault (split (next :: rest)) =
              if next.isDigit then .nameStartsWithDigit else .missingName :=
            colonFault_split (next :: rest)
          simp only [step, Segment.fault?, cause]
          by_cases digit : next.isDigit = true
          · rw [if_pos digit, if_pos digit]
            rfl
          · rw [if_neg digit, if_neg digit]
            rfl

theorem markerAt?_eq (whole : text = before ++ char :: rest) (narrow : char.toNat < 128) :
    markerAt? text (byteSize before) =
      .found (step (byteSize before) (firstSegment char rest)) := by
  have ahead := ahead_of_split whole
  unfold markerAt?
  rw [passageAt?_eq narrow ahead]
  by_cases colon : char = ':'
  · subst colon
    rw [firstSegment_colon, passage_colon]
    exact colonAt?_eq whole
  have parts := firstSegment_text char rest
  have legal := (stops_firstSegment char rest).1
  generalize firstSegment char rest = read at parts legal ⊢
  obtain ⟨segment, after⟩ := read
  cases segment with
  | literal | identifier | lineComment | blockComment | unclosed => rfl
  | operator | named | colon =>
      cases parts
      exact absurd rfl colon
  | positional =>
      cases parts
      rfl
  | other char =>
      cases parts
      have notQuestion : leadByte char ≠ '?'.toUInt8 :=
        fun same => legal.2.1 ((leadByte_eq_iff (by decide)).mp same)
      have notColon : leadByte char ≠ ':'.toUInt8 :=
        fun same => colon ((leadByte_eq_iff (by decide)).mp same)
      exact (if_neg notQuestion).trans ((if_neg notColon).trans (by
        rw [← utf8Size_of_narrow narrow]
        rfl))

/-- A byte of a character outside ASCII is passed by itself. -/
theorem markerAt?_high {byte : UInt8} {after : List UInt8}
    (ahead : (bytes text).drop offset = byte :: after) (high : 128 ≤ byte.toNat) :
    markerAt? text offset = .found (.ok (none, offset + 1)) := by
  unfold markerAt?
  rw [passageAt?_plain ahead (plain_of_high high)]
  exact (if_neg (ne_of_high (by decide) high)).trans (if_neg (ne_of_high (by decide) high))

theorem markersAt?_step {slot : Option Slot} {stop : Nat} (within : offset < (bytes text).length)
    (passed : markerAt? text offset = .found (.ok (slot, stop))) (further : offset < stop) :
    markersAt? text offset = do
      let later ← markersAt? text stop
      return slot.toList.map (⟨·, offset⟩) ++ later := by
  rw [markersAt?, dif_pos within, passed]
  exact Lookup.some_bind (past?_eq further) _

theorem markersAt?_fault {fault : Fault} (within : offset < (bytes text).length)
    (passed : markerAt? text offset = .found (.error fault)) :
    markersAt? text offset = .found (.error fault) := by
  rw [markersAt?, dif_pos within, passed]
  rfl

theorem markersAt?_high {trail after : List UInt8} (high : ∀ byte ∈ trail, 128 ≤ byte.toNat)
    (ahead : (bytes text).drop offset = trail ++ after) :
    markersAt? text offset = markersAt? text (offset + trail.length) := by
  refine eq_past (fun offset byte after ahead high => ?_) high ahead
  rw [markersAt?_step (lt_of_ahead ahead) (markerAt?_high ahead high) (Nat.lt_succ_self _)]
  exact bind_pure _

theorem firstSegment_wide (rest : List Char) (wide : 128 ≤ char.toNat) :
    firstSegment char rest = (.other char, rest) := by
  have other : ∀ ascii : Char, ascii.toNat < 128 → char ≠ ascii := by
    rintro ascii narrow rfl
    omega
  refine firstSegment_other ?_ (other '?' (by decide)) (other ':' (by decide))
    ⟨fun dash => absurd dash (other '-' (by decide)),
      fun slash => absurd slash (other '/' (by decide))⟩
  exact Bool.eq_false_iff.mpr fun quoted => Nat.not_le_of_lt (inAscii_isQuote char quoted) wide

/-- The markers of a text are found from every offset where one of its segments starts. -/
theorem markersAt?_eq (whole : text = before ++ rest) :
    markersAt? text (byteSize before) =
      .found ((readings (byteSize before) (split rest)).mapM id) := by
  have ahead := ahead_of_split whole
  fun_induction split rest generalizing before with
  | case1 =>
      rw [markersAt?, dif_neg (not_lt_of_ahead ahead)]
      rfl
  | case2 char rest ih =>
      have within := lt_of_ahead ahead.cons
      have further :
          text = (before ++ (firstSegment char rest).1.text) ++ (firstSegment char rest).2 := by
        rw [List.append_assoc, firstSegment_text, whole]
      have later := ih further (ahead_of_split further)
      rw [byteSize_append, ← Segment.size] at later
      by_cases narrow : char.toNat < 128
      · have passed := markerAt?_eq whole narrow
        rw [step] at passed
        rw [readings]
        cases faulty : (firstSegment char rest).1.fault? (split (firstSegment char rest).2) with
        | some cause =>
            rw [faulty] at passed
            rw [markersAt?_fault within passed]
            rfl
        | none =>
            rw [faulty] at passed
            have moves := (firstSegment char rest).1.size_pos
            rw [markersAt?_step within passed (by omega), later]
            cases (firstSegment char rest).1.slot? with
            | none => exact bind_pure _
            | some slot =>
                simp only [List.mapM_cons, id]
                exact Lookup.found_map _ _
      · have wide := firstSegment_wide rest (Nat.le_of_not_lt narrow)
        have passed := markersAt?_high (high_of_encoded (Nat.le_of_not_lt narrow)) ahead
        rw [wide] at later ⊢
        rw [passed, String.length_utf8EncodeChar]
        exact later

theorem markersAt?_zero (text : String) : markersAt? text.toList 0 = .found (markers? text) :=
  markersAt?_eq (List.nil_append text.toList).symm

end Markers

end CheckedSql.Sql.Indexed

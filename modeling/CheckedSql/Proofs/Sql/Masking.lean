import CheckedSql.Sql.Mask
import CheckedSql.Proofs.Except
import CheckedSql.Proofs.Sql.Replacement
import CheckedSql.Proofs.Text.Bytes

namespace CheckedSql.Sql

open Text

theorem utf8EncodeChar_blank : String.utf8EncodeChar ' ' = [32] := rfl

/-- What masking leaves of a byte. -/
def blankByte (byte : UInt8) : UInt8 :=
  if byte = newline then newline else 32

theorem blankByte_eq_newline_iff {byte : UInt8} : blankByte byte = newline ↔ byte = newline := by
  unfold blankByte
  split
  · rename_i same
    exact iff_of_true rfl same
  · rename_i other
    exact iff_of_false (by decide) other

section Blanked

variable {text : List Char}

theorem blanked_cons {char : Char} (other : char ≠ '\n') (rest : List Char) :
    blanked (char :: rest) = List.replicate char.utf8Size ' ' ++ blanked rest :=
  blanked.eq_3 char rest other

theorem isBlankChar_of_mem_blanked {char : Char} (member : char ∈ blanked text) :
    Segment.IsBlankChar char := by
  fun_induction blanked text with
  | case1 => cases member
  | case2 rest ih =>
      rcases List.mem_cons.mp member with rfl | later
      · exact .inr rfl
      · exact ih later
  | case3 first rest _ ih =>
      rcases List.mem_append.mp member with here | later
      · exact .inl (List.eq_of_mem_replicate here)
      · exact ih later

theorem blanked_ne_nil (nonempty : text ≠ []) : blanked text ≠ [] := by
  intro none
  have size := byteSize_blanked text
  rw [none] at size
  cases text with
  | nil => exact nonempty rfl
  | cons char rest =>
      have positive := char.utf8Size_pos
      simp only [byteSize] at size
      omega

theorem blanked_of_isBlankChar (blank : ∀ char ∈ text, Segment.IsBlankChar char) :
    blanked text = text := by
  induction text with
  | nil => rfl
  | cons char rest ih =>
      obtain ⟨first, further⟩ := List.forall_mem_cons.mp blank
      rcases first with rfl | rfl
      · rw [blanked_cons (by decide), ih further]
        rfl
      · rw [blanked, ih further]

theorem blanked_blanked (text : List Char) : blanked (blanked text) = blanked text :=
  blanked_of_isBlankChar fun _ => isBlankChar_of_mem_blanked

theorem bytes_replicate_blank (count : Nat) :
    bytes (List.replicate count ' ') = List.replicate count 32 := by
  induction count with
  | zero => rfl
  | succ count ih =>
      rw [List.replicate_succ, bytes_cons, ih, utf8EncodeChar_blank]
      rfl

theorem map_blankByte_encoded {char : Char} (other : char ≠ '\n') :
    (String.utf8EncodeChar char).map blankByte = List.replicate char.utf8Size 32 := by
  rw [List.eq_replicate_iff]
  refine ⟨by rw [List.length_map, String.length_utf8EncodeChar], fun byte member => ?_⟩
  obtain ⟨encoded, inside, rfl⟩ := List.mem_map.mp member
  refine if_neg fun same => newline_not_mem_bytes other ?_
  rwa [← same]

theorem bytes_blanked (text : List Char) : bytes (blanked text) = (bytes text).map blankByte := by
  fun_induction blanked text with
  | case1 => rfl
  | case2 rest ih =>
      rw [bytes_cons, ih, bytes_cons, List.map_append]
      rfl
  | case3 char rest other ih =>
      rw [bytes_append, ih, bytes_replicate_blank, bytes_cons, List.map_append,
        map_blankByte_encoded other]

/-- Blanks neither close a string nor escape anything. -/
theorem enclosed_of_isBlankChar {quote : Char} (isLiteral : quote = '\'' ∨ quote = '"')
    (blank : ∀ char ∈ text, Segment.IsBlankChar char) : Enclosed quote text := by
  induction text with
  | nil => exact .nil
  | cons char rest ih =>
      obtain ⟨first, further⟩ := List.forall_mem_cons.mp blank
      have plain : char ≠ quote ∧ char ≠ '\\' := by
        rcases first with rfl | rfl <;> rcases isLiteral with rfl | rfl <;> decide
      exact .plain plain.1 (fun escape => absurd escape plain.2) (ih further)

end Blanked

namespace Segment

/-- Every quote is closed. -/
def Closed : Segment → Prop
  | .unclosed _ _ => False
  | _ => True

theorem closed_of_readable {segment : Segment} (readable : segment.Readable) : segment.Closed := by
  cases segment <;> trivial

/-- The segments of a masked segment. -/
def maskedSegments : Segment → List Segment
  | .literal quote body => [.literal quote (blanked body)]
  | .lineComment body ended => (blanked (Segment.lineComment body ended).text).map .other
  | .blockComment body closed => (blanked (Segment.blockComment body closed).text).map .other
  | segment => [segment]

theorem flatMap_text_others (text : List Char) :
    (text.map Segment.other).flatMap Segment.text = text := by
  rw [List.flatMap_map]
  exact List.flatMap_singleton' text

theorem flatMap_masked_others (text : List Char) :
    (text.map Segment.other).flatMap masked = text := by
  rw [List.flatMap_map]
  exact List.flatMap_singleton' text

theorem maskedSegments_text (segment : Segment) :
    segment.maskedSegments.flatMap text = segment.masked := by
  cases segment with
  | lineComment body ended => exact flatMap_text_others _
  | blockComment body closed => exact flatMap_text_others _
  | _ => exact List.flatMap_singleton _ _

/-- Masking what is masked changes nothing. -/
theorem maskedSegments_masked (segment : Segment) :
    segment.maskedSegments.flatMap masked = segment.masked := by
  cases segment with
  | literal quote body =>
      rw [maskedSegments, List.flatMap_singleton, masked, masked, blanked_blanked]
  | lineComment body ended => exact flatMap_masked_others _
  | blockComment body closed => exact flatMap_masked_others _
  | _ => exact List.flatMap_singleton _ _

theorem extent_maskedSegments (segment : Segment) : extent segment.maskedSegments = segment.size := by
  rw [extent, maskedSegments_text, byteSize_masked]

theorem gap_blanked_others {text : List Char} :
    ∀ other ∈ (blanked text).map Segment.other, other.Gap :=
  gap_others fun _ => isBlankChar_of_mem_blanked

theorem blanked_others_ne_nil {text : List Char} (nonempty : text ≠ []) :
    (blanked text).map Segment.other ≠ [] :=
  mt List.map_eq_nil_iff.mp (blanked_ne_nil nonempty)

theorem replaced_maskedSegments {segment : Segment} (legal : segment.Legal) :
    Replaced segment segment.maskedSegments := by
  cases segment with
  | literal quote body => exact .literal (enclosed_of_isBlankChar legal.1 fun _ => isBlankChar_of_mem_blanked)
  | lineComment body ended =>
      exact .comment trivial (blanked_others_ne_nil (text_ne_nil _)) gap_blanked_others
  | blockComment body closed =>
      exact .comment trivial (blanked_others_ne_nil (text_ne_nil _)) gap_blanked_others
  | _ => exact .same _

theorem not_lineComment_of_mem_maskedSegments {segment : Segment} {body : List Char} {ended : Bool} :
    .lineComment body ended ∉ segment.maskedSegments := by
  cases segment <;> simp [maskedSegments]

theorem closed_maskedSegments {segment : Segment} (closed : segment.Closed) :
    ∀ other ∈ segment.maskedSegments, other.Closed := by
  cases segment with
  | lineComment body ended =>
      intro other member
      exact closed_of_readable (gap_blanked_others other member).silent.1
  | blockComment body ended =>
      intro other member
      exact closed_of_readable (gap_blanked_others other member).silent.1
  | _ => exact List.forall_mem_singleton.mpr closed

/-- The offsets of a segment, counted from its start, that masking blanks. -/
def Hides (offset : Nat) : Segment → Prop
  | .literal _ body => 0 < offset ∧ offset ≤ byteSize body
  | .lineComment _ _ | .blockComment _ _ => True
  | _ => False

end Segment

open Segment

/-- Whether an offset lies inside a literal or in a comment. -/
def Hidden (segments : List Segment) (offset : Nat) : Prop :=
  ∃ before segment after, segments = before ++ segment :: after ∧ extent before ≤ offset ∧
    offset < extent before + segment.size ∧ segment.Hides (offset - extent before)

/-- What is seen of the byte at an offset. -/
structure Veils (hidden : Prop) (byte seen : Option UInt8) : Prop where
  blanked : hidden → seen = byte.map blankByte
  kept : ¬ hidden → seen = byte

/-- Whether one text is the other with its literals and comments hidden. -/
structure Masks (text masked : List Char) : Prop where
  size : (bytes masked).length = (bytes text).length
  newlines : ∀ offset : Nat,
    (bytes masked)[offset]? = some newline ↔ (bytes text)[offset]? = some newline
  veils : ∀ offset : Nat,
    Veils (Hidden (split text) offset) (bytes text)[offset]? (bytes masked)[offset]?

section Masked

variable {segment : Segment} {segments rest : List Segment} {offset : Nat} {masked : List Char}

theorem Veils.newline_iff {hidden : Prop} {byte seen : Option UInt8}
    (veils : Veils hidden byte seen) : seen = some newline ↔ byte = some newline := by
  by_cases isHidden : hidden
  · rw [veils.blanked isHidden, Option.map_eq_some_iff]
    constructor
    · rintro ⟨found, rfl, same⟩
      rw [blankByte_eq_newline_iff.mp same]
    · rintro rfl
      exact ⟨newline, rfl, rfl⟩
  · rw [veils.kept isHidden]

theorem Veils.congr {hidden other : Prop} {byte seen : Option UInt8} (same : hidden ↔ other)
    (veils : Veils hidden byte seen) : Veils other byte seen :=
  ⟨fun isOther => veils.blanked (same.mpr isOther), fun notOther =>
    veils.kept (mt same.mp notOther)⟩

theorem hidden_cons : Hidden (segment :: rest) offset ↔
    (offset < segment.size ∧ segment.Hides offset) ∨
      (segment.size ≤ offset ∧ Hidden rest (offset - segment.size)) := by
  constructor
  · rintro ⟨before, inside, after, parts, reached, within, hides⟩
    cases before with
    | nil =>
        cases parts
        exact .inl ⟨by simpa [extent, byteSize] using within, hides⟩
    | cons first before =>
        cases parts
        rw [extent_cons] at reached within hides
        refine .inr ⟨by omega, before, inside, after, rfl, by omega, by omega, ?_⟩
        rwa [Nat.sub_sub]
  · rintro (⟨within, hides⟩ | ⟨reached, before, inside, after, rfl, further, within, hides⟩)
    · exact ⟨[], segment, rest, rfl, Nat.zero_le _, by simpa [extent, byteSize] using within, hides⟩
    · refine ⟨segment :: before, inside, after, rfl, ?_, ?_, ?_⟩
      · rw [extent_cons]
        omega
      · rw [extent_cons]
        omega
      · rwa [extent_cons, ← Nat.sub_sub]

theorem veils_masked_literal {quote : Char} (isLiteral : quote = '\'' ∨ quote = '"')
    (body : List Char) (offset : Nat) :
    Veils ((Segment.literal quote body).Hides offset)
      (bytes (Segment.literal quote body).text)[offset]?
      (bytes (Segment.literal quote body).masked)[offset]? := by
  have single : ∃ byte, String.utf8EncodeChar quote = [byte] := by
    rcases isLiteral with rfl | rfl <;> exact ⟨_, rfl⟩
  obtain ⟨byte, encoded⟩ := single
  have whole : ∀ inside, bytes (quote :: inside ++ [quote]) = byte :: (bytes inside ++ [byte]) := by
    intro inside
    rw [List.cons_append, bytes_cons, bytes_append, bytes_cons, encoded]
    rfl
  rw [Segment.text, Segment.masked, whole, whole, bytes_blanked]
  cases offset with
  | zero => exact ⟨fun hidden => absurd hidden.1 (Nat.lt_irrefl 0), fun _ => rfl⟩
  | succ offset =>
      simp only [List.getElem?_cons_succ, List.getElem?_append, List.length_map, length_bytes]
      split
      · rename_i inside
        exact ⟨fun _ => List.getElem?_map, fun visible => absurd ⟨Nat.succ_pos _, inside⟩ visible⟩
      · rename_i outside
        exact ⟨fun hidden => absurd hidden.2 outside, fun _ => rfl⟩

theorem veils_masked (legal : segment.Legal) (offset : Nat) :
    Veils (segment.Hides offset) (bytes segment.text)[offset]? (bytes segment.masked)[offset]? := by
  cases segment with
  | literal quote body => exact veils_masked_literal legal.1 body offset
  | lineComment body ended =>
      rw [Segment.masked, bytes_blanked]
      exact ⟨fun _ => List.getElem?_map, fun visible => absurd trivial visible⟩
  | blockComment body closed =>
      rw [Segment.masked, bytes_blanked]
      exact ⟨fun _ => List.getElem?_map, fun visible => absurd trivial visible⟩
  | _ => exact ⟨False.elim, fun _ => rfl⟩

theorem veils_flatMap_masked (legal : ∀ segment ∈ segments, segment.Legal) (offset : Nat) :
    Veils (Hidden segments offset) (bytes (segments.flatMap text))[offset]?
      (bytes (segments.flatMap Segment.masked))[offset]? := by
  induction segments generalizing offset with
  | nil =>
      refine ⟨?_, fun _ => rfl⟩
      rintro ⟨before, segment, after, parts, _⟩
      simp at parts
  | cons segment rest ih =>
      obtain ⟨first, further⟩ := List.forall_mem_cons.mp legal
      have size : (bytes segment.text).length = segment.size := length_bytes _
      have maskedSize : (bytes segment.masked).length = segment.size :=
        (length_bytes _).trans (byteSize_masked segment)
      simp only [List.flatMap_cons, bytes_append, List.getElem?_append, size, maskedSize]
      split
      · rename_i inside
        refine (veils_masked first offset).congr ?_
        rw [hidden_cons]
        simp [inside, Nat.not_le_of_lt inside]
      · rename_i outside
        refine (ih further (offset - segment.size)).congr ?_
        rw [hidden_cons]
        simp [outside, Nat.le_of_not_lt outside]

theorem maskFrom_eq_ok_iff : maskFrom offset segments = .ok masked ↔
    (∀ segment ∈ segments, segment.Closed) ∧ masked = segments.flatMap Segment.masked := by
  fun_induction maskFrom offset segments generalizing masked with
  | case1 => simp [eq_comm]
  | case2 => simp [Closed]
  | case3 offset segment rest notUnclosed ih =>
      have closed : segment.Closed := by
        cases segment <;> first | trivial | exact notUnclosed _ _ rfl
      simp only [map_eq_ok_iff, ih, List.forall_mem_cons, List.flatMap_cons]
      constructor
      · rintro ⟨_, ⟨further, rfl⟩, rfl⟩
        exact ⟨⟨closed, further⟩, rfl⟩
      · rintro ⟨⟨_, further⟩, rfl⟩
        exact ⟨_, ⟨further, rfl⟩, rfl⟩

theorem mask_eq_ok_iff {text : List Char} : mask text = .ok masked ↔
    (∀ segment ∈ split text, segment.Closed) ∧ masked = (split text).flatMap Segment.masked :=
  maskFrom_eq_ok_iff

/-- A mask fails at the first quote that is never closed. -/
theorem maskFrom_error {fault : Fault} (failed : maskFrom offset segments = .error fault) :
    ∃ before quote body after, segments = before ++ .unclosed quote body :: after ∧
      fault = .malformedQuery (offset + extent before) .unclosedQuote := by
  fun_induction maskFrom offset segments with
  | case1 => cases failed
  | case2 offset quote body rest =>
      cases failed
      exact ⟨[], quote, body, rest, rfl, rfl⟩
  | case3 offset segment rest _ ih =>
      obtain ⟨before, quote, body, after, rfl, place⟩ := ih (map_eq_error_iff.mp failed)
      refine ⟨segment :: before, quote, body, after, rfl, ?_⟩
      rw [place, extent_cons, Nat.add_assoc]

theorem maskedSegments_flatten_text (segments : List Segment) :
    (segments.map maskedSegments).flatten.flatMap text = segments.flatMap Segment.masked := by
  rw [← List.flatMap_def, List.flatMap_assoc]
  simp only [maskedSegments_text]

theorem maskedSegments_flatten_masked (segments : List Segment) :
    (segments.map maskedSegments).flatten.flatMap Segment.masked =
      segments.flatMap Segment.masked := by
  rw [← List.flatMap_def, List.flatMap_assoc]
  simp only [maskedSegments_masked]

theorem forall₂_maskedSegments (legal : ∀ segment ∈ segments, segment.Legal) :
    List.Forall₂ Replaced segments (segments.map maskedSegments) := by
  rw [List.forall₂_map_right_iff, List.forall₂_same]
  exact fun segment member => replaced_maskedSegments (legal segment member)

theorem forall₂_extent_maskedSegments (segments : List Segment) :
    List.Forall₂ (fun segment piece => extent piece = segment.size) segments
      (segments.map maskedSegments) := by
  rw [List.forall₂_map_right_iff, List.forall₂_same]
  exact fun segment _ => extent_maskedSegments segment

theorem not_lineComment_of_mem_flatten {body : List Char} {ended : Bool} :
    .lineComment body ended ∉ (segments.map maskedSegments).flatten := by
  intro member
  rw [← List.flatMap_def, List.mem_flatMap] at member
  obtain ⟨segment, _, found⟩ := member
  exact not_lineComment_of_mem_maskedSegments found

theorem not_dashed_maskedSegments (segments : List Segment) :
    ¬ DashedComment (segments.map maskedSegments).flatten := by
  rintro ⟨body, ended, inside⟩
  exact not_lineComment_of_mem_flatten
    (inside.subset (List.mem_cons_of_mem (Segment.other '-') List.mem_cons_self))

theorem ended_maskedSegments (segments : List Segment) :
    Ended (segments.map maskedSegments).flatten := by
  refine ended_of_forall fun other member => ?_
  cases other with
  | lineComment => exact absurd member not_lineComment_of_mem_flatten
  | _ => rfl

/-- A masked text is cut where the text is cut. -/
theorem split_masked (text : List Char) :
    split ((split text).flatMap Segment.masked) = ((split text).map maskedSegments).flatten := by
  have segmented := segmented_replaced (segmented_split text)
    (forall₂_maskedSegments (legal_of_segmented (segmented_split text)))
    (ended_maskedSegments _) (not_dashed_maskedSegments _)
  rw [← maskedSegments_flatten_text, split_of_segmented segmented]

theorem mask_masked {text : List Char} (accepted : mask text = .ok masked) :
    mask masked = .ok masked := by
  obtain ⟨closed, rfl⟩ := mask_eq_ok_iff.mp accepted
  rw [mask_eq_ok_iff, split_masked, maskedSegments_flatten_masked]
  refine ⟨fun other member => ?_, rfl⟩
  rw [← List.flatMap_def, List.mem_flatMap] at member
  obtain ⟨segment, present, inside⟩ := member
  exact closed_maskedSegments (closed segment present) other inside

theorem scan_masked {text : String} (accepted : mask text.toList = .ok masked) :
    scan (String.ofList masked) = scan text := by
  obtain ⟨_, rfl⟩ := mask_eq_ok_iff.mp accepted
  rw [scan, scan, String.toList_ofList, split_masked]
  exact readings_replaced (forall₂_maskedSegments (legal_of_segmented (segmented_split _)))
    (forall₂_extent_maskedSegments _) 0

theorem masks_of_mask {text : List Char} (accepted : mask text = .ok masked) :
    Masks text masked := by
  have veils : ∀ offset,
      Veils (Hidden (split text) offset) (bytes text)[offset]? (bytes masked)[offset]? := by
    intro offset
    obtain ⟨_, rfl⟩ := mask_eq_ok_iff.mp accepted
    have each := veils_flatMap_masked (legal_of_segmented (segmented_split text)) offset
    rwa [split_flatMap_text] at each
  refine ⟨?_, fun offset => (veils offset).newline_iff, veils⟩
  rw [length_bytes, length_bytes, byteSize_mask accepted]

/-- Where a mask fails a scan has failed, there or before. -/
theorem scan_fails_of_mask {text : String} {fault : Fault}
    (failed : mask text.toList = .error fault) :
    ∃ offset earlier cause, fault = .malformedQuery offset .unclosedQuote ∧
      .error (.malformedQuery earlier cause) ∈ scan text ∧ earlier ≤ offset := by
  obtain ⟨before, quote, body, after, parts, rfl⟩ := maskFrom_error failed
  obtain ⟨found, fault, scanned, read⟩ := readings_scanned 0 (segmented_split text.toList)
  cases scanned with
  | whole readable =>
      refine absurd (readable (.unclosed quote body) ?_) id
      rw [parts]
      exact List.mem_append_right _ List.mem_cons_self
  | @broken readBefore readAfter segment cause cut readable _ =>
      refine ⟨_, 0 + extent readBefore, cause, rfl, ?_, ?_⟩
      · rw [scan, read]
        exact List.mem_append_right _ List.mem_cons_self
      · rw [parts] at cut
        rcases List.append_eq_append_iff.mp cut with ⟨inside, rfl, same⟩ | ⟨inside, rfl, same⟩
        · cases inside with
          | nil => simp
          | cons first inside =>
              cases same
              exact absurd (readable _ (List.mem_append_right _ List.mem_cons_self)) id
        · rw [extent_append]
          omega

end Masked

/-- Masking and scanning read a text the same way. -/
theorem mask_reads_alike (text : String) :
    (∀ markers, markers? text = .ok markers → ∃ masked, mask text.toList = .ok masked) ∧
      (∀ masked, mask text.toList = .ok masked →
        Masks text.toList masked ∧ mask masked = .ok masked ∧
          scan (String.ofList masked) = scan text) ∧
      ∀ fault, mask text.toList = .error fault →
        ∃ offset earlier cause, fault = .malformedQuery offset .unclosedQuote ∧
          .error (.malformedQuery earlier cause) ∈ scan text ∧ earlier ≤ offset := by
  refine ⟨fun markers scanned => ?_, fun masked accepted => ?_, fun fault => scan_fails_of_mask⟩
  · obtain ⟨readable, _⟩ := markers?_eq_ok_iff.mp scanned
    exact ⟨_, mask_eq_ok_iff.mpr
      ⟨fun segment member => closed_of_readable (readable segment member), rfl⟩⟩
  · exact ⟨masks_of_mask accepted, mask_masked accepted, scan_masked accepted⟩

example : mask "x = 'ü?'-- ?\n".toList = .ok "x = '   '    \n".toList := by decide +kernel

end CheckedSql.Sql

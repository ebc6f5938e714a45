import CheckedSql.Sql.Token
import CheckedSql.Proofs.Sql.Masking

namespace CheckedSql.Sql

open Text

/-- Whether two masked texts differ only in the widths of gaps and literals. -/
inductive Alike : List Char → List Char → Prop
  | nil : Alike [] []
  | plain {char : Char} {left right : List Char} (plain : isQuote char = false)
      (rest : Alike left right) : Alike (char :: left) (char :: right)
  | gap {first second left right : List Char} (firstSome : first ≠ []) (secondSome : second ≠ [])
      (firstBlank : ∀ char ∈ first, Segment.IsBlankChar char)
      (secondBlank : ∀ char ∈ second, Segment.IsBlankChar char) (rest : Alike left right) :
      Alike (first ++ left) (second ++ right)
  | literal {quote : Char} {first second left right : List Char}
      (isLiteral : quote = '\'' ∨ quote = '"') (firstInside : quote ∉ first)
      (secondInside : quote ∉ second) (rest : Alike left right) :
      Alike (quote :: (first ++ quote :: left)) (quote :: (second ++ quote :: right))
  | identifier {name left right : List Char} (inside : '`' ∉ name) (rest : Alike left right) :
      Alike ('`' :: (name ++ '`' :: left)) ('`' :: (name ++ '`' :: right))

/-- A character with which neither a gap nor anything in quotes starts. -/
structure Firm (char : Char) : Prop where
  notBlank : ¬ Segment.IsBlankChar char
  notQuote : isQuote char = false

/-- The blanks and the quotes. -/
def walls : List Char :=
  [' ', '\n', '\'', '"', '`']

/-- What a class accepts is none of the characters that it refuses. -/
theorem ne_of_accepts {accepts : Char → Bool} {refused : List Char} {char : Char}
    (refuses : refused.any accepts = false) (accepted : accepts char = true) :
    ∀ other ∈ refused, char ≠ other := by
  rintro other member rfl
  exact List.any_eq_false.mp refuses char member accepted

/-- A class that refuses blanks and quotes accepts firm characters only. -/
theorem firm_of_accepts {accepts : Char → Bool} (refuses : walls.any accepts = false)
    {char : Char} (accepted : accepts char = true) : Firm char := by
  have different := ne_of_accepts refuses accepted
  simp only [walls, List.forall_mem_cons] at different
  refine ⟨fun blank => ?_, ?_⟩
  · rcases blank with same | same
    · exact different.1 same
    · exact different.2.1 same
  · simp [isQuote, different]

theorem isQuote_of_literal {quote : Char} (isLiteral : quote = '\'' ∨ quote = '"') :
    isQuote quote = true := by
  rcases isLiteral with rfl | rfl <;> rfl

namespace Alike

variable {left right : List Char} {char : Char} {accepts : Char → Bool}

theorem symm (alike : Alike left right) : Alike right left := by
  induction alike with
  | nil => exact .nil
  | plain plain _ ih => exact .plain plain ih
  | gap firstSome secondSome firstBlank secondBlank _ ih =>
      exact .gap secondSome firstSome secondBlank firstBlank ih
  | literal isLiteral firstInside secondInside _ ih =>
      exact .literal isLiteral secondInside firstInside ih
  | identifier inside _ ih => exact .identifier inside ih

theorem append_plain (alike : Alike left right) (text : List Char)
    (plain : ∀ char ∈ text, isQuote char = false) : Alike (text ++ left) (text ++ right) := by
  induction text with
  | nil => exact alike
  | cons char text ih =>
      obtain ⟨first, further⟩ := List.forall_mem_cons.mp plain
      exact .plain first (ih further)

/-- A firm character at the start of one text is at the start of the other. -/
theorem uncons (firm : Firm char) (alike : Alike (char :: left) right) :
    ∃ rest, right = char :: rest ∧ Alike left rest := by
  generalize whole : char :: left = text at alike
  cases alike with
  | nil => cases whole
  | plain _ rest =>
      cases whole
      exact ⟨_, rfl, rest⟩
  | gap firstSome _ firstBlank =>
      obtain ⟨blank, more, rfl⟩ := List.exists_cons_of_ne_nil firstSome
      cases whole
      exact absurd (firstBlank _ List.mem_cons_self) firm.notBlank
  | literal isLiteral =>
      cases whole
      exact absurd (isQuote_of_literal isLiteral) (by simp [firm.notQuote])
  | identifier =>
      cases whole
      exact absurd firm.notQuote (by decide)

theorem run_refused {other : Char} (refused : ¬ accepts char = true)
    (otherRefused : ¬ accepts other = true) (alike : Alike (char :: left) (other :: right)) :
    (char :: left).takeWhile accepts = (other :: right).takeWhile accepts ∧
      Alike ((char :: left).dropWhile accepts) ((other :: right).dropWhile accepts) := by
  rw [List.takeWhile_cons_of_neg refused, List.takeWhile_cons_of_neg otherRefused,
    List.dropWhile_cons_of_neg refused, List.dropWhile_cons_of_neg otherRefused]
  exact ⟨rfl, alike⟩

/-- A run of firm characters is the same run in both texts. -/
theorem run (alike : Alike left right) (accepts : Char → Bool)
    (refuses : walls.any accepts = false) :
    left.takeWhile accepts = right.takeWhile accepts ∧
      Alike (left.dropWhile accepts) (right.dropWhile accepts) := by
  have firm : ∀ {char : Char}, accepts char = true → Firm char := firm_of_accepts refuses
  have quoted : ∀ {quote : Char}, isQuote quote = true → ¬ accepts quote = true :=
    fun isQuoted accepted => by simp [(firm accepted).notQuote] at isQuoted
  have blank : ∀ {char : Char}, Segment.IsBlankChar char → ¬ accepts char = true :=
    fun isBlank accepted => (firm accepted).notBlank isBlank
  induction alike with
  | nil => exact ⟨rfl, .nil⟩
  | @plain char left right plain rest ih =>
      by_cases accepted : accepts char = true
      · rw [List.takeWhile_cons_of_pos accepted, List.takeWhile_cons_of_pos accepted,
          List.dropWhile_cons_of_pos accepted, List.dropWhile_cons_of_pos accepted, ih.1]
        exact ⟨rfl, ih.2⟩
      · exact run_refused accepted accepted (.plain plain rest)
  | @gap first second left right firstSome secondSome firstBlank secondBlank rest _ =>
      have whole := Alike.gap firstSome secondSome firstBlank secondBlank rest
      obtain ⟨char, more, rfl⟩ := List.exists_cons_of_ne_nil firstSome
      obtain ⟨other, others, rfl⟩ := List.exists_cons_of_ne_nil secondSome
      exact run_refused (blank (firstBlank char List.mem_cons_self))
        (blank (secondBlank other List.mem_cons_self)) whole
  | literal isLiteral firstInside secondInside rest =>
      have refused := quoted (isQuote_of_literal isLiteral)
      exact run_refused refused refused (.literal isLiteral firstInside secondInside rest)
  | identifier inside rest =>
      have refused := quoted (show isQuote '`' = true from rfl)
      exact run_refused refused refused (.identifier inside rest)

end Alike

section Tokens

variable {left right : List Char} {char : Char}

theorem afterNumber_fraction {text rest : List Char} {next : Char} (isDigit : next.isDigit = true)
    (stopped : text.dropWhile Char.isDigit = '.' :: next :: rest) :
    afterNumber text = rest.dropWhile Char.isDigit := by
  unfold afterNumber
  rw [stopped]
  exact if_pos isDigit

theorem afterNumber_whole {text : List Char}
    (noFraction : ∀ next rest, text.dropWhile Char.isDigit = '.' :: next :: rest →
      ¬ next.isDigit = true) :
    afterNumber text = text.dropWhile Char.isDigit := by
  unfold afterNumber
  split
  · rename_i next rest stopped
    rw [if_neg (noFraction next rest stopped), stopped]
  · rfl

theorem firm_point : Firm '.' := by
  refine ⟨?_, rfl⟩
  rintro (same | same) <;> cases same

/-- A fraction in one text is a fraction in the other. -/
theorem fraction_alike {next : Char} {rest : List Char} (isDigit : next.isDigit = true)
    (alike : Alike ('.' :: next :: rest) right) :
    ∃ other, right = '.' :: next :: other ∧ Alike rest other := by
  obtain ⟨_, rfl, fraction⟩ := alike.uncons firm_point
  obtain ⟨other, rfl, further⟩ := fraction.uncons (firm_of_accepts rfl isDigit)
  exact ⟨other, rfl, further⟩

theorem afterNumber_alike (alike : Alike left right) :
    Alike (afterNumber left) (afterNumber right) := by
  have digits := (alike.run Char.isDigit rfl).2
  by_cases fraction : ∃ next rest, left.dropWhile Char.isDigit = '.' :: next :: rest ∧
      next.isDigit = true
  · obtain ⟨next, rest, stopped, isDigit⟩ := fraction
    rw [stopped] at digits
    obtain ⟨other, stoppedToo, further⟩ := fraction_alike isDigit digits
    rw [afterNumber_fraction isDigit stopped, afterNumber_fraction isDigit stoppedToo]
    exact (further.run Char.isDigit rfl).2
  · rw [afterNumber_whole fun next rest stopped isDigit => fraction ⟨next, rest, stopped, isDigit⟩,
      afterNumber_whole]
    · exact digits
    · intro next rest stopped isDigit
      rw [stopped] at digits
      obtain ⟨other, stoppedToo, _⟩ := fraction_alike isDigit digits.symm
      exact fraction ⟨next, other, stoppedToo, isDigit⟩

theorem firstToken_colon_named {next : Char} {rest : List Char}
    (starts : isNameStart next = true) :
    firstToken ':' (next :: rest) = (some .literal, rest.dropWhile isNamePart) := by
  simp [firstToken, starts, show isBlank ':' = false by decide, show isNameStart ':' = false by decide]

theorem firstToken_colon_other {text : List Char}
    (refused : ∀ next rest, text = next :: rest → ¬ isNameStart next = true) :
    firstToken ':' text = (some .literal, text) := by
  cases text with
  | nil => rfl
  | cons next rest =>
      simp [firstToken, refused next rest rfl, show isBlank ':' = false by decide,
        show isNameStart ':' = false by decide]

theorem firstToken_colon_alike (alike : Alike left right) :
    (firstToken ':' left).1 = (firstToken ':' right).1 ∧
      Alike (firstToken ':' left).2 (firstToken ':' right).2 := by
  by_cases named : ∃ next rest, left = next :: rest ∧ isNameStart next = true
  · obtain ⟨next, rest, rfl, starts⟩ := named
    obtain ⟨other, rfl, further⟩ := alike.uncons (firm_of_accepts rfl starts)
    rw [firstToken_colon_named starts, firstToken_colon_named starts]
    exact ⟨rfl, (further.run isNamePart rfl).2⟩
  · rw [firstToken_colon_other fun next rest same starts => named ⟨next, rest, same, starts⟩,
      firstToken_colon_other]
    · exact ⟨rfl, alike⟩
    · rintro next rest rfl starts
      obtain ⟨other, same, _⟩ := alike.symm.uncons (firm_of_accepts rfl starts)
      exact named ⟨next, other, same, starts⟩

/-- What a character outside quotes starts is the same in both texts. -/
theorem firstToken_alike (plain : isQuote char = false) (alike : Alike left right) :
    (firstToken char left).1 = (firstToken char right).1 ∧
      Alike (firstToken char left).2 (firstToken char right).2 := by
  by_cases colon : char = ':'
  · subst colon
    exact firstToken_colon_alike alike
  have notQuote : char ≠ '`' ∧ ¬ (char = '\'' ∨ char = '"') := by
    simpa [isQuote, and_comm, and_assoc] using plain
  simp only [firstToken, if_neg notQuote.1, if_neg notQuote.2, if_neg colon]
  split
  · exact ⟨rfl, alike⟩
  split
  · have word := alike.run isWordPart rfl
    exact ⟨by rw [word.1], word.2⟩
  split
  · exact ⟨rfl, alike⟩
  split
  · exact ⟨rfl, afterNumber_alike alike⟩
  · exact ⟨rfl, alike⟩

theorem tokens_gap {blanks : List Char} (blank : ∀ char ∈ blanks, Segment.IsBlankChar char)
    (rest : List Char) : tokens (blanks ++ rest) = tokens rest := by
  induction blanks with
  | nil => rfl
  | cons char blanks ih =>
      obtain ⟨first, further⟩ := List.forall_mem_cons.mp blank
      have isBlank : firstToken char (blanks ++ rest) = (none, blanks ++ rest) := by
        rcases first with rfl | rfl <;> rfl
      rw [List.cons_append, tokens, isBlank]
      exact ih further

theorem upTo?_closed {closing : Char} {body : List Char} (inside : closing ∉ body)
    (after : List Char) : upTo? closing (body ++ closing :: after) = some (body, after) := by
  have opened : ∀ char ∈ body, (char != closing) = true := by
    intro char member
    rw [bne_iff_ne]
    rintro rfl
    exact inside member
  simp [upTo?, List.dropWhile_append_of_pos opened, List.takeWhile_append_of_pos opened]

theorem firstToken_literal {quote : Char} {body : List Char} (isLiteral : quote = '\'' ∨ quote = '"')
    (inside : quote ∉ body) (after : List Char) :
    firstToken quote (body ++ quote :: after) = (some .literal, after) := by
  rcases isLiteral with rfl | rfl <;>
    simp [firstToken, upTo?_closed inside, isNameStart, isBlank, inRanges, blankRanges]

theorem tokens_literal {quote : Char} {body : List Char} (isLiteral : quote = '\'' ∨ quote = '"')
    (inside : quote ∉ body) (after : List Char) :
    tokens (quote :: (body ++ quote :: after)) = .literal :: tokens after := by
  rw [tokens, firstToken_literal isLiteral inside]
  rfl

theorem firstToken_identifier {name : List Char} (inside : '`' ∉ name) (after : List Char) :
    firstToken '`' (name ++ '`' :: after) = (some (.quoted (String.ofList name)), after) := by
  simp [firstToken, upTo?_closed inside, isNameStart, isBlank, inRanges, blankRanges]

theorem tokens_identifier {name : List Char} (inside : '`' ∉ name) (after : List Char) :
    tokens ('`' :: (name ++ '`' :: after)) = .quoted (String.ofList name) :: tokens after := by
  rw [tokens, firstToken_identifier inside]
  rfl

/-- Texts that are alike have the same tokens. -/
theorem tokens_alike (alike : Alike left right) : tokens left = tokens right := by
  -- On the length: a token may take several characters at once.
  induction size : left.length using Nat.strong_induction_on generalizing left right with
  | _ size ih =>
      cases alike with
      | nil => rfl
      | @plain char left right plain rest =>
          obtain ⟨same, further⟩ := firstToken_alike plain rest
          have shorter := firstToken_shorter char left
          rw [List.length_cons] at size
          rw [tokens, tokens, same, ih _ (by omega) further rfl]
      | @gap first second left right firstSome _ firstBlank secondBlank rest =>
          have positive := List.length_pos_iff.mpr firstSome
          rw [List.length_append] at size
          rw [tokens_gap firstBlank, tokens_gap secondBlank, ih _ (by omega) rest rfl]
      | @literal quote first second left right isLiteral firstInside secondInside rest =>
          simp only [List.length_cons, List.length_append] at size
          rw [tokens_literal isLiteral firstInside, tokens_literal isLiteral secondInside,
            ih _ (by omega) rest rfl]
      | @identifier name left right inside rest =>
          simp only [List.length_cons, List.length_append] at size
          rw [tokens_identifier inside, tokens_identifier inside, ih _ (by omega) rest rfl]

end Tokens

section Replacement

variable {segment : Segment} {segments piece : List Segment} {pieces : List (List Segment)}
  {left right : List Char}

open Segment

/-- A name with doubled backticks reads as several names without any. -/
theorem alike_identifier {body : List Char} (enclosed : Enclosed '`' body)
    (rest : Alike left right) (before : List Char) (inside : '`' ∉ before) :
    Alike ('`' :: (before ++ (body ++ '`' :: left))) ('`' :: (before ++ (body ++ '`' :: right))) := by
  induction enclosed generalizing before with
  | nil => exact .identifier inside rest
  | escaped escapes => exact absurd rfl escapes
  | doubled _ ih => exact .identifier inside (ih [] List.not_mem_nil)
  | @plain char body different _ _ ih =>
      have further := ih (before ++ [char]) (by simp [inside, different.symm])
      simpa only [List.append_assoc, List.cons_append, List.nil_append] using further

theorem not_mem_blanked {quote : Char} (isLiteral : quote = '\'' ∨ quote = '"') (text : List Char) :
    quote ∉ blanked text := by
  intro member
  rcases isBlankChar_of_mem_blanked member with rfl | rfl <;> simp at isLiteral

theorem isQuote_of_isNamePart {char : Char} (part : isNamePart char = true) :
    isQuote char = false :=
  (firm_of_accepts rfl part).notQuote

theorem alike_same (legal : segment.Legal) (closed : segment.Closed) (rest : Alike left right) :
    Alike (segment.masked ++ left) (segment.masked ++ right) := by
  have gap : ∀ text : List Char, text ≠ [] → Alike (blanked text ++ left) (blanked text ++ right) :=
    fun text nonempty => .gap (blanked_ne_nil nonempty) (blanked_ne_nil nonempty)
      (fun _ => isBlankChar_of_mem_blanked) (fun _ => isBlankChar_of_mem_blanked) rest
  cases segment with
  | literal quote body =>
      have whole := Alike.literal legal.1 (not_mem_blanked legal.1 body)
        (not_mem_blanked legal.1 body) rest
      simpa [masked] using whole
  | identifier body =>
      have whole := alike_identifier legal rest [] List.not_mem_nil
      simpa [masked, text] using whole
  | lineComment => exact gap _ (text_ne_nil _)
  | blockComment => exact gap _ (text_ne_nil _)
  | operator second =>
      have notQuote : isQuote second = false := by rcases legal with rfl | rfl <;> rfl
      exact .plain rfl (.plain notQuote rest)
  | named name =>
      obtain ⟨first, further, rfl, starts, parts⟩ := legal
      refine rest.append_plain (':' :: first :: further) ?_
      refine List.forall_mem_cons.mpr ⟨rfl, List.forall_mem_cons.mpr ⟨?_, fun char member => ?_⟩⟩
      · exact isQuote_of_isNamePart (isNamePart_of_isNameStart starts)
      · exact isQuote_of_isNamePart (parts char member)
  | positional => exact .plain rfl rest
  | colon => exact .plain rfl rest
  | unclosed => cases closed
  | other char => exact .plain legal.1 rest

theorem masked_gaps (gaps : ∀ other ∈ piece, other.Gap) :
    ∀ char ∈ piece.flatMap masked, IsBlankChar char := by
  intro char member
  obtain ⟨other, present, inside⟩ := List.mem_flatMap.mp member
  have gap := gaps other present
  cases other with
  | lineComment | blockComment => exact isBlankChar_of_mem_blanked inside
  | other blank =>
      cases List.mem_singleton.mp inside
      exact gap
  | _ => cases gap

theorem masked_ne_nil (segment : Segment) : segment.masked ≠ [] := by
  intro none
  have size := byteSize_masked segment
  have positive := segment.size_pos
  rw [none, byteSize] at size
  omega

theorem flatMap_masked_ne_nil (nonempty : piece ≠ []) : piece.flatMap masked ≠ [] := by
  obtain ⟨first, rest, rfl⟩ := List.exists_cons_of_ne_nil nonempty
  rw [List.flatMap_cons]
  exact List.append_ne_nil_of_left_ne_nil (masked_ne_nil first) _

theorem alike_replaced (replaced : Replaced segment piece) (legal : segment.Legal)
    (closed : segment.Closed) (rest : Alike left right) :
    Alike (segment.masked ++ left) (piece.flatMap masked ++ right) := by
  cases replaced with
  | same =>
      rw [List.flatMap_singleton]
      exact alike_same legal closed rest
  | @literal quote body other =>
      have whole := Alike.literal legal.1 (not_mem_blanked legal.1 body)
        (not_mem_blanked legal.1 other) rest
      simpa [masked] using whole
  | comment isComment nonempty gaps =>
      refine .gap (masked_ne_nil segment) (flatMap_masked_ne_nil nonempty) ?_ (masked_gaps gaps) rest
      cases segment with
      | lineComment | blockComment => exact fun _ => isBlankChar_of_mem_blanked
      | _ => cases isComment

theorem alike_masked (replaced : List.Forall₂ Replaced segments pieces)
    (legal : ∀ segment ∈ segments, segment.Legal) (closed : ∀ segment ∈ segments, segment.Closed) :
    Alike (segments.flatMap masked) (pieces.flatten.flatMap masked) := by
  induction replaced with
  | nil => exact .nil
  | @cons segment piece rest others first _ ih =>
      obtain ⟨firstLegal, furtherLegal⟩ := List.forall_mem_cons.mp legal
      obtain ⟨firstClosed, furtherClosed⟩ := List.forall_mem_cons.mp closed
      rw [List.flatMap_cons, List.flatten_cons, List.flatMap_append]
      exact alike_replaced first firstLegal firstClosed (ih furtherLegal furtherClosed)

/-- A text with other literals and comments in their places has the same tokens. -/
theorem ofText_reworded {text other : String} {markers : List Marker}
    (rewording : Rewording text pieces other) (apart : ¬ DashedComment pieces.flatten)
    (scanned : markers? text = .ok markers) : Token.ofText other = Token.ofText text := by
  obtain ⟨readable, _⟩ := markers?_eq_ok_iff.mp scanned
  have cut := rewording.split_eq_iff.mpr apart
  have closed : ∀ segment ∈ split text.toList, segment.Closed :=
    fun segment member => closed_of_readable (readable segment member)
  have closedToo : ∀ segment ∈ split other.toList, segment.Closed := by
    rw [cut]
    exact fun segment member =>
      closed_of_readable (readable_replaced rewording.replaced readable segment member)
  have alike := alike_masked rewording.replaced (legal_of_segmented (segmented_split _)) closed
  rw [Token.ofText, Token.ofText, mask_eq_ok_iff.mpr ⟨closed, rfl⟩,
    mask_eq_ok_iff.mpr ⟨closedToo, rfl⟩, cut, Except.map, Except.map, tokens_alike alike]

end Replacement

end CheckedSql.Sql

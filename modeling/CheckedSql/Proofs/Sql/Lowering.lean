import CheckedSql.Sql.LeadingKeyword
import CheckedSql.Proofs.Sql.Spelling

namespace CheckedSql.Sql

open Text

/-! Texts in small letters.

A capital stands where its small letter may stand: each class of characters that a
reading asks for holds both or neither (`value_toLower`). So what is read in a text with
small letters is what is read in the text, with small letters: its segments
(`split_lower`), its mask (`mask_lower`), its tokens (`tokens_lower`) and its leading
keyword (`leadingKeyword?_lower`).
-/

section Chars

variable {char other : Char} {Value : Type} {text : List Char}

theorem toLower_of_not_capital (small : ¬ (65 ≤ char.toNat ∧ char.toNat ≤ 90)) :
    char.toLower = char := by
  refine dif_neg fun capital => small ?_
  simpa [UInt32.le_iff_toNat_le] using capital

/-- What is the same for the capitals and their small letters is the same for all. -/
theorem value_toLower (value : Char → Value)
    (same : ∀ code ∈ List.range' 65 26, value (Char.ofNat code).toLower = value (Char.ofNat code))
    (char : Char) : value char.toLower = value char := by
  by_cases capital : 65 ≤ char.toNat ∧ char.toNat ≤ 90
  · have found := same char.toNat (List.mem_range'_1.mpr (by omega))
    rwa [Char.ofNat_toNat] at found
  · rw [toLower_of_not_capital capital]

@[simp] theorem isAlpha_toLower (char : Char) : char.toLower.isAlpha = char.isAlpha :=
  value_toLower _ (by decide) char

@[simp] theorem isDigit_toLower (char : Char) : char.toLower.isDigit = char.isDigit :=
  value_toLower _ (by decide) char

@[simp] theorem isNameStart_toLower (char : Char) : isNameStart char.toLower = isNameStart char :=
  value_toLower _ (by decide) char

@[simp] theorem isNamePart_toLower (char : Char) : isNamePart char.toLower = isNamePart char :=
  value_toLower _ (by decide) char

@[simp] theorem isWordPart_toLower (char : Char) : isWordPart char.toLower = isWordPart char :=
  value_toLower _ (by decide) char

@[simp] theorem isBlank_toLower (char : Char) : isBlank char.toLower = isBlank char :=
  value_toLower _ (by decide) char

@[simp] theorem leadsOver_toLower (char : Char) : leadsOver char.toLower = leadsOver char :=
  value_toLower _ (by decide) char

@[simp] theorem isQuote_toLower (char : Char) : isQuote char.toLower = isQuote char :=
  value_toLower _ (by decide) char

@[simp] theorem utf8Size_toLower (char : Char) : char.toLower.utf8Size = char.utf8Size :=
  value_toLower _ (by decide) char

@[simp] theorem toUpper_toLower (char : Char) : char.toLower.toUpper = char.toUpper :=
  value_toLower _ (by decide) char

@[simp] theorem toLower_toLower (char : Char) : char.toLower.toLower = char.toLower :=
  value_toLower _ (by decide) char

theorem toLower_of_not_alpha (unlettered : char.isAlpha = false) : char.toLower = char := by
  refine toLower_of_not_capital fun capital => ?_
  have lettered : ∀ code ∈ List.range' 65 26, (Char.ofNat code).isAlpha = true := by decide
  have found := lettered char.toNat (List.mem_range'_1.mpr (by omega))
  rw [Char.ofNat_toNat, unlettered] at found
  cases found

/-- A sign that is no letter is the small letter of itself alone. -/
theorem toLower_eq_iff (unlettered : other.isAlpha = false) : char.toLower = other ↔ char = other := by
  constructor
  · rintro rfl
    rw [isAlpha_toLower] at unlettered
    exact (toLower_of_not_alpha unlettered).symm
  · rintro rfl
    exact toLower_of_not_alpha unlettered

theorem isAlpha_of_isQuote (isQuoted : isQuote char = true) : char.isAlpha = false := by
  simp only [isQuote, Bool.or_eq_true, beq_iff_eq] at isQuoted
  rcases isQuoted with (rfl | rfl) | rfl <;> rfl

theorem toLower_of_isQuote (isQuoted : isQuote char = true) : char.toLower = char :=
  toLower_of_not_alpha (isAlpha_of_isQuote isQuoted)

theorem takeWhile_lower {accepts : Char → Bool} (same : ∀ char : Char, accepts char.toLower = accepts char)
    (text : List Char) :
    (text.map Char.toLower).takeWhile accepts = (text.takeWhile accepts).map Char.toLower := by
  rw [List.takeWhile_map, show accepts ∘ Char.toLower = accepts from funext same]

theorem dropWhile_lower {accepts : Char → Bool} (same : ∀ char : Char, accepts char.toLower = accepts char)
    (text : List Char) :
    (text.map Char.toLower).dropWhile accepts = (text.dropWhile accepts).map Char.toLower := by
  rw [List.dropWhile_map, show accepts ∘ Char.toLower = accepts from funext same]

theorem bne_toLower (unlettered : other.isAlpha = false) (char : Char) :
    (char.toLower != other) = (char != other) := by
  rw [Bool.eq_iff_iff, bne_iff_ne, bne_iff_ne, ne_eq, toLower_eq_iff unlettered]

theorem head?_lower (unlettered : other.isAlpha = false) :
    (text.map Char.toLower).head? = some other ↔ text.head? = some other := by
  cases text <;> simp [toLower_eq_iff unlettered]

theorem byteSize_lower (text : List Char) : byteSize (text.map Char.toLower) = byteSize text := by
  induction text with
  | nil => rfl
  | cons char text ih => rw [List.map_cons, byteSize, byteSize, utf8Size_toLower, ih]

theorem lower_ofList (text : List Char) :
    Text.lower (String.ofList text) = String.ofList (text.map Char.toLower) := by
  rw [Text.lower, foldCase, String.toList_ofList]

theorem blanked_lower (text : List Char) :
    blanked (text.map Char.toLower) = (blanked text).map Char.toLower := by
  fun_induction blanked text with
  | case1 => rfl
  | case2 rest ih =>
      rw [List.map_cons, List.map_cons, ← ih]
      rfl
  | case3 char rest other ih =>
      have remains : char.toLower ≠ '\n' := mt (toLower_eq_iff rfl).mp other
      rw [List.map_cons, blanked_cons remains, utf8Size_toLower, ih, List.map_append,
        List.map_replicate]
      rfl

end Chars

namespace Segment

def lower : Segment → Segment
  | .literal quote body => .literal quote.toLower (body.map Char.toLower)
  | .identifier body => .identifier (body.map Char.toLower)
  | .lineComment body ended => .lineComment (body.map Char.toLower) ended
  | .blockComment body closed => .blockComment (body.map Char.toLower) closed
  | .operator second => .operator second.toLower
  | .named name => .named (name.map Char.toLower)
  | .positional => .positional
  | .colon => .colon
  | .unclosed quote body => .unclosed quote.toLower (body.map Char.toLower)
  | .other char => .other char.toLower

theorem text_lower (segment : Segment) : segment.lower.text = segment.text.map Char.toLower := by
  cases segment with
  | identifier body => simp [lower, text, show '`'.toLower = '`' from rfl]
  | lineComment body ended => cases ended <;> simp [lower, text]
  | blockComment body closed => cases closed <;> simp [lower, text]
  | operator second => rfl
  | named name => rfl
  | positional => rfl
  | colon => rfl
  | _ => simp [lower, text]

theorem size_lower (segment : Segment) : segment.lower.size = segment.size := by
  rw [size, text_lower, byteSize_lower, size]

theorem masked_lower (segment : Segment) :
    segment.lower.masked = segment.masked.map Char.toLower := by
  cases segment with
  | literal quote body => simp [lower, masked, blanked_lower]
  | lineComment body ended =>
      rw [masked, ← blanked_lower, ← text_lower]
      rfl
  | blockComment body closed =>
      rw [masked, ← blanked_lower, ← text_lower]
      rfl
  | identifier body => exact text_lower (.identifier body)
  | operator second => exact text_lower (.operator second)
  | named name => exact text_lower (.named name)
  | positional => exact text_lower .positional
  | colon => exact text_lower .colon
  | unclosed quote body => exact text_lower (.unclosed quote body)
  | other char => exact text_lower (.other char)

end Segment

section Segments

variable {quote : Char}

/-- A reading and what is left behind it, both in small letters. -/
abbrev lowered : List Char × List Char → List Char × List Char :=
  Prod.map (List.map Char.toLower) (List.map Char.toLower)

theorem quotedBody_lower (isQuoted : isQuote quote = true) (rest : List Char) :
    quotedBody quote (rest.map Char.toLower) = (quotedBody quote rest).map lowered := by
  have notEscape := ne_escape_of_isQuote isQuoted
  have same := toLower_of_isQuote isQuoted
  fun_induction quotedBody quote rest with
  | case1 => rfl
  | case2 rest backtick ih =>
      have different : '\\' ≠ quote := notEscape.symm
      rw [List.map_cons, show '\\'.toLower = '\\' from rfl,
        quotedBody_plain different fun _ => backtick, ih]
      cases quotedBody quote rest <;> rfl
  | case3 escapes => exact (quotedBody.eq_2 quote).trans (if_neg escapes)
  | case4 escapes escaped rest ih =>
      rw [List.map_cons, List.map_cons, show '\\'.toLower = '\\' from rfl,
        quotedBody_escaped escapes, ih]
      cases quotedBody quote rest <;> rfl
  | case5 =>
      rw [List.map_cons, List.map_nil, same, quotedBody_closed notEscape (by simp)]
      rfl
  | case6 after _ ih =>
      rw [List.map_cons, List.map_cons, same, quotedBody_doubled notEscape, ih]
      cases quotedBody quote after
      · rfl
      · simp [same]
  | case7 next after different =>
      have stops : ((next :: after).map Char.toLower).head? ≠ some quote := by
        rw [ne_eq, head?_lower (isAlpha_of_isQuote isQuoted)]
        simpa using different
      rw [List.map_cons, same, quotedBody_closed notEscape stops]
      rfl
  | case8 char rest unescaped different ih =>
      have remains : char.toLower ≠ quote := mt (toLower_eq_iff (isAlpha_of_isQuote isQuoted)).mp different
      have plain : char.toLower ≠ '\\' := mt (toLower_eq_iff rfl).mp unescaped
      rw [List.map_cons, quotedBody_plain remains fun escape => absurd escape plain, ih]
      cases quotedBody quote rest <;> rfl

theorem commentBody_lower (rest : List Char) :
    commentBody (rest.map Char.toLower) = (commentBody rest).map lowered := by
  fun_induction commentBody rest with
  | case1 => rfl
  | case2 rest => rfl
  | case3 char rest notEnd ih =>
      have opens : ¬ (char.toLower = '*' ∧ (rest.map Char.toLower).head? = some '/') := by
        rw [toLower_eq_iff rfl, head?_lower rfl]
        rintro ⟨star, slash⟩
        obtain ⟨further, same⟩ := List.head?_eq_some_iff.mp slash
        exact notEnd further star same
      rw [List.map_cons, commentBody_next opens, ih]
      cases commentBody rest <;> rfl

theorem quotedSegment_lower (isQuoted : isQuote quote = true) (rest : List Char) :
    quotedSegment quote (rest.map Char.toLower) =
      ((quotedSegment quote rest).1.lower, (quotedSegment quote rest).2.map Char.toLower) := by
  have same := toLower_of_isQuote isQuoted
  rw [quotedSegment, quotedSegment, quotedBody_lower isQuoted]
  cases quotedBody quote rest with
  | none => simp [Segment.lower, same]
  | some read =>
      dsimp only [Option.map_some, lowered, Prod.map]
      split
      · rfl
      · simp [Segment.lower, same]

theorem lineSegment_lower (rest : List Char) :
    lineSegment (rest.map Char.toLower) =
      ((lineSegment rest).1.lower, (lineSegment rest).2.map Char.toLower) := by
  unfold lineSegment
  rw [takeWhile_lower (bne_toLower rfl), dropWhile_lower (bne_toLower rfl)]
  cases rest.dropWhile (· != '\n') <;> rfl

theorem blockSegment_lower (rest : List Char) :
    blockSegment (rest.map Char.toLower) =
      ((blockSegment rest).1.lower, (blockSegment rest).2.map Char.toLower) := by
  unfold blockSegment
  rw [commentBody_lower]
  cases commentBody rest <;> rfl

theorem colonSegment_lower (rest : List Char) :
    colonSegment (rest.map Char.toLower) =
      ((colonSegment rest).1.lower, (colonSegment rest).2.map Char.toLower) := by
  cases rest with
  | nil => rfl
  | cons next rest =>
      simp (disch := decide) only [List.map_cons, colonSegment, toLower_eq_iff, isNameStart_toLower,
        takeWhile_lower isNamePart_toLower, dropWhile_lower isNamePart_toLower]
      split
      · rename_i operator
        rcases operator with rfl | rfl <;> rfl
      · split <;> rfl

theorem firstSegment_lower (char : Char) (rest : List Char) :
    firstSegment char.toLower (rest.map Char.toLower) =
      ((firstSegment char rest).1.lower, (firstSegment char rest).2.map Char.toLower) := by
  fun_cases firstSegment char rest with
  | case1 rest => exact lineSegment_lower rest
  | case2 rest => exact blockSegment_lower rest
  | case3 => rfl
  | case4 => exact colonSegment_lower rest
  | case5 _ _ _ _ _ _ isQuoted =>
      rw [toLower_of_isQuote isQuoted, firstSegment_quote isQuoted]
      exact quotedSegment_lower isQuoted rest
  | case6 char rest notLine notBlock notMark notColon notQuote =>
      refine firstSegment_other ?_ (mt (toLower_eq_iff rfl).mp notMark)
        (mt (toLower_eq_iff rfl).mp notColon) ⟨?_, ?_⟩
      · rw [isQuote_toLower]
        exact Bool.eq_false_iff.mpr notQuote
      · rw [toLower_eq_iff rfl, ne_eq, head?_lower rfl]
        intro dash second
        obtain ⟨after, rfl⟩ := List.head?_eq_some_iff.mp second
        exact notLine after dash rfl
      · rw [toLower_eq_iff rfl, ne_eq, head?_lower rfl]
        intro slash second
        obtain ⟨after, rfl⟩ := List.head?_eq_some_iff.mp second
        exact notBlock after slash rfl

theorem split_lower (text : List Char) :
    split (text.map Char.toLower) = (split text).map Segment.lower := by
  fun_induction split text with
  | case1 => exact split.eq_1
  | case2 char rest ih => rw [List.map_cons, split, firstSegment_lower, ih, List.map_cons]

theorem maskFrom_lower (offset : Nat) (segments : List Segment) :
    maskFrom offset (segments.map Segment.lower) =
      (maskFrom offset segments).map (List.map Char.toLower) := by
  fun_induction maskFrom offset segments with
  | case1 => rfl
  | case2 => rfl
  | case3 offset segment rest closed ih =>
      have sound : maskFrom offset (segment.lower :: rest.map Segment.lower) =
          (maskFrom (offset + segment.lower.size) (rest.map Segment.lower)).map
            (segment.lower.masked ++ ·) := by
        cases segment <;> first | rfl | exact absurd rfl (closed _ _)
      rw [List.map_cons, sound, Segment.size_lower, Segment.masked_lower, ih]
      cases maskFrom (offset + segment.size) rest with
      | error fault => rfl
      | ok masked => exact congrArg Except.ok List.map_append.symm

/-- Offsets count bytes, and a small letter has as many as its capital: so a quote that
is never closed is found at the same place. -/
theorem mask_lower (text : List Char) :
    mask (text.map Char.toLower) = (mask text).map (List.map Char.toLower) := by
  rw [mask, split_lower, maskFrom_lower, mask]

end Segments

namespace Token

def lower : Token → Token
  | .word text => .word (Text.lower text)
  | .quoted name => .quoted (Text.lower name)
  | .literal => .literal
  | .punct char => .punct char.toLower

end Token

section Tokens

theorem upTo?_lower {closing : Char} (unlettered : closing.isAlpha = false) (text : List Char) :
    upTo? closing (text.map Char.toLower) = (upTo? closing text).map lowered := by
  unfold upTo?
  rw [takeWhile_lower (bne_toLower unlettered), dropWhile_lower (bne_toLower unlettered)]
  cases text.dropWhile (· != closing) <;> rfl

theorem afterNumber_lower (text : List Char) :
    afterNumber (text.map Char.toLower) = (afterNumber text).map Char.toLower := by
  unfold afterNumber
  rw [dropWhile_lower isDigit_toLower]
  match text.dropWhile Char.isDigit with
  | [] => rfl
  | [char] => by_cases point : char = '.' <;> simp [point]
  | char :: next :: rest =>
      by_cases point : char = '.'
      · subst point
        simp [dropWhile_lower isDigit_toLower, apply_ite (List.map Char.toLower)]
      · simp [point, toLower_eq_iff]

theorem firstToken_lower (char : Char) (rest : List Char) :
    firstToken char.toLower (rest.map Char.toLower) =
      ((firstToken char rest).1.map Token.lower, (firstToken char rest).2.map Char.toLower) := by
  unfold firstToken
  simp (disch := decide) only [isBlank_toLower, isNameStart_toLower, isDigit_toLower, toLower_eq_iff]
  split
  · rfl
  split
  · rw [takeWhile_lower isWordPart_toLower, dropWhile_lower isWordPart_toLower]
    rw [← List.map_cons, ← lower_ofList]
    rfl
  split
  · rw [upTo?_lower rfl]
    cases upTo? '`' rest with
    | none => rfl
    | some read => simp [Token.lower, lower_ofList]
  split
  · rename_i isLiteral
    have unlettered : char.isAlpha = false := by rcases isLiteral with rfl | rfl <;> rfl
    rw [toLower_of_not_alpha unlettered, upTo?_lower unlettered]
    cases upTo? char rest <;> rfl
  split
  · cases rest with
    | nil => rfl
    | cons next after =>
        simp only [List.map_cons, isNameStart_toLower, dropWhile_lower isNamePart_toLower]
        split <;> rfl
  split
  · rfl
  split
  · rw [afterNumber_lower]
    rfl
  · rfl

theorem tokens_lower (text : List Char) :
    tokens (text.map Char.toLower) = (tokens text).map Token.lower := by
  fun_induction tokens text with
  | case1 => exact tokens.eq_1
  | case2 char rest ih =>
      rw [List.map_cons, tokens, firstToken_lower, ih, List.map_append]
      cases (firstToken char rest).1 <;> rfl

theorem Token.ofText_lower (text : String) :
    Token.ofText (Text.lower text) = (Token.ofText text).map (List.map Token.lower) := by
  rw [Token.ofText, Token.ofText, Text.lower, String.toList_ofList, foldCase, mask_lower]
  cases mask text.toList with
  | error fault => rfl
  | ok masked => exact congrArg Except.ok (tokens_lower masked)

end Tokens

section Keywords

theorem keywordFrom_lower (place : KeywordPlace) (text : List Char) :
    keywordFrom place (text.map Char.toLower) = (keywordFrom place text).map (List.map Char.toLower) := by
  induction text generalizing place with
  | nil => cases place <;> rfl
  | cons char rest ih =>
      cases place <;>
        simp [keywordFrom, toLower_eq_iff, takeWhile_lower, ih, apply_ite (Option.map _),
          Option.map_or]

theorem leadingKeyword?_lower (text : List Char) :
    leadingKeyword? (text.map Char.toLower) = (leadingKeyword? text).map (List.map Char.toLower) := by
  rw [leadingKeyword?, leadingKeyword?, KeywordReadings.lead_ofText, KeywordReadings.lead_ofText,
    keywordFrom_lower]

theorem firstWord_lower (text : List Char) :
    firstWord (text.map Char.toLower) = (firstWord text).map Char.toLower := by
  rw [firstWord, dropWhile_lower isBlank_toLower,
    takeWhile_lower fun char => congrArg not (isBlank_toLower char), firstWord]

end Keywords

end CheckedSql.Sql

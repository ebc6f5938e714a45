import CheckedSql.Proofs.Sql.Likeness

namespace CheckedSql.Sql

open Text

inductive Lexeme where
  | blank (char : Char)
  | lineComment (body : List Char)
  | blockComment (body : List Char)
  | word (first : Char) (rest : List Char)
  | quoted (name : List Char)
  | string (quote : Char) (body : List Char)
  /-- Digits, and a fraction behind a point unless it is empty. -/
  | number (first : Char) (rest fraction : List Char)
  | named (first : Char) (rest : List Char)
  | positional
  | punct (char : Char)
deriving DecidableEq

namespace Lexeme

def fractionText : List Char → List Char
  | [] => []
  | digit :: rest => '.' :: digit :: rest

def segments : Lexeme → List Segment
  | .blank char | .punct char => [.other char]
  | .lineComment body => [.lineComment body true]
  | .blockComment body => [.blockComment body true]
  | .word first rest => (first :: rest).map .other
  | .quoted name => [.identifier name]
  | .string quote body => [.literal quote body]
  | .number first rest fraction => (first :: (rest ++ fractionText fraction)).map .other
  | .named first rest => [.named (first :: rest)]
  | .positional => [.positional]

def text (lexeme : Lexeme) : List Char :=
  lexeme.segments.flatMap Segment.text

def token? : Lexeme → Option Token
  | .blank _ | .lineComment _ | .blockComment _ => none
  | .word first rest => some (.word (String.ofList (first :: rest)))
  | .quoted name => some (.quoted (String.ofList name))
  | .string _ _ | .number _ _ _ | .named _ _ | .positional => some .literal
  | .punct char => some (.punct char)

/-- Whether a character stands for itself alone. -/
def isSign (char : Char) : Bool :=
  !isBlank char && !isNameStart char && !char.isDigit && !isQuote char && char != '?' &&
    char != ':'

def Legal : Lexeme → Prop
  | .blank char => isBlank char = true
  | .lineComment body => '\n' ∉ body
  | .blockComment body => ¬ ClosesComment body
  | .word first rest => isNameStart first = true ∧ rest.all isWordPart = true
  | .quoted name => '`' ∉ name
  | .string quote body => (quote = '\'' ∨ quote = '"') ∧ Enclosed quote body
  | .number first rest fraction =>
      first.isDigit = true ∧ rest.all Char.isDigit = true ∧ fraction.all Char.isDigit = true
  | .named first rest => isNameStart first = true ∧ rest.all isNamePart = true
  | .positional => True
  | .punct char => isSign char = true

/-- Whether a lexeme goes on, or becomes another one, if this character comes next. -/
def continues : Lexeme → Char → Bool
  | .word _ _, next => isWordPart next
  | .quoted _, next => next == '`'
  | .string quote _, next => next == quote
  | .number _ _ _, next => next.isDigit || next == '.'
  | .named _ _, next => isNamePart next
  | .punct char, next => char == '-' && next == '-' || char == '/' && next == '*'
  | _, _ => false

end Lexeme

/-- Lexemes in a text, each complete before the next. -/
def Written : List Lexeme → Prop
  | [] => True
  | lexeme :: rest => lexeme.Legal ∧
      (rest.flatMap Lexeme.text).head?.any lexeme.continues = false ∧ Written rest

/-- Whether a text is written in lexemes that have these tokens. -/
def Spells (text : String) (tokens : List Token) : Prop :=
  ∃ lexemes, Written lexemes ∧ lexemes.flatMap Lexeme.text = text.toList ∧
    lexemes.filterMap Lexeme.token? = tokens

instance (quote : Char) (body : List Char) :
    Decidable ((quote = '\'' ∨ quote = '"') ∧ Enclosed quote body) :=
  if isLiteral : quote = '\'' ∨ quote = '"' then
    decidable_of_iff (quotedBody quote (body ++ [quote]) = some (body, []))
      ⟨fun read => ⟨isLiteral, (enclosed_of_quotedBody read).1⟩, fun legal =>
        quotedBody_of_enclosed (isQuote_of_literal isLiteral) legal.2 (by simp)⟩
  else .isFalse fun legal => isLiteral legal.1

instance : (lexeme : Lexeme) → Decidable lexeme.Legal
  | .blank char => inferInstanceAs (Decidable (isBlank char = true))
  | .lineComment body => inferInstanceAs (Decidable ('\n' ∉ body))
  | .blockComment body => inferInstanceAs (Decidable (¬ ['*', '/'] <:+: body))
  | .word first rest =>
      inferInstanceAs (Decidable (isNameStart first = true ∧ rest.all isWordPart = true))
  | .quoted name => inferInstanceAs (Decidable ('`' ∉ name))
  | .string quote body =>
      inferInstanceAs (Decidable ((quote = '\'' ∨ quote = '"') ∧ Enclosed quote body))
  | .number first rest fraction =>
      inferInstanceAs (Decidable (first.isDigit = true ∧ rest.all Char.isDigit = true ∧
        fraction.all Char.isDigit = true))
  | .named first rest =>
      inferInstanceAs (Decidable (isNameStart first = true ∧ rest.all isNamePart = true))
  | .positional => .isTrue True.intro
  | .punct char => inferInstanceAs (Decidable (Lexeme.isSign char = true))

instance decidableWritten : (lexemes : List Lexeme) → Decidable (Written lexemes)
  | [] => .isTrue True.intro
  | lexeme :: rest =>
      have := decidableWritten rest
      inferInstanceAs (Decidable (lexeme.Legal ∧
        (rest.flatMap Lexeme.text).head?.any lexeme.continues = false ∧ Written rest))

section Classes

variable {char : Char} {accepts : Char → Bool}

/-- A class is looked up by the codes of its characters. -/
theorem refused_of_code {low high : Nat}
    (refuses : ∀ code ∈ List.range' low (high + 1 - low), accepts (Char.ofNat code) = false)
    (least : low ≤ char.toNat) (most : char.toNat ≤ high) : accepts char = false := by
  have refused := refuses char.toNat (List.mem_range'_1.mpr (by omega))
  rwa [Char.ofNat_toNat] at refused

theorem isBlank_of_isWordPart (part : isWordPart char = true) : isBlank char = false := by
  refine Bool.eq_false_iff.mpr fun blank => ?_
  obtain ⟨range, member, within⟩ := List.any_eq_true.mp blank
  simp only [Bool.and_eq_true, decide_eq_true_eq] at within
  have refuses : ∀ range ∈ blankRanges, ∀ code ∈ List.range' range.1 (range.2 + 1 - range.1),
      isWordPart (Char.ofNat code) = false := by decide +kernel
  have refused := refused_of_code (refuses range member) within.1 within.2
  rw [part] at refused
  cases refused

theorem isNameStart_of_isDigit (digit : char.isDigit = true) : isNameStart char = false := by
  simp only [Char.isDigit, Bool.and_eq_true, decide_eq_true_eq, UInt32.le_iff_toNat_le] at digit
  have refuses : ∀ code ∈ List.range' 48 (57 + 1 - 48), isNameStart (Char.ofNat code) = false := by
    decide +kernel
  exact refused_of_code refuses digit.1 digit.2

theorem isWordPart_of_isNameStart (start : isNameStart char = true) : isWordPart char = true := by
  rw [isWordPart, isNamePart_of_isNameStart start, Bool.true_or]

theorem isWordPart_of_isDigit (digit : char.isDigit = true) : isWordPart char = true := by
  simp [isWordPart, isNamePart, Char.isAlphanum, digit]

/-- A character that opens nothing and is a segment of its own before any other. -/
structure Lone (char : Char) : Prop where
  legal : (Segment.other char).Legal
  notDash : char ≠ '-'
  notSlash : char ≠ '/'

theorem lone_of_accepts
    (refuses : ['?', ':', '-', '/', '\'', '"', '`'].any accepts = false)
    (accepted : accepts char = true) : Lone char := by
  have different := ne_of_accepts refuses accepted
  simp only [List.forall_mem_cons] at different
  obtain ⟨notMark, notColon, notDash, notSlash, quotes⟩ := different
  exact ⟨⟨by simp [isQuote, quotes], notMark, notColon⟩, notDash, notSlash⟩

theorem lone_of_isWordPart (part : isWordPart char = true) : Lone char :=
  lone_of_accepts (by decide) part

theorem lone_of_isBlank (blank : isBlank char = true) : Lone char :=
  lone_of_accepts (by decide) blank

theorem Lone.stops (lone : Lone char) (after : List Char) :
    (Segment.other char).Stops after :=
  ⟨fun dash => absurd dash lone.notDash, fun slash => absurd slash lone.notSlash⟩

theorem lone_point : Lone '.' :=
  ⟨⟨rfl, by decide, by decide⟩, by decide, by decide⟩

end Classes

section Segments

variable {rest : List Segment} {chars : List Char} {lexeme : Lexeme} {lexemes : List Lexeme}

theorem segmented_others (lone : ∀ char ∈ chars, Lone char) (segmented : Segmented rest) :
    Segmented (chars.map Segment.other ++ rest) := by
  induction chars with
  | nil => exact segmented
  | cons char chars ih =>
      obtain ⟨first, further⟩ := List.forall_mem_cons.mp lone
      exact .cons first.legal (first.stops _) (ih further)

theorem enclosed_of_not_mem {name : List Char} (inside : '`' ∉ name) : Enclosed '`' name := by
  induction name with
  | nil => exact .nil
  | cons char name ih =>
      rw [List.mem_cons, not_or] at inside
      exact .plain (Ne.symm inside.1) (fun _ => rfl) (ih inside.2)

namespace Lexeme

theorem mem_number {first char : Char} {rest fraction : List Char}
    (legal : (number first rest fraction).Legal)
    (member : char ∈ first :: (rest ++ fractionText fraction)) :
    char.isDigit = true ∨ char = '.' := by
  obtain ⟨digit, digits, fractionDigits⟩ := legal
  rcases List.mem_cons.mp member with rfl | member
  · exact .inl digit
  · rcases List.mem_append.mp member with inside | behind
    · exact .inl (List.all_eq_true.mp digits char inside)
    · cases fraction with
      | nil => cases behind
      | cons next fraction =>
          rcases List.mem_cons.mp behind with rfl | inside
          · exact .inr rfl
          · exact .inl (List.all_eq_true.mp fractionDigits char inside)

/-- The segments of a lexeme come before those of what may follow it. -/
theorem segmented (legal : lexeme.Legal)
    (stops : ∀ next ∈ (rest.flatMap Segment.text).head?, lexeme.continues next = false)
    (further : Segmented rest) : Segmented (lexeme.segments ++ rest) := by
  cases lexeme with
  | blank char =>
      have lone := lone_of_isBlank legal
      exact .cons lone.legal (lone.stops _) further
  | lineComment body => exact .cons legal (fun unended => by cases unended) further
  | blockComment body => exact .cons legal (fun unclosed => by cases unclosed) further
  | word first name =>
      refine segmented_others (fun char member => lone_of_isWordPart ?_) further
      rcases List.mem_cons.mp member with rfl | inside
      · exact isWordPart_of_isNameStart legal.1
      · exact List.all_eq_true.mp legal.2 char inside
  | quoted name =>
      refine .cons (enclosed_of_not_mem legal) (fun same => ?_) further
      simpa [continues] using stops _ same
  | string quote body =>
      refine .cons legal (fun same => ?_) further
      simpa [continues] using stops _ same
  | number first digits fraction =>
      refine segmented_others (fun char member => ?_) further
      rcases mem_number legal member with digit | rfl
      · exact lone_of_isWordPart (isWordPart_of_isDigit digit)
      · exact lone_point
  | named first name =>
      have written : (Segment.named (first :: name)).Legal :=
        ⟨first, name, rfl, legal.1, List.all_eq_true.mp legal.2⟩
      exact .cons written stops further
  | positional => exact .cons trivial trivial further
  | punct char =>
      simp only [Legal, isSign, Bool.and_eq_true, bne_iff_ne, Bool.not_eq_true'] at legal
      obtain ⟨⟨⟨_, notQuote⟩, notMark⟩, notColon⟩ := legal
      refine .cons ⟨notQuote, notMark, notColon⟩ ⟨?_, ?_⟩ further
      · rintro rfl same
        simpa [continues] using stops _ same
      · rintro rfl same
        simpa [continues] using stops _ same

theorem closed (lexeme : Lexeme) : ∀ segment ∈ lexeme.segments, segment.Closed := by
  cases lexeme with
  | word | number =>
      intro segment member
      obtain ⟨char, _, rfl⟩ := List.mem_map.mp member
      trivial
  | _ => exact List.forall_mem_singleton.mpr trivial

end Lexeme

theorem flatMap_segments_text (lexemes : List Lexeme) :
    (lexemes.flatMap Lexeme.segments).flatMap Segment.text = lexemes.flatMap Lexeme.text :=
  List.flatMap_assoc

theorem segmented_lexemes (written : Written lexemes) :
    Segmented (lexemes.flatMap Lexeme.segments) := by
  induction lexemes with
  | nil => exact .nil
  | cons lexeme lexemes ih =>
      obtain ⟨legal, stops, further⟩ := written
      rw [← flatMap_segments_text, Option.any_eq_false] at stops
      exact lexeme.segmented legal stops (ih further)

end Segments

section Tokens

variable {first char : Char} {after name : List Char} {lexeme : Lexeme} {lexemes : List Lexeme}
  {accepts : Char → Bool}

/-- A run ends where the next character is refused. -/
theorem run_stops {run : List Char} (accepted : ∀ char ∈ run, accepts char = true)
    (stops : ∀ next ∈ after.head?, accepts next = false) :
    (run ++ after).takeWhile accepts = run ∧ (run ++ after).dropWhile accepts = after := by
  rw [List.takeWhile_append_of_pos accepted, List.dropWhile_append_of_pos accepted]
  cases after with
  | nil => exact ⟨List.append_nil run, rfl⟩
  | cons next after =>
      have refused : ¬ accepts next = true := Bool.eq_false_iff.mp (stops next rfl)
      rw [List.takeWhile_cons_of_neg refused, List.dropWhile_cons_of_neg refused]
      exact ⟨List.append_nil run, rfl⟩

theorem tokens_of_firstToken {rest : List Char} {token? : Option Token}
    (read : firstToken char rest = (token?, after)) :
    tokens (char :: rest) = token?.toList ++ tokens after := by
  rw [tokens, read]

theorem firstToken_blank (blank : isBlank char = true) (rest : List Char) :
    firstToken char rest = (none, rest) :=
  if_pos blank

theorem firstToken_word (start : isNameStart first = true)
    (parts : ∀ char ∈ name, isWordPart char = true)
    (stops : ∀ next ∈ after.head?, isWordPart next = false) :
    firstToken first (name ++ after) = (some (.word (String.ofList (first :: name))), after) := by
  have unblank := isBlank_of_isWordPart (isWordPart_of_isNameStart start)
  obtain ⟨taken, left⟩ := run_stops parts stops
  simp [firstToken, unblank, start, taken, left]

theorem firstToken_digit (digit : char.isDigit = true) (rest : List Char) :
    firstToken char rest = (some .literal, afterNumber rest) := by
  have lone := lone_of_isWordPart (isWordPart_of_isDigit digit)
  have notQuote : (char ≠ '\'' ∧ char ≠ '"') ∧ char ≠ '`' := by
    simpa [isQuote] using lone.legal.1
  simp [firstToken, isBlank_of_isWordPart (isWordPart_of_isDigit digit),
    isNameStart_of_isDigit digit, notQuote, lone.legal.2.1, lone.legal.2.2, digit]

theorem firstToken_sign (sign : Lexeme.isSign char = true) (rest : List Char) :
    firstToken char rest = (some (.punct char), rest) := by
  simp only [Lexeme.isSign, isQuote, Bool.and_eq_true, bne_iff_ne, Bool.not_eq_true',
    Bool.or_eq_false_iff, beq_eq_false_iff_ne] at sign
  obtain ⟨⟨⟨⟨⟨unblank, unstarted⟩, notDigit⟩, notQuote⟩, notMark⟩, notColon⟩ := sign
  simp [firstToken, unblank, unstarted, notDigit, notQuote, notMark, notColon]

theorem afterNumber_stops {digits fraction : List Char}
    (isDigits : ∀ char ∈ digits, char.isDigit = true)
    (isFraction : ∀ char ∈ fraction, char.isDigit = true)
    (stops : ∀ next ∈ after.head?, next.isDigit = false ∧ next ≠ '.') :
    afterNumber (digits ++ (Lexeme.fractionText fraction ++ after)) = after := by
  have ends : ∀ next ∈ after.head?, next.isDigit = false := fun next head => (stops next head).1
  cases fraction with
  | nil =>
      have whole := (run_stops isDigits ends).2
      rw [Lexeme.fractionText, List.nil_append, afterNumber_whole, whole]
      intro next rest same
      rw [whole] at same
      exact absurd rfl (stops '.' (by rw [same]; rfl)).2
  | cons next fraction =>
      obtain ⟨digit, digitsBehind⟩ := List.forall_mem_cons.mp isFraction
      have point : ∀ char ∈ ('.' :: next :: (fraction ++ after)).head?, char.isDigit = false := by
        intro char head
        cases head
        rfl
      exact (afterNumber_fraction digit (run_stops isDigits point).2).trans
        (run_stops digitsBehind ends).2

/-- A masked lexeme is read as its token, and nothing after it. -/
theorem Lexeme.tokens_masked (legal : lexeme.Legal)
    (stops : ∀ next ∈ after.head?, lexeme.continues next = false) :
    tokens (lexeme.segments.flatMap Segment.masked ++ after) =
      lexeme.token?.toList ++ tokens after := by
  cases lexeme with
  | blank char => exact tokens_of_firstToken (firstToken_blank legal after)
  | lineComment body =>
      rw [segments, List.flatMap_singleton]
      exact tokens_gap (fun _ => isBlankChar_of_mem_blanked) after
  | blockComment body =>
      rw [segments, List.flatMap_singleton]
      exact tokens_gap (fun _ => isBlankChar_of_mem_blanked) after
  | word first name =>
      rw [segments, Segment.flatMap_masked_others]
      exact tokens_of_firstToken (firstToken_word legal.1 (List.all_eq_true.mp legal.2) stops)
  | quoted name =>
      have whole := tokens_identifier legal after
      simpa [segments, Segment.masked, Segment.text, token?] using whole
  | string quote body =>
      have whole := tokens_literal legal.1 (not_mem_blanked legal.1 body) after
      simpa [segments, Segment.masked, token?] using whole
  | number first digits fraction =>
      obtain ⟨digit, isDigits, isFraction⟩ := legal
      have ends : ∀ next ∈ after.head?, next.isDigit = false ∧ next ≠ '.' := by
        simpa [continues] using stops
      rw [segments, Segment.flatMap_masked_others, List.cons_append, List.append_assoc]
      refine tokens_of_firstToken ((firstToken_digit digit _).trans ?_)
      rw [afterNumber_stops (List.all_eq_true.mp isDigits) (List.all_eq_true.mp isFraction) ends]
      rfl
  | named first name =>
      have read : firstToken ':' (first :: (name ++ after)) = (some .literal, after) := by
        rw [firstToken_colon_named legal.1, (run_stops (List.all_eq_true.mp legal.2) stops).2]
      have whole := tokens_of_firstToken read
      simpa [segments, Segment.masked, Segment.text, token?] using whole
  | positional => exact tokens_of_firstToken rfl
  | punct char => exact tokens_of_firstToken (firstToken_sign legal after)

theorem Segment.head?_masked (segment : Segment) :
    segment.masked.head? = segment.text.head? ∨ segment.masked.head? = some ' ' := by
  cases segment with
  | lineComment | blockComment => exact .inr rfl
  | _ => exact .inl rfl

/-- A masked text starts with its first character, or with a blank. -/
theorem head?_flatMap_masked (segments : List Segment) :
    (segments.flatMap Segment.masked).head? = (segments.flatMap Segment.text).head? ∨
      (segments.flatMap Segment.masked).head? = some ' ' := by
  cases segments with
  | nil => exact .inl rfl
  | cons segment rest =>
      obtain ⟨start, more, same⟩ := List.exists_cons_of_ne_nil segment.text_ne_nil
      obtain ⟨shown, others, sameMasked⟩ := List.exists_cons_of_ne_nil (masked_ne_nil segment)
      have first := segment.head?_masked
      rw [same, sameMasked] at first
      rw [List.flatMap_cons, List.flatMap_cons, same, sameMasked]
      exact first

theorem Lexeme.not_continues_blank (legal : lexeme.Legal) : lexeme.continues ' ' = false := by
  cases lexeme with
  | string quote body => rcases legal.1 with rfl | rfl <;> rfl
  | punct char => simp [continues]
  | _ => rfl

theorem tokens_lexemes (written : Written lexemes) :
    tokens ((lexemes.flatMap Lexeme.segments).flatMap Segment.masked) =
      lexemes.filterMap Lexeme.token? := by
  induction lexemes with
  | nil => exact tokens.eq_1
  | cons lexeme lexemes ih =>
      obtain ⟨legal, stops, further⟩ := written
      have stopsMasked : ∀ next ∈
          ((lexemes.flatMap Lexeme.segments).flatMap Segment.masked).head?,
          lexeme.continues next = false := by
        intro next head
        rcases head?_flatMap_masked (lexemes.flatMap Lexeme.segments) with same | blank
        · rw [same, flatMap_segments_text] at head
          exact (Option.any_eq_false _ _).mp stops next head
        · cases blank.symm.trans head
          exact Lexeme.not_continues_blank legal
      rw [List.flatMap_cons, List.flatMap_append, lexeme.tokens_masked legal stopsMasked,
        ih further, List.filterMap_cons]
      cases lexeme.token? <;> rfl

end Tokens

/-- A text has the tokens that it spells. -/
theorem ofText_of_spells {text : String} {tokens : List Token} (spells : Spells text tokens) :
    Token.ofText text = .ok tokens := by
  obtain ⟨lexemes, written, same, rfl⟩ := spells
  have cut : split text.toList = lexemes.flatMap Lexeme.segments := by
    rw [← same, ← flatMap_segments_text, split_of_segmented (segmented_lexemes written)]
  have closed : ∀ segment ∈ split text.toList, segment.Closed := by
    intro segment member
    rw [cut] at member
    obtain ⟨lexeme, _, inside⟩ := List.mem_flatMap.mp member
    exact lexeme.closed segment inside
  rw [Token.ofText, mask_eq_ok_iff.mpr ⟨closed, rfl⟩, Except.map, cut, tokens_lexemes written]

example : Written [.word 'i' ['d'], .punct '=', .number '1' [] ['5'], .lineComment ['?']] := by
  decide +kernel

section Spaced

/-- A lexeme for a token; a question mark stands for any literal. -/
def Lexeme.ofToken : Token → Lexeme
  | .word text =>
      match text.toList with
      | [] => .positional
      | first :: rest => .word first rest
  | .quoted name => .quoted name.toList
  | .literal => .positional
  | .punct char => .punct char

/-- Tokens with a blank behind each. -/
def spaced (tokens : List Token) : List Lexeme :=
  tokens.flatMap fun token => [.ofToken token, .blank ' ']

variable {tokens : List Token}

/-- Tokens that have lexemes are spelled by some text. -/
theorem spells_spaced
    (each : ∀ token ∈ tokens, (Lexeme.ofToken token).Legal ∧
      (Lexeme.ofToken token).token? = some token) :
    Spells (String.ofList ((spaced tokens).flatMap Lexeme.text)) tokens := by
  refine ⟨spaced tokens, ?_, String.toList_ofList.symm, ?_⟩
  · induction tokens with
    | nil => trivial
    | cons token tokens ih =>
        obtain ⟨⟨legal, _⟩, others⟩ := List.forall_mem_cons.mp each
        exact ⟨legal, Lexeme.not_continues_blank legal, rfl, Option.any_false, ih others⟩
  · induction tokens with
    | nil => rfl
    | cons token tokens ih =>
        obtain ⟨⟨_, reads⟩, others⟩ := List.forall_mem_cons.mp each
        have parts : spaced (token :: tokens) = .ofToken token :: .blank ' ' :: spaced tokens := rfl
        rw [parts, List.filterMap_cons_some reads, List.filterMap_cons_none rfl, ih others]

end Spaced

end CheckedSql.Sql

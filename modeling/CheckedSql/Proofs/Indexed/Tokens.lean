import CheckedSql.Proofs.Indexed.Masking
import CheckedSql.Proofs.Sql.Quotation

namespace CheckedSql.Sql.Indexed

open Text

/-- The token of a text that the pattern of tokens matches. -/
def tokenOf? (text : List Char) : Option Token := do
  let lead ← (bytes text)[0]?
  if lead = '`'.toUInt8 then
    let name ← slice? Char.utf8Size text 1 (byteSize text - 1)
    return .quoted (String.ofList name)
  else if isNameStart (Char.ofUInt8 lead) then return .word (String.ofList text)
  else if lead = '\''.toUInt8 ∨ lead = '"'.toUInt8 ∨ lead = ':'.toUInt8 ∨ lead = '?'.toUInt8 then
    return .literal
  else if (Char.ofUInt8 lead).isDigit then return .literal
  else return .punct (text.headD ' ')

/-- The texts that the pattern of tokens matches. -/
def pieces (masked : List Char) : List (List Char) :=
  ((tokenTexts masked).filter (·.token?.isSome)).map TokenText.text

def tokens? (text : List Char) : Lookup (List Token) := do
  let masked ← mask? text
  liftM ((pieces masked).mapM tokenOf?)

/-- How a match is read. -/
structure Sliced (piece : TokenText) : Prop where
  read : ∀ token, piece.token? = some token → tokenOf? piece.text = some token
  enclosed : piece.text.head? = some '`' → ∃ name, piece.text = '`' :: (name ++ ['`'])

section Pieces

variable {char : Char} {name taken rest after : List Char} {token : Token}

theorem tokenOf?_quoted (name : List Char) :
    tokenOf? ('`' :: (name ++ ['`'])) = some (.quoted (String.ofList name)) := by
  have backtick : '`'.utf8Size = 1 := rfl
  have inside : slice? Char.utf8Size ('`' :: (name ++ ['`'])) 1
      (byteSize ('`' :: (name ++ ['`'])) - 1) = some name := by
    refine (slice?_eq_some_iff Char.utf8Size_pos).mpr ⟨['`'], ['`'], rfl, rfl, ?_⟩
    simp only [total_utf8Size, byteSize, byteSize_append, backtick]
    omega
  unfold tokenOf?
  rw [bytes_cons, inside]
  rfl

theorem tokenOf?_plain (plain : isQuote char = false) (taken : List Char) :
    tokenOf? (char :: taken) =
      some (if isNameStart char then .word (String.ofList (char :: taken))
        else if char = ':' ∨ char = '?' then .literal
        else if char.isDigit then .literal
        else .punct char) := by
  have unquoted : ∀ quote, isQuote quote = true → leadByte char ≠ quote.toUInt8 := by
    intro quote isQuoted same
    rw [leadByte_eq_iff (inAscii_isQuote quote isQuoted)] at same
    rw [same, isQuoted] at plain
    cases plain
  have isColon : leadByte char = ':'.toUInt8 ↔ char = ':' := leadByte_eq_iff (by decide)
  have isQuestion : leadByte char = '?'.toUInt8 ↔ char = '?' := leadByte_eq_iff (by decide)
  unfold tokenOf?
  simp only [bytes_cons, encoded_eq, List.cons_append, List.getElem?_cons_zero, Option.bind_eq_bind,
    Option.bind_some, unquoted '`' rfl, unquoted '\'' rfl, unquoted '"' rfl, if_false, false_or,
    isColon, isQuestion, accepts_leadByte inAscii_isNameStart, accepts_leadByte inAscii_isDigit]
  rw [apply_ite some, apply_ite some, apply_ite some]
  rfl

/-- A token that starts outside quotes is read off its text. -/
theorem tokenOf?_firstToken (plain : isQuote char = false)
    (read : firstToken char rest = (some token, after))
    (whole : char :: rest = char :: taken ++ after) :
    tokenOf? (char :: taken) = some token := by
  have notQuote : char ≠ '`' ∧ ¬ (char = '\'' ∨ char = '"') := by
    simpa [isQuote, and_comm, and_assoc] using plain
  rw [tokenOf?_plain plain]
  unfold firstToken at read
  rw [if_neg notQuote.1, if_neg notQuote.2] at read
  by_cases blank : isBlank char = true
  · rw [if_pos blank] at read
    cases read
  rw [if_neg blank] at read
  by_cases starts : isNameStart char = true
  · rw [if_pos starts] at read ⊢
    cases read
    have parts : rest.takeWhile isWordPart ++ rest.dropWhile isWordPart = rest :=
      List.takeWhile_append_dropWhile
    have same : rest.takeWhile isWordPart = taken := by
      have joined := parts.trans (List.cons.inj whole).2
      exact List.append_cancel_right joined
    rw [same]
  rw [if_neg starts] at read ⊢
  by_cases colon : char = ':'
  · rw [if_pos (.inl colon)]
    rw [if_pos colon] at read
    split at read
    · split at read <;> cases read <;> rfl
    · cases read
      rfl
  rw [if_neg colon] at read
  by_cases question : char = '?'
  · rw [if_pos (.inr question)]
    rw [if_pos question] at read
    cases read
    rfl
  rw [if_neg question] at read
  rw [if_neg (by simp [colon, question])]
  by_cases digit : char.isDigit = true
  · rw [if_pos digit] at read ⊢
    cases read
    rfl
  · rw [if_neg digit] at read ⊢
    cases read
    rfl

theorem sliced_plain (plain : isQuote char = false) {token? : Option Token}
    (read : firstToken char rest = (token?, after))
    (whole : char :: rest = char :: taken ++ after) :
    Sliced ⟨token?, char :: taken⟩ := by
  refine ⟨fun token found => ?_, fun head => ?_⟩
  · cases found
    exact tokenOf?_firstToken plain read whole
  · cases head
    cases plain

theorem sliced_blank (blank : Segment.IsBlankChar char) : Sliced ⟨none, [char]⟩ := by
  refine ⟨nofun, fun head => ?_⟩
  rcases blank with rfl | rfl <;> cases head

theorem sliced_literal {quote : Char} (isLiteral : quote = '\'' ∨ quote = '"') (taken : List Char) :
    Sliced ⟨some .literal, quote :: taken⟩ := by
  refine ⟨fun token found => ?_, fun head => ?_⟩
  · cases found
    unfold tokenOf?
    rcases isLiteral with rfl | rfl <;> rfl
  · rcases isLiteral with rfl | rfl <;> cases head

theorem sliced_quoted (name : List Char) :
    Sliced ⟨some (.quoted (String.ofList name)), '`' :: (name ++ ['`'])⟩ := by
  refine ⟨fun token found => ?_, fun _ => ⟨name, rfl⟩⟩
  cases found
  exact tokenOf?_quoted name

/-- Every match of a masked text is read, and one that starts with a backtick ends with another. -/
theorem sliced_of_alike {masked other : List Char} (laid : Alike masked other) :
    ∀ piece ∈ tokenTexts masked, Sliced piece := by
  induction size : masked.length using Nat.strong_induction_on generalizing masked other with
  | _ size ih =>
      cases laid with
      | nil =>
          rw [tokenTexts]
          exact List.forall_mem_nil _
      | @plain char rest _ plain further =>
          have shorter := firstToken_shorter char rest
          have alike := (firstToken_alike plain further).2
          obtain ⟨taken, whole⟩ := firstToken_suffix char rest
          generalize read : firstToken char rest = first at shorter alike whole
          have parts : char :: rest = char :: taken ++ first.2 := by rw [List.cons_append, whole]
          rw [tokenTexts_cons read parts]
          rw [List.length_cons] at size
          exact List.forall_mem_cons.mpr ⟨sliced_plain plain read parts, ih _ (by omega) alike rfl⟩
      | @gap blanks _ rest _ firstSome _ blank _ further =>
          have positive := List.length_pos_iff.mpr firstSome
          rw [List.length_append] at size
          rw [tokenTexts_gap blank]
          refine List.forall_mem_append.mpr ⟨fun piece member => ?_, ih _ (by omega) further rfl⟩
          obtain ⟨char, present, rfl⟩ := List.mem_map.mp member
          exact sliced_blank (blank char present)
      | @literal quote body _ rest _ isLiteral inside _ further =>
          simp only [List.length_cons, List.length_append] at size
          rw [tokenTexts_literal isLiteral inside]
          exact List.forall_mem_cons.mpr ⟨sliced_literal isLiteral _, ih _ (by omega) further rfl⟩
      | @identifier name rest _ inside further =>
          simp only [List.length_cons, List.length_append] at size
          rw [tokenTexts_identifier inside]
          exact List.forall_mem_cons.mpr ⟨sliced_quoted name, ih _ (by omega) further rfl⟩

theorem sliced_of_mask {text masked : List Char} (accepted : mask text = .ok masked) :
    ∀ piece ∈ tokenTexts masked, Sliced piece := by
  obtain ⟨closed, rfl⟩ := mask_eq_ok_iff.mp accepted
  exact sliced_of_alike (alike_masked_self (legal_of_segmented (segmented_split text)) closed)

theorem mapM_tokenOf? {pieces : List TokenText} (sliced : ∀ piece ∈ pieces, Sliced piece) :
    ((pieces.filter (·.token?.isSome)).map TokenText.text).mapM tokenOf? =
      some (pieces.filterMap TokenText.token?) := by
  induction pieces with
  | nil => rfl
  | cons piece rest ih =>
      obtain ⟨first, further⟩ := List.forall_mem_cons.mp sliced
      cases found : piece.token? with
      | none => simpa [found] using ih further
      | some token => simp [found, first.read token found, ih further]

end Pieces

/-- Every text that can be masked is cut into its tokens, and no other is. -/
theorem tokens?_eq (text : String) : tokens? text.toList = .found (Token.ofText text) := by
  unfold tokens? Token.ofText
  rw [mask?_eq]
  cases accepted : mask text.toList with
  | error fault => rfl
  | ok masked =>
      have read : (pieces masked).mapM tokenOf? = some (tokens masked) := by
        rw [← filterMap_tokenTexts]
        exact mapM_tokenOf? (sliced_of_mask accepted)
      exact congrArg (liftM : Option (List Token) → Lookup (List Token)) read

end CheckedSql.Sql.Indexed

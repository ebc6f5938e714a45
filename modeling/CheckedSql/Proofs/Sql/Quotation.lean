import CheckedSql.Proofs.Sql.Spelling

namespace CheckedSql.Sql

open Text

/-- A token with the characters that it takes; a blank is no token and takes itself. -/
structure TokenText where
  token? : Option Token
  text : List Char
deriving Repr, DecidableEq

theorem afterNumber_suffix (text : List Char) : afterNumber text <:+ text := by
  have digits := List.dropWhile_suffix (l := text) Char.isDigit
  unfold afterNumber
  split
  · rename_i next rest stopped
    split
    · have fraction : rest.dropWhile Char.isDigit <:+ '.' :: next :: rest :=
        (List.dropWhile_suffix _).trans
          ((List.suffix_cons next rest).trans (List.suffix_cons '.' (next :: rest)))
      rw [stopped] at digits
      exact fraction.trans digits
    · rwa [stopped] at digits
  · exact digits

theorem upTo?_suffix {closing : Char} {text body after : List Char}
    (found : upTo? closing text = some (body, after)) : after <:+ text := by
  have suffix := List.dropWhile_suffix (l := text) (· != closing)
  unfold upTo? at found
  split at found
  · cases found
  · rename_i stopped
    rw [stopped] at suffix
    cases found
    exact (List.suffix_cons _ _).trans suffix

theorem firstToken_suffix (char : Char) (rest : List Char) :
    (firstToken char rest).2 <:+ rest := by
  unfold firstToken
  split
  · exact List.suffix_rfl
  split
  · exact List.dropWhile_suffix _
  split
  · split
    · exact upTo?_suffix ‹_›
    · exact List.suffix_rfl
  split
  · split
    · exact upTo?_suffix ‹_›
    · exact List.suffix_rfl
  split
  · split
    · rename_i next after
      split
      · exact (List.dropWhile_suffix _).trans (List.suffix_cons next after)
      · exact List.suffix_rfl
    · exact List.suffix_rfl
  split
  · exact List.suffix_rfl
  split
  · exact afterNumber_suffix rest
  · exact List.suffix_rfl

def tokenTexts : List Char → List TokenText
  | [] => []
  | char :: rest =>
      let read := firstToken char rest
      ⟨read.1, (char :: rest).take (rest.length + 1 - read.2.length)⟩ :: tokenTexts read.2
termination_by text => text.length
decreasing_by exact firstToken_shorter char rest

section TokenTexts

variable {char : Char} {left right other rest after taken body name : List Char}
  {token? : Option Token}

theorem filterMap_tokenTexts (text : List Char) :
    (tokenTexts text).filterMap TokenText.token? = tokens text := by
  fun_induction tokenTexts text with
  | case1 => exact tokens.eq_1.symm
  | case2 char rest read ih =>
      rw [tokens, List.filterMap_cons, ih]
      cases read.1 <;> rfl

theorem tokenTexts_cons (read : firstToken char rest = (token?, after))
    (whole : char :: rest = taken ++ after) :
    tokenTexts (char :: rest) = ⟨token?, taken⟩ :: tokenTexts after := by
  have size : rest.length + 1 = taken.length + after.length := by
    rw [← List.length_cons, whole, List.length_append]
  rw [tokenTexts, read, size, Nat.add_sub_cancel, whole, List.take_left]

/-- The characters of the tokens and blanks of a text are the text. -/
theorem flatMap_tokenTexts (text : List Char) :
    (tokenTexts text).flatMap TokenText.text = text := by
  fun_induction tokenTexts text with
  | case1 => rfl
  | case2 char rest read ih =>
      obtain ⟨taken, whole⟩ : read.2 <:+ char :: rest :=
        (firstToken_suffix char rest).trans (List.suffix_cons char rest)
      have size := congrArg List.length whole
      rw [List.length_append, List.length_cons] at size
      rw [List.flatMap_cons, ih, ← size, Nat.add_sub_cancel, ← whole, List.take_left]

theorem tokenTexts_gap {blanks : List Char} (blank : ∀ char ∈ blanks, Segment.IsBlankChar char)
    (rest : List Char) :
    tokenTexts (blanks ++ rest) = blanks.map (⟨none, [·]⟩) ++ tokenTexts rest := by
  induction blanks with
  | nil => rfl
  | cons char blanks ih =>
      obtain ⟨first, further⟩ := List.forall_mem_cons.mp blank
      have isBlank : firstToken char (blanks ++ rest) = (none, blanks ++ rest) := by
        rcases first with rfl | rfl <;> rfl
      have whole : char :: (blanks ++ rest) = [char] ++ (blanks ++ rest) := rfl
      rw [List.cons_append, tokenTexts_cons isBlank whole, ih further]
      rfl

theorem tokenTexts_literal {quote : Char} (isLiteral : quote = '\'' ∨ quote = '"')
    (inside : quote ∉ body) (after : List Char) :
    tokenTexts (quote :: (body ++ quote :: after)) =
      ⟨some .literal, quote :: (body ++ [quote])⟩ :: tokenTexts after :=
  tokenTexts_cons (firstToken_literal isLiteral inside after) (by simp)

theorem tokenTexts_identifier (inside : '`' ∉ name) (after : List Char) :
    tokenTexts ('`' :: (name ++ '`' :: after)) =
      ⟨some (.quoted (String.ofList name)), '`' :: (name ++ ['`'])⟩ :: tokenTexts after :=
  tokenTexts_cons (firstToken_identifier inside after) (by simp)

end TokenTexts

section Wall

variable {char : Char} {left right other : List Char} {accepts : Char → Bool}

/-- Nothing follows, or something in quotes. -/
def Wall (text : List Char) : Prop :=
  ∀ next ∈ text.head?, isQuote next = true

theorem Wall.refused (wall : Wall right) (refuses : walls.any accepts = false) :
    ∀ next ∈ right.head?, accepts next = false := by
  intro next head
  refine Bool.eq_false_iff.mpr fun accepted => ?_
  exact absurd (wall next head) (by simp [(firm_of_accepts refuses accepted).notQuote])

/-- A run that is read up to a wall is the run of the text before the wall. -/
theorem run_wall (wall : Wall right) (refuses : walls.any accepts = false) :
    (left ++ right).takeWhile accepts = left.takeWhile accepts ∧
      (left ++ right).dropWhile accepts = left.dropWhile accepts ++ right := by
  induction left with
  | nil => exact run_stops (List.forall_mem_nil _) (wall.refused refuses)
  | cons char left ih =>
      by_cases accepted : accepts char = true
      · rw [List.cons_append, List.takeWhile_cons_of_pos accepted, List.takeWhile_cons_of_pos accepted,
          List.dropWhile_cons_of_pos accepted, List.dropWhile_cons_of_pos accepted, ih.1, ih.2]
        exact ⟨rfl, rfl⟩
      · rw [List.cons_append, List.takeWhile_cons_of_neg accepted,
          List.takeWhile_cons_of_neg accepted, List.dropWhile_cons_of_neg accepted,
          List.dropWhile_cons_of_neg accepted]
        exact ⟨rfl, rfl⟩

theorem afterNumber_wall (wall : Wall right) :
    afterNumber (left ++ right) = afterNumber left ++ right := by
  have digits : (left ++ right).dropWhile Char.isDigit = left.dropWhile Char.isDigit ++ right :=
    (run_wall wall rfl).2
  by_cases fraction : ∃ next rest, left.dropWhile Char.isDigit = '.' :: next :: rest ∧
      next.isDigit = true
  · obtain ⟨next, rest, stopped, isDigit⟩ := fraction
    rw [stopped] at digits
    rw [afterNumber_fraction isDigit digits, afterNumber_fraction isDigit stopped]
    exact (run_wall wall rfl).2
  · rw [afterNumber_whole fun next rest stopped isDigit => fraction ⟨next, rest, stopped, isDigit⟩,
      afterNumber_whole, digits]
    intro next rest stopped isDigit
    rw [digits] at stopped
    -- The digit would stand before the wall, or be the quote that the wall starts with.
    match found : left.dropWhile Char.isDigit, stopped with
    | [], stopped =>
        have point := wall '.' (by rw [show right = '.' :: next :: rest from stopped]; rfl)
        cases point
    | [_], stopped =>
        cases stopped
        exact absurd (wall next rfl) (by simp [(firm_of_accepts rfl isDigit).notQuote])
    | _ :: _ :: _, stopped =>
        cases stopped
        exact fraction ⟨_, _, found, isDigit⟩

/-- A token that starts outside quotes ends before a wall. -/
theorem firstToken_wall (plain : isQuote char = false) (wall : Wall right) :
    firstToken char (left ++ right) = ((firstToken char left).1, (firstToken char left).2 ++ right) := by
  by_cases colon : char = ':'
  · subst colon
    by_cases named : ∃ next rest, left = next :: rest ∧ isNameStart next = true
    · obtain ⟨next, rest, rfl, starts⟩ := named
      rw [List.cons_append, firstToken_colon_named starts, firstToken_colon_named starts,
        (run_wall wall rfl).2]
    · rw [firstToken_colon_other fun next rest same starts => named ⟨next, rest, same, starts⟩,
        firstToken_colon_other]
      intro next rest same starts
      cases left with
      | nil =>
          cases same
          exact absurd (wall next rfl) (by simp [(firm_of_accepts rfl starts).notQuote])
      | cons first left =>
          cases same
          exact named ⟨_, _, rfl, starts⟩
  have notQuote : char ≠ '`' ∧ ¬ (char = '\'' ∨ char = '"') := by
    simpa [isQuote, and_comm, and_assoc] using plain
  simp only [firstToken, if_neg notQuote.1, if_neg notQuote.2, if_neg colon]
  split
  · rfl
  split
  · have word : (left ++ right).takeWhile isWordPart = left.takeWhile isWordPart ∧
        (left ++ right).dropWhile isWordPart = left.dropWhile isWordPart ++ right :=
      run_wall wall rfl
    rw [word.1, word.2]
  split
  · rfl
  split
  · rw [afterNumber_wall wall]
  · rfl

/-- The tokens before a wall are those of the text before it. -/
theorem tokenTexts_wall (laid : Alike left other) (wall : Wall right) :
    tokenTexts (left ++ right) = tokenTexts left ++ tokenTexts right := by
  -- On the length: a token may take several characters at once.
  induction size : left.length using Nat.strong_induction_on generalizing left other with
  | _ size ih =>
      cases laid with
      | nil => rw [tokenTexts.eq_1, List.nil_append, List.nil_append]
      | @plain char rest _ plain further =>
          have shorter := firstToken_shorter char rest
          have alike := (firstToken_alike plain further).2
          have behind : firstToken char (rest ++ right) =
              ((firstToken char rest).1, (firstToken char rest).2 ++ right) :=
            firstToken_wall plain wall
          obtain ⟨taken, whole⟩ :=
            (firstToken_suffix char rest).trans (List.suffix_cons char rest)
          generalize read : firstToken char rest = first at shorter alike behind whole
          have parts : char :: (rest ++ right) = taken ++ (first.2 ++ right) := by
            rw [← List.cons_append, ← whole, List.append_assoc]
          rw [List.length_cons] at size
          rw [tokenTexts_cons read whole.symm, List.cons_append, tokenTexts_cons behind parts,
            ih _ (by omega) alike rfl, List.cons_append]
      | @gap blanks _ rest _ firstSome _ blank _ further =>
          have positive := List.length_pos_iff.mpr firstSome
          rw [List.length_append] at size
          rw [List.append_assoc, tokenTexts_gap blank, tokenTexts_gap blank,
            ih _ (by omega) further rfl, List.append_assoc]
      | @literal quote body _ rest _ isLiteral inside _ further =>
          simp only [List.length_cons, List.length_append] at size
          rw [tokenTexts_literal isLiteral inside, List.cons_append, List.append_assoc,
            List.cons_append, tokenTexts_literal isLiteral inside, ih _ (by omega) further rfl,
            List.cons_append]
      | @identifier name rest _ inside further =>
          simp only [List.length_cons, List.length_append] at size
          rw [tokenTexts_identifier inside, List.cons_append, List.append_assoc, List.cons_append,
            tokenTexts_identifier inside, ih _ (by omega) further rfl, List.cons_append]

end Wall

/-- The parts of a name in backticks, between its doubled backticks. -/
def nameParts : List Char → List (List Char)
  | [] => [[]]
  | '`' :: '`' :: rest => [] :: nameParts rest
  | char :: rest => (nameParts rest).modifyHead (char :: ·)

/-- The name that stands in backticks: a doubled backtick is one. -/
def unquoted : List Char → List Char
  | [] => []
  | '`' :: '`' :: rest => '`' :: unquoted rest
  | char :: rest => char :: unquoted rest

section Names

variable {body : List Char}

theorem nameParts_ne_nil (body : List Char) : nameParts body ≠ [] := by
  fun_induction nameParts body with
  | case1 => exact List.cons_ne_nil _ _
  | case2 => exact List.cons_ne_nil _ _
  | case3 char rest _ ih => simpa using ih

theorem nameParts_plain {char : Char} (different : char ≠ '`') :
    nameParts (char :: body) = (nameParts body).modifyHead (char :: ·) :=
  nameParts.eq_3 char body fun _ same => absurd same different

theorem unquoted_plain {char : Char} (different : char ≠ '`') :
    unquoted (char :: body) = char :: unquoted body :=
  unquoted.eq_3 char body fun _ same => absurd same different

/-- The parts with a backtick between any two are the name. -/
theorem intercalate_nameParts (enclosed : Enclosed '`' body) :
    List.intercalate ['`'] (nameParts body) = unquoted body := by
  induction enclosed with
  | nil => rfl
  | escaped escapes => exact absurd rfl escapes
  | @doubled body _ ih =>
      obtain ⟨part, parts, found⟩ := List.exists_cons_of_ne_nil (nameParts_ne_nil body)
      rw [found] at ih
      rw [nameParts, unquoted, found, List.intercalate_cons_cons, ih]
      rfl
  | @plain char body different _ _ ih =>
      obtain ⟨part, parts, found⟩ := List.exists_cons_of_ne_nil (nameParts_ne_nil body)
      rw [found] at ih
      rw [nameParts_plain different, unquoted_plain different, found, ← ih]
      cases parts <;> simp [List.intercalate]

theorem length_nameParts_iff (enclosed : Enclosed '`' body) :
    (nameParts body).length = 1 ↔ '`' ∉ body := by
  induction enclosed with
  | nil => simp [nameParts]
  | escaped escapes => exact absurd rfl escapes
  | @doubled body => simp [nameParts, nameParts_ne_nil body]
  | plain different _ _ ih => simp [nameParts_plain different, ih, different.symm]

/-- One token, of the name that is spelled, is what a name without backticks gives. -/
theorem nameParts_eq_singleton_iff (enclosed : Enclosed '`' body) :
    nameParts body = [unquoted body] ↔ '`' ∉ body := by
  rw [← length_nameParts_iff enclosed, ← intercalate_nameParts enclosed]
  constructor
  · intro same
    rw [same]
    rfl
  · intro single
    obtain ⟨part, found⟩ := List.length_eq_one_iff.mp single
    rw [found]
    simp [List.intercalate]

def partText (part : List Char) : TokenText :=
  ⟨some (.quoted (String.ofList part)), '`' :: (part ++ ['`'])⟩

/-- A name in backticks gives a token for each of its parts. -/
theorem tokenTexts_parts (enclosed : Enclosed '`' body) {before : List Char} (inside : '`' ∉ before)
    (after : List Char) :
    tokenTexts ('`' :: (before ++ (body ++ '`' :: after))) =
      ((nameParts body).modifyHead (before ++ ·)).map partText ++ tokenTexts after := by
  induction enclosed generalizing before with
  | nil =>
      rw [List.nil_append, tokenTexts_identifier inside]
      simp [nameParts, partText]
  | escaped escapes => exact absurd rfl escapes
  | @doubled body _ ih =>
      have further := ih List.not_mem_nil
      obtain ⟨part, parts, found⟩ := List.exists_cons_of_ne_nil (nameParts_ne_nil body)
      rw [List.nil_append, found] at further
      rw [List.cons_append, List.cons_append, tokenTexts_identifier inside, further, nameParts, found]
      simp [partText]
  | @plain char body different _ _ ih =>
      have outside : '`' ∉ before ++ [char] := by simp [inside, different.symm]
      have further := ih outside
      obtain ⟨part, parts, found⟩ := List.exists_cons_of_ne_nil (nameParts_ne_nil body)
      rw [nameParts_plain different, found]
      rw [found] at further
      simpa using further

end Names

namespace Segment

/-- The tokens of a quoted segment, with their characters in a masked text. -/
def quotedTexts? : Segment → Option (List TokenText)
  | .literal quote body => some [⟨some .literal, (Segment.literal quote body).masked⟩]
  | .identifier body => some ((nameParts body).map partText)
  | _ => none

end Segment

section Masked

variable {segment : Segment} {segments : List Segment} {own : List TokenText}

theorem tokenTexts_quoted (legal : segment.Legal) (quoted : segment.quotedTexts? = some own)
    (after : List Char) : tokenTexts (segment.masked ++ after) = own ++ tokenTexts after := by
  cases segment with
  | literal quote body =>
      cases quoted
      have whole := tokenTexts_literal legal.1 (not_mem_blanked legal.1 body) after
      simpa [Segment.masked] using whole
  | identifier body =>
      cases quoted
      have outside : '`' ∉ ([] : List Char) := List.not_mem_nil
      have whole := tokenTexts_parts legal outside after
      obtain ⟨part, parts, found⟩ := List.exists_cons_of_ne_nil (nameParts_ne_nil body)
      rw [found] at whole ⊢
      simpa [Segment.masked, Segment.text] using whole
  | _ => cases quoted

theorem wall_quoted (legal : segment.Legal) (quoted : segment.quotedTexts? = some own)
    (after : List Char) : Wall (segment.masked ++ after) := by
  intro next head
  cases segment with
  | literal quote body =>
      cases head
      exact isQuote_of_literal legal.1
  | identifier body =>
      cases head
      rfl
  | _ => cases quoted

theorem alike_masked_self (legal : ∀ segment ∈ segments, segment.Legal)
    (closed : ∀ segment ∈ segments, segment.Closed) :
    Alike (segments.flatMap Segment.masked) (segments.flatMap Segment.masked) := by
  induction segments with
  | nil => exact .nil
  | cons segment rest ih =>
      obtain ⟨firstLegal, furtherLegal⟩ := List.forall_mem_cons.mp legal
      obtain ⟨firstClosed, furtherClosed⟩ := List.forall_mem_cons.mp closed
      exact alike_same firstLegal firstClosed (ih furtherLegal furtherClosed)

end Masked

/-- How the tokens of a text lie to its quotes. -/
structure QuotesApart (text : String) (masked : List Char) : Prop where
  read : Token.ofText text = .ok ((tokenTexts masked).filterMap TokenText.token?)
  whole : (tokenTexts masked).flatMap TokenText.text = masked
  /-- A quoted segment has tokens of its own, between those of what stands before it and
  those of what stands after it. -/
  apart : ∀ before segment after own, split text.toList = before ++ segment :: after →
    segment.quotedTexts? = some own →
      tokenTexts masked = tokenTexts (before.flatMap Segment.masked) ++ own ++
        tokenTexts (after.flatMap Segment.masked)
  /-- The tokens of a name spell its parts. They are one token exactly if it has no
  doubled backtick. -/
  named : ∀ body, .identifier body ∈ split text.toList →
    List.intercalate ['`'] (nameParts body) = unquoted body ∧
      (nameParts body = [unquoted body] ↔ '`' ∉ body)

/-- In every text that can be masked each quoted segment has tokens of its own: a string
is one literal, and a name in backticks a quoted name for each of its parts. -/
theorem quoted_apart {text : String} {masked : List Char}
    (accepted : mask text.toList = .ok masked) : QuotesApart text masked := by
  obtain ⟨closed, rfl⟩ := mask_eq_ok_iff.mp accepted
  have legal := legal_of_segmented (segmented_split text.toList)
  refine ⟨?_, flatMap_tokenTexts _, fun before segment after own cut quoted => ?_, fun body member => ?_⟩
  · rw [Token.ofText, accepted, filterMap_tokenTexts]
    rfl
  · rw [cut] at closed legal ⊢
    have isLegal := legal segment (List.mem_append_right before List.mem_cons_self)
    have laid := alike_masked_self
      (fun other member => legal other (List.mem_append_left _ member))
      (fun other member => closed other (List.mem_append_left _ member))
    rw [List.flatMap_append, List.flatMap_cons, tokenTexts_wall laid (wall_quoted isLegal quoted _),
      tokenTexts_quoted isLegal quoted, List.append_assoc]
  · have enclosed : Enclosed '`' body := legal _ member
    exact ⟨intercalate_nameParts enclosed, nameParts_eq_singleton_iff enclosed⟩

/-- Quotes of every sort side by side, with each sort in the others. -/
theorem quoted_apart_adjacent :
    let text := "SELECT `a 'b`'it''s \\' \"`'\" ` \"` \"` FROM t"
    ∃ masked, mask text.toList = .ok masked ∧ QuotesApart text masked ∧
      (tokenTexts masked).filterMap TokenText.token? =
        [.word "SELECT", .quoted "a 'b", .literal, .literal, .quoted " \"", .word "FROM", .word "t"] := by
  intro text
  have accepted : mask text.toList = .ok "SELECT `a 'b`'           '\"   \"` \"` FROM t".toList := by
    decide +kernel
  exact ⟨_, accepted, quoted_apart accepted, by rw [filterMap_tokenTexts]; decide +kernel⟩

/-- A doubled backtick divides a name into two tokens, neither of which is the name. -/
theorem doubled_backtick_divides :
    let text := "SELECT `a``b` FROM t"
    .identifier "a``b".toList ∈ split text.toList ∧ unquoted "a``b".toList = "a`b".toList ∧
      Token.ofText text =
        .ok [.word "SELECT", .quoted "a", .quoted "b", .word "FROM", .word "t"] := by
  intro text
  exact ⟨by decide +kernel, by decide, by decide +kernel⟩

end CheckedSql.Sql

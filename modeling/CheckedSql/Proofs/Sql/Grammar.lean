import Mathlib.Data.List.TakeWhile
import CheckedSql.Sql.Segment

namespace CheckedSql.Sql

open Text

/-! The grammar of segments, apart from the reader.

A segment is `Legal` if its text has the form of its kind, and it `Stops` at what
follows if its text cannot be read any further there. A list is `Segmented` if both
hold at every place. The segments of a text are segmented (`segmented_split`), and a
segmented list is read back as it is (`split_of_segmented`): a text has exactly one
segmentation.
-/

/-- What may stand inside quotes: a backslash with the character after it, except in
backticks, the quote written twice, and any other character. -/
inductive Enclosed (quote : Char) : List Char → Prop
  | nil : Enclosed quote []
  | escaped {body : List Char} (escapes : quote ≠ '`') (char : Char)
      (inside : Enclosed quote body) : Enclosed quote ('\\' :: char :: body)
  | doubled {body : List Char} (inside : Enclosed quote body) :
      Enclosed quote (quote :: quote :: body)
  | plain {char : Char} {body : List Char} (different : char ≠ quote)
      (unescaped : char = '\\' → quote = '`') (inside : Enclosed quote body) :
      Enclosed quote (char :: body)

def ClosesComment (body : List Char) : Prop :=
  ['*', '/'] <:+: body

namespace Segment

def Legal : Segment → Prop
  | .literal quote body => (quote = '\'' ∨ quote = '"') ∧ Enclosed quote body
  | .identifier body => Enclosed '`' body
  | .lineComment body _ => '\n' ∉ body
  | .blockComment body _ => ¬ ClosesComment body
  | .operator second => second = ':' ∨ second = '='
  | .named name => ∃ first rest, name = first :: rest ∧ isNameStart first = true ∧
      ∀ char ∈ rest, isNamePart char = true
  | .positional | .colon => True
  | .unclosed quote body => isQuote quote = true ∧
      ∀ inside after, Enclosed quote inside → body = inside ++ quote :: after →
        after.head? = some quote
  | .other char => isQuote char = false ∧ char ≠ '?' ∧ char ≠ ':'

/-- Whether a segment ends where this text follows it. -/
def Stops (after : List Char) : Segment → Prop
  | .literal quote _ => after.head? ≠ some quote
  | .identifier _ => after.head? ≠ some '`'
  | .lineComment _ ended => ended = false → after = []
  | .blockComment _ closed => closed = false → after = []
  | .operator _ | .positional => True
  | .named _ => ∀ char, after.head? = some char → isNamePart char = false
  | .colon => ∀ char, after.head? = some char →
      char ≠ ':' ∧ char ≠ '=' ∧ isNameStart char = false
  | .unclosed _ _ => after = []
  | .other char => (char = '-' → after.head? ≠ some '-') ∧ (char = '/' → after.head? ≠ some '*')

end Segment

inductive Segmented : List Segment → Prop
  | nil : Segmented []
  | cons {segment : Segment} {rest : List Segment} (legal : segment.Legal)
      (stops : segment.Stops (rest.flatMap Segment.text)) (further : Segmented rest) :
      Segmented (segment :: rest)

theorem legal_of_segmented {segments : List Segment} (segmented : Segmented segments) :
    ∀ segment ∈ segments, segment.Legal := by
  induction segmented with
  | nil => exact List.forall_mem_nil _
  | cons legal _ _ ih => exact List.forall_mem_cons.mpr ⟨legal, ih⟩

section QuotedBody

variable {quote char : Char} {body rest after : List Char}

theorem quotedBody_escaped (escapes : quote ≠ '`') :
    quotedBody quote ('\\' :: char :: rest) =
      (quotedBody quote rest).map fun (body, after) => ('\\' :: char :: body, after) := by
  rw [quotedBody, if_neg escapes]

theorem quotedBody_doubled (notEscape : quote ≠ '\\') :
    quotedBody quote (quote :: quote :: rest) =
      (quotedBody quote rest).map fun (body, after) => (quote :: quote :: body, after) := by
  rw [quotedBody.eq_5 _ _ _ _ notEscape, if_pos rfl, if_pos rfl]

theorem quotedBody_plain (different : char ≠ quote) (unescaped : char = '\\' → quote = '`') :
    quotedBody quote (char :: rest) =
      (quotedBody quote rest).map fun (body, after) => (char :: body, after) := by
  by_cases escape : char = '\\'
  · subst escape
    cases rest with
    | nil => rw [quotedBody.eq_2, if_pos (unescaped rfl)]
    | cons next rest => rw [quotedBody.eq_3, if_pos (unescaped rfl)]
  · cases rest with
    | nil => rw [quotedBody.eq_4 _ _ escape, if_neg different]
    | cons next rest => rw [quotedBody.eq_5 _ _ _ _ escape, if_neg different]

theorem quotedBody_closed (notEscape : quote ≠ '\\') (stops : after.head? ≠ some quote) :
    quotedBody quote (quote :: after) = some ([], after) := by
  cases after with
  | nil => rw [quotedBody.eq_4 _ _ notEscape, if_pos rfl]
  | cons next after =>
      have different : next ≠ quote := fun same => stops (congrArg some same)
      rw [quotedBody.eq_5 _ _ _ _ notEscape, if_pos rfl, if_neg different]

theorem ne_escape_of_isQuote (isQuoted : isQuote quote = true) : quote ≠ '\\' := by
  rintro rfl
  cases isQuoted

theorem quotedBody_of_enclosed (isQuoted : isQuote quote = true) (enclosed : Enclosed quote body)
    (stops : after.head? ≠ some quote) :
    quotedBody quote (body ++ quote :: after) = some (body, after) := by
  have notEscape := ne_escape_of_isQuote isQuoted
  induction enclosed with
  | nil => exact quotedBody_closed notEscape stops
  | escaped escapes char inside ih =>
      simp only [List.cons_append, quotedBody_escaped escapes, ih, Option.map_some]
  | doubled inside ih =>
      simp only [List.cons_append, quotedBody_doubled notEscape, ih, Option.map_some]
  | plain different unescaped inside ih =>
      simp only [List.cons_append, quotedBody_plain different unescaped, ih, Option.map_some]

theorem enclosed_of_quotedBody (read : quotedBody quote rest = some (body, after)) :
    Enclosed quote body ∧ after.head? ≠ some quote := by
  fun_induction quotedBody quote rest generalizing body after with
  | case1 => cases read
  | case2 rest backtick ih =>
      obtain ⟨⟨inner, tail⟩, inside, same⟩ := Option.map_eq_some_iff.mp read
      cases same
      obtain ⟨enclosed, stops⟩ := ih inside
      exact ⟨.plain (by rw [backtick]; decide) (fun _ => backtick) enclosed, stops⟩
  | case3 => cases read
  | case4 escapes escaped rest ih =>
      obtain ⟨⟨inner, tail⟩, inside, same⟩ := Option.map_eq_some_iff.mp read
      cases same
      obtain ⟨enclosed, stops⟩ := ih inside
      exact ⟨.escaped escapes escaped enclosed, stops⟩
  | case5 => cases read; exact ⟨.nil, by simp⟩
  | case6 after notEscape ih =>
      obtain ⟨⟨inner, tail⟩, inside, same⟩ := Option.map_eq_some_iff.mp read
      cases same
      obtain ⟨enclosed, stops⟩ := ih inside
      exact ⟨.doubled enclosed, stops⟩
  | case7 next after different =>
      cases read
      exact ⟨.nil, fun same => different (Option.some.inj same)⟩
  | case8 char rest notEscape different ih =>
      obtain ⟨⟨inner, tail⟩, inside, same⟩ := Option.map_eq_some_iff.mp read
      cases same
      obtain ⟨enclosed, stops⟩ := ih inside
      exact ⟨.plain different (fun escape => absurd escape notEscape) enclosed, stops⟩

end QuotedBody

section CommentBody

variable {body rest after : List Char}

theorem not_closesComment_nil : ¬ ClosesComment [] := by
  rintro ⟨left, right, same⟩
  simp at same

theorem closesComment_cons {char : Char} :
    ClosesComment (char :: body) ↔ (char = '*' ∧ body.head? = some '/') ∨ ClosesComment body := by
  unfold ClosesComment
  rw [List.infix_cons_iff]
  refine or_congr ?_ Iff.rfl
  cases body <;> simp [List.cons_prefix_cons, eq_comm]

theorem commentBody_next {char : Char} (opens : ¬ (char = '*' ∧ rest.head? = some '/')) :
    commentBody (char :: rest) =
      (commentBody rest).map fun (body, after) => (char :: body, after) := by
  refine commentBody.eq_3 char rest fun further star slash => opens ⟨star, ?_⟩
  rw [slash]
  rfl

theorem commentBody_of_open (opened : ¬ ClosesComment body) :
    commentBody (body ++ '*' :: '/' :: after) = some (body, after) := by
  induction body with
  | nil => rfl
  | cons char body ih =>
      rw [closesComment_cons, not_or] at opened
      have passes : ¬ (char = '*' ∧ (body ++ '*' :: '/' :: after).head? = some '/') := by
        cases body with
        | nil => simp
        | cons next body => simpa using opened.1
      rw [List.cons_append, commentBody_next passes, ih opened.2, Option.map_some]

theorem open_of_commentBody (read : commentBody rest = some (body, after)) :
    ¬ ClosesComment body := by
  fun_induction commentBody rest generalizing body after with
  | case1 => cases read
  | case2 => cases read; exact not_closesComment_nil
  | case3 char rest notEnd ih =>
      obtain ⟨⟨inner, tail⟩, inside, same⟩ := Option.map_eq_some_iff.mp read
      cases same
      rw [closesComment_cons, not_or]
      refine ⟨?_, ih inside⟩
      rintro ⟨star, slash⟩
      have whole := commentBody_text inside
      cases inner with
      | nil => cases slash
      | cons next inner =>
          cases slash
          exact notEnd (inner ++ '*' :: '/' :: after) star whole.symm

theorem commentBody_eq_none_iff : commentBody rest = none ↔ ¬ ClosesComment rest := by
  fun_induction commentBody rest with
  | case1 => exact iff_of_true rfl not_closesComment_nil
  | case2 rest =>
      have closed : ClosesComment ('*' :: '/' :: rest) := ⟨[], rest, rfl⟩
      exact iff_of_false (Option.some_ne_none _) (not_not_intro closed)
  | case3 char rest notEnd ih =>
      rw [Option.map_eq_none_iff, ih, closesComment_cons]
      refine not_congr (or_iff_right ?_).symm
      rintro ⟨star, slash⟩
      obtain ⟨further, same⟩ := List.head?_eq_some_iff.mp slash
      exact notEnd further star same

end CommentBody

section FirstSegment

variable {char quote : Char} {body rest after : List Char}

theorem firstSegment_quote (isQuoted : isQuote quote = true) :
    firstSegment quote rest = quotedSegment quote rest := by
  unfold firstSegment
  split <;> first | cases isQuoted | exact if_pos isQuoted

theorem firstSegment_other (notQuote : isQuote char = false) (notMark : char ≠ '?')
    (notColon : char ≠ ':') (stops : (Segment.other char).Stops rest) :
    firstSegment char rest = (.other char, rest) := by
  unfold firstSegment
  split
  · exact absurd rfl (stops.1 rfl)
  · exact absurd rfl (stops.2 rfl)
  · exact absurd rfl notMark
  · exact absurd rfl notColon
  · rw [notQuote]
    rfl

theorem quotedSegment_of_enclosed (isQuoted : isQuote quote = true)
    (enclosed : Enclosed quote body) (stops : after.head? ≠ some quote) :
    quotedSegment quote (body ++ quote :: after) =
      (if quote = '`' then .identifier body else .literal quote body, after) := by
  rw [quotedSegment, quotedBody_of_enclosed isQuoted enclosed stops]

theorem lineSegment_ended (inside : '\n' ∉ body) :
    lineSegment (body ++ '\n' :: after) = (.lineComment body true, after) := by
  have passed : ∀ char ∈ body, (char != '\n') = true := fun char member =>
    bne_iff_ne.mpr fun same => inside (same ▸ member)
  simp [lineSegment, List.takeWhile_append_of_pos passed, List.dropWhile_append_of_pos passed]

theorem lineSegment_unended (inside : '\n' ∉ body) :
    lineSegment body = (.lineComment body false, []) := by
  have passed : ∀ char ∈ body, (char != '\n') = true := fun char member =>
    bne_iff_ne.mpr fun same => inside (same ▸ member)
  have taken : body.takeWhile (· != '\n') = body := List.takeWhile_eq_self_iff.mpr passed
  have dropped : body.dropWhile (· != '\n') = [] := List.dropWhile_eq_nil_iff.mpr passed
  simp only [lineSegment, taken, dropped]

theorem colonSegment_named {first : Char} (starts : isNameStart first = true)
    (parts : ∀ char ∈ rest, isNamePart char = true)
    (stops : ∀ char, after.head? = some char → isNamePart char = false) :
    colonSegment (first :: (rest ++ after)) = (.named (first :: rest), after) := by
  have notOperator : ¬ (first = ':' ∨ first = '=') := by
    rintro (rfl | rfl) <;> cases starts
  have stopped : after.takeWhile isNamePart = [] ∧ after.dropWhile isNamePart = after := by
    cases after with
    | nil => exact ⟨rfl, rfl⟩
    | cons next after =>
        have refused := stops next rfl
        exact ⟨List.takeWhile_cons_of_neg (by simp [refused]),
          List.dropWhile_cons_of_neg (by simp [refused])⟩
  simp only [colonSegment, if_neg notOperator, if_pos starts, List.takeWhile_append_of_pos parts,
    List.dropWhile_append_of_pos parts, stopped, List.append_nil]

theorem quotedBody_of_unclosed
    (opened : ∀ inside after, Enclosed quote inside → body = inside ++ quote :: after →
      after.head? = some quote) : quotedBody quote body = none := by
  cases closed : quotedBody quote body with
  | none => rfl
  | some read =>
      obtain ⟨enclosed, stopped⟩ := enclosed_of_quotedBody closed
      exact absurd (opened _ _ enclosed (quotedBody_text closed).symm) stopped

/-- A legal segment is what is read where it stands, if it stops there. -/
theorem firstSegment_of_legal {segment : Segment} (legal : segment.Legal)
    (stops : segment.Stops after) :
    ∃ char rest, segment.text ++ after = char :: rest ∧
      firstSegment char rest = (segment, after) := by
  cases segment with
  | literal quote body =>
      obtain ⟨isLiteral, enclosed⟩ := legal
      have isQuoted : isQuote quote = true := by rcases isLiteral with rfl | rfl <;> rfl
      have notBacktick : quote ≠ '`' := by rcases isLiteral with rfl | rfl <;> decide
      refine ⟨quote, body ++ quote :: after, by simp [Segment.text], ?_⟩
      rw [firstSegment_quote isQuoted, quotedSegment_of_enclosed isQuoted enclosed stops,
        if_neg notBacktick]
  | identifier body =>
      refine ⟨'`', body ++ '`' :: after, by simp [Segment.text], ?_⟩
      rw [firstSegment_quote rfl, quotedSegment_of_enclosed rfl legal stops, if_pos rfl]
  | lineComment body ended =>
      cases ended with
      | true => exact ⟨'-', '-' :: (body ++ '\n' :: after), by simp [Segment.text],
          lineSegment_ended legal⟩
      | false =>
          cases stops rfl
          exact ⟨'-', '-' :: body, by simp [Segment.text], lineSegment_unended legal⟩
  | blockComment body closed =>
      cases closed with
      | true =>
          refine ⟨'/', '*' :: (body ++ '*' :: '/' :: after), by simp [Segment.text], ?_⟩
          simp only [firstSegment, blockSegment, commentBody_of_open legal]
      | false =>
          cases stops rfl
          refine ⟨'/', '*' :: body, by simp [Segment.text], ?_⟩
          simp only [firstSegment, blockSegment, commentBody_eq_none_iff.mpr legal]
  | operator second =>
      exact ⟨':', second :: after, rfl, if_pos legal⟩
  | named name =>
      obtain ⟨first, rest, rfl, starts, parts⟩ := legal
      exact ⟨':', first :: (rest ++ after), rfl, colonSegment_named starts parts stops⟩
  | positional => exact ⟨'?', after, rfl, rfl⟩
  | colon =>
      refine ⟨':', after, rfl, ?_⟩
      cases after with
      | nil => rfl
      | cons next after =>
          obtain ⟨notColon, notEquals, refused⟩ := stops next rfl
          simp [firstSegment, colonSegment, notColon, notEquals, refused]
  | unclosed quote body =>
      obtain ⟨isQuoted, opened⟩ := legal
      cases (show after = [] from stops)
      refine ⟨quote, body, by simp [Segment.text], ?_⟩
      rw [firstSegment_quote isQuoted, quotedSegment, quotedBody_of_unclosed opened]
  | other char =>
      obtain ⟨notQuote, notMark, notColon⟩ := legal
      exact ⟨char, after, rfl, firstSegment_other notQuote notMark notColon stops⟩

end FirstSegment

section Legality

variable {char quote : Char} {rest after : List Char}

theorem stops_quotedSegment (isQuoted : isQuote quote = true) :
    (quotedSegment quote rest).1.Legal ∧
      (quotedSegment quote rest).1.Stops (quotedSegment quote rest).2 := by
  unfold quotedSegment
  split
  · rename_i unread
    refine ⟨⟨isQuoted, fun inside after enclosed same => ?_⟩, rfl⟩
    by_contra stops
    rw [same, quotedBody_of_enclosed isQuoted enclosed stops] at unread
    cases unread
  · rename_i body after read
    obtain ⟨enclosed, stops⟩ := enclosed_of_quotedBody read
    by_cases backtick : quote = '`'
    · subst backtick
      exact ⟨enclosed, stops⟩
    · have isLiteral : quote = '\'' ∨ quote = '"' := by
        simpa [isQuote, backtick] using isQuoted
      simp only [if_neg backtick]
      exact ⟨⟨isLiteral, enclosed⟩, stops⟩

theorem stops_lineSegment :
    (lineSegment rest).1.Legal ∧ (lineSegment rest).1.Stops (lineSegment rest).2 := by
  have inside : '\n' ∉ rest.takeWhile (· != '\n') := fun member => by
    simpa using List.mem_takeWhile_imp member
  unfold lineSegment
  simp only
  split
  · exact ⟨inside, fun _ => rfl⟩
  · exact ⟨inside, fun unended => by cases unended⟩

theorem stops_blockSegment :
    (blockSegment rest).1.Legal ∧ (blockSegment rest).1.Stops (blockSegment rest).2 := by
  unfold blockSegment
  split
  · rename_i unread
    exact ⟨commentBody_eq_none_iff.mp unread, fun _ => rfl⟩
  · rename_i body after read
    exact ⟨open_of_commentBody read, nofun⟩

theorem stops_colonSegment :
    (colonSegment rest).1.Legal ∧ (colonSegment rest).1.Stops (colonSegment rest).2 := by
  cases rest with
  | nil => exact ⟨trivial, nofun⟩
  | cons next rest =>
      simp only [colonSegment]
      split
      · rename_i operator
        exact ⟨operator, trivial⟩
      · rename_i notOperator
        split
        · rename_i starts
          refine ⟨⟨next, _, rfl, starts, fun char => List.mem_takeWhile_imp⟩, fun char head => ?_⟩
          have stopped := List.head?_dropWhile_not isNamePart rest
          rw [head] at stopped
          simpa using stopped
        · rename_i refused
          refine ⟨trivial, fun char head => ?_⟩
          cases head
          exact ⟨fun same => notOperator (.inl same), fun same => notOperator (.inr same),
            eq_false_of_ne_true refused⟩

theorem stops_firstSegment (char : Char) (rest : List Char) :
    (firstSegment char rest).1.Legal ∧
      (firstSegment char rest).1.Stops (firstSegment char rest).2 := by
  unfold firstSegment
  split
  · exact stops_lineSegment
  · exact stops_blockSegment
  · exact ⟨trivial, trivial⟩
  · exact stops_colonSegment
  · rename_i notMark notColon notLine notBlock
    split
    · exact stops_quotedSegment ‹_›
    · refine ⟨⟨eq_false_of_ne_true ‹_›, notMark, notColon⟩, fun dash head => ?_, fun slash head => ?_⟩
      · obtain ⟨further, same⟩ := List.head?_eq_some_iff.mp head
        exact notLine further dash same
      · obtain ⟨further, same⟩ := List.head?_eq_some_iff.mp head
        exact notBlock further slash same

end Legality

theorem segmented_split (text : List Char) : Segmented (split text) := by
  fun_induction split text with
  | case1 => exact .nil
  | case2 char rest ih =>
      obtain ⟨legal, stops⟩ := stops_firstSegment char rest
      refine .cons legal ?_ ih
      rwa [split_flatMap_text]

theorem split_of_segmented {segments : List Segment} (segmented : Segmented segments) :
    split (segments.flatMap Segment.text) = segments := by
  induction segmented with
  | nil => exact split.eq_1
  | cons legal stops further ih =>
      obtain ⟨char, rest, whole, first⟩ := firstSegment_of_legal legal stops
      rw [List.flatMap_cons, whole, split, first, ih]

end CheckedSql.Sql

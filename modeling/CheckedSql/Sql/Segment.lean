import CheckedSql.Text.Basic

namespace CheckedSql.Sql

open Text

/-! The segments of a statement's text, read from left to right.

`Segment.text` is the semantic model of a segment: `split` cuts a text into
segments whose texts, put together again, are the whole text
(`split_flatMap_text`), and no segment is empty.
-/

inductive Segment where
  /-- A string in single or double quotes, with its inside as written. -/
  | literal (quote : Char) (body : List Char)
  /-- A name in backticks, with its inside as written. -/
  | identifier (body : List Char)
  /-- A comment from two dashes through the end of the line, if the line ends. -/
  | lineComment (body : List Char) (ended : Bool)
  | blockComment (body : List Char) (closed : Bool)
  /-- A colon and the character that makes an operator of it. -/
  | operator (second : Char)
  | named (name : List Char)
  | positional
  /-- A colon that starts neither an operator nor a name. -/
  | colon
  /-- A quote that is never closed, with all that follows it. -/
  | unclosed (quote : Char) (body : List Char)
  | other (char : Char)
deriving Repr, DecidableEq

/-- Where a statement takes values: by name, or one by position. -/
inductive Slot where
  | named (name : String)
  | positional
deriving Repr, DecidableEq

namespace Slot

def name? : Slot → Option String
  | .named name => some name
  | .positional => none

def text : Slot → List Char
  | .named name => ':' :: name.toList
  | .positional => ['?']

end Slot

namespace Segment

def slot? : Segment → Option Slot
  | .named name => some (.named (String.ofList name))
  | .positional => some .positional
  | _ => none

def text : Segment → List Char
  | .literal quote body => quote :: body ++ [quote]
  | .identifier body => '`' :: body ++ ['`']
  | .lineComment body ended => '-' :: '-' :: body ++ if ended then ['\n'] else []
  | .blockComment body closed => '/' :: '*' :: body ++ if closed then ['*', '/'] else []
  | .operator second => [':', second]
  | .named name => ':' :: name
  | .positional => ['?']
  | .colon => [':']
  | .unclosed quote body => quote :: body
  | .other char => [char]

theorem text_eq_of_slot? {segment : Segment} {slot : Slot} (marks : segment.slot? = some slot) :
    segment.text = slot.text := by
  cases segment <;> cases marks
  · simp only [text, Slot.text, String.toList_ofList]
  · rfl

theorem text_ne_nil (segment : Segment) : segment.text ≠ [] := by
  cases segment <;> simp [text]

def size (segment : Segment) : Nat :=
  byteSize segment.text

theorem size_pos (segment : Segment) : 0 < segment.size := by
  unfold size
  cases found : segment.text with
  | nil => exact absurd found segment.text_ne_nil
  | cons char rest =>
      have positive := char.utf8Size_pos
      simp only [byteSize]
      omega

end Segment

/-- Reads the inside of a quoted text up to its closing quote. A quote written
twice stands inside. A backslash takes the next character with it, except in
backticks. -/
def quotedBody (quote : Char) : List Char → Option (List Char × List Char)
  | [] => none
  | '\\' :: rest =>
      if quote = '`' then
        (quotedBody quote rest).map fun (body, after) => ('\\' :: body, after)
      else
        match rest with
        | [] => none
        | escaped :: rest =>
            (quotedBody quote rest).map fun (body, after) => ('\\' :: escaped :: body, after)
  | char :: rest =>
      if char = quote then
        match rest with
        | [] => some ([], [])
        | next :: after =>
            if next = quote then
              (quotedBody quote after).map fun (body, after) => (quote :: quote :: body, after)
            else some ([], next :: after)
      else (quotedBody quote rest).map fun (body, after) => (char :: body, after)

/-- Reads the inside of a block comment up to the first star and slash. -/
def commentBody : List Char → Option (List Char × List Char)
  | [] => none
  | '*' :: '/' :: rest => some ([], rest)
  | char :: rest => (commentBody rest).map fun (body, after) => (char :: body, after)

def isQuote (char : Char) : Bool :=
  char == '\'' || char == '"' || char == '`'

def quotedSegment (quote : Char) (rest : List Char) : Segment × List Char :=
  match quotedBody quote rest with
  | none => (.unclosed quote rest, [])
  | some (body, after) =>
      (if quote = '`' then .identifier body else .literal quote body, after)

def lineSegment (rest : List Char) : Segment × List Char :=
  let body := rest.takeWhile (· != '\n')
  match rest.dropWhile (· != '\n') with
  | [] => (.lineComment body false, [])
  | _ :: after => (.lineComment body true, after)

def blockSegment (rest : List Char) : Segment × List Char :=
  match commentBody rest with
  | none => (.blockComment rest false, [])
  | some (body, after) => (.blockComment body true, after)

def colonSegment : List Char → Segment × List Char
  | [] => (.colon, [])
  | next :: rest =>
      if next = ':' ∨ next = '=' then (.operator next, rest)
      else if isNameStart next then
        (.named (next :: rest.takeWhile isNamePart), rest.dropWhile isNamePart)
      else (.colon, next :: rest)

/-- The first segment of a text that is not empty, and what follows it. -/
def firstSegment : Char → List Char → Segment × List Char
  | '-', '-' :: rest => lineSegment rest
  | '/', '*' :: rest => blockSegment rest
  | '?', rest => (.positional, rest)
  | ':', rest => colonSegment rest
  | char, rest => if isQuote char then quotedSegment char rest else (.other char, rest)

theorem quotedBody_text {quote : Char} {rest body after : List Char}
    (read : quotedBody quote rest = some (body, after)) : body ++ quote :: after = rest := by
  fun_induction quotedBody quote rest generalizing body after with
  | case1 => cases read
  | case2 rest backtick ih =>
      obtain ⟨⟨inner, tail⟩, inside, same⟩ := Option.map_eq_some_iff.mp read
      cases same
      simp [ih inside]
  | case3 => cases read
  | case4 escaped rest notBacktick ih =>
      obtain ⟨⟨inner, tail⟩, inside, same⟩ := Option.map_eq_some_iff.mp read
      cases same
      simp [ih inside]
  | case5 => cases read; rfl
  | case6 after notEscape ih =>
      obtain ⟨⟨inner, tail⟩, inside, same⟩ := Option.map_eq_some_iff.mp read
      cases same
      simp [ih inside]
  | case7 => cases read; rfl
  | case8 char rest notEscape notQuote ih =>
      obtain ⟨⟨inner, tail⟩, inside, same⟩ := Option.map_eq_some_iff.mp read
      cases same
      simp [ih inside]

theorem commentBody_text {rest body after : List Char}
    (read : commentBody rest = some (body, after)) : body ++ '*' :: '/' :: after = rest := by
  fun_induction commentBody rest generalizing body after with
  | case1 => cases read
  | case2 => cases read; rfl
  | case3 char rest notEnd ih =>
      obtain ⟨⟨inner, tail⟩, inside, same⟩ := Option.map_eq_some_iff.mp read
      cases same
      simp [ih inside]

theorem quotedSegment_text {quote : Char} {rest : List Char} (isQuoted : isQuote quote = true) :
    (quotedSegment quote rest).1.text ++ (quotedSegment quote rest).2 = quote :: rest := by
  unfold quotedSegment
  split
  · simp [Segment.text]
  · rename_i body after read
    have whole := quotedBody_text read
    by_cases backtick : quote = '`'
    · subst backtick
      simp [Segment.text, whole]
    · simp [Segment.text, backtick, whole]

theorem lineSegment_text (rest : List Char) :
    (lineSegment rest).1.text ++ (lineSegment rest).2 = '-' :: '-' :: rest := by
  have whole := List.takeWhile_append_dropWhile (p := (· != '\n')) (l := rest)
  unfold lineSegment
  simp only
  split
  · rename_i ended
    rw [ended] at whole
    simpa [Segment.text] using whole
  · rename_i found after ended
    have newline : found = '\n' := by
      have stopped := List.head?_dropWhile_not (· != '\n') rest
      rw [ended] at stopped
      simpa using stopped
    rw [ended, newline] at whole
    simpa [Segment.text] using whole

theorem blockSegment_text (rest : List Char) :
    (blockSegment rest).1.text ++ (blockSegment rest).2 = '/' :: '*' :: rest := by
  unfold blockSegment
  split
  · simp [Segment.text]
  · rename_i body after read
    simp [Segment.text, ← commentBody_text read]

theorem colonSegment_text (rest : List Char) :
    (colonSegment rest).1.text ++ (colonSegment rest).2 = ':' :: rest := by
  cases rest with
  | nil => rfl
  | cons next rest =>
      simp only [colonSegment]
      split
      · rfl
      · split
        · simp [Segment.text, List.takeWhile_append_dropWhile]
        · rfl

theorem firstSegment_text (char : Char) (rest : List Char) :
    (firstSegment char rest).1.text ++ (firstSegment char rest).2 = char :: rest := by
  unfold firstSegment
  split
  · exact lineSegment_text _
  · exact blockSegment_text _
  · rfl
  · exact colonSegment_text _
  · split
    · exact quotedSegment_text ‹_›
    · rfl

theorem firstSegment_shorter (char : Char) (rest : List Char) :
    (firstSegment char rest).2.length < rest.length + 1 := by
  have whole := congrArg List.length (firstSegment_text char rest)
  have nonempty := List.length_pos_iff.mpr (firstSegment char rest).1.text_ne_nil
  simp only [List.length_append, List.length_cons] at whole
  omega

/-- The segments of a text, in order. -/
def split : List Char → List Segment
  | [] => []
  | char :: rest => (firstSegment char rest).1 :: split (firstSegment char rest).2
termination_by text => text.length
decreasing_by exact firstSegment_shorter char rest

theorem split_flatMap_text (text : List Char) : (split text).flatMap Segment.text = text := by
  fun_induction split text with
  | case1 => rfl
  | case2 char rest ih =>
      rw [List.flatMap_cons, ih]
      exact firstSegment_text char rest

end CheckedSql.Sql

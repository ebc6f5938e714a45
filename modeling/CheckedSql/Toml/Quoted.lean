import CheckedSql.Toml.Rule

namespace CheckedSql.Toml

def hexDigit? (char : Char) : Option Nat :=
  if char.isDigit then some (char.toNat - '0'.toNat)
  else if 'a' ≤ char ∧ char ≤ 'f' then some (char.toNat - 'a'.toNat + 10)
  else if 'A' ≤ char ∧ char ≤ 'F' then some (char.toNat - 'A'.toNat + 10)
  else none

def hexValue (digits : List Char) : Nat :=
  digits.foldl (fun value digit => 16 * value + (hexDigit? digit).getD 0) 0

/-- A character by its number in so many hexadecimal digits. -/
def codePoint (digits : Nat) : Rule Char := do
  let written ← Rule.times (fun digit => (hexDigit? digit).isSome) digits
  let value := hexValue written
  Rule.when (decide (value.isValidChar))
  return Char.ofNat value

def escape : Rule Char := do
  match ← Rule.char (fun _ => true) with
  | 'b' => return '\x08'
  | 't' => return '\t'
  | 'n' => return '\n'
  | 'f' => return '\x0c'
  | 'r' => return '\x0d'
  | '"' => return '"'
  | '\\' => return '\\'
  | 'u' => codePoint 4
  | 'U' => codePoint 8
  | _ => Rule.fail

def dropBlankLines : List Char → List Char
  | [] => []
  | '\x0d' :: '\n' :: rest => dropBlankLines rest
  | first :: rest => if isGap first || first == '\n' then dropBlankLines rest else first :: rest

theorem dropBlankLines_length_le (text : List Char) :
    (dropBlankLines text).length ≤ text.length := by
  fun_induction dropBlankLines text with
  | case1 => exact Nat.le_refl _
  | case2 rest ih => exact Nat.le_succ_of_le (Nat.le_succ_of_le ih)
  | case3 first rest _ _ ih => exact Nat.le_succ_of_le ih
  | case4 => exact Nat.le_refl _

/-- A backslash at the end of a line: the blanks after it are no part of the
string. -/
def foldedLine : Rule Unit := do
  gap
  lineBreak
  ⟨fun text => some ((), dropBlankLines text), fun found => by
    cases found; exact dropBlankLines_length_le _⟩

structure QuoteStyle where
  quote : Char
  escapes : Bool
  lines : Bool

/-- Reads the rest of one character of a string, given the first character that is
written for it; nothing stands for a folded line. -/
def QuoteStyle.piece (style : QuoteStyle) (first : Char) : Rule (Option Char) :=
  if first = '\\' ∧ style.escapes then
    (do Rule.when style.lines; foldedLine; return none) <|> (do return some (← escape))
  else if isPlain first then return some first
  else if style.lines ∧ first = '\n' then return some '\n'
  else if style.lines ∧ first = '\x0d' then do
    Rule.word ['\n']
    return some '\n'
  else Rule.fail

/-- Reads the quotes that end a string on several lines. Up to two more quotes
before them belong to the string. -/
def closingQuotes (quote : Char) : List Char → Option (List Char × List Char)
  | first :: second :: third :: rest =>
      if first = quote ∧ second = quote ∧ third = quote then
        match rest with
        | fourth :: fifth :: after =>
            if fourth = quote ∧ fifth = quote then some ([quote, quote], after)
            else if fourth = quote then some ([quote], fifth :: after)
            else some ([], fourth :: fifth :: after)
        | [fourth] => if fourth = quote then some ([quote], []) else some ([], [fourth])
        | [] => some ([], [])
      else none
  | _ => none

theorem closingQuotes_shorter {quote : Char} {text extra rest : List Char}
    (found : closingQuotes quote text = some (extra, rest)) : rest.length ≤ text.length := by
  unfold closingQuotes at found
  split at found
  · split at found
    · split at found
      · split at found
        · cases found; simp only [List.length_cons]; omega
        · split at found <;> cases found <;> simp only [List.length_cons] <;> omega
      · split at found <;> cases found <;> simp only [List.length_cons, List.length_nil] <;> omega
      · cases found; exact Nat.zero_le _
    · cases found
  · cases found

/-- Reads a string up to its end. A quote ends a string on one line; of a string on
several lines it is a part unless two more follow. -/
def QuoteStyle.readBody (style : QuoteStyle) : List Char → Option (List Char × List Char)
  | [] => none
  | first :: rest =>
      if first = style.quote then
        if style.lines then
          match closingQuotes style.quote (first :: rest) with
          | some closed => some closed
          | none => (style.readBody rest).map fun (body, after) => (first :: body, after)
        else some ([], rest)
      else
        match _found : (style.piece first).read rest with
        | none => none
        | some (piece, after) =>
            (style.readBody after).map fun (body, after) => (piece.toList ++ body, after)
termination_by text => text.length
decreasing_by
  · exact Nat.lt_succ_self _
  · exact Nat.lt_succ_of_le ((style.piece first).shrinks _found)

theorem QuoteStyle.readBody_shrinks {style : QuoteStyle} {text body rest : List Char}
    (found : style.readBody text = some (body, rest)) : rest.length ≤ text.length := by
  fun_induction style.readBody text generalizing body rest with
  | case1 => cases found
  | case2 => cases found; exact closingQuotes_shorter ‹_›
  | case3 tail _ _ ih =>
      obtain ⟨⟨inner, last⟩, further, same⟩ := Option.map_eq_some_iff.mp found
      cases same
      exact Nat.le_succ_of_le (ih further)
  | case4 => cases found; exact Nat.le_succ _
  | case5 => cases found
  | case6 first tail _ piece after read ih =>
      obtain ⟨⟨inner, last⟩, further, same⟩ := Option.map_eq_some_iff.mp found
      cases same
      exact Nat.le_trans (ih further) (Nat.le_succ_of_le ((style.piece first).shrinks read))

def QuoteStyle.body (style : QuoteStyle) : Rule (List Char) :=
  ⟨style.readBody, readBody_shrinks⟩

/-- A string on several lines starts after three quotes and a line break that is no
part of it. -/
def quotedLines (quote : Char) (escapes : Bool) : Rule String := do
  Rule.word [quote, quote, quote]
  let _ ← Rule.optional lineBreak
  return String.ofList (← (QuoteStyle.mk quote escapes true).body)

def quotedLine (quote : Char) (escapes : Bool) : Rule String := do
  Rule.word [quote]
  return String.ofList (← (QuoteStyle.mk quote escapes false).body)

def lineString : Rule String :=
  quotedLine '"' true <|> quotedLine '\'' false

def string : Rule String :=
  quotedLines '"' true <|> quotedLines '\'' false <|> lineString

end CheckedSql.Toml

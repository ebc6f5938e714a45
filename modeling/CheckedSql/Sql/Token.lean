import CheckedSql.Text.Basic
import CheckedSql.Sql.Mask

namespace CheckedSql.Sql

open Text

/-! The tokens of a masked text.

Tokens carry what the analysis of a statement looks at: words, names in
backticks, single characters of punctuation, and the bare fact of a literal.
Strings, numbers and bind markers are literals. Keywords are words and compare
ignoring case; a name in backticks is never a keyword.
-/

inductive Token where
  | word (text : String)
  | quoted (name : String)
  | literal
  | punct (char : Char)
deriving Repr, DecidableEq, Inhabited

/-- The words that cannot name a table, a column or an alias. -/
def reservedWords : List String :=
  ["ALL", "AND", "AS", "ASC", "BETWEEN", "BY", "CASE", "CROSS", "DELETE", "DESC", "DISTINCT",
    "ELSE", "END", "EXCEPT", "EXISTS", "FOR", "FROM", "FULL", "GROUP", "HAVING", "IN", "INNER",
    "INSERT", "INTERSECT", "INTO", "IS", "JOIN", "LEFT", "LIKE", "LIMIT", "LOCK", "NATURAL",
    "NOT", "NULL", "OFFSET", "ON", "OR", "ORDER", "OUTER", "RECURSIVE", "REPLACE", "RETURNING",
    "RIGHT", "SELECT", "SET", "THEN", "UNION", "UPDATE", "USING", "VALUES", "WHEN", "WHERE",
    "WINDOW", "WITH"]

/-- The words that stand for a value, and not for a column, when written bare. -/
def valueWords : List String :=
  ["CURRENT_DATE", "CURRENT_TIME", "CURRENT_TIMESTAMP", "CURRENT_USER", "FALSE", "LOCALTIME",
    "LOCALTIMESTAMP", "TRUE", "UNKNOWN", "UTC_DATE", "UTC_TIME", "UTC_TIMESTAMP"]

def isOneOf (words : List String) (text : String) : Bool :=
  words.any fun word => decide (SameName word text)

namespace Token

def isWordOf (words : List String) : Token → Bool
  | .word text => isOneOf words text
  | _ => false

def isKeyword (keyword : String) (token : Token) : Bool :=
  token.isWordOf [keyword]

/-- The name that a word or a quoted name spells, reserved or not. -/
def spelled? : Token → Option String
  | .word text => some text
  | .quoted name => some name
  | _ => none

/-- The name that can stand for a table, a column or an alias. -/
def name? : Token → Option String
  | .word text => if isOneOf reservedWords text then none else some text
  | .quoted name => some name
  | _ => none

end Token

def isWordPart (char : Char) : Bool :=
  isNamePart char || char == '$'

/-- The text up to a closing character and what follows that character. -/
def upTo? (closing : Char) (text : List Char) : Option (List Char × List Char) :=
  match text.dropWhile (· != closing) with
  | [] => none
  | _ :: after => some (text.takeWhile (· != closing), after)

/-- Digits, and a fraction if a digit follows the point. -/
def afterNumber (text : List Char) : List Char :=
  match text.dropWhile Char.isDigit with
  | '.' :: next :: rest =>
      if next.isDigit then rest.dropWhile Char.isDigit else '.' :: next :: rest
  | rest => rest

/-- The token at the start of a text, unless it starts with a blank, and what
follows. -/
def firstToken (char : Char) (rest : List Char) : Option Token × List Char :=
  if isBlank char then (none, rest)
  else if isNameStart char then
    (some (.word (String.ofList (char :: rest.takeWhile isWordPart))), rest.dropWhile isWordPart)
  else if char = '`' then
    match upTo? '`' rest with
    | some (name, after) => (some (.quoted (String.ofList name)), after)
    | none => (some (.punct '`'), rest)
  else if char = '\'' ∨ char = '"' then
    match upTo? char rest with
    | some (_, after) => (some .literal, after)
    | none => (some .literal, rest)
  else if char = ':' then
    match rest with
    | next :: after =>
        if isNameStart next then (some .literal, after.dropWhile isNamePart)
        else (some .literal, rest)
    | [] => (some .literal, [])
  else if char = '?' then (some .literal, rest)
  else if char.isDigit then (some .literal, afterNumber rest)
  else (some (.punct char), rest)

theorem length_dropWhile_le (accepts : Char → Bool) (text : List Char) :
    (text.dropWhile accepts).length ≤ text.length :=
  (List.dropWhile_suffix accepts).length_le

theorem upTo?_shorter {closing : Char} {text body after : List Char}
    (found : upTo? closing text = some (body, after)) : after.length < text.length := by
  have shorter := length_dropWhile_le (· != closing) text
  unfold upTo? at found
  split at found
  · cases found
  · rename_i stopped
    rw [stopped] at shorter
    cases found
    exact shorter

theorem afterNumber_length_le (text : List Char) : (afterNumber text).length ≤ text.length := by
  have shorter := length_dropWhile_le Char.isDigit text
  unfold afterNumber
  split
  · rename_i next rest stopped
    rw [stopped] at shorter
    split
    · have tail := length_dropWhile_le Char.isDigit rest
      simp only [List.length_cons] at shorter
      omega
    · exact shorter
  · exact shorter

theorem firstToken_shorter (char : Char) (rest : List Char) :
    (firstToken char rest).2.length < rest.length + 1 := by
  have words := length_dropWhile_le isWordPart rest
  have numbers := afterNumber_length_le rest
  unfold firstToken
  split
  · exact Nat.lt_succ_self _
  split
  · exact Nat.lt_succ_of_le words
  split
  · split
    · rename_i found
      exact Nat.lt_succ_of_lt (upTo?_shorter found)
    · exact Nat.lt_succ_self _
  split
  · split
    · rename_i found
      exact Nat.lt_succ_of_lt (upTo?_shorter found)
    · exact Nat.lt_succ_self _
  split
  · split
    · rename_i next after
      split
      · have tail := length_dropWhile_le isNamePart after
        simp only [List.length_cons]
        omega
      · exact Nat.lt_succ_self _
    · exact Nat.lt_succ_self _
  split
  · exact Nat.lt_succ_self _
  split
  · exact Nat.lt_succ_of_le numbers
  · exact Nat.lt_succ_self _

def tokens : List Char → List Token
  | [] => []
  | char :: rest =>
      (firstToken char rest).1.toList ++ tokens (firstToken char rest).2
termination_by text => text.length
decreasing_by exact firstToken_shorter char rest

/-- The tokens of a statement's text, with literals and comments masked first. -/
def Token.ofText (text : String) : Except Fault (List Token) :=
  (mask text.toList).map tokens

end CheckedSql.Sql

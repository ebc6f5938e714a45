import CheckedSql.Text.Basic
import CheckedSql.Fault

namespace CheckedSql.Sql

open Text

/-! The keyword that a statement opens with, and the kind that it announces.

Before the keyword stand blanks, comments and opening parentheses. `keywordFrom`
is the semantic model: it reads from a given place on. A star and a slash end a
block comment; where no keyword can be read after them, the comment goes on to
the next star and slash. `KeywordReadings` holds the answers for all places at
once, so that each character is looked at once (`lead_ofText`).
-/

/-- Where a reading stands: before the keyword, after a first dash or slash, in a
line comment, in a block comment, or after a star in a block comment. -/
inductive KeywordPlace where
  | lead
  | dash
  | slash
  | line
  | block
  | star
deriving Repr, DecidableEq

def leadsOver (char : Char) : Bool :=
  isBlank char || char == '('

def keywordFrom : KeywordPlace → List Char → Option (List Char)
  | _, [] => none
  | .lead, char :: rest =>
      if leadsOver char then keywordFrom .lead rest
      else if char = '-' then keywordFrom .dash rest
      else if char = '/' then keywordFrom .slash rest
      else if char.isAlpha then some (char :: rest.takeWhile Char.isAlpha)
      else none
  | .dash, char :: rest => if char = '-' then keywordFrom .line rest else none
  | .slash, char :: rest => if char = '*' then keywordFrom .block rest else none
  | .line, char :: rest =>
      if char = '\n' then keywordFrom .lead rest else keywordFrom .line rest
  | .block, char :: rest =>
      if char = '*' then keywordFrom .star rest else keywordFrom .block rest
  | .star, char :: rest =>
      if char = '/' then (keywordFrom .lead rest).or (keywordFrom .block rest)
      else if char = '*' then keywordFrom .star rest
      else keywordFrom .block rest

/-- The letters that a text opens with, and its keyword from each place. -/
structure KeywordReadings where
  letters : List Char
  lead : Option (List Char)
  dash : Option (List Char)
  slash : Option (List Char)
  line : Option (List Char)
  block : Option (List Char)
  star : Option (List Char)

namespace KeywordReadings

def get (readings : KeywordReadings) : KeywordPlace → Option (List Char)
  | .lead => readings.lead
  | .dash => readings.dash
  | .slash => readings.slash
  | .line => readings.line
  | .block => readings.block
  | .star => readings.star

def before (char : Char) (rest : KeywordReadings) : KeywordReadings where
  letters := if char.isAlpha then char :: rest.letters else []
  lead :=
    if leadsOver char then rest.lead
    else if char = '-' then rest.dash
    else if char = '/' then rest.slash
    else if char.isAlpha then some (char :: rest.letters)
    else none
  dash := if char = '-' then rest.line else none
  slash := if char = '*' then rest.block else none
  line := if char = '\n' then rest.lead else rest.line
  block := if char = '*' then rest.star else rest.block
  star :=
    if char = '/' then rest.lead.or rest.block
    else if char = '*' then rest.star
    else rest.block

def ofText : List Char → KeywordReadings
  | [] => ⟨[], none, none, none, none, none, none⟩
  | char :: rest => before char (ofText rest)

theorem letters_ofText (text : List Char) : (ofText text).letters = text.takeWhile Char.isAlpha := by
  induction text with
  | nil => rfl
  | cons char rest ih =>
      simp only [ofText, before, ih, List.takeWhile_cons]

theorem get_ofText (place : KeywordPlace) (text : List Char) :
    (ofText text).get place = keywordFrom place text := by
  induction text generalizing place with
  | nil => cases place <;> rfl
  | cons char rest ih =>
      have leads := ih .lead
      have dashes := ih .dash
      have slashes := ih .slash
      have lines := ih .line
      have blocks := ih .block
      have stars := ih .star
      simp only [get] at leads dashes slashes lines blocks stars
      cases place <;>
        simp only [ofText, before, get, keywordFrom, leads, dashes, slashes, lines, blocks, stars,
          letters_ofText]

theorem lead_ofText (text : List Char) : (ofText text).lead = keywordFrom .lead text :=
  get_ofText .lead text

end KeywordReadings

def leadingKeyword? (text : List Char) : Option (List Char) :=
  (KeywordReadings.ofText text).lead

namespace StatementKind

/-- The kind of a statement. A text without a leading keyword is named by its
first word. -/
def ofText (text : String) : Except Fault StatementKind :=
  match leadingKeyword? text.toList with
  | none => .error (.unsupportedStatement (String.ofList (firstWord text.toList)))
  | some letters =>
      let keyword := String.ofList (letters.map Char.toUpper)
      match ofKeyword? keyword with
      | none => .error (.unsupportedStatement keyword)
      | some kind => .ok kind

end StatementKind

end CheckedSql.Sql

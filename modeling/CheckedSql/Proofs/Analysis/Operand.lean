import CheckedSql.Proofs.Analysis.Reading

namespace CheckedSql.Grammar

open Sql Analysis

/-! Values in predicates and in the phrases of statements that write.

Calls may have `FROM` among their arguments, which names no table. A value is balanced and
has no comma and no word of a clause outside its parentheses (`Operand.balanced`), and no
table is read in it, whatever parentheses it stands in (`Operand.reads`).
-/

inductive Column where
  | bare (name : Name)
  | qualified (source name : Name)

def operatorSigns : List Char :=
  ['+', '-', '*', '/', '%', '=', '<', '>', '!', '&', '|', '^', '~']

def operatorWords : List String :=
  ["AND", "OR", "XOR", "NOT", "IS", "IN", "LIKE", "REGEXP", "BETWEEN", "DIV", "MOD"]

/-- Whether a token is a sign or a word of operators. -/
def operates : Token → Bool
  | .punct sign => operatorSigns.contains sign
  | token => token.isWordOf operatorWords

/-- A run of signs, such as `<=`, or of words, such as `NOT LIKE`. -/
structure Operator where
  tokens : List Token
  nonempty : tokens ≠ []
  among : tokens.all operates = true

mutual

/-- A value. A literal may be a number with its sign, a string, a date, null or a bind
marker; its tokens are no parentheses, commas or words of clauses. -/
inductive Operand where
  | literal (parts : List Token) (nonempty : parts ≠ [])
      (admitted : parts.all Region.condition.admits = true)
  | column (column : Column)
  | preceded (operator : Operator) (operand : Operand)
  | joined (left : Operand) (operator : Operator) (right : Operand)
  | group (entries : Entries false)
  | emptyCall (function : Name)
  | call (function : Name) (arguments : Entries true)

/-- What stands between parentheses, those of a call or others. -/
inductive Entries : Bool → Type where
  | one {called : Bool} (entry : Entry called) : Entries called
  | more {called : Bool} (entry : Entry called) (rest : Entries called) : Entries called

inductive Entry : Bool → Type where
  | value {called : Bool} (operand : Operand) : Entry called
  | star : Entry true
  | extract (unit : Operand) (separator : Keyword ["FROM"]) (operand : Operand) : Entry true

end

def Column.tokens : Column → List Token
  | .bare name => [name.token]
  | .qualified source name => [source.token, .punct '.', name.token]

mutual

def Operand.tokens : Operand → List Token
  | .literal parts _ _ => parts
  | .column column => column.tokens
  | .preceded operator operand => operator.tokens ++ operand.tokens
  | .joined left operator right => left.tokens ++ (operator.tokens ++ right.tokens)
  | .group entries => enclosed entries.tokens
  | .emptyCall function => function.token :: enclosed []
  | .call function arguments => function.token :: enclosed arguments.tokens

def Entries.tokens {called : Bool} : Entries called → List Token
  | .one entry => entry.tokens
  | .more entry rest => entry.tokens ++ .punct ',' :: rest.tokens

def Entry.tokens {called : Bool} : Entry called → List Token
  | .value operand => operand.tokens
  | .star => [.punct '*']
  | .extract unit separator operand => unit.tokens ++ separator.token :: operand.tokens

end

/-- Phrases that follow others after commas. -/
def further {Phrase : Type} (tokens : Phrase → List Token) (phrases : List Phrase) : List Token :=
  phrases.flatMap fun phrase => .punct ',' :: tokens phrase

variable {parens : List Bool} {called : Bool} {tokens parts : List Token}

theorem admits_of_operates {token : Token} (operating : operates token = true) :
    Region.condition.admits token = true := by
  unfold operates at operating
  split at operating
  · rename_i sign
    have known : operatorSigns.all (Region.condition.admits <| .punct ·) = true := by decide
    exact List.all_eq_true.mp known sign (List.contains_iff_mem.mp operating)
  · exact admits_keyword ⟨token, operating⟩ (by decide +kernel)

theorem Operator.admitted (operator : Operator) :
    operator.tokens.all Region.condition.admits = true := by
  refine List.all_eq_true.mpr fun token member => ?_
  exact admits_of_operates (List.all_eq_true.mp operator.among token member)

section Opening

/-- Tokens that open no query. -/
def Plainly (tokens : List Token) : Prop :=
  ∃ token rest, tokens = token :: rest ∧ token.isWordOf ["SELECT", "WITH"] = false

theorem Plainly.append (plainly : Plainly tokens) (further : List Token) :
    Plainly (tokens ++ further) := by
  obtain ⟨token, rest, rfl, unlike⟩ := plainly
  exact ⟨token, rest ++ further, rfl, unlike⟩

theorem Plainly.head (plainly : Plainly tokens) :
    ∀ token ∈ tokens.head?, token.isWordOf ["SELECT", "WITH"] = false := by
  obtain ⟨token, rest, rfl, unlike⟩ := plainly
  rintro _ ⟨⟩
  exact unlike

theorem plainly_name (name : Name) (rest : List Token) : Plainly (name.token :: rest) :=
  ⟨name.token, rest, rfl, name.isWordOf_eq_false (by decide +kernel)⟩

theorem plainly_parts (nonempty : parts ≠ [])
    (admitted : parts.all Region.condition.admits = true) : Plainly parts := by
  obtain ⟨part, rest, rfl⟩ := List.exists_cons_of_ne_nil nonempty
  exact ⟨part, rest, rfl, isWordOf_of_admits (by decide) (Bool.and_eq_true_iff.mp admitted).1⟩

theorem Operand.plainly : (operand : Operand) → Plainly operand.tokens
  | .literal _ nonempty admitted => plainly_parts nonempty admitted
  | .column (.bare name) => plainly_name name []
  | .column (.qualified source _) => plainly_name source _
  | .preceded operator _ => (plainly_parts operator.nonempty operator.admitted).append _
  | .joined left _ _ => left.plainly.append _
  | .group _ => ⟨.punct '(', _, rfl, rfl⟩
  | .emptyCall function => plainly_name function _
  | .call function _ => plainly_name function _

theorem Entry.plainly (entry : Entry called) : Plainly entry.tokens := by
  cases entry with
  | value operand => exact operand.plainly
  | star => exact ⟨.punct '*', [], rfl, rfl⟩
  | extract unit => exact unit.plainly.append _

theorem Entries.plainly (entries : Entries called) : Plainly entries.tokens := by
  cases entries with
  | one entry => exact entry.plainly
  | more entry => exact entry.plainly.append _

end Opening

section Reading

theorem reads_parts (admitted : parts.all Region.condition.admits = true) :
    Reads parens Anything parts [] :=
  .quiets fun token member => quiet_of_admits (List.all_eq_true.mp admitted token member)

theorem Column.reads (column : Column) : Reads parens Anything column.tokens [] := by
  cases column with
  | bare name => exact .quiet (quiet_name name) .nil
  | qualified source name =>
      exact .quiet (quiet_name source) (.quiet (quiet_punct (by decide) (by decide))
        (.quiet (quiet_name name) .nil))

mutual

/-- No table is named in a value. -/
theorem Operand.reads {parens : List Bool} :
    (operand : Operand) → Reads parens Anything operand.tokens []
  | .literal _ _ admitted => reads_parts admitted
  | .column column => column.reads
  | .preceded operator operand => (reads_parts operator.admitted).before operand.reads
  | .joined left operator right =>
      left.reads.before ((reads_parts operator.admitted).before right.reads)
  | .group entries =>
      .enclosed fun _ _ => (entries.reads (by simp)).weaken fun _ _ => True.intro
  | .emptyCall function => reads_call function (by rintro _ ⟨⟩) .nil
  | .call function arguments =>
      reads_call function arguments.plainly.head
        ((arguments.reads fun _ => rfl).weaken fun _ _ => True.intro)

theorem Entries.reads {called : Bool} {parens : List Bool}
    (within : called = true → parens.head? = some true) :
    (entries : Entries called) → Reads parens Anything entries.tokens []
  | .one entry => entry.reads within
  | .more entry rest =>
      (entry.reads within).before (.quiet (quiet_punct (by decide) (by decide)) (rest.reads within))

theorem Entry.reads {called : Bool} {parens : List Bool}
    (within : called = true → parens.head? = some true) :
    (entry : Entry called) → Reads parens Anything entry.tokens []
  | .value operand => operand.reads
  | .star => .quiet (quiet_punct (by decide) (by decide)) .nil
  | .extract unit separator operand => by
      obtain ⟨outer, rfl⟩ := List.head?_eq_some_iff.mp (within rfl)
      exact unit.reads.before (.called (plain_keyword separator) operand.reads)

end

/-- Phrases that name no table name none in a list. -/
theorem reads_further {Phrase : Type} {tokens : Phrase → List Token}
    (each : ∀ phrase, Reads parens Anything (tokens phrase) []) (phrases : List Phrase) :
    Reads parens Anything (further tokens phrases) [] := by
  induction phrases with
  | nil => exact .nil
  | cons phrase phrases ih =>
      exact (Reads.quiet (quiet_punct (by decide) (by decide)) (each phrase)).before ih

end Reading

section Balance

theorem balanced_parts (admitted : parts.all Region.condition.admits = true) :
    Balanced (fun token => Region.condition.admits token = true) parts := by
  induction parts with
  | nil => exact .nil
  | cons part parts ih =>
      obtain ⟨first, others⟩ := Bool.and_eq_true_iff.mp admitted
      exact .token (plain_of_admits first) first (ih others)

mutual

theorem Operand.balanced :
    (operand : Operand) →
    Balanced (fun token => Region.condition.admits token = true) operand.tokens
  | .literal _ _ admitted => balanced_parts admitted
  | .column (.bare name) => .token (plain_name name) (admits_name _ name) .nil
  | .column (.qualified source name) =>
      .token (plain_name source) (admits_name _ source)
        (.token (plain_punct (by decide) (by decide)) (by decide)
          (.token (plain_name name) (admits_name _ name) .nil))
  | .preceded operator operand => (balanced_parts operator.admitted).append operand.balanced
  | .joined left operator right =>
      left.balanced.append ((balanced_parts operator.admitted).append right.balanced)
  | .group entries => .enclosed entries.balanced
  | .emptyCall function => .token (plain_name function) (admits_name _ function) (.enclosed .nil)
  | .call function arguments =>
      .token (plain_name function) (admits_name _ function) (.enclosed arguments.balanced)

theorem Entries.balanced {called : Bool} :
    (entries : Entries called) → Balanced (fun _ => True) entries.tokens
  | .one entry => entry.balanced
  | .more entry rest =>
      entry.balanced.append (.token (plain_punct (by decide) (by decide)) True.intro rest.balanced)

theorem Entry.balanced {called : Bool} :
    (entry : Entry called) → Balanced (fun _ => True) entry.tokens
  | .value operand => operand.balanced.any
  | .star => .token (plain_punct (by decide) (by decide)) True.intro .nil
  | .extract unit separator operand =>
      unit.balanced.any.append (.token (plain_keyword separator) True.intro operand.balanced.any)

end

theorem balanced_further {Phrase : Type} {allowed : Token → Prop} {tokens : Phrase → List Token}
    (comma : allowed (.punct ',')) (each : ∀ phrase, Balanced allowed (tokens phrase))
    (phrases : List Phrase) : Balanced allowed (further tokens phrases) := by
  induction phrases with
  | nil => exact .nil
  | cons phrase phrases ih =>
      exact (Balanced.token (plain_punct (by decide) (by decide)) comma (each phrase)).append ih

end Balance

end CheckedSql.Grammar

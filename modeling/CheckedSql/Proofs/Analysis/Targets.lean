import CheckedSql.Proofs.Analysis.Columns
import CheckedSql.Proofs.Analysis.Lowering
import CheckedSql.Proofs.Analysis.Operand

namespace CheckedSql

open Sql Text Analysis Grammar

namespace Change

structure Assignment where
  column : Name
  value : Operand

structure Condition where
  word : Keyword ["WHERE"]
  value : Operand

end Change

/-- A statement that writes columns of one table. -/
inductive Change where
  | inserted (opening : Keyword ["INSERT", "REPLACE"]) (into : Keyword ["INTO"]) (table : Name)
      (column : Name) (columns : List Name) (word : Keyword ["VALUES"])
      (row : Entries false) (rows : List (Entries false))
  | updated (opening : Keyword ["UPDATE"]) (table : Name) (alias? : Option Alias)
      (word : Keyword ["SET"]) (assignment : Change.Assignment)
      (assignments : List Change.Assignment) (condition? : Option Change.Condition)

namespace Change

def columnTokens (column : Name) : List Token :=
  [column.token]

def rowTokens (row : Entries false) : List Token :=
  enclosed row.tokens

def Assignment.tokens (assignment : Assignment) : List Token :=
  assignment.column.token :: .punct '=' :: assignment.value.tokens

def conditionTokens : Option Condition → List Token
  | none => []
  | some condition => condition.word.token :: condition.value.tokens

/-- The tokens behind the table of an update. -/
def settingTokens (word : Keyword ["SET"]) (assignment : Assignment)
    (assignments : List Assignment) (condition? : Option Condition) : List Token :=
  word.token :: (assignment.tokens ++ (further Assignment.tokens assignments ++
    conditionTokens condition?))

def tokens : Change → List Token
  | .inserted opening into table column columns word row rows =>
      opening.token :: into.token :: table.token ::
        (enclosed (column.token :: further columnTokens columns) ++
          word.token :: (rowTokens row ++ further rowTokens rows))
  | .updated opening table alias? word assignment assignments condition? =>
      opening.token :: ((Grammar.Source.table table alias?).tokens ++
        settingTokens word assignment assignments condition?)

def table : Change → Name
  | .inserted _ _ table _ _ _ _ _ | .updated _ table _ _ _ _ _ => table

def alias? : Change → Option Alias
  | .inserted _ _ _ _ _ _ _ _ => none
  | .updated _ _ alias? _ _ _ _ => alias?

/-- The written columns in the order of the text. -/
def columns : Change → List Name
  | .inserted _ _ _ column columns _ _ _ => column :: columns
  | .updated _ _ _ _ assignment assignments _ =>
      (assignment :: assignments).map Assignment.column

section Columns

variable {allowed : Token → Prop} {tokens : List Token}

theorem columnsAt_comma (last : Token) (rest : List Token) :
    columnsAt last (.punct ',' :: rest) = columnsAt (.punct ',') rest := by
  rw [columnsAt]

theorem columnsAt_name (column : Name) (last : Token) (rest : List Token) :
    columnsAt last (column.token :: rest) =
      (column.text :: (columnsAt column.token rest).1, (columnsAt column.token rest).2) := by
  rw [columnsAt.eq_4 _ _ _ (column.ne_punct ')') (column.ne_punct ','), column.names]

theorem columnsAt_further (columns : List Name) (last : Token) (rest : List Token) :
    columnsAt last (further columnTokens columns ++ .punct ')' :: rest) =
      (columns.map Name.text, ⟨.punct ')', rest⟩) := by
  induction columns generalizing last with
  | nil => rfl
  | cons column columns ih =>
      have parts : further columnTokens (column :: columns) ++ .punct ')' :: rest =
          .punct ',' :: column.token :: (further columnTokens columns ++ .punct ')' :: rest) := rfl
      rw [parts, columnsAt_comma, columnsAt_name, ih]
      rfl

/-- Inside parentheses no column is set. -/
theorem assignedColumns_inside (balanced : Balanced allowed tokens) (depth : Nat)
    (expected : Bool) (rest : List Token) :
    assignedColumns (depth + 1) expected (tokens ++ rest) =
      assignedColumns (depth + 1) expected rest := by
  induction balanced generalizing depth rest with
  | nil => rfl
  | token plain _ _ ih =>
      rw [List.cons_append, assignedColumns_plain plain, if_pos (Nat.succ_ne_zero depth), ih]
  | group _ _ insideIH furtherIH =>
      rw [List.append_assoc, enclosed_append, assignedColumns_open, insideIH,
        assignedColumns_close, Nat.add_sub_cancel, if_pos (Nat.succ_ne_zero depth), furtherIH]

/-- Behind the equals sign of a column no further one is set before the next comma. -/
theorem assignedColumns_outside (balanced : Balanced allowed tokens)
    (admitted : ∀ token, allowed token → Region.condition.admits token = true)
    (rest : List Token) :
    assignedColumns 0 false (tokens ++ rest) = assignedColumns 0 false rest := by
  induction balanced generalizing rest with
  | nil => rfl
  | @token _ token _ plain may _ ih =>
      have may := admitted token may
      have notComma : token ≠ .punct ',' := by
        rintro rfl
        cases may
      have unfiltered : token.isKeyword "WHERE" = false := isWordOf_of_admits (by decide) may
      rw [List.cons_append, assignedColumns_plain plain, if_neg (by simp), if_neg notComma,
        unfiltered, ih admitted]
      simp
  | group inside _ _ ih =>
      rw [List.append_assoc, enclosed_append, assignedColumns_open,
        assignedColumns_inside inside, assignedColumns_close, if_neg (by simp)]
      exact ih admitted rest

theorem assignedColumns_assignment (assignment : Assignment) (rest : List Token) :
    assignedColumns 0 true (assignment.tokens ++ rest) =
      assignment.column.text :: assignedColumns 0 false rest := by
  obtain ⟨column, value⟩ := assignment
  have unfiltered : column.token.isKeyword "WHERE" = false :=
    column.isWordOf_eq_false (by decide)
  have behind : assignedColumns 0 false (.punct '=' :: (value.tokens ++ rest)) =
      assignedColumns 0 false rest := by
    rw [assignedColumns_plain (plain_punct (by decide) (by decide)), if_neg (by simp),
      if_neg (by decide), if_neg (by decide),
      assignedColumns_outside value.balanced fun _ may => may]
    rfl
  rw [Assignment.tokens, List.cons_append, List.cons_append,
    assignedColumns_plain (plain_name column), if_neg (by simp), if_neg (column.ne_punct ','),
    if_neg (by simp [unfiltered]), behind, List.head?_cons, column.names]
  rfl

theorem assignedColumns_further (assignments : List Assignment) (rest : List Token) :
    assignedColumns 0 false (further Assignment.tokens assignments ++ rest) =
      assignments.map (·.column.text) ++ assignedColumns 0 false rest := by
  induction assignments with
  | nil => rfl
  | cons assignment assignments ih =>
      have parts : further Assignment.tokens (assignment :: assignments) ++ rest =
          .punct ',' :: (assignment.tokens ++
            (further Assignment.tokens assignments ++ rest)) := by
        simp [further]
      rw [parts, assignedColumns_plain (plain_punct (by decide) (by decide)), if_neg (by simp),
        if_pos rfl, assignedColumns_assignment, ih]
      rfl

theorem assignedColumns_condition (condition? : Option Condition) :
    assignedColumns 0 false (conditionTokens condition?) = [] := by
  cases condition? with
  | none => rfl
  | some condition =>
      obtain ⟨word, value⟩ := condition
      have filters : word.token.isKeyword "WHERE" = true := word.spelled
      rw [conditionTokens, assignedColumns_plain (plain_keyword word), if_neg (by simp),
        if_neg (word.ne_punct ','), if_pos filters]

/-- An update sets its columns in their order. -/
theorem updateColumns_setting (word : Keyword ["SET"]) (assignment : Assignment)
    (assignments : List Assignment) (condition? : Option Condition) :
    updateColumns (settingTokens word assignment assignments condition?) =
      ((assignment :: assignments).map Assignment.column).map Name.text := by
  rw [settingTokens, updateColumns, Token.isKeyword, if_pos word.spelled,
    assignedColumns_assignment, assignedColumns_further, assignedColumns_condition,
    List.append_nil, List.map_map]
  rfl

end Columns

section Mentions

variable {parens : List Bool}

theorem Assignment.reads (assignment : Assignment) :
    Reads parens Anything assignment.tokens [] :=
  .quiet (quiet_name assignment.column)
    (.quiet (quiet_punct (by decide) (by decide)) assignment.value.reads)

theorem reads_condition (condition? : Option Condition) :
    Reads parens Anything (conditionTokens condition?) [] := by
  cases condition? with
  | none => exact .nil
  | some condition =>
      exact .quiet (quiet_keyword condition.word (by decide +kernel)) condition.value.reads

theorem reads_row (row : Entries false) : Reads parens Anything (rowTokens row) [] :=
  .enclosed fun _ _ => (row.reads (by simp)).weaken fun _ _ => True.intro

theorem reads_setting (word : Keyword ["SET"]) (assignment : Assignment)
    (assignments : List Assignment) (condition? : Option Condition) :
    Reads parens Anything (settingTokens word assignment assignments condition?) [] :=
  .quiet (quiet_keyword word (by decide +kernel)) (assignment.reads.before
    ((reads_further Assignment.reads assignments).before (reads_condition condition?)))

theorem clause_inserted (into : Keyword ["INTO"]) (last : Option Token) :
    tableClause? last into.token = some .inserted := by
  have unlike : into.token.isWordOf ["FROM"] = false ∧ into.token.isWordOf ["JOIN"] = false :=
    ⟨into.isWordOf_apart (by decide), into.isWordOf_apart (by decide)⟩
  simp [tableClause?, Token.isKeyword, unlike, into.spelled]

theorem clause_updated (opening : Keyword ["UPDATE"]) :
    tableClause? none opening.token = some .updated := by
  have unlike : opening.token.isWordOf ["FROM"] = false ∧
      opening.token.isWordOf ["JOIN"] = false ∧ opening.token.isWordOf ["INTO"] = false :=
    ⟨opening.isWordOf_apart (by decide), opening.isWordOf_apart (by decide),
      opening.isWordOf_apart (by decide)⟩
  simp [tableClause?, Token.isKeyword, unlike, opening.spelled]

theorem clauseAt_inserted (into : Keyword ["INTO"]) (table column : Name) (columns : List Name)
    (rest : List Token) :
    clauseAt 0 ⟨into.token, table.token ::
        (enclosed (column.token :: further columnTokens columns) ++ rest)⟩ .inserted =
      (.source (tableRef table none 0) ::
        ((column :: columns).map Name.text).map (.target table.text), ⟨.punct ')', rest⟩) := by
  have stops : Stops (enclosed (column.token :: further columnTokens columns) ++ rest) :=
    ⟨by simp, rfl, rfl⟩
  obtain ⟨reached, found⟩ := tableAt?_table 0 table none into.token stops
  have listed : insertColumnsAt
      ⟨reached, enclosed (column.token :: further columnTokens columns) ++ rest⟩ =
        ((column :: columns).map Name.text, ⟨.punct ')', rest⟩) := by
    rw [enclosed_append]
    change columnsAt (.punct '(')
      (column.token :: (further columnTokens columns ++ .punct ')' :: rest)) = _
    rw [columnsAt_name, columnsAt_further]
    rfl
  change tableAt? 0 ⟨into.token, table.token ::
    (enclosed (column.token :: further columnTokens columns) ++ rest)⟩ = _ at found
  simp only [clauseAt, found, listed]
  rfl

theorem clauseAt_updated (opening : Keyword ["UPDATE"]) (table : Name) (alias? : Option Alias)
    (word : Keyword ["SET"]) (assignment : Assignment) (assignments : List Assignment)
    (condition? : Option Condition) :
    ∃ reached, clauseAt 0 ⟨opening.token, (Grammar.Source.table table alias?).tokens ++
        settingTokens word assignment assignments condition?⟩ .updated =
      (.source (tableRef table alias? 0) ::
        (((assignment :: assignments).map Assignment.column).map Name.text).map
          (.target table.text),
        ⟨reached, settingTokens word assignment assignments condition?⟩) := by
  have stops : Stops (settingTokens word assignment assignments condition?) :=
    stops_keyword word (by decide) (by decide)
  obtain ⟨reached, found⟩ := tableAt?_table 0 table alias? opening.token stops
  have certain : table.token.isKeyword "OR" = false := table.isWordOf_eq_false (by decide)
  have here : afterConflictClause ⟨opening.token, (Grammar.Source.table table alias?).tokens ++
      settingTokens word assignment assignments condition?⟩ =
        ⟨opening.token, (Grammar.Source.table table alias?).tokens ++
          settingTokens word assignment assignments condition?⟩ :=
    if_neg (by simp [certain])
  refine ⟨reached, ?_⟩
  simp only [clauseAt, here, found, updateColumns_setting]
  rfl

/-- A change mentions its table and the columns that it writes. -/
theorem mentions_tokens (change : Change) :
    mentions change.tokens = .source (tableRef change.table change.alias? 0) ::
      (change.columns.map Name.text).map (.target change.table.text) := by
  have uncalled : ([] : List Bool).head? ≠ some true := by simp
  cases change with
  | inserted opening into table column columns word row rows =>
      have silent : Reads [] Anything
          (word.token :: (rowTokens row ++ further rowTokens rows)) [] :=
        .quiet (quiet_keyword word (by decide +kernel))
          ((reads_row row).before (reads_further reads_row rows))
      rw [mentions, tokens, mentionsFrom_quiet (quiet_keyword opening (by decide +kernel)),
        mentionsFrom_clause (plain_keyword into) uncalled (clause_inserted into _),
        List.length_nil, clauseAt_inserted, silent.to_end True.intro, List.append_nil]
      rfl
  | updated opening table alias? word assignment assignments condition? =>
      obtain ⟨reached, read⟩ :=
        clauseAt_updated opening table alias? word assignment assignments condition?
      rw [mentions, tokens, mentionsFrom_clause (plain_keyword opening) uncalled
        (clause_updated opening), List.length_nil, read,
        (reads_setting word assignment assignments condition?).to_end True.intro, List.append_nil]
      rfl

end Mentions

section Analysis

variable {schema : Schema} {kind : StatementKind} {text : String} {change : Change}

theorem beforeSelect_comma : BeforeSelect (.punct ',') := rfl

theorem beforeSelect_of_admits {token : Token}
    (admitted : Region.condition.admits token = true) : BeforeSelect token :=
  isWordOf_of_admits (by decide) admitted

theorem Assignment.balanced (assignment : Assignment) :
    Balanced BeforeSelect assignment.tokens :=
  .token (plain_name assignment.column) (beforeSelect_name assignment.column)
    (.token (plain_punct (by decide) (by decide)) rfl
      (assignment.value.balanced.mono fun _ => beforeSelect_of_admits))

theorem balanced_condition (condition? : Option Condition) :
    Balanced BeforeSelect (conditionTokens condition?) := by
  cases condition? with
  | none => exact .nil
  | some condition =>
      exact .token (plain_keyword condition.word)
        (beforeSelect_keyword condition.word (by decide +kernel))
        (condition.value.balanced.mono fun _ => beforeSelect_of_admits)

/-- A change selects nothing. -/
theorem balanced (change : Change) : Balanced BeforeSelect change.tokens := by
  cases change with
  | inserted opening into table column columns word row rows =>
      have listed : Balanced (fun _ => True) (column.token :: further columnTokens columns) :=
        .token (plain_name column) True.intro (balanced_further True.intro
          (fun column => .token (plain_name column) True.intro .nil) columns)
      have rowed (row : Entries false) : Balanced BeforeSelect (rowTokens row) :=
        .enclosed row.balanced
      have behind : Balanced BeforeSelect
          (word.token :: (rowTokens row ++ further rowTokens rows)) :=
        .token (plain_keyword word) (beforeSelect_keyword word (by decide +kernel))
          ((rowed row).append (balanced_further beforeSelect_comma rowed rows))
      exact .token (plain_keyword opening) (beforeSelect_keyword opening (by decide +kernel))
        (.token (plain_keyword into) (beforeSelect_keyword into (by decide +kernel))
          (.token (plain_name table) (beforeSelect_name table) (.group listed behind)))
  | updated opening table alias? word assignment assignments condition? =>
      have named : Balanced BeforeSelect (Grammar.Source.table table alias?).tokens := by
        refine .token (plain_name table) (beforeSelect_name table) ?_
        cases alias? with
        | none => exact .nil
        | some named =>
            exact (balanced_optional _ fun keyword =>
              beforeSelect_keyword keyword (by decide +kernel)).append
                (.token (plain_name named.name) (beforeSelect_name named.name) .nil)
      have setting : Balanced BeforeSelect
          (settingTokens word assignment assignments condition?) :=
        .token (plain_keyword word) (beforeSelect_keyword word (by decide +kernel))
          (assignment.balanced.append
            ((balanced_further beforeSelect_comma Assignment.balanced assignments).append
              (balanced_condition condition?)))
      exact .token (plain_keyword opening) (beforeSelect_keyword opening (by decide +kernel))
        (named.append setting)

theorem selectItems?_tokens (change : Change) : selectItems? change.tokens = none := by
  have skipped : afterSelect? 0 (change.tokens ++ []) = afterSelect? 0 [] :=
    afterSelect?_balanced change.balanced fun _ _ before => before
  rw [List.append_nil] at skipped
  rw [selectItems?, skipped]
  rfl

theorem commonTables_tokens (change : Change) : commonTables change.tokens = [] := by
  cases change with
  | inserted opening =>
      have unlike : opening.token.isWordOf ["WITH"] = false :=
        opening.isWordOf_apart (by decide +kernel)
      exact if_neg (by simp [Token.isKeyword, unlike])
  | updated opening =>
      have unlike : opening.token.isWordOf ["WITH"] = false :=
        opening.isWordOf_apart (by decide +kernel)
      exact if_neg (by simp [Token.isKeyword, unlike])

/-- Whether a table has a column of this name. -/
def Has (schema : Schema) (table : String) (column : Name) : Prop :=
  ∃ known ∈ schema.columns table, SameName known column.text

instance (schema : Schema) (table : String) (column : Name) :
    Decidable (Has schema table column) :=
  inferInstanceAs (Decidable (∃ known ∈ schema.columns table, SameName known column.text))

end Analysis

end Change

end CheckedSql

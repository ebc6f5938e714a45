import CheckedSql.Proofs.Analysis.Balance
import CheckedSql.Proofs.Analysis.References

namespace CheckedSql.Grammar

open Sql Analysis

/-! The reading of mentions follows the grammar.

Tokens that are read one after the other add their mentions (`Reads`). What stands
behind a phrase matters only to a table, whose name and alias it could extend. Behind a
table of a list the reading is still within that list (`Lists`), so a tail is read in
both ways. Both are proved of all phrases at once, by recursion on the grammar, and give
the mentions of a query (`mentions_tokens`).
-/

variable {parens : List Bool} {last : Option Token} {token : Token} {rest : List Token}

section Steps

theorem mentionsFrom_open :
    mentionsFrom parens last (.punct '(' :: rest) =
      mentionsFrom (opensCall last rest :: parens) (some (.punct '(')) rest := by
  rw [mentionsFrom, if_pos rfl]

theorem mentionsFrom_close :
    mentionsFrom parens last (.punct ')' :: rest) =
      mentionsFrom parens.tail (some (.punct ')')) rest := by
  rw [mentionsFrom, if_neg (by decide), if_pos rfl]

theorem mentionsFrom_called (plain : Plain token) (called : parens.head? = some true) :
    mentionsFrom parens last (token :: rest) = mentionsFrom parens (some token) rest := by
  rw [mentionsFrom, if_neg plain.1, if_neg plain.2, if_pos called]

theorem mentionsFrom_clause {clause : TableClause} (plain : Plain token)
    (uncalled : parens.head? ≠ some true) (opens : tableClause? last token = some clause) :
    mentionsFrom parens last (token :: rest) =
      (clauseAt parens.length ⟨token, rest⟩ clause).1 ++
        mentionsFrom parens (some (clauseAt parens.length ⟨token, rest⟩ clause).2.last)
          (clauseAt parens.length ⟨token, rest⟩ clause).2.ahead := by
  rw [mentionsFrom, if_neg plain.1, if_neg plain.2, if_neg uncalled, opens]

/-- A token after which no tables are read. -/
structure Quiet (token : Token) : Prop where
  plain : Plain token
  opensNone : token.isWordOf ["FROM", "JOIN", "INTO", "UPDATE"] = false

theorem mentionsFrom_quiet (quiet : Quiet token) :
    mentionsFrom parens last (token :: rest) = mentionsFrom parens (some token) rest := by
  by_cases called : parens.head? = some true
  · exact mentionsFrom_called quiet.plain called
  · have opens : tableClause? last token = none := by
      have none : ∀ word ∈ ["FROM", "JOIN", "INTO", "UPDATE"], token.isKeyword word = false := by
        intro word member
        refine Bool.eq_false_iff.mpr fun spelled => ?_
        have among := Token.isWordOf_mono
          (fun other same => List.mem_singleton.mp same ▸ member) spelled
        rw [quiet.opensNone] at among
        cases among
      simp [tableClause?, none]
    rw [mentionsFrom, if_neg quiet.plain.1, if_neg quiet.plain.2, if_neg called, opens]

theorem quiet_keyword {words : List String} (keyword : Keyword words)
    (apart : Apart words ["FROM", "JOIN", "INTO", "UPDATE"]) : Quiet keyword.token :=
  ⟨plain_keyword keyword, keyword.isWordOf_apart apart⟩

theorem quiet_name (name : Name) : Quiet name.token :=
  ⟨plain_name name, name.isWordOf_eq_false (by decide)⟩

theorem quiet_punct {char : Char} (opens : char ≠ '(') (closes : char ≠ ')') :
    Quiet (.punct char) :=
  ⟨plain_punct opens closes, rfl⟩

theorem quiet_of_admits {region : Region} (admitted : region.admits token = true) :
    Quiet token :=
  ⟨plain_of_admits admitted, isWordOf_of_admits (by cases region <;> decide) admitted⟩

theorem quiet_literal : Quiet .literal :=
  ⟨⟨by simp, by simp⟩, rfl⟩

end Steps

/-- Tokens are read as these mentions, whatever came before them, if what follows
does not extend them. -/
def Reads (parens : List Bool) (follows : List Token → Prop) (tokens : List Token)
    (found : List Mention) : Prop :=
  ∀ last rest, follows rest →
    ∃ after, mentionsFrom parens last (tokens ++ rest) = found ++ mentionsFrom parens after rest

def Anything (_ : List Token) : Prop := True

/-- What may follow a query: nothing, a closing parenthesis or another select. -/
def Ends : List Token → Prop
  | [] => True
  | token :: _ => token = .punct ')' ∨ token.isWordOf ["UNION"] = true

namespace Reads

variable {follows further : List Token → Prop} {tokens left right inner : List Token}
  {found first second : List Mention}

theorem nil : Reads parens follows [] [] := fun last _ _ => ⟨last, rfl⟩

theorem quiet (still : Quiet token) (after : Reads parens follows tokens found) :
    Reads parens follows (token :: tokens) found := by
  intro last rest follow
  obtain ⟨reached, read⟩ := after (some token) rest follow
  exact ⟨reached, by rw [List.cons_append, mentionsFrom_quiet still, read]⟩

theorem quiets (still : ∀ token ∈ tokens, Quiet token) : Reads parens follows tokens [] := by
  induction tokens with
  | nil => exact nil
  | cons token tokens ih =>
      obtain ⟨first, others⟩ := List.forall_mem_cons.mp still
      exact quiet first (ih others)

theorem append (earlier : Reads parens further left first)
    (later : Reads parens follows right second)
    (joins : ∀ rest, follows rest → further (right ++ rest)) :
    Reads parens follows (left ++ right) (first ++ second) := by
  intro last rest follow
  obtain ⟨middle, readFirst⟩ := earlier last (right ++ rest) (joins rest follow)
  obtain ⟨reached, readSecond⟩ := later middle rest follow
  exact ⟨reached, by rw [List.append_assoc, readFirst, readSecond, List.append_assoc]⟩

/-- Tokens that leave open what follows them stand before any others. -/
theorem before (earlier : Reads parens Anything left first)
    (later : Reads parens follows right second) :
    Reads parens follows (left ++ right) (first ++ second) :=
  earlier.append later fun _ _ => True.intro

theorem weaken (reads : Reads parens further tokens found)
    (implies : ∀ rest, follows rest → further rest) : Reads parens follows tokens found :=
  fun last rest follow => reads last rest (implies rest follow)

theorem optional {words : List String} (keyword? : Option (Keyword words))
    (apart : Apart words ["FROM", "JOIN", "INTO", "UPDATE"]) :
    Reads parens Anything (optional keyword?) [] := by
  cases keyword? with
  | none => exact nil
  | some keyword => exact quiet (quiet_keyword keyword apart) nil

theorem aliased (named : Alias) : Reads parens Anything named.tokens [] :=
  (optional named.introduced? (by decide)).before (quiet (quiet_name named.name) nil)

theorem aliased? (alias? : Option Alias) :
    Reads parens Anything ((alias?.map Alias.tokens).getD []) [] := by
  cases alias? with
  | none => exact nil
  | some named => exact aliased named

/-- Directly in a call any token is read past. -/
theorem called (plain : Plain token) (after : Reads (true :: parens) follows tokens found) :
    Reads (true :: parens) follows (token :: tokens) found := by
  intro last rest follow
  obtain ⟨reached, read⟩ := after (some token) rest follow
  exact ⟨reached, by rw [List.cons_append, mentionsFrom_called plain rfl, read]⟩

/-- Parentheses are read through, as those of a call or not. -/
theorem enclosed
    (inside : ∀ last after,
      Reads (opensCall last (inner ++ .punct ')' :: after) :: parens) Ends inner found) :
    Reads parens Anything (enclosed inner) found := by
  intro last rest _
  obtain ⟨reached, read⟩ := inside last rest (some (.punct '(')) (.punct ')' :: rest) (.inl rfl)
  refine ⟨some (.punct ')'), ?_⟩
  rw [enclosed_append, mentionsFrom_open, read, mentionsFrom_close, List.tail_cons]

/-- Tokens that may end a statement are read to its end. -/
theorem to_end (reads : Reads parens follows tokens found) (ends : follows [])
    (last : Option Token) : mentionsFrom parens last tokens = found := by
  obtain ⟨after, read⟩ := reads last [] ends
  rw [List.append_nil, mentionsFrom, List.append_nil] at read
  exact read

end Reads

section Tables

variable {depth : Nat}

/-- What may follow a table with its alias. -/
def Stops : List Token → Prop
  | [] => True
  | token :: _ => token ≠ .punct '.' ∧ token.isWordOf ["AS"] = false ∧ token.name? = none

theorem stops_keyword {words : List String} (keyword : Keyword words) (reserved : Reserved words)
    (apart : Apart words ["AS"]) : Stops (keyword.token :: rest) :=
  ⟨keyword.ne_punct '.', keyword.isWordOf_apart apart, keyword.name?_eq_none reserved⟩

theorem stops_of_ends (ends : Ends rest) : Stops rest := by
  cases rest with
  | nil => exact True.intro
  | cons token rest =>
      rcases ends with rfl | union
      · exact ⟨by simp, rfl, rfl⟩
      · exact stops_keyword ⟨token, union⟩ (by decide) (by decide)

theorem dottedName_undotted {name : String} {last : Token}
    (undotted : rest.head? ≠ some (.punct '.')) :
    dottedName name last rest = (name, ⟨last, rest⟩) := by
  fun_cases dottedName name last rest with
  | case1 part rest spelled => simp at undotted
  | case2 => simp at undotted
  | case3 => rfl

theorem aliasAt_none {last : Token} (stops : Stops rest) :
    aliasAt last rest = (none, ⟨last, rest⟩) := by
  cases rest with
  | nil => rfl
  | cons token rest =>
      obtain ⟨_, unintroduced, unnamed⟩ := stops
      simp [aliasAt, Token.isKeyword, unintroduced, unnamed]

theorem aliasAt_alias (named : Alias) (last : Token) :
    aliasAt last (named.tokens ++ rest) = (some named.name.text, ⟨named.name.token, rest⟩) := by
  obtain ⟨introduced?, name⟩ := named
  cases introduced? with
  | none =>
      have unlike : name.token.isWordOf ["AS"] = false :=
        name.isWordOf_eq_false (by decide)
      simp [Alias.tokens, optional, aliasAt, Token.isKeyword, unlike, name.names]
  | some introduced =>
      simp [Alias.tokens, optional, aliasAt, Token.isKeyword, introduced.spelled, name.names]

theorem head?_alias_ne (named : Alias) (char : Char) :
    (named.tokens ++ rest).head? ≠ some (.punct char) := by
  obtain ⟨introduced?, name⟩ := named
  cases introduced? with
  | none => exact fun same => name.ne_punct char (Option.some.inj same)
  | some introduced => exact fun same => introduced.ne_punct char (Option.some.inj same)

theorem tableAt?_table (depth : Nat) (name : Name) (alias? : Option Alias) (last : Token)
    (stops : Stops rest) :
    ∃ reached, tableAt? depth ⟨last, (Source.table name alias?).tokens ++ rest⟩ =
      some (tableRef name alias? depth, ⟨reached, rest⟩) := by
  cases alias? with
  | none =>
      have undotted : rest.head? ≠ some (.punct '.') := by
        cases rest with
        | nil => simp
        | cons token rest => exact fun same => stops.1 (Option.some.inj same)
      refine ⟨name.token, ?_⟩
      simp [tableAt?, Source.tokens, name.names, dottedName_undotted undotted,
        aliasAt_none stops, tableRef]
  | some named =>
      refine ⟨named.name.token, ?_⟩
      simp [tableAt?, Source.tokens, name.names, dottedName_undotted (head?_alias_ne named '.'),
        aliasAt_alias, tableRef]

theorem tableAt?_derived (query : Query) (named : Alias) (last : Token) :
    tableAt? depth ⟨last, (Source.derived query named).tokens ++ rest⟩ = none := rfl

theorem tablesAt_none {place : Place} (none : tableAt? depth place = none) :
    tablesAt depth place = ([], place) := by
  rw [tablesAt]
  split
  · rfl
  · rename_i same
    rw [none] at same
    cases same
  · rename_i same
    rw [none] at same
    cases same

theorem tablesAt_comma {place : Place} {ref : TableRef} {last : Token}
    (found : tableAt? depth place = some (ref, ⟨last, .punct ',' :: rest⟩)) :
    tablesAt depth place =
      (ref :: (tablesAt depth ⟨.punct ',', rest⟩).1, (tablesAt depth ⟨.punct ',', rest⟩).2) := by
  rw [tablesAt]
  split
  · rename_i same
    rw [found] at same
    cases same
  · rename_i same
    rw [found] at same
    cases same
    rfl
  · rename_i comma same
    rw [found] at same
    cases same
    exact absurd rfl (comma _ _)

theorem tablesAt_last {place after : Place} {ref : TableRef}
    (found : tableAt? depth place = some (ref, after))
    (ends : after.ahead.head? ≠ some (.punct ',')) :
    tablesAt depth place = ([ref], after) := by
  rw [tablesAt]
  split
  · rename_i same
    rw [found] at same
    cases same
  · rename_i same
    rw [found] at same
    cases same
    exact absurd rfl ends
  · rename_i same
    rw [found] at same
    cases same
    rfl

end Tables

/-- A derived table is read through its query, and its alias names no source. -/
theorem reads_derived {query : Query} {found : List Mention} (named : Alias)
    (inside : Reads parens Anything (enclosed query.tokens) found) :
    Reads parens Anything (Source.derived query named).tokens found := by
  have whole := inside.before (.aliased named)
  rw [List.append_nil] at whole
  exact whole

theorem reads_source_unlisted (name : Name) (alias? : Option Alias) :
    Reads parens Anything (Source.table name alias?).tokens [] :=
  .quiet (quiet_name name) (.aliased? alias?)

theorem clause_sources (sources : Keyword ["FROM"]) (last : Option Token) :
    tableClause? last sources.token = some .sources := by
  simp [tableClause?, Token.isKeyword, sources.spelled]

theorem clause_joined (join : Keyword ["JOIN"]) (last : Option Token) :
    tableClause? last join.token = some .joined := by
  have unlike : join.token.isWordOf ["FROM"] = false := join.isWordOf_apart (by decide)
  simp [tableClause?, Token.isKeyword, unlike, join.spelled]

theorem reads_joined_table (join : Keyword ["JOIN"]) (name : Name) (alias? : Option Alias)
    (uncalled : parens.head? ≠ some true) :
    Reads parens Stops (join.token :: (Source.table name alias?).tokens)
      [.source (tableRef name alias? parens.length)] := by
  intro last rest stops
  obtain ⟨reached, found⟩ :=
    tableAt?_table parens.length name alias? join.token stops
  refine ⟨some reached, ?_⟩
  rw [List.cons_append,
    mentionsFrom_clause (plain_keyword join) uncalled (clause_joined join last)]
  simp only [clauseAt, found]

theorem reads_joined_derived (join : Keyword ["JOIN"]) {query : Query} {named : Alias}
    {found : List Mention} (uncalled : parens.head? ≠ some true)
    (inside : Reads parens Anything (Source.derived query named).tokens found) :
    Reads parens Anything (join.token :: (Source.derived query named).tokens) found := by
  intro last rest _
  obtain ⟨reached, read⟩ := inside (some join.token) rest True.intro
  refine ⟨reached, ?_⟩
  rw [List.cons_append,
    mentionsFrom_clause (plain_keyword join) uncalled (clause_joined join last)]
  simp only [clauseAt, tableAt?_derived, List.nil_append]
  exact read

theorem Query.opens (query : Query) :
    ∃ token rest, query.tokens = token :: rest ∧ token.isWordOf ["SELECT", "WITH"] = true := by
  cases query with
  | plain body =>
      obtain ⟨opening, _, _, _, same⟩ := body.written
      exact ⟨opening.token, _, same, Token.isWordOf_mono (by decide) opening.spelled⟩
  | opened opening =>
      exact ⟨opening.token, _, rfl, Token.isWordOf_mono (by decide) opening.spelled⟩

/-- The parentheses around a query are never those of a call. -/
theorem reads_subquery {tokens : List Token} {found : List Mention}
    (opens : ∃ token rest, tokens = token :: rest ∧ token.isWordOf ["SELECT", "WITH"] = true)
    (inside : Reads (false :: parens) Ends tokens found) :
    Reads parens Anything (enclosed tokens) found := by
  obtain ⟨token, rest, rfl, spelled⟩ := opens
  refine .enclosed fun last after => ?_
  have uncalled : opensCall last (token :: rest ++ .punct ')' :: after) = false := by
    simp [opensCall, spelled]
  rw [uncalled]
  exact inside

theorem reads_enclosed_query {query : Query} {found : List Mention}
    (inside : Reads (false :: parens) Ends query.tokens found) :
    Reads parens Anything (enclosed query.tokens) found :=
  reads_subquery query.opens inside

theorem uncalled_query (parens : List Bool) : (false :: parens).head? ≠ some true := by simp

theorem ends_union {union : Keyword ["UNION"]} : Ends (union.token :: rest) :=
  .inr union.spelled

theorem Tail.stops (tail : Tail) (ends : Ends rest) : Stops (tail.tokens ++ rest) := by
  cases tail with
  | done => exact stops_of_ends ends
  | clauses word => exact stops_keyword word (by decide) (by decide)
  | comma => exact ⟨by simp, rfl, rfl⟩
  | join kinds join =>
      cases kinds with
      | nil => exact stops_keyword join (by decide) (by decide)
      | cons kind kinds => exact stops_keyword kind (by decide) (by decide)

/-- Tokens after a table of a list are read as these mentions: tables after commas
continue the list, and from the first token that does not, reading goes on as ever. -/
def Lists (parens : List Bool) (tokens : List Token) (found : List Mention) : Prop :=
  ∀ name alias? last rest, Ends rest →
    ∃ after,
      let place : Place := ⟨last, (Source.table name alias?).tokens ++ (tokens ++ rest)⟩
      let read := tablesAt parens.length place
      read.1.map Mention.source ++ mentionsFrom parens (some read.2.last) read.2.ahead =
        .source (tableRef name alias? parens.length) :: found ++ mentionsFrom parens after rest

section Lists

variable {tokens : List Token} {found : List Mention}

theorem lists_of_reads (reads : Reads parens Ends tokens found)
    (stops : ∀ rest, Ends rest → Stops (tokens ++ rest))
    (notComma : ∀ rest, Ends rest → (tokens ++ rest).head? ≠ some (.punct ',')) :
    Lists parens tokens found := by
  intro name alias? last rest ends
  obtain ⟨reached, table⟩ :=
    tableAt?_table parens.length name alias? last (stops rest ends)
  obtain ⟨after, read⟩ := reads (some reached) rest ends
  refine ⟨after, ?_⟩
  simp only [tablesAt_last table (notComma rest ends), read]
  rfl

theorem lists_comma_table (name : Name) (alias? : Option Alias)
    (lists : Lists parens tokens found) :
    Lists parens (.punct ',' :: (Source.table name alias?).tokens ++ tokens)
      (.source (tableRef name alias? parens.length) :: found) := by
  intro first firstAlias? last rest ends
  have stops : Stops (.punct ',' :: ((Source.table name alias?).tokens ++ (tokens ++ rest))) :=
    ⟨by simp, rfl, rfl⟩
  obtain ⟨reached, table⟩ := tableAt?_table parens.length first firstAlias? last stops
  obtain ⟨after, read⟩ := lists name alias? (.punct ',') rest ends
  refine ⟨after, ?_⟩
  simp only [List.cons_append, List.append_assoc, tablesAt_comma table, List.map_cons]
  exact congrArg _ read

theorem lists_comma_derived {query : Query} {named : Alias} {derived : List Mention}
    (inside : Reads parens Anything (Source.derived query named).tokens derived)
    (reads : Reads parens Ends tokens found) :
    Lists parens (.punct ',' :: (Source.derived query named).tokens ++ tokens)
      (derived ++ found) := by
  intro first firstAlias? last rest ends
  have stops : Stops (.punct ',' :: ((Source.derived query named).tokens ++ (tokens ++ rest))) :=
    ⟨by simp, rfl, rfl⟩
  obtain ⟨reached, table⟩ := tableAt?_table parens.length first firstAlias? last stops
  obtain ⟨after, read⟩ := (inside.before reads) (some (.punct ',')) rest ends
  refine ⟨after, ?_⟩
  rw [List.append_assoc] at read
  simp only [List.cons_append, List.append_assoc, tablesAt_comma table, List.map_cons,
    tablesAt_none (tableAt?_derived query named _), List.map_nil, List.nil_append, read]

end Lists

theorem reads_sources_table {tokens : List Token} {found : List Mention}
    (sources : Keyword ["FROM"]) (name : Name) (alias? : Option Alias)
    (uncalled : parens.head? ≠ some true) (lists : Lists parens tokens found) :
    Reads parens Ends (sources.token :: (Source.table name alias?).tokens ++ tokens)
      (.source (tableRef name alias? parens.length) :: found) := by
  intro last rest ends
  obtain ⟨after, read⟩ := lists name alias? sources.token rest ends
  refine ⟨after, ?_⟩
  rw [List.cons_append, List.cons_append,
    mentionsFrom_clause (plain_keyword sources) uncalled (clause_sources sources last)]
  simp only [List.append_assoc, clauseAt]
  exact read

theorem reads_sources_derived {query : Query} {named : Alias} {found : List Mention}
    (sources : Keyword ["FROM"]) (uncalled : parens.head? ≠ some true)
    (inside : Reads parens Anything (Source.derived query named).tokens found) :
    Reads parens Anything (sources.token :: (Source.derived query named).tokens) found := by
  intro last rest _
  obtain ⟨reached, read⟩ := inside (some sources.token) rest True.intro
  refine ⟨reached, ?_⟩
  rw [List.cons_append,
    mentionsFrom_clause (plain_keyword sources) uncalled (clause_sources sources last)]
  simp only [clauseAt, tablesAt_none (tableAt?_derived query named _), List.map_nil,
    List.nil_append]
  exact read

/-- The arguments of a call are read with no clause open to them. -/
theorem reads_call {tokens : List Token} {found : List Mention} (function : Name)
    (notQuery : ∀ token ∈ tokens.head?, token.isWordOf ["SELECT", "WITH"] = false)
    (inside : Reads (true :: parens) Ends tokens found) :
    Reads parens Anything (function.token :: enclosed tokens) found := by
  intro last rest _
  have called : opensCall (some function.token) (tokens ++ .punct ')' :: rest) = true := by
    cases tokens with
    | nil => simp [opensCall, function.names, Token.isWordOf]
    | cons token tokens => simp [opensCall, function.names, notQuery token rfl]
  obtain ⟨reached, read⟩ := inside (some (.punct '(')) (.punct ')' :: rest) (.inl rfl)
  refine ⟨some (.punct ')'), ?_⟩
  rw [List.cons_append, enclosed_append, mentionsFrom_quiet (quiet_name function),
    mentionsFrom_open, called, read, mentionsFrom_close, List.tail_cons]

/-- In a call, `FROM` separates arguments. -/
theorem reads_extract {unit : Token} {tokens : List Token} {found : List Mention}
    (function : Name) (admitted : Region.inside.admits unit = true)
    (separator : Keyword ["FROM"])
    (inside : Reads (true :: parens) Anything tokens found) :
    Reads parens Anything (function.token :: enclosed (unit :: separator.token :: tokens))
      found := by
  -- `FROM` stands directly between the parentheses of the call, where no clause opens.
  have arguments : Reads (true :: parens) Ends (unit :: separator.token :: tokens) found :=
    .called (plain_of_admits admitted) (.called (plain_keyword separator)
      (inside.weaken fun _ _ => True.intro))
  refine reads_call function (fun token head => ?_) arguments
  cases head
  exact isWordOf_of_admits (by decide) admitted

theorem reads_kinds (kinds : List (Keyword joinWords)) :
    Reads parens Anything (kinds.map Keyword.token) [] :=
  .quiets (List.forall_mem_map.mpr fun kind _ => quiet_keyword kind (by decide))

theorem notComma_of_ends (ends : Ends rest) : rest.head? ≠ some (.punct ',') := by
  cases rest with
  | nil => simp
  | cons token rest =>
      rcases ends with rfl | union
      · simp
      · rintro same
        cases Option.some.inj same
        cases union

mutual

theorem Query.reads (visible : List String) {parens : List Bool}
    (uncalled : parens.head? ≠ some true) : (query : Query) →
    Reads parens Ends query.tokens (mentioned (query.references visible parens.length))
  | .plain body => body.reads visible uncalled
  | .opened opening recursive? tables body => by
      rw [Query.tokens, Query.references, mentioned_append, List.append_assoc]
      have before : Reads parens Anything (optional recursive?) [] :=
        .optional recursive? (by decide)
      have after := (tables.reads recursive?.isSome visible uncalled).before
        (body.reads (tables.names ++ visible) uncalled)
      exact .quiet (quiet_keyword opening (by decide)) (before.before after)

theorem CommonTables.reads (recursive : Bool) (visible : List String) {parens : List Bool}
    (uncalled : parens.head? ≠ some true) : (tables : CommonTables) →
    Reads parens Anything tables.tokens
      (mentioned (tables.references recursive visible parens.length))
  | .one name introduced query => by
      have inside := reads_enclosed_query
        (query.reads (ownScope recursive name visible) (uncalled_query parens))
      exact .quiet (quiet_name name) (.quiet (quiet_keyword introduced (by decide)) inside)
  | .more name introduced query rest => by
      have inside := reads_enclosed_query
        (query.reads (ownScope recursive name visible) (uncalled_query parens))
      have further : Reads parens Anything (.punct ',' :: rest.tokens) _ :=
        .quiet (quiet_punct (by decide) (by decide))
          (rest.reads recursive (name.text :: visible) uncalled)
      rw [CommonTables.tokens, CommonTables.references, mentioned_append]
      exact .quiet (quiet_name name) (.quiet (quiet_keyword introduced (by decide))
        (inside.before further))

theorem Body.reads (visible : List String) {parens : List Bool}
    (uncalled : parens.head? ≠ some true) : (body : Body) →
    Reads parens Ends body.tokens (mentioned (body.references visible parens.length))
  | .one select => select.reads visible uncalled
  | .union select union quantifier? rest => by
      rw [Body.tokens, Body.references, mentioned_append, List.append_assoc]
      have before : Reads parens Anything (optional quantifier?) [] :=
        .optional quantifier? (by decide)
      refine (select.reads visible uncalled).append ?_ fun _ _ => ends_union
      exact .quiet (quiet_keyword union (by decide))
        (before.before (rest.reads visible uncalled))

theorem Select.reads (visible : List String) {parens : List Bool}
    (uncalled : parens.head? ≠ some true) : (select : Select) →
    Reads parens Ends select.tokens (mentioned (select.references visible parens.length))
  | .mk opening quantifier? items sources first tail => by
      have head : Reads parens Anything (opening.token :: optional quantifier?) [] :=
        .quiet (quiet_keyword opening (by decide))
          (.optional quantifier? (by decide))
      have listed : Reads parens Ends (sources.token :: first.tokens ++ tail.tokens)
          (mentioned (first.references visible parens.length true ++
            tail.references visible parens.length first.isTable)) := by
        cases first with
        | table name alias? =>
            exact reads_sources_table sources name alias? uncalled (tail.reads visible uncalled).2
        | derived query named =>
            have inside := reads_derived named
              (reads_enclosed_query (query.reads visible (uncalled_query parens)))
            rw [mentioned_append]
            exact (reads_sources_derived sources uncalled inside).before
              (tail.reads visible uncalled).1
      rw [Select.tokens, Select.references, List.append_assoc, List.append_assoc,
        List.append_assoc, mentioned_append]
      exact head.before ((items.reads visible).before listed)

theorem Items.reads (visible : List String) {parens : List Bool} : (items : Items) →
    Reads parens Anything items.tokens (mentioned (items.references visible parens.length))
  | .one item => item.reads visible
  | .more item rest => by
      rw [Items.tokens, Items.references, mentioned_append]
      exact (item.reads visible).before
        (.quiet (quiet_punct (by decide) (by decide)) (rest.reads visible))

theorem Item.reads (visible : List String) {parens : List Bool} : (item : Item) →
    Reads parens Anything item.tokens (mentioned (item.references visible parens.length))
  | .star => .quiet (quiet_punct (by decide) (by decide)) .nil
  | .qualifiedStar source =>
      .quiet (quiet_name source) (.quiet (quiet_punct (by decide) (by decide))
        (.quiet (quiet_punct (by decide) (by decide)) .nil))
  | .column name _ => .quiet (quiet_name name) .nil
  | .qualifiedColumn source name =>
      .quiet (quiet_name source) (.quiet (quiet_punct (by decide) (by decide))
        (.quiet (quiet_name name) .nil))
  | .aliased value introduced name => by
      have named : Reads parens Anything [introduced.token, name.token] [] :=
        .quiet (quiet_keyword introduced (by decide)) (.quiet (quiet_name name) .nil)
      have whole := (value.reads visible).before named
      rw [List.append_nil] at whole
      exact whole
  | .call function arguments => by
      have inside : Reads parens Anything (enclosed arguments.tokens)
          (mentioned (arguments.references visible (parens.length + 1))) :=
        .enclosed fun _ _ => (arguments.reads visible).weaken fun _ _ => True.intro
      exact .quiet (quiet_name function) inside
  | .constant => .quiet quiet_literal .nil
  | .operation value operator binary operand admitted => by
      have operated : Reads parens Anything [.punct operator, operand] [] :=
        .quiet (quiet_of_admits (admits_operator binary)) (.quiet (quiet_of_admits admitted) .nil)
      have whole := (value.reads visible).before operated
      rw [List.append_nil] at whole
      exact whole

theorem Source.reads (visible : List String) {parens : List Bool} : (source : Source) →
    Reads parens Anything source.tokens
      (mentioned (source.references visible parens.length false))
  | .table name alias? => reads_source_unlisted name alias?
  | .derived query named =>
      reads_derived named
        (reads_enclosed_query (query.reads visible (uncalled_query parens)))

/-- A tail is read after a source of any kind, or after a table of a list. -/
theorem Tail.reads (visible : List String) {parens : List Bool}
    (uncalled : parens.head? ≠ some true) : (tail : Tail) →
    Reads parens Ends tail.tokens (mentioned (tail.references visible parens.length false)) ∧
      Lists parens tail.tokens (mentioned (tail.references visible parens.length true))
  | .done => ⟨.nil, lists_of_reads .nil (fun _ => stops_of_ends) (fun _ => notComma_of_ends)⟩
  | .clauses word rest => by
      have read : Reads parens Ends (word.token :: rest.tokens) _ :=
        .quiet (quiet_keyword word (by decide))
          ((rest.reads visible).weaken fun _ _ => True.intro)
      exact ⟨read, lists_of_reads read (fun _ => (Tail.clauses word rest).stops)
        fun _ _ same => word.ne_punct ',' (Option.some.inj same)⟩
  | .comma source rest => by
      -- A comma goes on with a list only behind a table and before one: a derived table
      -- ends the list, and what follows it is read like any other tokens.
      obtain ⟨scanned, lists⟩ := rest.reads visible uncalled
      have sourced : Reads parens Anything source.tokens
          (mentioned (source.references visible parens.length false)) := source.reads visible
      rw [Tail.references, Tail.references, mentioned_append, mentioned_append]
      refine ⟨.quiet (quiet_punct (by decide) (by decide)) (sourced.before scanned), ?_⟩
      cases source with
      | table name alias? => exact lists_comma_table name alias? lists
      | derived query named => exact lists_comma_derived sourced scanned
  | .join kinds join source on condition rest => by
      -- After `JOIN` one table is read, even behind a list that has ended.
      have joined : Reads parens Stops (join.token :: source.tokens)
          (mentioned (source.references visible parens.length true)) := by
        cases source with
        | table name alias? => exact reads_joined_table join name alias? uncalled
        | derived query named =>
            exact (reads_joined_derived join uncalled
              ((Source.derived query named).reads visible)).weaken fun _ _ => True.intro
      have conditioned : Reads parens Anything (on.token :: condition.tokens) _ :=
        .quiet (quiet_keyword on (by decide)) (condition.reads visible)
      have after := conditioned.before (rest.reads visible uncalled).1
      have read := (reads_kinds kinds).before
        (joined.append after fun _ _ => stops_keyword on (by decide) (by decide))
      simp only [List.nil_append, ← mentioned_append, ← List.append_assoc] at read
      refine ⟨read, lists_of_reads read
        (fun _ => (Tail.join kinds join source on condition rest).stops) fun _ _ => ?_⟩
      cases kinds with
      | nil => exact fun same => join.ne_punct ',' (Option.some.inj same)
      | cons kind kinds => exact fun same => kind.ne_punct ',' (Option.some.inj same)

theorem Expr.reads {region : Region} (visible : List String) {parens : List Bool} :
    (expr : Expr region) →
    Reads parens Anything expr.tokens (mentioned (expr.references visible parens.length))
  | .done => .nil
  | .token token admitted rest => .quiet (quiet_of_admits admitted) (rest.reads visible)
  | .group inner rest => by
      have inside : Reads parens Anything (enclosed inner.tokens)
          (mentioned (inner.references visible (parens.length + 1))) :=
        .enclosed fun _ _ => (inner.reads visible).weaken fun _ _ => True.intro
      rw [Expr.tokens, Expr.references, mentioned_append]
      exact inside.before (rest.reads visible)
  | .extract function unit admitted separator operand rest => by
      rw [Expr.tokens, Expr.references, mentioned_append]
      exact (reads_extract function admitted separator (operand.reads visible)).before
        (rest.reads visible)
  | .subquery query rest => by
      rw [Expr.tokens, Expr.references, mentioned_append]
      exact (reads_enclosed_query
        (query.reads visible (uncalled_query parens))).before (rest.reads visible)

end

/-- The mentions of a query are its listed references, in the order of the text. -/
theorem mentions_tokens (query : Query) :
    mentions query.tokens = mentioned (query.references [] 0) := by
  have uncalled : ([] : List Bool).head? ≠ some true := by simp
  exact (query.reads [] uncalled).to_end True.intro none

end CheckedSql.Grammar

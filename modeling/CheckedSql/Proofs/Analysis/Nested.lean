import CheckedSql.Proofs.Analysis.Columns
import CheckedSql.Proofs.Analysis.Operand
import CheckedSql.Proofs.Sql.Spelling

namespace CheckedSql

open Sql Text Analysis Grammar

namespace Nested

inductive Item where
  | star
  | value (operand : Operand) (alias? : Option Alias)

/-- A table in a list after `FROM`. -/
structure Listed where
  name : Name
  alias? : Option Alias

/-- A query up to its predicate. -/
structure Listing where
  opening : Keyword ["SELECT"]
  item : Item
  items : List Item
  sources : Keyword ["FROM"]
  first : Listed
  others : List Listed

mutual

inductive Query where
  | whole (listing : Listing)
  | filtered (listing : Listing) (word : Keyword ["WHERE"]) (predicate : Predicate)

inductive Predicate where
  | compared (left : Operand) (operator : Operator) (right : Operand)
  | within (value : Operand) (word : Keyword ["IN"])
  | among (value : Operand) (word : Keyword ["IN"]) (query : Query)
  | exist (word : Keyword ["EXISTS"]) (query : Query)
  | quantified (value : Operand) (operator : Operator)
      (quantifier : Keyword ["ANY", "SOME", "ALL"]) (query : Query)
  | group (inner : Predicate)
  | negated (word : Keyword ["NOT"]) (inner : Predicate)
  | joined (left : Predicate) (word : Keyword ["AND", "OR"]) (right : Predicate)

end

def Item.tokens : Item → List Token
  | .star => [.punct '*']
  | .value operand alias? => operand.tokens ++ (alias?.map Alias.tokens).getD []

def Listed.tokens (listed : Listed) : List Token :=
  (Grammar.Source.table listed.name listed.alias?).tokens

def Listing.tokens (listing : Listing) : List Token :=
  listing.opening.token :: (listing.item.tokens ++ (further Item.tokens listing.items ++
    listing.sources.token :: listing.first.tokens ++ further Listed.tokens listing.others))

mutual

def Query.tokens : Query → List Token
  | .whole listing => listing.tokens
  | .filtered listing word predicate => listing.tokens ++ word.token :: predicate.tokens

def Predicate.tokens : Predicate → List Token
  | .compared left operator right => left.tokens ++ (operator.tokens ++ right.tokens)
  | .within value word => value.tokens ++ word.token :: enclosed [.literal]
  | .among value word query => value.tokens ++ word.token :: enclosed query.tokens
  | .exist word query => word.token :: enclosed query.tokens
  | .quantified value operator quantifier query =>
      value.tokens ++ (operator.tokens ++ quantifier.token :: enclosed query.tokens)
  | .group inner => enclosed inner.tokens
  | .negated word inner => word.token :: inner.tokens
  | .joined left word right => left.tokens ++ word.token :: right.tokens

end

def Listed.ref (depth : Nat) (listed : Listed) : TableRef :=
  tableRef listed.name listed.alias? depth

def Listing.refs (depth : Nat) (listing : Listing) : List TableRef :=
  (listing.first :: listing.others).map (Listed.ref depth)

mutual

/-- The tables of a query and of all queries in it, in the order of the text. -/
def Query.refs (depth : Nat) : Query → List TableRef
  | .whole listing => listing.refs depth
  | .filtered listing _ predicate => listing.refs depth ++ predicate.refs depth

def Predicate.refs (depth : Nat) : Predicate → List TableRef
  | .compared _ _ _ | .within _ _ => []
  | .among _ _ query | .exist _ query | .quantified _ _ _ query => query.refs (depth + 1)
  | .group inner => inner.refs (depth + 1)
  | .negated _ inner => inner.refs depth
  | .joined left _ right => left.refs depth ++ right.refs depth

end

section Reading

variable {parens : List Bool} {tokens : List Token} {found : List Mention}

theorem Item.reads (item : Item) : Reads parens Anything item.tokens [] := by
  cases item with
  | star => exact .quiet (quiet_punct (by decide) (by decide)) .nil
  | value operand alias? => exact operand.reads.before (.aliased? alias?)

theorem lists_listed (others : List Listed) (lists : Lists parens tokens found) :
    Lists parens (further Listed.tokens others ++ tokens)
      ((others.map (Listed.ref parens.length)).map .source ++ found) := by
  induction others with
  | nil => exact lists
  | cons listed others ih =>
      have before := lists_comma_table listed.name listed.alias? ih
      rw [further, List.flatMap_cons, List.append_assoc]
      exact before

/-- A query is read up to its predicate, and its tables with what follows them. -/
theorem Listing.reads (listing : Listing) (uncalled : parens.head? ≠ some true)
    (lists : Lists parens tokens found) :
    Reads parens Ends (listing.tokens ++ tokens)
      ((listing.refs parens.length).map .source ++ found) := by
  have sources := reads_sources_table listing.sources listing.first.name listing.first.alias?
    uncalled (lists_listed listing.others lists)
  have items : Reads parens Ends _ _ :=
    listing.item.reads.before ((reads_further Item.reads listing.items).before sources)
  have whole := Reads.quiet (quiet_keyword listing.opening (by decide +kernel)) items
  simpa [Listing.tokens, Listing.refs, Listed.tokens, Listed.ref] using whole

theorem Query.opens (query : Query) :
    ∃ token rest, query.tokens = token :: rest ∧ token.isWordOf ["SELECT"] = true := by
  cases query with
  | whole listing => exact ⟨_, _, rfl, listing.opening.spelled⟩
  | filtered listing word predicate => exact ⟨_, _, rfl, listing.opening.spelled⟩

/-- A query in parentheses is read, whatever word stands before it. -/
theorem reads_nested {query : Query}
    (inside : Reads (false :: parens) Ends query.tokens found) :
    Reads parens Anything (enclosed query.tokens) found := by
  obtain ⟨token, rest, same, spelled⟩ := query.opens
  exact reads_subquery ⟨token, rest, same, Token.isWordOf_mono (by decide) spelled⟩ inside

mutual

theorem Query.reads {parens : List Bool} (uncalled : parens.head? ≠ some true) :
    (query : Query) →
    Reads parens Ends query.tokens ((query.refs parens.length).map .source)
  | .whole listing => by
      have ends : Lists parens [] [] :=
        lists_of_reads .nil (fun _ => stops_of_ends) (fun _ => notComma_of_ends)
      have whole := listing.reads uncalled ends
      rwa [List.append_nil, List.append_nil] at whole
  | .filtered listing word predicate => by
      have conditioned : Reads parens Ends (word.token :: predicate.tokens) _ :=
        .quiet (quiet_keyword word (by decide +kernel))
          (predicate.reads.weaken fun _ _ => True.intro)
      have ends := lists_of_reads conditioned
        (fun _ _ => stops_keyword word (by decide +kernel) (by decide +kernel))
        (fun _ _ same => word.ne_punct ',' (Option.some.inj same))
      rw [Query.refs, List.map_append]
      exact listing.reads uncalled ends

/-- A predicate is read alike in parentheses of any kind. -/
theorem Predicate.reads {parens : List Bool} :
    (predicate : Predicate) →
    Reads parens Anything predicate.tokens ((predicate.refs parens.length).map .source)
  | .compared left operator right =>
      left.reads.before ((reads_parts operator.admitted).before right.reads)
  | .within value word =>
      value.reads.before (.quiet (quiet_keyword word (by decide +kernel))
        (.enclosed fun _ _ => .quiet quiet_literal .nil))
  | .among value word query =>
      value.reads.before (.quiet (quiet_keyword word (by decide +kernel))
        (reads_nested (query.reads (uncalled_query parens))))
  | .exist word query =>
      .quiet (quiet_keyword word (by decide +kernel))
        (reads_nested (query.reads (uncalled_query parens)))
  | .quantified value operator quantifier query =>
      value.reads.before ((reads_parts operator.admitted).before
        (.quiet (quiet_keyword quantifier (by decide +kernel))
          (reads_nested (query.reads (uncalled_query parens)))))
  | .group inner => .enclosed fun _ _ => inner.reads.weaken fun _ _ => True.intro
  | .negated word inner => .quiet (quiet_keyword word (by decide +kernel)) inner.reads
  | .joined left word right => by
      rw [Predicate.refs, List.map_append]
      exact left.reads.before (.quiet (quiet_keyword word (by decide +kernel)) right.reads)

end

/-- The mentions of a query are its tables and those of the queries in it. -/
theorem mentions_tokens (query : Query) :
    mentions query.tokens = (query.refs 0).map .source := by
  have uncalled : ([] : List Bool).head? ≠ some true := by simp
  exact (query.reads uncalled).to_end True.intro none

theorem commonTables_tokens (query : Query) : commonTables query.tokens = [] := by
  obtain ⟨token, rest, same, spelled⟩ := query.opens
  have unlike : token.isWordOf ["WITH"] = false := Token.isWordOf_apart (by decide +kernel) spelled
  rw [same, commonTables]
  exact if_neg (by simp [Token.isKeyword, unlike])

end Reading

end Nested

namespace Analysis

variable {schema : Schema} {common : List String} {refs : List TableRef} {sources : List Source}

/-- Some reference is unknown exactly if resolving all fails, for an unknown table. -/
theorem unknownTable_iff :
    (∃ name, refs.mapM (resolveSource schema []) = .error (.unknownTable name)) ↔
      ∃ ref ∈ refs, schema.table? ref.name = none := by
  have each : ∀ ref ∈ refs, FailsOnly (fun fault => ∃ name, fault = .unknownTable name)
      (resolveSource schema [] ref) :=
    fun ref _ fault unresolved => ⟨ref.name, (resolveSource_eq_error_iff.mp unresolved).2.2⟩
  have fails := FailsOnly.mapM_fails_iff each
  have unmasked : ∀ name, isOneOf [] name = false := fun _ => rfl
  simp only [resolveSource_eq_error_iff, unmasked, true_and, exists_and_left, exists_eq,
    and_true] at fails
  rw [← fails]
  exact ⟨fun ⟨name, failed⟩ => ⟨_, failed, name, rfl⟩, fun ⟨_, failed, name, same⟩ =>
    ⟨name, same ▸ failed⟩⟩

end Analysis

namespace Nested

variable {schema : Schema} {text : String} {query : Query}

theorem refs_of_mentions (refs : List TableRef) :
    (refs.map Mention.source).filterMap Mention.ref? = refs ∧
      (refs.map Mention.source).filterMap Mention.target? = [] := by
  induction refs with
  | nil => exact ⟨rfl, rfl⟩
  | cons ref refs ih => exact ⟨congrArg (ref :: ·) ih.1, ih.2⟩

/-- Only the resolving of its tables fails a query for an unknown table. -/
theorem unknownTable_of_query {name : String} :
    Analysis.ofTokens schema .read query.tokens = .error (.unknownTable name) ↔
      (query.refs 0).mapM (resolveSource schema []) = .error (.unknownTable name) := by
  rw [Analysis.ofTokens, mentions_tokens, commonTables_tokens, (refs_of_mentions _).1,
    (refs_of_mentions _).2, bind_eq_error_iff]
  refine or_iff_left ?_
  rintro ⟨sources, _, failed⟩
  rcases bind_eq_error_iff.mp failed with checked | ⟨_, _, failed⟩
  · cases checked
  · dsimp only at failed
    split at failed
    · rcases bind_eq_error_iff.mp failed with read | ⟨_, _, done⟩
      · obtain ⟨column, tables, same⟩ := header_unknownColumn _ read
        cases same
      · cases done
    · cases failed

/-- An analysis of a nested query fails for an unknown table exactly if the schema has no
table of some name in its lists or in those of the queries in it; and if it does not
fail, its tables are those of these names. -/
theorem tables_of_nested (distinct : schema.Distinct) (spells : Spells text query.tokens) :
    ((∃ name, Analysis.ofText schema .read text = .error (.unknownTable name)) ↔
        ∃ ref ∈ query.refs 0, ∀ table ∈ schema.names, ¬ SameName table ref.name) ∧
      ∀ analysis, Analysis.ofText schema .read text = .ok analysis →
        ∀ table, table ∈ analysis.tables ↔
          table ∈ schema.names ∧ ∃ ref ∈ query.refs 0, SameName table ref.name := by
  rw [Analysis.ofText_written (ofText_of_spells spells)]
  constructor
  · simp only [unknownTable_of_query, Analysis.unknownTable_iff, Schema.table?_eq_none_iff]
  · intro analysis analyzed table
    obtain ⟨sources, resolved, tables⟩ := Analysis.tables_of_analysis analyzed
    rw [mentions_tokens, commonTables_tokens, (refs_of_mentions _).1] at resolved
    rw [tables, NameSet.mem_ofList, Analysis.mem_tables_iff resolved]
    simp only [Analysis.resolveTable_eq_some_iff, Schema.table?_eq_some_iff distinct]
    constructor
    · rintro ⟨ref, member, _, known, same⟩
      exact ⟨known, ref, member, same⟩
    · rintro ⟨known, ref, member, same⟩
      exact ⟨ref, member, rfl, known, same⟩

/-- Three queries in one another, with a call that has `FROM` among its arguments. -/
theorem tables_of_nested_thrice :
    let column (name : String) : Operand := .column (.bare (.of name))
    let query (item : Item) (table : String) (predicate : Predicate) : Query :=
      .filtered ⟨.of "SELECT", item, [], .of "FROM", ⟨.of table, none⟩, []⟩ (.of "WHERE") predicate
    let equal : Operator := ⟨[.punct '='], by decide, by decide⟩
    let negative : Operand := .literal [.punct '-', .literal] (by decide) (by decide +kernel)
    let innermost := query .star "Label" (.compared (column "id") equal negative)
    let inner := query (.value (column "id") none) "album" (.exist (.of "EXISTS") innermost)
    let extract : Operand :=
      .call (.of "YEAR") (.one (.extract (column "DAY") (.of "FROM") (column "born")))
    let any : Keyword ["ANY", "SOME", "ALL"] := ⟨.word "ANY", by decide +kernel⟩
    let or : Keyword ["AND", "OR"] := ⟨.word "OR", by decide +kernel⟩
    let outermost := query (.value extract none) "song" (.negated (.of "NOT") (.group
      (.joined (.within (column "id") (.of "IN")) or (.quantified (column "id") equal any inner))))
    let text := "SELECT YEAR ( DAY FROM born ) FROM song WHERE NOT ( id IN ( ? ) OR " ++
      "id = ANY ( SELECT id FROM album WHERE EXISTS ( SELECT * FROM Label WHERE id = - ? ) ) ) "
    let known := Schema.ofTables
      [⟨"album", ["id"]⟩, ⟨"day", ["id"]⟩, ⟨"label", ["id"]⟩, ⟨"song", ["id", "born"]⟩]
    let lacking := Schema.ofTables [⟨"album", ["id"]⟩, ⟨"born", ["id"]⟩, ⟨"song", ["id"]⟩]
    Spells text outermost.tokens ∧ known.Distinct ∧ lacking.Distinct ∧
      (∃ analysis, Analysis.ofText known .read text = .ok analysis ∧
        "label" ∈ analysis.tables ∧ "day" ∉ analysis.tables) ∧
      ∃ name, Analysis.ofText lacking .read text = .error (.unknownTable name) := by
  intro column query equal negative innermost inner extract any or outermost text known lacking
  have each : ∀ token ∈ outermost.tokens, (Lexeme.ofToken token).Legal ∧
      (Lexeme.ofToken token).token? = some token := by decide +kernel
  have spells : Spells text outermost.tokens := by
    have same : String.ofList ((spaced outermost.tokens).flatMap Lexeme.text) = text := by
      decide +kernel
    rw [← same]
    exact spells_spaced each
  have distinct : known.Distinct ∧ lacking.Distinct := by decide +kernel
  have computed : (Analysis.ofText known .read text).map (fun analysis => analysis.tables.names) =
      .ok ["album", "label", "song"] := by
    rw [Analysis.ofText_written (ofText_of_spells spells)]
    decide +kernel
  obtain ⟨analysis, analyzed, _⟩ := map_eq_ok_iff.mp computed
  have tables := (tables_of_nested distinct.1 spells).2 analysis analyzed
  refine ⟨spells, distinct.1, distinct.2, ⟨analysis, analyzed, ?_, ?_⟩, ?_⟩
  · exact (tables "label").mpr (by decide +kernel)
  · exact mt (tables "day").mp (by decide +kernel)
  · exact (tables_of_nested distinct.2 spells).1.mpr (by decide +kernel)

end Nested

end CheckedSql

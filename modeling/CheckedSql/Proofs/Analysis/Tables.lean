import Mathlib.Data.List.Pairwise
import CheckedSql.Analysis.Statement
import CheckedSql.Proofs.Analysis.Outermost
import CheckedSql.Proofs.Analysis.Reading
import CheckedSql.Proofs.Except

namespace CheckedSql

open Sql Text Analysis Grammar

namespace Schema

variable {schema : Schema} {name table : String}

/-- No two tables have the same name ignoring case. -/
def Distinct (schema : Schema) : Prop :=
  schema.names.Pairwise fun first second => ¬ SameName first second

instance (schema : Schema) : Decidable schema.Distinct :=
  inferInstanceAs (Decidable (schema.names.Pairwise fun first second => ¬ SameName first second))

theorem exists_table? (member : table ∈ schema.names) (same : SameName table name) :
    ∃ found, schema.table? name = some found :=
  Option.isSome_iff_exists.mp (List.find?_isSome.mpr ⟨table, member, decide_eq_true same⟩)

theorem table?_eq_some_iff (distinct : schema.Distinct) :
    schema.table? name = some table ↔ table ∈ schema.names ∧ SameName table name := by
  have symmetric : Std.Symm fun first second => ¬ SameName first second :=
    ⟨fun _ _ different same => different same.symm⟩
  refine ⟨mem_names_of_table?, fun ⟨member, same⟩ => ?_⟩
  obtain ⟨other, found⟩ := exists_table? member same
  obtain ⟨known, alike⟩ := mem_names_of_table? found
  rw [found]
  by_contra different
  exact distinct.forall known member (fun equal => different (congrArg some equal))
    (alike.trans same.symm)

theorem table?_congr {alike : String} (same : SameName name alike) :
    schema.table? name = schema.table? alike := by
  have each : ∀ known, SameName known name ↔ SameName known alike :=
    fun known => ⟨fun first => first.trans same, fun second => second.trans same.symm⟩
  simp only [Schema.table?, each]

theorem table?_eq_none_iff :
    schema.table? name = none ↔ ∀ table ∈ schema.names, ¬ SameName table name := by
  simp [table?]

end Schema

namespace Analysis

variable {schema : Schema} {common : List String} {refs : List TableRef} {sources : List Source}
  {kind : StatementKind} {tokens : List Token} {analysis : Analysis}

theorem resolveTable_eq_some_iff {name table : String} :
    resolveTable schema common name = .ok (some table) ↔
      isOneOf common name = false ∧ schema.table? name = some table := by
  unfold resolveTable
  split
  · rename_i masked
    simp [masked]
  · rename_i unmasked
    have unmasked := Bool.eq_false_iff.mpr unmasked
    cases found : schema.table? name with
    | none => simp
    | some other => simp [unmasked]

theorem resolveSource_eq_ok_iff {ref : TableRef} {source : Source} :
    resolveSource schema common ref = .ok source ↔
      source.ref = ref ∧ resolveTable schema common ref.name = .ok source.table := by
  rw [resolveSource, map_eq_ok_iff]
  constructor
  · rintro ⟨table, resolved, rfl⟩
    exact ⟨rfl, resolved⟩
  · rintro ⟨rfl, resolved⟩
    exact ⟨source.table, resolved, rfl⟩

theorem resolveSource_eq_error_iff {ref : TableRef} {fault : Fault} :
    resolveSource schema common ref = .error fault ↔
      isOneOf common ref.name = false ∧ schema.table? ref.name = none ∧
        fault = .unknownTable ref.name := by
  rw [resolveSource, map_eq_error_iff, resolveTable]
  cases isOneOf common ref.name <;> cases schema.table? ref.name <;> simp [eq_comm]

theorem mem_tables_iff (resolved : refs.mapM (resolveSource schema common) = .ok sources)
    {table : String} :
    table ∈ sources.filterMap Source.table ↔
      ∃ ref ∈ refs, resolveTable schema common ref.name = .ok (some table) := by
  have each := forall₂_of_mapM resolved
  clear resolved
  induction each with
  | nil => simp
  | @cons ref source refs sources here _ ih =>
      obtain ⟨_, tabled⟩ := resolveSource_eq_ok_iff.mp here
      rw [List.mem_filterMap] at ih ⊢
      simp only [List.exists_mem_cons_iff, ih, tabled, Except.ok.injEq]

theorem hasColumn_eq_true_iff {column table : String} :
    hasColumn schema column table = true ↔
      ∃ known ∈ schema.columns table, SameName known column := by
  rw [hasColumn, List.any_eq_true]
  simp only [decide_eq_true_eq]

theorem checkColumn_eq_ok_iff {tables : List String} {column : String} :
    checkColumn schema tables column = .ok () ↔
      ∃ table ∈ tables, ∃ known ∈ schema.columns table, SameName known column := by
  simp only [← hasColumn_eq_true_iff]
  rw [← List.any_eq_true, checkColumn]
  cases tables.any (hasColumn schema column) <;> simp

theorem checkColumn_eq_error_iff {tables : List String} {column : String} {fault : Fault} :
    checkColumn schema tables column = .error fault ↔
      fault = .unknownColumn column tables ∧
        ∀ table ∈ tables, ∀ known ∈ schema.columns table, ¬ SameName known column := by
  have passed : (∀ table ∈ tables, ∀ known ∈ schema.columns table, ¬ SameName known column) ↔
      ¬ checkColumn schema tables column = .ok () := by
    rw [checkColumn_eq_ok_iff]
    simp only [not_exists, not_and]
  rw [passed, checkColumn]
  cases tables.any (hasColumn schema column) <;> simp [eq_comm]

theorem checkTarget_eq_bind (schema : Schema) (common : List String) (target : String × String) :
    checkTarget schema common target =
      resolveTable schema common target.1 >>= fun table =>
        table.elim (.ok ()) fun table => checkColumn schema [table] target.2 := by
  rw [checkTarget]
  cases resolveTable schema common target.1 with
  | error fault => rfl
  | ok table => cases table <;> rfl

theorem known_of_knownTables? {tables : List String} (known : knownTables? sources = some tables) :
    List.Forall₂ (fun source table => source.table = some table) sources tables := by
  unfold knownTables? at known
  split at known
  · rename_i found
    cases known
    exact mapM_eq_some_iff.mp found
  · cases known

theorem ofText_written {text : String} (written : Token.ofText text = .ok tokens) :
    Analysis.ofText schema kind text = ofTokens schema kind tokens := by
  rw [Analysis.ofText, written]
  rfl

/-- The header of a statement, found against its sources: only what reads has one. -/
def statementHeader (schema : Schema) (kind : StatementKind) (sources : List Source)
    (tokens : List Token) : Except Fault (Option (List String)) :=
  match kind.isRead, selectItems? tokens with
  | true, some items => header schema (outermost sources) items
  | _, _ => .ok none

/-- An analysis resolves the references, checks the written columns and finds the header. -/
theorem ofTokens_eq_bind (schema : Schema) (kind : StatementKind) (tokens : List Token) :
    ofTokens schema kind tokens =
      ((mentions tokens).filterMap Mention.ref?).mapM (resolveSource schema (commonTables tokens)) >>=
        fun sources =>
          ((mentions tokens).filterMap Mention.target?).forM
            (checkTarget schema (commonTables tokens)) >>= fun _ =>
              (statementHeader schema kind sources tokens).map fun columns =>
                ⟨NameSet.ofList (sources.filterMap Source.table), columns⟩ := by
  rw [ofTokens]
  refine congrArg _ (funext fun sources => congrArg _ (funext fun _ => ?_))
  rw [statementHeader]
  cases kind.isRead with
  | false => rfl
  | true =>
      cases selectItems? tokens with
      | none => rfl
      | some items =>
          exact bind_pure_comp
            (fun columns => (⟨NameSet.ofList (sources.filterMap Source.table), columns⟩ : Analysis))
            (header schema (outermost sources) items)

/-- The tables of an analysis are those of its sources. -/
theorem tables_of_analysis (analyzed : ofTokens schema kind tokens = .ok analysis) :
    ∃ sources,
      ((mentions tokens).filterMap Mention.ref?).mapM
        (resolveSource schema (commonTables tokens)) = .ok sources ∧
      analysis.tables = NameSet.ofList (sources.filterMap Source.table) := by
  rw [ofTokens_eq_bind] at analyzed
  obtain ⟨sources, resolved, further⟩ := bind_eq_ok_iff.mp analyzed
  obtain ⟨_, _, further⟩ := bind_eq_ok_iff.mp further
  obtain ⟨columns, _, rfl⟩ := map_eq_ok_iff.mp further
  exact ⟨sources, resolved, rfl⟩

/-- The references among the mentions of a query are the listed ones. -/
theorem filterMap_mentioned (references : List Reference) :
    (mentioned references).filterMap Mention.ref? =
      (references.filter Reference.listed).map Reference.ref := by
  rw [mentioned, List.filterMap_map]
  exact congrFun (List.filterMap_eq_map (f := Reference.ref)) _

end Analysis

namespace Grammar.Reference

variable {schema : Schema} {reference : Reference} {table : String}

/-- The schema table that a reference reads, by the scope of SQL. -/
def reads? (schema : Schema) (reference : Reference) : Option String :=
  if isOneOf reference.visible reference.ref.name then none
  else schema.table? reference.ref.name

/-- Whether the analysis takes a reference for this schema table. -/
structure TakenFor (schema : Schema) (query : Query) (reference : Reference)
    (table : String) : Prop where
  listed : reference.listed = true
  unmasked : isOneOf query.commonNames reference.ref.name = false
  known : schema.table? reference.ref.name = some table

theorem table?_of_reads? (reads : reference.reads? schema = some table) :
    schema.table? reference.ref.name = some table := by
  unfold reads? at reads
  split at reads
  · cases reads
  · exact reads

end Grammar.Reference

variable {schema : Schema} {kind : StatementKind} {text : String} {query : Query}
  {analysis : Analysis}

/-- The tables of an analysis are those that the listed references of the query name,
but for the names of its own common tables; and these are all tables that are read,
except through references that are not listed or bear such a name. -/
theorem tables_of_query (written : Token.ofText text = .ok query.tokens)
    (analyzed : Analysis.ofText schema kind text = .ok analysis) :
    (∀ table, table ∈ analysis.tables ↔
      ∃ reference ∈ query.references [] 0, reference.TakenFor schema query table) ∧
    ∀ reference ∈ query.references [] 0, ∀ table, reference.reads? schema = some table →
      table ∈ analysis.tables ∨ reference.listed = false ∨
        isOneOf query.commonNames reference.ref.name = true := by
  rw [Analysis.ofText_written written] at analyzed
  obtain ⟨sources, resolved, tables⟩ := Analysis.tables_of_analysis analyzed
  rw [mentions_tokens, commonTables_tokens, Analysis.filterMap_mentioned] at resolved
  have exact : ∀ table, table ∈ analysis.tables ↔
      ∃ reference ∈ query.references [] 0, reference.TakenFor schema query table := by
    intro table
    rw [tables, NameSet.mem_ofList, Analysis.mem_tables_iff resolved]
    constructor
    · rintro ⟨ref, member, found⟩
      obtain ⟨reference, listed, rfl⟩ := List.mem_map.mp member
      obtain ⟨present, listed⟩ := List.mem_filter.mp listed
      obtain ⟨unmasked, known⟩ := Analysis.resolveTable_eq_some_iff.mp found
      exact ⟨reference, present, listed, unmasked, known⟩
    · rintro ⟨reference, present, taken⟩
      exact ⟨reference.ref, List.mem_map_of_mem (List.mem_filter.mpr ⟨present, taken.listed⟩),
        Analysis.resolveTable_eq_some_iff.mpr ⟨taken.unmasked, taken.known⟩⟩
  refine ⟨exact, fun reference present table reads => ?_⟩
  have known := Reference.table?_of_reads? reads
  cases listed : reference.listed with
  | false => exact .inr (.inl rfl)
  | true =>
      cases masked : isOneOf query.commonNames reference.ref.name with
      | true => exact .inr (.inr rfl)
      | false => exact .inl ((exact table).mpr ⟨reference, present, listed, masked, known⟩)

/-- A common table, a list of tables and a derived table after `JOIN`. -/
theorem tables_of_query_joined :
    let schema := Schema.ofTables [⟨"album", ["id"]⟩, ⟨"song", ["id"]⟩, ⟨"year", ["id"]⟩]
    let read (source : Grammar.Source) (tail : Tail) : Body := .select (.one .constant) source tail
    let query : Query := .opened (.of "WITH") none
      (.one (.of "old") (.of "AS") (.plain (read (.of "song") .done)))
      (read (.of "old") (.comma (.table (.of "album") (some (.of "a"))) (.join [] (.of "JOIN")
        (.derived (.plain (read (.of "year") .done)) (.of "y")) (.of "ON")
        (.token .literal (by decide) .done) .done)))
    let text := "WITH old AS (SELECT 1 FROM song) " ++
      "SELECT 1 FROM old, album AS a JOIN (SELECT 1 FROM year) AS y ON 1"
    ∃ analysis, Analysis.ofText schema .read text = .ok analysis ∧
      (∀ table, table ∈ analysis.tables ↔
        ∃ reference ∈ query.references [] 0, reference.TakenFor schema query table) ∧
      ∀ reference ∈ query.references [] 0, ∀ table, reference.reads? schema = some table →
        table ∈ analysis.tables ∨ reference.listed = false ∨
          isOneOf query.commonNames reference.ref.name = true := by
  intro schema read query text
  have written : Token.ofText text = .ok query.tokens := by decide +kernel
  have computed : (Analysis.ofText schema .read text).map (fun analysis => analysis.tables.names) =
      .ok ["album", "song", "year"] := by
    rw [Analysis.ofText_written written]
    decide +kernel
  obtain ⟨analysis, analyzed, _⟩ := map_eq_ok_iff.mp computed
  exact ⟨analysis, analyzed, tables_of_query written analyzed⟩

/-- A table after a comma behind a derived table, and one read inside the common table
of its name: both are read, and neither is found. -/
theorem table_missed :
    let schema := Schema.ofTables [⟨"album", ["id"]⟩, ⟨"song", ["name"]⟩]
    let read (source : Grammar.Source) (tail : Tail) : Body := .select (.one .constant) source tail
    let behind : Query := .plain (read
      (.derived (.plain (read (.of "album") .done)) (.of "a")) (.comma (.of "song") .done))
    let shadowed : Query := .opened (.of "WITH") none
      (.one (.of "song") (.of "AS") (.plain (read (.of "song") .done))) (read (.of "song") .done)
    let behindText := "SELECT 1 FROM (SELECT 1 FROM album) AS a, song"
    let shadowedText := "WITH song AS (SELECT 1 FROM song) SELECT 1 FROM song"
    let tables (text : String) :=
      (Analysis.ofText schema .read text).map fun analysis => analysis.tables.names
    (Token.ofText behindText = .ok behind.tokens ∧ tables behindText = .ok ["album"] ∧
      ∃ reference ∈ behind.references [] 0, reference.reads? schema = some "song") ∧
    Token.ofText shadowedText = .ok shadowed.tokens ∧ tables shadowedText = .ok [] ∧
      ∃ reference ∈ shadowed.references [] 0, reference.reads? schema = some "song" := by
  intro schema read behind shadowed behindText shadowedText tables
  decide +kernel

end CheckedSql

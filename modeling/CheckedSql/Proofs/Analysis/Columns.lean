import CheckedSql.Proofs.Analysis.Headers
import CheckedSql.Proofs.Analysis.Tables

namespace CheckedSql

open Sql Text Analysis Grammar

namespace Grammar

variable {schema : Schema} {query : Query} {source : Source × Bool}
  {ref : TableRef} {table : String}

/-- A name that is no common table's has the columns of its schema table. -/
theorem columnsOf?_unmasked (unmasked : isOneOf query.commonNames table = false) :
    columnsOf? schema (query.scope schema) table = (schema.table? table).map schema.columns := by
  have none : (query.scope schema).find? (fun entry => decide (SameName entry.1 table)) = none := by
    refine List.find?_eq_none.mpr fun entry member same => ?_
    have named := isOneOf_iff.mpr ⟨entry.1, mem_commonNames_of_scope member, of_decide_eq_true same⟩
    rw [unmasked] at named
    cases named
  rw [columnsOf?, none]

theorem columns_of_listed (listed : listedRef? source = some ref)
    (resolved : resolveTable schema query.commonNames ref.name = .ok (some table)) :
    (source.1.relation schema (query.scope schema)).columns = some (schema.columns table) := by
  obtain ⟨unmasked, known⟩ := resolveTable_eq_some_iff.mp resolved
  obtain ⟨source, isListed⟩ := source
  cases source with
  | table name alias? =>
      cases isListed with
      | false => cases listed
      | true =>
          cases listed
          exact (columnsOf?_unmasked unmasked).trans (congrArg (Option.map schema.columns) known)
  | derived query named => cases listed

end Grammar

variable {schema : Schema} {text : String} {query : Query} {analysis : Analysis}

namespace Analysis

theorem targets_mentioned (references : List Reference) :
    (mentioned references).filterMap Mention.target? = [] := by
  refine List.filterMap_eq_nil_iff.mpr fun mention member => ?_
  obtain ⟨reference, _, rfl⟩ := List.mem_map.mp member
  rfl

/-- The analysis of a query resolves its listed references and reads its select list
against those outside all parentheses. -/
theorem ofText_query (written : Token.ofText text = .ok query.tokens) :
    Analysis.ofText schema .read text =
      ((((query.references [] 0).filter Reference.listed).map Reference.ref).mapM
          (resolveSource schema query.commonNames) >>= fun sources =>
        (header schema (outermost sources) (query.items.map Item.named)).map fun columns =>
          ⟨NameSet.ofList (sources.filterMap Source.table), columns⟩) := by
  rw [ofText_written written, ofTokens, mentions_tokens, commonTables_tokens, filterMap_mentioned,
    targets_mentioned, selectItems?_tokens]
  refine congrArg _ (funext fun sources => ?_)
  exact bind_pure_comp
    (fun columns => (⟨NameSet.ofList (sources.filterMap Source.table), columns⟩ : Analysis))
    (header schema (outermost sources) (query.items.map Item.named))

/-- The outermost sources are those of the outermost references. -/
theorem outermost_resolved {common : List String} {sources : List Source}
    (resolved : (((query.references [] 0).filter Reference.listed).map Reference.ref).mapM
      (resolveSource schema common) = .ok sources) :
    List.Forall₂ (fun ref source => resolveSource schema common ref = .ok source)
      query.body.outer (outermost sources) := by
  rw [← outermostRefs_query]
  refine List.rel_filter ?_ (forall₂_of_mapM resolved)
  intro ref source here
  dsimp only
  rw [(resolveSource_eq_ok_iff.mp here).1]

end Analysis

namespace Grammar

variable {outer : List Analysis.Source}

/-- Whether the analysis takes a reference for the source of this name. -/
def answers (qualifier : String) (ref : TableRef) : Bool :=
  ref.alias?.any (fun name => decide (SameName name qualifier)) ||
    decide (SameName ref.name qualifier)

/-- Whether the listed references alone settle what a star stands for. A star needs all
sources of its select to be listed, and no other select to list any; a qualified one
needs each listed reference that answers to it to be the only source of that name. -/
def Item.Settled (body : Body) : Item → Prop
  | .star => body.others = [] ∧ ∀ source ∈ body.first.sources, (listedRef? source).isSome
  | .qualifiedStar qualifier =>
      ∀ ref ∈ body.outer, answers qualifier.text ref = true →
        (body.first.sources.filter fun source =>
          decide (SameName source.1.name qualifier.text)).map listedRef? = [some ref]
  | _ => True

instance (body : Body) : (item : Item) → Decidable (item.Settled body)
  | .star => inferInstanceAs (Decidable (_ ∧ _))
  | .qualifiedStar qualifier =>
      inferInstanceAs (Decidable (∀ ref ∈ body.outer, answers qualifier.text ref = true →
        (body.first.sources.filter fun source =>
          decide (SameName source.1.name qualifier.text)).map listedRef? = [some ref]))
  | .column _ _ | .qualifiedColumn _ _ | .aliased _ _ _ | .call _ _ | .constant
  | .operation _ _ _ _ _ => .isTrue True.intro

theorem mapM_columns {sources : List (Source × Bool)} {tables : List String}
    (listed : ∀ source ∈ sources, (listedRef? source).isSome)
    (each : List.Forall₂
      (fun ref source => resolveSource schema query.commonNames ref = .ok source)
      (sources.filterMap listedRef?) outer)
    (known : List.Forall₂ (fun source table => source.table = some table) outer tables) :
    List.Forall₂ (fun source columns =>
      (source.1.relation schema (query.scope schema)).columns = some columns)
      sources (tables.map schema.columns) := by
  induction sources generalizing outer tables with
  | nil =>
      cases each
      cases known
      exact .nil
  | cons source sources ih =>
      obtain ⟨here, others⟩ := List.forall_mem_cons.mp listed
      obtain ⟨ref, isRef⟩ := Option.isSome_iff_exists.mp here
      rw [List.filterMap_cons_some isRef] at each
      cases each with
      | cons first each =>
          cases known with
          | cons table known =>
              have resolved := (resolveSource_eq_ok_iff.mp first).2
              rw [table] at resolved
              exact .cons (columns_of_listed isRef resolved) (ih others each known)

/-- Whether a relation is known to have a column. -/
def Relation.Provides (relation : Relation) (column : String) : Prop :=
  ∃ known ∈ relation.columns.getD [], SameName known column

instance (relation : Relation) (column : String) : Decidable (relation.Provides column) :=
  inferInstanceAs (Decidable (∃ known ∈ relation.columns.getD [], SameName known column))

/-- Why a column is found unknown: a bare item of the first select is provided by no
listed source of it, or the schema table behind a qualifier lacks it. -/
inductive Query.Lacks (schema : Schema) (query : Query) (column : String) : Prop
  | bare (name : Name) (isBare : name.token.isWordOf valueWords = false)
      (member : Item.column name isBare ∈ query.items) (same : name.text = column)
      (lacking : ∀ source ∈ query.body.first.sources, (listedRef? source).isSome →
        ¬ (source.1.relation schema (query.scope schema)).Provides column)
  | qualified (qualifier name : Name) (member : Item.qualifiedColumn qualifier name ∈ query.items)
      (same : name.text = column) (ref : TableRef) (outer : ref ∈ query.body.outer)
      (answer : answers qualifier.text ref = true) (table : String)
      (known : schema.table? ref.name = some table)
      (lacking : ∀ known ∈ schema.columns table, ¬ SameName known column)

theorem itemColumns_unknownColumn {sources : List Analysis.Source} (item : SelectItem) :
    FailsOnly (fun fault => ∃ column tables, fault = .unknownColumn column tables)
      (itemColumns schema sources item) := by
  unfold itemColumns
  split
  · exact .ok _
  · exact .ok _
  · split
    · exact .ok _
    · exact .map fun fault failed => ⟨_, _, (checkColumn_eq_error_iff.mp failed).1⟩
  · split
    · exact .ok _
    · exact .map fun fault failed => ⟨_, _, (checkColumn_eq_error_iff.mp failed).1⟩
  · exact .ok _
  · exact .ok _

theorem header_unknownColumn {sources : List Analysis.Source} {items : List SelectItem} :
    FailsOnly (fun fault => ∃ column tables, fault = .unknownColumn column tables)
      (header schema sources items) :=
  .map (.mapM fun item _ => itemColumns_unknownColumn item)

theorem relation_name (schema : Schema) (scope : Scope) (source : Grammar.Source) :
    (source.relation schema scope).name = source.name := by
  cases source <;> rfl

section Outer

variable (each : List.Forall₂
  (fun ref source => resolveSource schema query.commonNames ref = .ok source)
  query.body.outer outer)

include each

theorem ref_of_qualified? {qualifier table : String}
    (answered : qualified? outer qualifier = some table) :
    ∃ ref ∈ query.body.outer, answers qualifier ref = true ∧
      resolveTable schema query.commonNames ref.name = .ok (some table) := by
  obtain ⟨source, found, tabled⟩ := Option.bind_eq_some_iff.mp answered
  obtain ⟨ref, member, here⟩ := exists_of_mem_forall₂ each (List.mem_of_find?_eq_some found)
  obtain ⟨same, resolved⟩ := resolveSource_eq_ok_iff.mp here
  have answer := List.find?_some found
  rw [Source.answersTo, same] at answer
  rw [tabled] at resolved
  exact ⟨ref, member, answer, resolved⟩

theorem columns?_settled {item : Item} {columns : List String}
    (settled : item.Settled query.body)
    (read : itemColumns schema outer item.named = .ok (some columns)) :
    item.columns? (query.relations schema) = some columns := by
  cases item with
  | star =>
      -- No other select lists a table, so the outermost sources are those of this one.
      obtain ⟨alone, listed⟩ := settled
      rw [Body.outer, alone, List.append_nil] at each
      obtain ⟨tables, known, rfl⟩ := Option.map_eq_some_iff.mp (Except.ok.inj read)
      have found := mapM_columns listed each (known_of_knownTables? known)
      have complete : (query.relations schema).mapM Relation.columns =
          some (tables.map schema.columns) :=
        mapM_eq_some_iff.mpr (List.forall₂_map_left_iff.mpr found)
      rw [Item.columns?, complete, Option.map_some, List.flatMap]
  | qualifiedStar qualifier =>
      -- The first source that answers is taken, whatever select it belongs to.
      obtain ⟨table, answered, rfl⟩ := Option.map_eq_some_iff.mp (Except.ok.inj read)
      obtain ⟨ref, member, answer, resolved⟩ := ref_of_qualified? each answered
      obtain ⟨source, alone, isRef⟩ := List.map_eq_singleton_iff.mp (settled ref member answer)
      have named : (query.relations schema).filter
          (fun relation => decide (SameName relation.name qualifier.text)) =
            [source.1.relation schema (query.scope schema)] := by
        rw [Query.relations, List.filter_map]
        have same : (fun relation : Relation => decide (SameName relation.name qualifier.text)) ∘
            (fun source : Source × Bool => source.1.relation schema (query.scope schema)) =
              fun source => decide (SameName source.1.name qualifier.text) :=
          funext fun source => by rw [Function.comp_apply, relation_name]
        rw [same, alone, List.map_singleton]
      rw [Item.columns?, named]
      exact columns_of_listed isRef resolved
  | column name bare =>
      cases known : knownTables? outer with
      | none =>
          simp only [Item.named, itemColumns, known] at read
          exact Except.ok.inj read
      | some tables =>
          simp only [Item.named, itemColumns, known] at read
          obtain ⟨_, _, same⟩ := map_eq_ok_iff.mp read
          exact same
  | qualifiedColumn qualifier name =>
      cases known : qualified? outer qualifier.text with
      | none =>
          simp only [Item.named, itemColumns, known] at read
          exact Except.ok.inj read
      | some table =>
          simp only [Item.named, itemColumns, known] at read
          obtain ⟨_, _, same⟩ := map_eq_ok_iff.mp read
          exact same
  | aliased value introduced name => exact Except.ok.inj read
  | call | constant | operation => cases read

theorem columns?_items {items : List Item} {lists : List (Option (List String))}
    {complete : List (List String)}
    (settled : ∀ item ∈ items, item.Settled query.body)
    (read : List.Forall₂ (fun item columns => itemColumns schema outer item.named = .ok columns)
      items lists)
    (certain : List.Forall₂ (fun columns list => id columns = some list) lists complete) :
    List.Forall₂ (fun item columns => item.columns? (query.relations schema) = some columns)
      items complete := by
  induction read generalizing complete with
  | nil =>
      cases certain
      exact .nil
  | cons here _ ih =>
      cases certain with
      | cons isCertain certain =>
          obtain ⟨first, others⟩ := List.forall_mem_cons.mp settled
          cases isCertain
          exact .cons (columns?_settled each first here) (ih others certain)

theorem table_of_listed {source : Grammar.Source × Bool} {tables : List String}
    (known : List.Forall₂ (fun source table => source.table = some table) outer tables)
    (member : source ∈ query.body.first.sources) (listed : (listedRef? source).isSome) :
    ∃ table ∈ tables,
      (source.1.relation schema (query.scope schema)).columns = some (schema.columns table) := by
  obtain ⟨ref, isRef⟩ := Option.isSome_iff_exists.mp listed
  have outermost : ref ∈ query.body.outer :=
    List.mem_append_left _ (List.mem_filterMap.mpr ⟨source, member, isRef⟩)
  obtain ⟨resolved, found, here⟩ := exists_of_mem_forall₂ each.flip outermost
  obtain ⟨table, tabled, isTable⟩ := exists_of_mem_forall₂ known.flip found
  have stands := (resolveSource_eq_ok_iff.mp here).2
  rw [isTable] at stands
  exact ⟨table, tabled, columns_of_listed isRef stands⟩

theorem itemColumns_lacks {item : Item}
    (member : item ∈ query.items) :
    FailsOnly (fun fault => ∀ column tables, fault = .unknownColumn column tables →
      query.Lacks schema column) (itemColumns schema outer item.named) := by
  cases item with
  | star | qualifiedStar | aliased | call | constant | operation => exact .ok _
  | column name isBare =>
      cases found : knownTables? outer with
      | none =>
          simp only [Item.named, itemColumns, found]
          exact .ok _
      | some tables =>
          simp only [Item.named, itemColumns, found]
          refine .map fun fault failed column others same => ?_
          obtain ⟨blamed, lacking⟩ := checkColumn_eq_error_iff.mp failed
          cases blamed.symm.trans same
          refine .bare name isBare member rfl fun source isSource listed provides => ?_
          obtain ⟨table, isTable, columns⟩ :=
            table_of_listed each (known_of_knownTables? found) isSource listed
          obtain ⟨known, among, alike⟩ := provides
          rw [columns] at among
          exact lacking table isTable known among alike
  | qualifiedColumn qualifier name =>
      cases found : qualified? outer qualifier.text with
      | none =>
          simp only [Item.named, itemColumns, found]
          exact .ok _
      | some table =>
          simp only [Item.named, itemColumns, found]
          refine .map fun fault failed column others same => ?_
          obtain ⟨blamed, lacking⟩ := checkColumn_eq_error_iff.mp failed
          cases blamed.symm.trans same
          obtain ⟨ref, outermost, answer, resolved⟩ := ref_of_qualified? each found
          exact .qualified qualifier name member rfl ref outermost answer table
            (resolveTable_eq_some_iff.mp resolved).2 (lacking table (List.mem_singleton_self table))

end Outer

end Grammar

theorem unknownColumn_lacks (written : Token.ofText text = .ok query.tokens) :
    FailsOnly (fun fault => ∀ column tables, fault = .unknownColumn column tables →
      query.Lacks schema column) (Analysis.ofText schema .read text) := by
  rw [Analysis.ofText_query written]
  refine .bind (.mapM fun ref _ fault failed column tables same => ?_)
    fun sources resolved => .map (.map (.mapM fun named member => ?_))
  · obtain ⟨_, _, unknown⟩ := resolveSource_eq_error_iff.mp failed
    cases unknown.symm.trans same
  · obtain ⟨item, isItem, rfl⟩ := List.mem_map.mp member
    exact itemColumns_lacks (Analysis.outermost_resolved resolved) isItem

theorem header_of_columns {columns : List String}
    (written : Token.ofText text = .ok query.tokens)
    (analyzed : Analysis.ofText schema .read text = .ok analysis)
    (found : analysis.columns = some columns)
    (settled : ∀ item ∈ query.items, item.Settled query.body) :
    query.header? schema [] = some columns := by
  rw [Analysis.ofText_query written] at analyzed
  obtain ⟨sources, resolved, further⟩ := bind_eq_ok_iff.mp analyzed
  obtain ⟨header, read, rfl⟩ := map_eq_ok_iff.mp further
  obtain ⟨lists, readItems, rfl⟩ := map_eq_ok_iff.mp read
  obtain ⟨complete, isComplete, rfl⟩ := Option.map_eq_some_iff.mp found
  have each := columns?_items (Analysis.outermost_resolved resolved) settled
    (List.forall₂_map_left_iff.mp (forall₂_of_mapM readItems)) (mapM_eq_some_iff.mp isComplete)
  rw [header?_query, headerOf?, mapM_eq_some_iff.mpr each, Option.map_some]

/-- The columns that an analysis finds are the header of the query, if the listed
references settle the stars of the first select; and a column that it finds unknown is
lacking in the tables of the listed references. -/
theorem columns_of_query (written : Token.ofText text = .ok query.tokens) :
    (∀ column tables,
      Analysis.ofText schema .read text = .error (.unknownColumn column tables) →
        query.Lacks schema column) ∧
    ∀ analysis columns, Analysis.ofText schema .read text = .ok analysis →
      analysis.columns = some columns → (∀ item ∈ query.items, item.Settled query.body) →
        query.header? schema [] = some columns :=
  ⟨fun column tables failed => unknownColumn_lacks written _ failed column tables rfl,
    fun _ _ => header_of_columns written⟩

/-- A derived table, a star of one source and another select; and a column that no table
has. -/
theorem columns_of_query_union :
    let schema := Schema.ofTables
      [⟨"album", ["id", "name", "year"]⟩, ⟨"song", ["id", "title"]⟩]
    let albums : Body := .select (.one .star) (.of "album") .done
    let items : Items :=
      .more (.qualifiedStar (.of "s")) (.one (.column (.of "title") (by decide +kernel)))
    let union : Query := .plain (.union
      (.mk (.of "SELECT") none items (.of "FROM") (.derived (.plain albums) (.of "a"))
        (.join [] (.of "JOIN") (.table (.of "song") (some (.of "s"))) (.of "ON")
          (.token .literal (by decide) .done) .done))
      (.of "UNION") none albums)
    let unionText := "SELECT s.*, title FROM (SELECT * FROM album) AS a " ++
      "JOIN song AS s ON 1 UNION SELECT * FROM album"
    let unknown : Query :=
      .plain (.select (.one (.column (.of "year") (by decide +kernel))) (.of "song") .done)
    (∃ analysis, Analysis.ofText schema .read unionText = .ok analysis ∧
      union.header? schema [] = analysis.columns ∧
        analysis.columns = some ["id", "title", "title"]) ∧
    ∃ tables, Analysis.ofText schema .read "SELECT year FROM song" =
        .error (.unknownColumn "year" tables) ∧ unknown.Lacks schema "year" := by
  intro schema albums items union unionText unknown
  constructor
  · have written : Token.ofText unionText = .ok union.tokens := by decide +kernel
    have computed : (Analysis.ofText schema .read unionText).map Analysis.columns =
        .ok (some ["id", "title", "title"]) := by
      rw [Analysis.ofText_written written]
      decide +kernel
    obtain ⟨analysis, analyzed, found⟩ := map_eq_ok_iff.mp computed
    refine ⟨analysis, analyzed, ?_, found⟩
    have settled : ∀ item ∈ union.items, item.Settled union.body := by decide +kernel
    exact ((columns_of_query written).2 analysis _ analyzed found settled).trans found.symm
  · have written : Token.ofText "SELECT year FROM song" = .ok unknown.tokens := by decide +kernel
    have failed : Analysis.ofText schema .read "SELECT year FROM song" =
        .error (.unknownColumn "year" ["song"]) := by
      rw [Analysis.ofText_written written]
      decide +kernel
    exact ⟨["song"], failed, (columns_of_query written).1 "year" ["song"] failed⟩

/-- A column of a derived table is refused, and a star takes the tables of the other
select for sources. -/
theorem columns_contradict :
    let schema := Schema.ofTables [⟨"album", ["id", "title"]⟩, ⟨"song", ["id", "name"]⟩]
    let title : Items := .one (.column (.of "title") (by decide +kernel))
    let albums : Query := .plain (.select title (.of "album") .done)
    let joined : Query := .plain (.select title (.of "song") (.join [] (.of "JOIN")
      (.derived albums (.of "a")) (.of "ON") (.token .literal (by decide) .done) .done))
    let joinedText := "SELECT title FROM song JOIN (SELECT title FROM album) AS a ON 1"
    let union : Query := .plain (.union (.mk (.of "SELECT") none (.one .star) (.of "FROM")
      (.of "song") .done) (.of "UNION") none (.select (.one .star) (.of "album") .done))
    let unionText := "SELECT * FROM song UNION SELECT * FROM album"
    (Token.ofText joinedText = .ok joined.tokens ∧
      Analysis.ofText schema .read joinedText = .error (.unknownColumn "title" ["song"]) ∧
      ∃ relation ∈ joined.relations schema, relation.Provides "title") ∧
    Token.ofText unionText = .ok union.tokens ∧
      (Analysis.ofText schema .read unionText).map Analysis.columns =
        .ok (some ["id", "name", "id", "title"]) ∧
      union.header? schema [] = some ["id", "name"] := by
  intro schema title albums joined joinedText union unionText
  decide +kernel

end CheckedSql

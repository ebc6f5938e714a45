import CheckedSql.Proofs.Analysis.Growth

namespace CheckedSql

open Sql Text Analysis

namespace Schema

variable {schema : Schema} {name table : String}

/-- No table before this one has its name ignoring case. -/
def IsForemost (schema : Schema) (table : String) : Prop :=
  ∀ known ∈ schema.names, SameName known table → table ≤ known

instance (schema : Schema) (table : String) : Decidable (schema.IsForemost table) :=
  inferInstanceAs (Decidable (∀ known ∈ schema.names, SameName known table → table ≤ known))

/-- The tables that a name can stand for: of several that differ only by case, the first. -/
def foremost (schema : Schema) : Schema where
  tables := schema.tables.filter fun table => decide (schema.IsForemost table.name)
  increasing := schema.increasing.filter _

theorem mem_foremost_iff :
    table ∈ schema.foremost.names ↔ table ∈ schema.names ∧ schema.IsForemost table := by
  simp only [names, foremost, List.mem_map, List.mem_filter, decide_eq_true_eq]
  constructor
  · rintro ⟨known, ⟨member, first⟩, rfl⟩
    exact ⟨⟨known, member, rfl⟩, first⟩
  · rintro ⟨⟨known, member, rfl⟩, first⟩
    exact ⟨known, ⟨member, first⟩, rfl⟩

theorem IsForemost.eq {other : String} (first : schema.IsForemost table)
    (otherFirst : schema.IsForemost other) (member : table ∈ schema.names)
    (otherMember : other ∈ schema.names) (same : SameName table other) : table = other :=
  String.le_antisymm (first other otherMember same.symm) (otherFirst table member same)

theorem isForemost_of_table? (found : schema.table? name = some table) :
    schema.IsForemost table := by
  intro known member same
  exact table?_le found member (same.trans (mem_names_of_table? found).2)

theorem distinct_foremost (schema : Schema) : schema.foremost.Distinct := by
  apply List.Pairwise.imp_of_mem _ schema.foremost.increasing_names
  intro table other member otherMember below same
  obtain ⟨known, first⟩ := mem_foremost_iff.mp member
  obtain ⟨otherKnown, otherFirst⟩ := mem_foremost_iff.mp otherMember
  rw [first.eq otherFirst known otherKnown same] at below
  exact String.lt_irrefl other below

theorem table?_eq_some_iff_foremost :
    schema.table? name = some table ↔ table ∈ schema.foremost.names ∧ SameName table name := by
  constructor
  · intro found
    obtain ⟨member, same⟩ := mem_names_of_table? found
    exact ⟨mem_foremost_iff.mpr ⟨member, isForemost_of_table? found⟩, same⟩
  · rintro ⟨member, same⟩
    obtain ⟨known, first⟩ := mem_foremost_iff.mp member
    obtain ⟨other, found⟩ := exists_table? known same
    obtain ⟨otherKnown, otherSame⟩ := mem_names_of_table? found
    rw [found, (isForemost_of_table? found).eq first otherKnown known (otherSame.trans same.symm)]

theorem table?_foremost (schema : Schema) (name : String) :
    schema.foremost.table? name = schema.table? name := by
  apply Option.ext
  intro table
  rw [table?_eq_some_iff schema.distinct_foremost, table?_eq_some_iff_foremost]

theorem columns_foremost (member : table ∈ schema.foremost.names) :
    schema.foremost.columns table = schema.columns table := by
  obtain ⟨_, first⟩ := mem_foremost_iff.mp member
  have exact (known : Table) : (decide (schema.IsForemost known.name) ∧
      decide (known.name = table)) ↔ known.name = table := by
    rw [decide_eq_true_eq, decide_eq_true_eq]
    exact and_iff_right_of_imp fun same => same ▸ first
  rw [columns, columns, foremost, List.find?_filter]
  simp only [exact]

/-- A table has a foremost one of its name. -/
theorem exists_foremost (member : table ∈ schema.names) :
    ∃ first ∈ schema.foremost.names, SameName first table ∧ first ≤ table := by
  obtain ⟨first, found⟩ := exists_table? member (SameName.refl table)
  obtain ⟨listed, same⟩ := table?_eq_some_iff_foremost.mp found
  exact ⟨first, listed, same, table?_le found member (SameName.refl table)⟩

end Schema

namespace Analysis

variable {schema : Schema} {common tables : List String} {sources : List Source}

theorem resolveTable_foremost (schema : Schema) (common : List String) (name : String) :
    resolveTable schema.foremost common name = resolveTable schema common name := by
  rw [resolveTable, resolveTable, Schema.table?_foremost]

theorem resolveSource_foremost (schema : Schema) (common : List String) (ref : TableRef) :
    resolveSource schema.foremost common ref = resolveSource schema common ref := by
  rw [resolveSource, resolveSource, resolveTable_foremost]

theorem checkColumn_foremost (known : ∀ table ∈ tables, table ∈ schema.foremost.names)
    (column : String) :
    checkColumn schema.foremost tables column = checkColumn schema tables column := by
  have found : tables.any (hasColumn schema.foremost column) =
      tables.any (hasColumn schema column) := by
    rw [List.any_eq, List.any_eq]
    refine decide_eq_decide.mpr (exists_congr fun table => and_congr_right fun member => ?_)
    rw [hasColumn, hasColumn, Schema.columns_foremost (known table member)]
  rw [checkColumn, checkColumn, found]

theorem checkTarget_foremost (schema : Schema) (common : List String)
    (target : String × String) :
    checkTarget schema.foremost common target = checkTarget schema common target := by
  have same := resolveTable_foremost schema common target.1
  rw [checkTarget, checkTarget, ← same]
  cases resolved : resolveTable schema.foremost common target.1 with
  | error fault => rfl
  | ok table =>
      cases table with
      | none => rfl
      | some table =>
          have member := (resolveTable_eq_ok_some resolved).1
          exact checkColumn_foremost (List.forall_mem_singleton.mpr member) target.2

theorem itemColumns_foremost (within : Within schema.foremost sources) (item : SelectItem) :
    itemColumns schema.foremost sources item = itemColumns schema sources item := by
  cases item with
  | star =>
      rw [itemColumns, itemColumns]
      cases known : knownTables? sources with
      | none => rfl
      | some tables =>
          have same : tables.map schema.foremost.columns = tables.map schema.columns :=
            List.map_congr_left fun table member =>
              Schema.columns_foremost (within.known known table member)
          rw [Option.map_some, Option.map_some, List.flatMap_def, List.flatMap_def, same]
  | qualifiedStar qualifier =>
      rw [itemColumns, itemColumns]
      cases answered : qualified? sources qualifier with
      | none => rfl
      | some table =>
          rw [Option.map_some, Option.map_some,
            Schema.columns_foremost (within.qualified answered)]
  | column name =>
      rw [itemColumns, itemColumns]
      cases known : knownTables? sources with
      | none => rfl
      | some tables =>
          exact congrArg (Except.map fun _ => some [name])
            (checkColumn_foremost (within.known known) name)
  | qualifiedColumn qualifier name =>
      rw [itemColumns, itemColumns]
      cases answered : qualified? sources qualifier with
      | none => rfl
      | some table =>
          have member := List.forall_mem_singleton.mpr (within.qualified answered)
          exact congrArg (Except.map fun _ => some [name]) (checkColumn_foremost member name)
  | aliased name => rfl
  | unnamed => rfl

theorem statementHeader_foremost (within : Within schema.foremost sources) (kind : StatementKind)
    (tokens : List Token) :
    statementHeader schema.foremost kind sources tokens =
      statementHeader schema kind sources tokens := by
  have each : itemColumns schema.foremost (outermost sources) =
      itemColumns schema (outermost sources) :=
    funext (itemColumns_foremost within.outermost)
  rw [statementHeader, statementHeader]
  simp only [header, each]

/-- An analysis sees only the foremost tables of a schema. -/
theorem ofText_foremost (schema : Schema) (kind : StatementKind) (text : String) :
    Analysis.ofText schema.foremost kind text = Analysis.ofText schema kind text := by
  rw [Analysis.ofText, Analysis.ofText]
  refine congrArg _ (funext fun tokens => ?_)
  rw [ofTokens_eq_bind, ofTokens_eq_bind, ← funext (resolveSource_foremost schema _),
    ← funext (checkTarget_foremost schema _)]
  cases resolved : ((mentions tokens).filterMap Mention.ref?).mapM
      (resolveSource schema.foremost (commonTables tokens)) with
  | error fault => rfl
  | ok sources =>
      simp only [bind, Except.bind, statementHeader_foremost (within_of_resolved resolved)]

end Analysis

section Mentioned

variable {schema : Schema} {kind : StatementKind} {text : String} {tokens : List Token}
  {ref : TableRef}

/-- A table that a statement names exactly, and that no common table hides, is read as the
foremost table of its name, so as itself only if it is foremost. The tables of an analysis
hold that one. The others of its name make no difference: the analysis is that of the
foremost tables alone, with the columns they have. -/
theorem foremost_of_mentioned (written : Token.ofText text = .ok tokens)
    (mentioned : .source ref ∈ mentions tokens)
    (unmasked : isOneOf (commonTables tokens) ref.name = false)
    (exact : ref.name ∈ schema.names) :
    Analysis.ofText schema kind text = Analysis.ofText schema.foremost kind text ∧
      schema.foremost.Distinct ∧
      ∃ table ∈ schema.foremost.names, SameName table ref.name ∧
        (table = ref.name ↔ schema.IsForemost ref.name) ∧
        schema.foremost.columns table = schema.columns table ∧
        resolveSource schema (commonTables tokens) ref = .ok ⟨ref, some table⟩ ∧
        ∀ analysis, Analysis.ofText schema kind text = .ok analysis →
          table ∈ analysis.tables ∧ (ref.name ∈ analysis.tables ↔ schema.IsForemost ref.name) := by
  obtain ⟨table, member, same, _⟩ := Schema.exists_foremost exact
  obtain ⟨known, first⟩ := Schema.mem_foremost_iff.mp member
  have resolves : resolveTable schema (commonTables tokens) ref.name = .ok (some table) :=
    resolveTable_eq_some_iff.mpr ⟨unmasked, Schema.table?_eq_some_iff_foremost.mpr ⟨member, same⟩⟩
  refine ⟨(ofText_foremost schema kind text).symm, schema.distinct_foremost, table, member, same,
    ⟨?_, fun exactFirst => first.eq exactFirst known exact same⟩, Schema.columns_foremost member,
    resolveSource_eq_ok_iff.mpr ⟨rfl, resolves⟩, ?_⟩
  · rintro rfl
    exact first
  · intro analysis analyzed
    rw [ofText_written written] at analyzed
    obtain ⟨sources, resolved, tables⟩ := tables_of_analysis analyzed
    have listed (name : String) : name ∈ analysis.tables ↔
        ∃ ref ∈ (mentions tokens).filterMap Mention.ref?,
          resolveTable schema (commonTables tokens) ref.name = .ok (some name) := by
      rw [tables, NameSet.mem_ofList, mem_tables_iff resolved]
    have here : ref ∈ (mentions tokens).filterMap Mention.ref? :=
      List.mem_filterMap.mpr ⟨_, mentioned, rfl⟩
    refine ⟨(listed table).mpr ⟨ref, here, resolves⟩, ?_, ?_⟩
    · intro included
      obtain ⟨other, _, otherResolves⟩ := (listed ref.name).mp included
      exact Schema.isForemost_of_table? (resolveTable_eq_some_iff.mp otherResolves).2
    · intro exactFirst
      rw [← first.eq exactFirst known exact same]
      exact (listed table).mpr ⟨ref, here, resolves⟩

/-- Of two tables that a statement names exactly, one is foremost. -/
theorem foremost_of_mentioned_listed :
    let schema := Schema.ofTables
      [⟨"Song", ["id", "name"]⟩, ⟨"album", ["title"]⟩, ⟨"song", ["id", "released"]⟩]
    let text := "SELECT * FROM song, album"
    "song" ∈ schema.names ∧ schema.foremost.names = ["Song", "album"] ∧
      Analysis.ofText schema .read text = Analysis.ofText schema.foremost .read text ∧
      ∃ analysis, Analysis.ofText schema .read text = .ok analysis ∧
        "song" ∉ analysis.tables ∧ "album" ∈ analysis.tables ∧
        analysis.columns = some ["id", "name", "title"] := by
  intro schema text
  let tokens : List Token :=
    [.word "SELECT", .punct '*', .word "FROM", .word "song", .punct ',', .word "album"]
  have written : Token.ofText text = .ok tokens := by decide +kernel
  have computed : (Analysis.ofText schema .read text).map Analysis.columns =
      .ok (some ["id", "name", "title"]) := by decide +kernel
  obtain ⟨analysis, analyzed, columns⟩ := map_eq_ok_iff.mp computed
  have known : "song" ∈ schema.names ∧ "album" ∈ schema.names := by decide
  have mentioned (name : String) (member : name ∈ ["song", "album"]) :
      Mention.source ⟨name, none, 0⟩ ∈ mentions tokens := by
    revert name
    decide +kernel
  obtain ⟨same, _, _, _, _, _, _, _, song⟩ := foremost_of_mentioned written
    (mentioned "song" (by decide)) (by decide +kernel) known.1
  obtain ⟨_, _, _, _, _, _, _, _, album⟩ := foremost_of_mentioned written
    (mentioned "album" (by decide)) (by decide +kernel) known.2
  refine ⟨known.1, by decide +kernel, same, analysis, analyzed, ?_, ?_, columns⟩
  · exact mt (song analysis analyzed).2.mp (by decide +kernel)
  · exact (album analysis analyzed).2.mpr (by decide +kernel)

/-- A table that is not foremost is passed over where the statement names it exactly. -/
theorem exact_name_passed_over :
    let schema := Schema.ofTables [⟨"Song", ["id"]⟩, ⟨"song", ["id", "name"]⟩]
    "song" ∈ schema.names ∧ schema.columns "song" = ["id", "name"] ∧
      Analysis.ofText schema .read "SELECT * FROM song" =
        .ok ⟨NameSet.ofList ["Song"], some ["id"]⟩ ∧
      Analysis.ofText schema .read "SELECT name FROM song" =
        .error (.unknownColumn "name" ["Song"]) := by
  decide +kernel

end Mentioned

end CheckedSql

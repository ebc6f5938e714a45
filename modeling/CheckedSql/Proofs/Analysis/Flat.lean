import CheckedSql.Proofs.Analysis.Columns
import CheckedSql.Proofs.Sql.Spelling

namespace CheckedSql

open Sql Text Analysis Grammar

namespace Flat

structure Source where
  name : Name
  alias? : Option Alias

/-- A table joined to the sources before it, where two columns agree. -/
structure Join where
  word : Keyword ["JOIN"]
  source : Source
  on : Keyword ["ON"]
  left : Name × Name
  right : Name × Name

inductive Item where
  | star
  | qualifiedStar (qualifier : Name)
  | column (name : Name) (bare : name.token.isWordOf valueWords = false)
  | qualifiedColumn (qualifier name : Name)
  | renamed (qualifier? : Option Name) (taken : Name) (word : Keyword ["AS"]) (name : Name)

structure Read where
  opening : Keyword ["SELECT"]
  item : Item
  others : List Item
  word : Keyword ["FROM"]
  source : Source
  listed : List Source
  joins : List Join

def Read.items (read : Read) : List Item :=
  read.item :: read.others

/-- The sources in the order of the text. -/
def Read.sources (read : Read) : List Source :=
  read.source :: (read.listed ++ read.joins.map Join.source)

section Phrases

theorem admits_point (region : Region) : region.admits (.punct '.') = true := by
  cases region <;> rfl

/-- A column with the name of its source before it. -/
def dotted {region : Region} (source column : Name) (rest : Expr region) : Expr region :=
  .token source.token (admits_name region source) (.token (.punct '.') (admits_point region)
    (.token column.token (admits_name region column) rest))

def Source.phrase (source : Source) : Grammar.Source :=
  .table source.name source.alias?

def Item.phrase : Item → Grammar.Item
  | .star => .star
  | .qualifiedStar qualifier => .qualifiedStar qualifier
  | .column name bare => .column name bare
  | .qualifiedColumn qualifier name => .qualifiedColumn qualifier name
  | .renamed none taken word name =>
      .aliased (.token taken.token (admits_name .item taken) .done) word name
  | .renamed (some qualifier) taken word name => .aliased (dotted qualifier taken .done) word name

def Join.condition (join : Join) : Expr .condition :=
  dotted join.left.1 join.left.2
    (.token (.punct '=') (by decide) (dotted join.right.1 join.right.2 .done))

def itemsPhrase (item : Item) : List Item → Items
  | [] => .one item.phrase
  | next :: items => .more item.phrase (itemsPhrase next items)

def joinsPhrase : List Join → Tail
  | [] => .done
  | join :: joins =>
      .join [] join.word join.source.phrase join.on join.condition (joinsPhrase joins)

def listPhrase (joins : List Join) : List Source → Tail
  | [] => joinsPhrase joins
  | source :: sources => .comma source.phrase (listPhrase joins sources)

/-- A flat read as a query of the grammar. -/
def Read.query (read : Read) : Query :=
  .plain (.one (.mk read.opening none (itemsPhrase read.item read.others) read.word
    read.source.phrase (listPhrase read.joins read.listed)))

end Phrases

def Source.ref (source : Source) : TableRef :=
  tableRef source.name source.alias? 0

/-- What the columns of a source are called by. -/
def Source.called (source : Source) : String :=
  ((source.alias?.map Alias.name).getD source.name).text

def Source.aliases (source : Source) : List String :=
  (source.alias?.map fun named => named.name.text).toList

/-- The alias of a source is neither the name nor the alias of the other. -/
def Source.Apart (source other : Source) : Prop :=
  ∀ chosen ∈ source.aliases, ∀ name ∈ other.name.text :: other.aliases, ¬ SameName chosen name

instance (source other : Source) : Decidable (source.Apart other) :=
  inferInstanceAs (Decidable (∀ chosen ∈ source.aliases,
    ∀ name ∈ other.name.text :: other.aliases, ¬ SameName chosen name))

/-- The columns of the schema table that a source names. -/
def Source.columns (schema : Schema) (source : Source) : List String :=
  ((schema.table? source.name.text).map schema.columns).getD []

def Source.Has (schema : Schema) (source : Source) (column : String) : Prop :=
  ∃ known ∈ source.columns schema, SameName known column

instance (schema : Schema) (source : Source) (column : String) :
    Decidable (source.Has schema column) :=
  inferInstanceAs (Decidable (∃ known ∈ source.columns schema, SameName known column))

def Item.qualifiers : Item → List Name
  | .qualifiedStar qualifier | .qualifiedColumn qualifier _ => [qualifier]
  | .renamed qualifier? _ _ _ => qualifier?.toList
  | .star | .column _ _ => []

/-- The columns that an item yields. -/
def Item.columns (schema : Schema) (sources : List Source) : Item → List String
  | .star => sources.flatMap (Source.columns schema)
  | .qualifiedStar qualifier =>
      ((sources.find? fun source => decide (SameName source.called qualifier.text)).map
        (Source.columns schema)).getD []
  | .column name _ | .qualifiedColumn _ name | .renamed _ _ _ name => [name.text]

/-- Whether an item takes a column that its source, or every source, lacks. -/
def Item.Lacks (schema : Schema) (sources : List Source) : Item → Prop
  | .column name _ => ∀ source ∈ sources, ¬ source.Has schema name.text
  | .qualifiedColumn qualifier name =>
      ∃ source ∈ sources, SameName source.called qualifier.text ∧ ¬ source.Has schema name.text
  | .star | .qualifiedStar _ | .renamed _ _ _ _ => False

instance (schema : Schema) (sources : List Source) :
    (item : Item) → Decidable (item.Lacks schema sources)
  | .column name _ =>
      inferInstanceAs (Decidable (∀ source ∈ sources, ¬ source.Has schema name.text))
  | .qualifiedColumn qualifier name =>
      inferInstanceAs (Decidable (∃ source ∈ sources,
        SameName source.called qualifier.text ∧ ¬ source.Has schema name.text))
  | .star | .qualifiedStar _ | .renamed _ _ _ _ => .isFalse id

/-- All sources are tables of the schema, the aliases tell them apart, and every
qualifier is what a source is called by. -/
structure Read.Sound (schema : Schema) (read : Read) : Prop where
  known : ∀ source ∈ read.sources, ∃ table ∈ schema.names, SameName table source.name.text
  apart : read.sources.Pairwise fun source other => source.Apart other ∧ other.Apart source
  qualified : ∀ item ∈ read.items, ∀ qualifier ∈ item.qualifiers,
    ∃ source ∈ read.sources, SameName source.called qualifier.text

section Written

variable {visible : List String} {depth : Nat}

theorem references_item (item : Item) : item.phrase.references visible depth = [] := by
  cases item with
  | renamed qualifier? =>
      cases qualifier? <;> simp [Item.phrase, Item.references, Expr.references, dotted]
  | _ => simp [Item.phrase, Item.references]

theorem references_items (item : Item) (others : List Item) :
    (itemsPhrase item others).references visible depth = [] := by
  induction others generalizing item with
  | nil => rw [itemsPhrase, Items.references, references_item]
  | cons next others ih => rw [itemsPhrase, Items.references, references_item, ih, List.append_nil]

/-- What a source refers to. -/
def Source.reference (source : Source) : Reference :=
  ⟨source.ref, [], true⟩

theorem references_source (source : Source) :
    source.phrase.references [] 0 true = [source.reference] := by
  rw [Source.phrase, Source.references]
  rfl

theorem references_joins (joins : List Join) (listing : Bool) :
    (joinsPhrase joins).references [] 0 listing =
      (joins.map Join.source).map Source.reference := by
  induction joins generalizing listing with
  | nil => rw [joinsPhrase, Tail.references]; rfl
  | cons join joins ih =>
      simp [joinsPhrase, Tail.references, references_source, Join.condition, dotted,
        Expr.references, ih]

theorem references_list (joins : List Join) (listed : List Source) :
    (listPhrase joins listed).references [] 0 true =
      (listed ++ joins.map Join.source).map Source.reference := by
  induction listed with
  | nil => exact references_joins joins true
  | cons source listed ih =>
      have isTable : source.phrase.isTable = true := rfl
      rw [listPhrase, Tail.references, references_source, isTable, Bool.and_self, ih]
      rfl

theorem references_query (read : Read) :
    read.query.references [] 0 = read.sources.map Source.reference := by
  have isTable : read.source.phrase.isTable = true := rfl
  rw [Read.query, Query.references, Body.references, Select.references, references_items,
    references_source, isTable, references_list]
  rfl

theorem items_phrase (item : Item) (others : List Item) :
    (itemsPhrase item others).toList = (item :: others).map Item.phrase := by
  induction others generalizing item with
  | nil => rfl
  | cons next others ih =>
      rw [itemsPhrase, Items.toList, ih]
      rfl

theorem items_query (read : Read) : read.query.items = read.items.map Item.phrase :=
  items_phrase read.item read.others

end Written

section Resolved

variable {schema : Schema} {source other : Source} {sources : List Source} {tables : List String}
  {qualifier column : String}

/-- What the analysis takes a source for. -/
def Source.resolved (schema : Schema) (source : Source) : Analysis.Source :=
  ⟨source.ref, schema.table? source.name.text⟩

/-- Whether sources are tables of the schema that their aliases tell apart. -/
structure Settled (schema : Schema) (sources : List Source) : Prop where
  nonempty : sources ≠ []
  known : ∀ source ∈ sources, (schema.table? source.name.text).isSome
  apart : sources.Pairwise fun source other => source.Apart other ∧ other.Apart source

theorem resolveSource_known (known : (schema.table? source.name.text).isSome) :
    resolveSource schema [] source.ref = .ok (source.resolved schema) := by
  obtain ⟨table, found⟩ := Option.isSome_iff_exists.mp known
  refine resolveSource_eq_ok_iff.mpr ⟨rfl, ?_⟩
  rw [Source.resolved, found]
  exact resolveTable_eq_some_iff.mpr ⟨rfl, found⟩

theorem Settled.resolve (settled : Settled schema sources) :
    (sources.map Source.ref).mapM (resolveSource schema []) =
      .ok (sources.map (Source.resolved schema)) := by
  rw [mapM_eq_ok_iff, List.forall₂_map_left_iff, List.forall₂_map_right_iff, List.forall₂_same]
  exact fun source member => resolveSource_known (settled.known source member)

theorem outermost_resolved :
    outermost (sources.map (Source.resolved schema)) = sources.map (Source.resolved schema) := by
  refine List.filter_eq_self.mpr fun found member => ?_
  obtain ⟨source, _, rfl⟩ := List.mem_map.mp member
  rfl

/-- The tables of sources, one by one. -/
def TablesOf (schema : Schema) (sources : List Source) (tables : List String) : Prop :=
  List.Forall₂ (fun source table => schema.table? source.name.text = some table) sources tables

theorem columns_of_table {table : String} (found : schema.table? source.name.text = some table) :
    source.columns schema = schema.columns table := by
  rw [Source.columns, found]
  rfl

theorem Settled.exists_tables (settled : Settled schema sources) :
    ∃ table tables, TablesOf schema sources (table :: tables) := by
  have each : TablesOf schema sources
      (sources.map fun source => (schema.table? source.name.text).getD "") := by
    refine List.forall₂_map_right_iff.mpr (List.forall₂_same.mpr fun source member => ?_)
    obtain ⟨table, found⟩ := Option.isSome_iff_exists.mp (settled.known source member)
    rw [found, Option.getD_some]
  cases sources with
  | nil => exact absurd rfl settled.nonempty
  | cons source sources => exact ⟨_, _, each⟩

theorem TablesOf.known {table : String} (each : TablesOf schema sources (table :: tables)) :
    knownTables? (sources.map (Source.resolved schema)) = some (table :: tables) := by
  have found : (sources.map (Source.resolved schema)).mapM Analysis.Source.table =
      some (table :: tables) :=
    mapM_eq_some_iff.mpr (List.forall₂_map_left_iff.mpr each)
  rw [knownTables?, found]

theorem TablesOf.columns (each : TablesOf schema sources tables) :
    tables.flatMap schema.columns = sources.flatMap (Source.columns schema) := by
  induction each with
  | nil => rfl
  | cons found _ ih => rw [List.flatMap_cons, List.flatMap_cons, columns_of_table found, ih]

theorem hasColumn_iff {table : String} (found : schema.table? source.name.text = some table) :
    hasColumn schema column table = true ↔ source.Has schema column := by
  rw [hasColumn_eq_true_iff, Source.Has, columns_of_table found]

theorem TablesOf.has_iff (each : TablesOf schema sources tables) :
    tables.any (hasColumn schema column) = true ↔ ∃ source ∈ sources, source.Has schema column := by
  induction each with
  | nil => simp
  | cons found _ ih =>
      rw [List.any_cons, Bool.or_eq_true, hasColumn_iff found, ih, List.exists_mem_cons_iff]

theorem answersTo_iff : (source.resolved schema).answersTo qualifier = true ↔
    (∃ chosen ∈ source.aliases, SameName chosen qualifier) ∨
      SameName source.name.text qualifier := by
  rw [Analysis.Source.answersTo, Bool.or_eq_true, decide_eq_true_eq]
  refine or_congr ?_ Iff.rfl
  cases found : source.alias? <;>
    simp [Source.resolved, Source.ref, tableRef, Source.aliases, found]

theorem called_cases (called : SameName source.called qualifier) :
    (∃ chosen ∈ source.aliases, SameName chosen qualifier) ∨
      source.aliases = [] ∧ SameName source.name.text qualifier := by
  unfold Source.called at called
  unfold Source.aliases
  cases found : source.alias? with
  | none =>
      rw [found] at called
      exact .inr ⟨rfl, called⟩
  | some named =>
      rw [found] at called
      exact .inl ⟨named.name.text, List.mem_singleton_self _, called⟩

theorem answersTo_of_called (called : SameName source.called qualifier) :
    (source.resolved schema).answersTo qualifier = true :=
  answersTo_iff.mpr ((called_cases called).imp_right And.right)

/-- A source that answers to a qualifier has the table of any source that is called so. -/
theorem table?_answering (apart : source = other ∨ source.Apart other ∧ other.Apart source)
    (answers : (source.resolved schema).answersTo qualifier = true)
    (called : SameName other.called qualifier) :
    schema.table? source.name.text = schema.table? other.name.text := by
  rcases apart with rfl | ⟨apart, otherApart⟩
  · rfl
  rcases called_cases called with ⟨chosen, member, same⟩ | ⟨_, same⟩
  · -- no other source answers to an alias
    rcases answersTo_iff.mp answers with ⟨alike, among, second⟩ | second
    · exact absurd (same.trans second.symm)
        (otherApart chosen member alike (List.mem_cons_of_mem _ among))
    · exact absurd (same.trans second.symm) (otherApart chosen member _ List.mem_cons_self)
  · rcases answersTo_iff.mp answers with ⟨alike, among, second⟩ | second
    · exact absurd (second.trans same.symm) (apart alike among _ List.mem_cons_self)
    · exact Schema.table?_congr (second.trans same.symm)

/-- A qualifier stands for the table of every source that is called so. -/
theorem Settled.qualified? (settled : Settled schema sources) (member : source ∈ sources)
    (called : SameName source.called qualifier) :
    qualified? (sources.map (Source.resolved schema)) qualifier =
      schema.table? source.name.text := by
  have answering : ((sources.map (Source.resolved schema)).find?
      (Analysis.Source.answersTo qualifier)).isSome :=
    List.find?_isSome.mpr ⟨source.resolved schema, List.mem_map_of_mem member,
      answersTo_of_called called⟩
  obtain ⟨found, first⟩ := Option.isSome_iff_exists.mp answering
  obtain ⟨other, among, rfl⟩ := List.mem_map.mp (List.mem_of_find?_eq_some first)
  rw [Analysis.qualified?, first, Option.bind_some]
  refine table?_answering (or_iff_not_imp_left.mpr fun different => ?_) (List.find?_some first)
    called
  have symmetric : Std.Symm fun source other : Source =>
      source.Apart other ∧ other.Apart source := ⟨fun _ _ => And.symm⟩
  exact settled.apart.forall among member different

/-- An item that lacks its column fails, and any other yields its columns. -/
theorem itemColumns_lacks (settled : Settled schema sources) {item : Item}
    (lacks : item.Lacks schema sources) :
    ∃ column tables, itemColumns schema (sources.map (Source.resolved schema)) item.phrase.named =
      .error (.unknownColumn column tables) := by
  cases item with
  | column name bare =>
      obtain ⟨table, tables, each⟩ := settled.exists_tables
      have lacking : ¬ (table :: tables).any (hasColumn schema name.text) = true := by
        rw [each.has_iff]
        rintro ⟨source, member, has⟩
        exact lacks source member has
      refine ⟨name.text, table :: tables, ?_⟩
      simp only [Item.phrase, Grammar.Item.named, itemColumns, each.known, checkColumn,
        if_neg lacking]
      rfl
  | qualifiedColumn qualifier name =>
      obtain ⟨source, member, called, lacking⟩ := lacks
      obtain ⟨table, found⟩ := Option.isSome_iff_exists.mp (settled.known source member)
      refine ⟨name.text, [table], ?_⟩
      have unknown : ¬ [table].any (hasColumn schema name.text) = true := by
        rwa [List.any_cons, List.any_nil, Bool.or_false, hasColumn_iff found]
      simp only [Item.phrase, Grammar.Item.named, itemColumns,
        settled.qualified? member called, found, checkColumn, if_neg unknown]
      rfl
  | star => exact lacks.elim
  | qualifiedStar => exact lacks.elim
  | renamed => exact lacks.elim

theorem itemColumns_yields (settled : Settled schema sources) {item : Item}
    (qualified : ∀ qualifier ∈ item.qualifiers,
      ∃ source ∈ sources, SameName source.called qualifier.text)
    (complete : ¬ item.Lacks schema sources) :
    itemColumns schema (sources.map (Source.resolved schema)) item.phrase.named =
      .ok (some (item.columns schema sources)) := by
  cases item with
  | star =>
      obtain ⟨table, tables, each⟩ := settled.exists_tables
      simp only [Item.phrase, Grammar.Item.named, itemColumns, each.known, Option.map_some,
        each.columns, Item.columns]
  | qualifiedStar qualifier =>
      obtain ⟨source, member, called⟩ := qualified qualifier List.mem_cons_self
      have named : (sources.find? fun source =>
          decide (SameName source.called qualifier.text)).isSome :=
        List.find?_isSome.mpr ⟨source, member, decide_eq_true called⟩
      obtain ⟨first, isFirst⟩ := Option.isSome_iff_exists.mp named
      have among := List.mem_of_find?_eq_some isFirst
      have firstCalled : SameName first.called qualifier.text := by
        simpa using List.find?_some isFirst
      obtain ⟨table, found⟩ := Option.isSome_iff_exists.mp (settled.known first among)
      simp only [Item.phrase, Grammar.Item.named, itemColumns, settled.qualified? among firstCalled,
        found, Option.map_some, Item.columns, isFirst, Option.getD_some, columns_of_table found]
  | column name bare =>
      obtain ⟨table, tables, each⟩ := settled.exists_tables
      have has : (table :: tables).any (hasColumn schema name.text) = true := by
        rw [each.has_iff]
        by_contra none
        exact complete fun source member has => none ⟨source, member, has⟩
      simp only [Item.phrase, Grammar.Item.named, itemColumns, each.known, checkColumn, if_pos has]
      rfl
  | qualifiedColumn qualifier name =>
      obtain ⟨source, member, called⟩ := qualified qualifier List.mem_cons_self
      obtain ⟨table, found⟩ := Option.isSome_iff_exists.mp (settled.known source member)
      have has : [table].any (hasColumn schema name.text) = true := by
        rw [List.any_cons, List.any_nil, Bool.or_false, hasColumn_iff found]
        by_contra lacking
        exact complete ⟨source, member, called, lacking⟩
      simp only [Item.phrase, Grammar.Item.named, itemColumns,
        settled.qualified? member called, found, checkColumn, if_pos has]
      rfl
  | renamed qualifier? taken word name => cases qualifier? <;> rfl

end Resolved

section Header

variable {schema : Schema} {sources : List Source} {items : List Item} {text : String}
  {read : Read}

theorem itemColumns_fails_iff (settled : Settled schema sources) {item : Item}
    (qualified : ∀ qualifier ∈ item.qualifiers,
      ∃ source ∈ sources, SameName source.called qualifier.text) :
    (∃ fault, itemColumns schema (sources.map (Source.resolved schema)) item.phrase.named =
      .error fault) ↔ item.Lacks schema sources := by
  constructor
  · rintro ⟨fault, failed⟩
    by_contra complete
    cases failed.symm.trans (itemColumns_yields settled qualified complete)
  · intro lacks
    obtain ⟨column, tables, failed⟩ := itemColumns_lacks settled lacks
    exact ⟨_, failed⟩

/-- A header fails for an unknown column exactly if some item lacks its column. -/
theorem header_fails_iff (settled : Settled schema sources)
    (qualified : ∀ item ∈ items, ∀ qualifier ∈ item.qualifiers,
      ∃ source ∈ sources, SameName source.called qualifier.text) :
    (∃ column tables, header schema (sources.map (Source.resolved schema))
      (items.map fun item => item.phrase.named) = .error (.unknownColumn column tables)) ↔
        ∃ item ∈ items, item.Lacks schema sources := by
  have each : ∀ named ∈ items.map (fun item => item.phrase.named),
      FailsOnly (fun fault => ∃ column tables, fault = .unknownColumn column tables)
        (itemColumns schema (sources.map (Source.resolved schema)) named) :=
    fun named _ => itemColumns_unknownColumn named
  have fails := FailsOnly.mapM_fails_iff each
  constructor
  · rintro ⟨column, tables, failed⟩
    obtain ⟨named, member, faulty⟩ := fails.mp ⟨_, map_eq_error_iff.mp failed, column, tables, rfl⟩
    obtain ⟨item, isItem, rfl⟩ := List.mem_map.mp member
    exact ⟨item, isItem, (itemColumns_fails_iff settled (qualified item isItem)).mp faulty⟩
  · rintro ⟨item, isItem, lacks⟩
    have faulty := (itemColumns_fails_iff settled (qualified item isItem)).mpr lacks
    obtain ⟨_, failed, column, tables, rfl⟩ := fails.mpr ⟨_, List.mem_map_of_mem isItem, faulty⟩
    exact ⟨column, tables, map_eq_error_iff.mpr failed⟩

theorem header_yields (settled : Settled schema sources)
    (qualified : ∀ item ∈ items, ∀ qualifier ∈ item.qualifiers,
      ∃ source ∈ sources, SameName source.called qualifier.text)
    (complete : ∀ item ∈ items, ¬ item.Lacks schema sources) :
    header schema (sources.map (Source.resolved schema)) (items.map fun item => item.phrase.named) =
      .ok (some (items.flatMap (Item.columns schema sources))) := by
  have read : (items.map fun item => item.phrase.named).mapM
      (itemColumns schema (sources.map (Source.resolved schema))) =
        .ok (items.map fun item => some (item.columns schema sources)) := by
    rw [mapM_eq_ok_iff, List.forall₂_map_left_iff, List.forall₂_map_right_iff, List.forall₂_same]
    exact fun item member =>
      itemColumns_yields settled (qualified item member) (complete item member)
  have certain : (items.map fun item => some (item.columns schema sources)).mapM id =
      some (items.map (Item.columns schema sources)) := by
    rw [mapM_eq_some_iff, List.forall₂_map_left_iff, List.forall₂_map_right_iff, List.forall₂_same]
    exact fun _ _ => rfl
  rw [header, read, Except.map, certain, Option.map_some, List.flatMap_def]

theorem Read.Sound.settled (sound : read.Sound schema) : Settled schema read.sources := by
  refine ⟨List.cons_ne_nil _ _, fun source member => ?_, sound.apart⟩
  obtain ⟨table, known, same⟩ := sound.known source member
  exact List.find?_isSome.mpr ⟨table, known, decide_eq_true same⟩

theorem refs_query (read : Read) :
    ((read.query.references [] 0).filter Reference.listed).map Reference.ref =
      read.sources.map Source.ref := by
  have listed : (read.sources.map Source.reference).filter Reference.listed =
      read.sources.map Source.reference := by
    refine List.filter_eq_self.mpr fun reference member => ?_
    obtain ⟨source, _, rfl⟩ := List.mem_map.mp member
    rfl
  rw [references_query, listed, List.map_map]
  rfl

/-- A flat read is analysed through the header of its items. -/
theorem ofText_flat (sound : read.Sound schema) (spells : Spells text read.query.tokens) :
    Analysis.ofText schema .read text =
      (header schema (read.sources.map (Source.resolved schema))
        (read.items.map fun item => item.phrase.named)).map fun columns =>
          ⟨NameSet.ofList ((read.sources.map (Source.resolved schema)).filterMap
            Analysis.Source.table), columns⟩ := by
  have common : read.query.commonNames = [] := rfl
  rw [Analysis.ofText_query (ofText_of_spells spells), refs_query, items_query, common,
    sound.settled.resolve, List.map_map]
  exact congrArg (fun outer => (header schema outer _).map _) outermost_resolved

/-- An analysis of a flat read fails for an unknown column exactly if some item lacks its
column. Otherwise it finds the tables of the sources and the columns of the items. -/
theorem columns_of_flat (distinct : schema.Distinct) (sound : read.Sound schema)
    (spells : Spells text read.query.tokens) :
    ((∃ column tables, Analysis.ofText schema .read text = .error (.unknownColumn column tables)) ↔
        ∃ item ∈ read.items, item.Lacks schema read.sources) ∧
      ((∀ item ∈ read.items, ¬ item.Lacks schema read.sources) →
        ∃ analysis, Analysis.ofText schema .read text = .ok analysis ∧
          (∀ table, table ∈ analysis.tables ↔
            table ∈ schema.names ∧ ∃ source ∈ read.sources, SameName table source.name.text) ∧
          analysis.columns = some (read.items.flatMap (Item.columns schema read.sources))) := by
  rw [ofText_flat sound spells]
  refine ⟨?_, fun complete => ?_⟩
  · simp only [map_eq_error_iff]
    exact header_fails_iff sound.settled sound.qualified
  · rw [header_yields sound.settled sound.qualified complete]
    refine ⟨_, rfl, fun table => ?_, rfl⟩
    rw [NameSet.mem_ofList, List.filterMap_map, List.mem_filterMap]
    simp only [Function.comp_apply, Source.resolved, Schema.table?_eq_some_iff distinct]
    constructor
    · rintro ⟨source, member, known, same⟩
      exact ⟨known, source, member, same⟩
    · rintro ⟨known, source, member, same⟩
      exact ⟨source, member, known, same⟩

/-- Three sources, one of them without an alias, and one item of each kind; a column of
them is unknown to the second schema. -/
theorem columns_of_flat_joined :
    let schema (albums : List String) := Schema.ofTables
      [⟨"album", albums⟩, ⟨"artist", ["name"]⟩, ⟨"song", ["id", "year"]⟩]
    let year : Item := .column (.of "YEAR") (by decide +kernel)
    let read : Read :=
      { opening := .of "SELECT"
        item := .star
        others := [.qualifiedStar (.of "song"), year, .qualifiedColumn (.of "A") (.of "Title"),
          .renamed (some (.of "b")) (.of "born") (.of "AS") (.of "it")]
        word := .of "FROM"
        source := ⟨.of "Song", none⟩
        listed := [⟨.of "album", some (.of "a")⟩]
        joins := [⟨.of "JOIN", ⟨.of "artist", some (.of "b")⟩, .of "ON", (.of "b", .of "name"),
          (.of "a", .of "id")⟩] }
    let text := "SELECT * , song . * , YEAR , A . Title , b . born AS it " ++
      "FROM Song , album AS a JOIN artist AS b ON b . name = a . id "
    let known := schema ["id", "title"]
    let lacking := schema ["id"]
    Spells text read.query.tokens ∧ known.Distinct ∧ lacking.Distinct ∧
      read.Sound known ∧ read.Sound lacking ∧
      (∃ analysis, Analysis.ofText known .read text = .ok analysis ∧
        "album" ∈ analysis.tables ∧ analysis.columns = some
          ["id", "year", "id", "title", "name", "id", "year", "YEAR", "Title", "it"]) ∧
      ∃ column tables,
        Analysis.ofText lacking .read text = .error (.unknownColumn column tables) := by
  intro schema year read text known lacking
  have spells : Spells text read.query.tokens := by
    have same : String.ofList ((spaced read.query.tokens).flatMap Lexeme.text) = text := by
      decide +kernel
    rw [← same]
    exact spells_spaced (by decide +kernel)
  have distinct : known.Distinct ∧ lacking.Distinct := by decide +kernel
  have apart : read.sources.Pairwise fun source other =>
      source.Apart other ∧ other.Apart source := by decide +kernel
  have qualified : ∀ item ∈ read.items, ∀ qualifier ∈ item.qualifiers,
      ∃ source ∈ read.sources, SameName source.called qualifier.text := by decide +kernel
  have knownSound : read.Sound known := ⟨by decide +kernel, apart, qualified⟩
  have lackingSound : read.Sound lacking := ⟨by decide +kernel, apart, qualified⟩
  refine ⟨spells, distinct.1, distinct.2, knownSound, lackingSound, ?_, ?_⟩
  · obtain ⟨analysis, analyzed, tables, columns⟩ :=
      (columns_of_flat distinct.1 knownSound spells).2 (by decide +kernel)
    exact ⟨analysis, analyzed, (tables "album").mpr (by decide +kernel),
      columns.trans (by decide +kernel)⟩
  · exact (columns_of_flat distinct.2 lackingSound spells).1.mpr (by decide +kernel)

end Header

end Flat

end CheckedSql

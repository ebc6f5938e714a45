import CheckedSql.Proofs.Analysis.Tables

namespace CheckedSql

open Sql Text Analysis

/-! Analyses under a schema that grows.

A name stands for the least table that is the same name ignoring case, so new tables that
are no such name of an old one leave it to the old one (`table?_of_grows`). Then all
sources stay as they are, each column that was found is found again, and only a star can
list more columns (`itemColumns_of_grows`). So what was accepted stays accepted
(`analysis_of_grown`).
-/

namespace Schema

/-- A schema with the tables of another and at least their columns. No new table has the
name of an old one ignoring case. -/
structure Grows (small large : Schema) : Prop where
  tables : ∀ table ∈ small.names, table ∈ large.names
  columns : ∀ table ∈ small.names, ∀ column ∈ small.columns table, column ∈ large.columns table
  fresh : ∀ table ∈ large.names, table ∉ small.names → ∀ known ∈ small.names,
    ¬ SameName table known

variable {schema small large : Schema} {name table : String}

theorem increasing_names (schema : Schema) : schema.names.Pairwise (· < ·) :=
  List.pairwise_map.mpr schema.increasing

theorem table?_le {known : String} (found : schema.table? name = some table)
    (member : known ∈ schema.names) (same : SameName known name) : table ≤ known := by
  obtain ⟨_, before, after, parts, earlier⟩ := List.find?_eq_some_iff_append.mp found
  have increasing := schema.increasing_names
  rw [parts] at member increasing
  rcases List.mem_append.mp member with skipped | later
  · have refused := earlier known skipped
    simp [same] at refused
  · rcases List.mem_cons.mp later with rfl | later
    · exact String.le_refl known
    · have below := (List.pairwise_cons.mp (List.pairwise_append.mp increasing).2.1).1 known later
      exact String.not_lt.mp fun above => String.lt_irrefl _ (String.lt_trans below above)

theorem table?_of_grows (grows : small.Grows large) (found : small.table? name = some table) :
    large.table? name = some table := by
  obtain ⟨member, same⟩ := mem_names_of_table? found
  obtain ⟨other, foundOther⟩ := exists_table? (grows.tables table member) same
  obtain ⟨memberOther, sameOther⟩ := mem_names_of_table? foundOther
  have old : other ∈ small.names := by
    by_contra new
    exact grows.fresh other memberOther new table member (sameOther.trans same.symm)
  have least := table?_le found old sameOther
  have leastOther := table?_le foundOther (grows.tables table member) same
  rw [foundOther, String.le_antisymm least leastOther]

end Schema

namespace Analysis

variable {small large : Schema} {common : List String}

section Resolution

theorem resolveTable_of_grows (grows : small.Grows large) {name : String} {table : Option String}
    (resolved : resolveTable small common name = .ok table) :
    resolveTable large common name = .ok table := by
  unfold resolveTable at resolved ⊢
  split
  · rename_i masked
    rwa [if_pos masked] at resolved
  · rename_i unmasked
    rw [if_neg unmasked] at resolved
    cases found : small.table? name with
    | none =>
        rw [found] at resolved
        cases resolved
    | some known =>
        rw [found] at resolved
        cases resolved
        rw [Schema.table?_of_grows grows found]

theorem resolveSources_of_grows (grows : small.Grows large) {refs : List TableRef}
    {sources : List Source} (resolved : refs.mapM (resolveSource small common) = .ok sources) :
    refs.mapM (resolveSource large common) = .ok sources := by
  refine mapM_eq_ok_iff.mpr ((forall₂_of_mapM resolved).imp fun ref source here => ?_)
  obtain ⟨same, tabled⟩ := resolveSource_eq_ok_iff.mp here
  exact resolveSource_eq_ok_iff.mpr ⟨same, resolveTable_of_grows grows tabled⟩

theorem checkColumn_of_grows (grows : small.Grows large) {tables : List String} {column : String}
    (known : ∀ table ∈ tables, table ∈ small.names)
    (checked : checkColumn small tables column = .ok ()) :
    checkColumn large tables column = .ok () := by
  obtain ⟨table, member, name, listed, same⟩ := checkColumn_eq_ok_iff.mp checked
  exact checkColumn_eq_ok_iff.mpr
    ⟨table, member, name, grows.columns table (known table member) name listed, same⟩

theorem checkTarget_of_grows (grows : small.Grows large) {target : String × String}
    (checked : checkTarget small common target = .ok ()) :
    checkTarget large common target = .ok () := by
  rw [checkTarget_eq_bind] at checked ⊢
  obtain ⟨table, resolved, further⟩ := bind_eq_ok_iff.mp checked
  refine bind_eq_ok_iff.mpr ⟨table, resolveTable_of_grows grows resolved, ?_⟩
  cases table with
  | none => rfl
  | some table =>
      refine checkColumn_of_grows grows ?_ further
      exact List.forall_mem_singleton.mpr (resolveTable_eq_ok_some resolved).1

end Resolution

section Header

variable {sources : List Source}

/-- Whether an item stands for all columns of its sources. -/
def SelectItem.isStar : SelectItem → Bool
  | .star | .qualifiedStar _ => true
  | _ => false

/-- All tables behind the sources are of this schema. -/
def Within (schema : Schema) (sources : List Source) : Prop :=
  ∀ source ∈ sources, ∀ table, source.table = some table → table ∈ schema.names

theorem within_of_resolved {refs : List TableRef}
    (resolved : refs.mapM (resolveSource small common) = .ok sources) : Within small sources := by
  intro source member table tabled
  obtain ⟨ref, _, here⟩ := exists_of_mem_forall₂ (forall₂_of_mapM resolved) member
  have found := (resolveSource_eq_ok_iff.mp here).2
  rw [tabled] at found
  exact (resolveTable_eq_ok_some found).1

theorem Within.outermost (within : Within small sources) :
    Within small (Analysis.outermost sources) :=
  fun source member => within source (List.mem_of_mem_filter member)

theorem Within.known (within : Within small sources) {tables : List String}
    (known : knownTables? sources = some tables) : ∀ table ∈ tables, table ∈ small.names := by
  intro table member
  obtain ⟨source, isSource, tabled⟩ := exists_of_mem_forall₂ (known_of_knownTables? known) member
  exact within source isSource table tabled

theorem Within.qualified (within : Within small sources) {qualifier table : String}
    (answered : qualified? sources qualifier = some table) : table ∈ small.names := by
  obtain ⟨source, found, tabled⟩ := Option.bind_eq_some_iff.mp answered
  exact within source (List.mem_of_find?_eq_some found) table tabled

/-- An item is certain where it was, and the same unless it is a star. -/
theorem itemColumns_of_grows (grows : small.Grows large) (within : Within small sources)
    {item : SelectItem} {columns : Option (List String)}
    (read : itemColumns small sources item = .ok columns) :
    ∃ grown, itemColumns large sources item = .ok grown ∧ grown.isSome = columns.isSome ∧
      (item.isStar = false → grown = columns) := by
  have checked {tables : List String} {name : String} (known : ∀ table ∈ tables, table ∈ small.names)
      (read : (checkColumn small tables name).map (fun _ => some [name]) = .ok columns) :
      (checkColumn large tables name).map (fun _ => some [name]) = .ok columns := by
    obtain ⟨_, found, same⟩ := map_eq_ok_iff.mp read
    exact map_eq_ok_iff.mpr ⟨(), checkColumn_of_grows grows known found, same⟩
  cases item with
  | star =>
      cases read
      exact ⟨_, rfl, by simp, by simp [SelectItem.isStar]⟩
  | qualifiedStar qualifier =>
      cases read
      exact ⟨_, rfl, by simp, by simp [SelectItem.isStar]⟩
  | column name =>
      refine ⟨columns, ?_, rfl, fun _ => rfl⟩
      rw [itemColumns] at read ⊢
      cases known : knownTables? sources with
      | none => rwa [known] at read
      | some tables =>
          rw [known] at read
          exact checked (within.known known) read
  | qualifiedColumn qualifier name =>
      refine ⟨columns, ?_, rfl, fun _ => rfl⟩
      rw [itemColumns] at read ⊢
      cases answered : qualified? sources qualifier with
      | none => rwa [answered] at read
      | some table =>
          rw [answered] at read
          exact checked (List.forall_mem_singleton.mpr (within.qualified answered)) read
  | aliased name => exact ⟨columns, read, rfl, fun _ => rfl⟩
  | unnamed => exact ⟨columns, read, rfl, fun _ => rfl⟩

theorem items_of_grows (grows : small.Grows large) (within : Within small sources)
    {items : List SelectItem} {lists : List (Option (List String))}
    (read : items.mapM (itemColumns small sources) = .ok lists) :
    ∃ grown, items.mapM (itemColumns large sources) = .ok grown ∧
      grown.map Option.isSome = lists.map Option.isSome ∧
      ((∀ item ∈ items, item.isStar = false) → grown = lists) := by
  simp only [mapM_eq_ok_iff] at read ⊢
  induction read with
  | nil => exact ⟨[], .nil, rfl, fun _ => rfl⟩
  | @cons item columns items lists here _ ih =>
      obtain ⟨first, readFirst, certain, same⟩ := itemColumns_of_grows grows within here
      obtain ⟨others, readOthers, certains, sames⟩ := ih
      refine ⟨first :: others, .cons readFirst readOthers, ?_, fun starless => ?_⟩
      · rw [List.map_cons, List.map_cons, certain, certains]
      · obtain ⟨plain, further⟩ := List.forall_mem_cons.mp starless
        rw [same plain, sames further]

theorem isSome_joined (lists : List (Option (List String))) :
    ((lists.mapM id).map List.flatten).isSome = (lists.map Option.isSome).all id := by
  induction lists with
  | nil => rfl
  | cons columns lists ih =>
      rw [List.mapM_cons, List.map_cons, List.all_cons, ← ih]
      cases columns with
      | none => rfl
      | some columns => cases lists.mapM id <;> rfl

theorem statementHeader_of_grows (grows : small.Grows large) (within : Within small sources)
    {kind : StatementKind} {tokens : List Token} {columns : Option (List String)}
    (read : statementHeader small kind sources tokens = .ok columns) :
    ∃ grown, statementHeader large kind sources tokens = .ok grown ∧
      grown.isSome = columns.isSome ∧
      ((∀ items, selectItems? tokens = some items → ∀ item ∈ items, item.isStar = false) →
        grown = columns) := by
  rw [statementHeader] at read ⊢
  cases isRead : kind.isRead with
  | false =>
      rw [isRead] at read
      exact ⟨columns, read, rfl, fun _ => rfl⟩
  | true =>
      rw [isRead] at read
      cases listed : selectItems? tokens with
      | none =>
          rw [listed] at read
          exact ⟨columns, read, rfl, fun _ => rfl⟩
      | some items =>
          rw [listed] at read
          obtain ⟨lists, each, rfl⟩ := map_eq_ok_iff.mp read
          obtain ⟨grown, grownEach, certain, same⟩ := items_of_grows grows within.outermost each
          refine ⟨_, map_eq_ok_iff.mpr ⟨grown, grownEach, rfl⟩, ?_, fun starless => ?_⟩
          · rw [isSome_joined, isSome_joined, certain]
          · rw [same (starless items rfl)]

end Header

end Analysis

/-- Whether the select list of a statement has no star, qualified or not. -/
def Starless (text : String) : Prop :=
  ∀ tokens items, Token.ofText text = .ok tokens → selectItems? tokens = some items →
    ∀ item ∈ items, item.isStar = false

/-- A statement that is accepted under a schema is accepted under each that it grows to,
with the same tables. Its header is certain where it was, and the same if no star is
listed. -/
theorem analysis_of_grown {small large : Schema} (grows : small.Grows large)
    {kind : StatementKind} {text : String} {analysis : Analysis}
    (analyzed : Analysis.ofText small kind text = .ok analysis) :
    ∃ grown, Analysis.ofText large kind text = .ok grown ∧ grown.tables = analysis.tables ∧
      grown.columns.isSome = analysis.columns.isSome ∧
      (Starless text → grown.columns = analysis.columns) := by
  obtain ⟨tokens, written, analyzed⟩ := bind_eq_ok_iff.mp analyzed
  rw [ofTokens_eq_bind] at analyzed
  obtain ⟨sources, resolved, further⟩ := bind_eq_ok_iff.mp analyzed
  obtain ⟨_, checked, further⟩ := bind_eq_ok_iff.mp further
  obtain ⟨columns, read, rfl⟩ := map_eq_ok_iff.mp further
  obtain ⟨grown, grownRead, certain, same⟩ :=
    statementHeader_of_grows grows (within_of_resolved resolved) read
  have grownChecked := forM_eq_ok_iff.mpr fun target member =>
    checkTarget_of_grows grows (forM_eq_ok_iff.mp checked target member)
  refine ⟨⟨_, grown⟩, bind_eq_ok_iff.mpr ⟨tokens, written, ?_⟩, rfl, certain, fun starless =>
    same fun items listed => starless tokens items written listed⟩
  rw [ofTokens_eq_bind]
  exact bind_eq_ok_iff.mpr ⟨sources, resolveSources_of_grows grows resolved,
    bind_eq_ok_iff.mpr ⟨(), grownChecked, map_eq_ok_iff.mpr ⟨grown, grownRead, rfl⟩⟩⟩

/-- New columns and a new table before the old one: a star lists the new columns. -/
theorem analysis_of_grown_song :
    let small := Schema.ofTables [⟨"song", ["id"]⟩]
    let large := Schema.ofTables [⟨"album", ["id"]⟩, ⟨"song", ["id", "name"]⟩]
    let text := "SELECT s.id AS key FROM Song s"
    let header (schema : Schema) (text : String) :=
      (Analysis.ofText schema .read text).map Analysis.columns
    small.Grows large ∧ header small "SELECT * FROM song" = .ok (some ["id"]) ∧
      header large "SELECT * FROM song" = .ok (some ["id", "name"]) ∧
      ∃ analysis, Analysis.ofText small .read text = .ok analysis ∧
        ∃ grown, Analysis.ofText large .read text = .ok grown ∧ grown.tables = analysis.tables ∧
          grown.columns.isSome = analysis.columns.isSome ∧ grown.columns = analysis.columns := by
  intro small large text header
  have grows : small.Grows large := ⟨by decide +kernel, by decide +kernel, by decide +kernel⟩
  have starless : Starless text := by
    intro tokens items written listed
    have computed : (Token.ofText text).map selectItems? = .ok (some [.aliased "key"]) := by
      decide +kernel
    rw [written] at computed
    cases listed.symm.trans (Except.ok.inj computed)
    decide
  have read : header small text = .ok (some ["key"]) := by decide +kernel
  obtain ⟨analysis, analyzed, _⟩ := map_eq_ok_iff.mp read
  obtain ⟨grown, grownAnalyzed, tables, certain, same⟩ := analysis_of_grown grows analyzed
  exact ⟨grows, by decide +kernel, by decide +kernel, analysis, analyzed, grown, grownAnalyzed,
    tables, certain, same starless⟩

end CheckedSql

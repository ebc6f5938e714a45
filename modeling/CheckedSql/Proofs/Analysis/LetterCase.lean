import CheckedSql.Proofs.Analysis.Lowering
import CheckedSql.Proofs.Analysis.Tables

namespace CheckedSql

open Sql Text Analysis

/-- Faults of one form that differ at most in the case of the name that they blame. -/
inductive Fault.Respelled : Fault → Fault → Prop
  | same (fault : Fault) : Respelled fault fault
  | unsupportedStatement {left right : String} (same : SameName left right) :
      Respelled (.unsupportedStatement left) (.unsupportedStatement right)
  | unknownTable {left right : String} (same : SameName left right) :
      Respelled (.unknownTable left) (.unknownTable right)
  | unknownColumn {left right : String} {tables : List String} (same : SameName left right) :
      Respelled (.unknownColumn left tables) (.unknownColumn right tables)

/-- Headers that are both uncertain, or list the same names in letters of either case. -/
abbrev SameHeader : Option (List String) → Option (List String) → Prop :=
  Option.Rel (List.Forall₂ SameName)

/-- Analyses with the same tables and the same header, in letters of either case. -/
structure Analysis.Respelled (left right : Analysis) : Prop where
  tables : left.tables = right.tables
  columns : SameHeader left.columns right.columns

section Relations

theorem Fault.Respelled.meet {first second third : Fault} (left : Respelled first third)
    (right : Respelled second third) : Respelled first second := by
  cases left with
  | same =>
      cases right with
      | same => exact .same _
      | unsupportedStatement same => exact .unsupportedStatement same.symm
      | unknownTable same => exact .unknownTable same.symm
      | unknownColumn same => exact .unknownColumn same.symm
  | unsupportedStatement same =>
      cases right with
      | same => exact .unsupportedStatement same
      | unsupportedStatement other => exact .unsupportedStatement (same.trans other.symm)
  | unknownTable same =>
      cases right with
      | same => exact .unknownTable same
      | unknownTable other => exact .unknownTable (same.trans other.symm)
  | unknownColumn same =>
      cases right with
      | same => exact .unknownColumn same
      | unknownColumn other => exact .unknownColumn (same.trans other.symm)

theorem sameNames_meet {first second third : List String} (left : List.Forall₂ SameName first third)
    (right : List.Forall₂ SameName second third) : List.Forall₂ SameName first second := by
  induction left generalizing second with
  | nil => cases right; exact .nil
  | cons same _ ih =>
      cases right with
      | cons other rest => exact .cons (same.trans other.symm) (ih rest)

theorem sameHeader_meet {first second third : Option (List String)} (left : SameHeader first third)
    (right : SameHeader second third) : SameHeader first second := by
  cases left with
  | none => cases right; exact .none
  | some same =>
      cases right with
      | some other => exact .some (sameNames_meet same other)

theorem Analysis.Respelled.meet {first second third : Analysis} (left : Respelled first third)
    (right : Respelled second third) : Respelled first second :=
  ⟨left.tables.trans right.tables.symm, sameHeader_meet left.columns right.columns⟩

theorem sameNames_refl (names : List String) : List.Forall₂ SameName names names :=
  List.forall₂_same.mpr fun name _ => .refl name

theorem sameHeader_refl (header : Option (List String)) : SameHeader header header := by
  cases header with
  | none => exact .none
  | some names => exact .some (sameNames_refl names)

theorem same_lower (name : String) : SameName name (lower name) :=
  (sameName_lower name).symm

end Relations

namespace Analysis

def Source.lower (source : Source) : Source :=
  ⟨source.ref.lower, source.table⟩

section Resolution

theorem resolveTable_lower (schema : Schema) (common : List String) (name : String) :
    Together Fault.Respelled Eq (resolveTable schema common name)
      (resolveTable schema (common.map lower) (lower name)) := by
  rw [resolveTable, resolveTable, isOneOf_lowered, Schema.table?_congr (sameName_lower name)]
  split
  · exact .ok rfl
  · cases schema.table? name with
    | none => exact .error (.unknownTable (same_lower name))
    | some table => exact .ok rfl

theorem resolveSource_lower (schema : Schema) (common : List String) (ref : TableRef) :
    Together Fault.Respelled (fun source small => source.lower = small)
      (resolveSource schema common ref) (resolveSource schema (common.map lower) ref.lower) :=
  (resolveTable_lower schema common ref.name).map fun _ _ same => same ▸ rfl

theorem hasColumn_lower (schema : Schema) (column table : String) :
    hasColumn schema (lower column) table = hasColumn schema column table := by
  simp only [hasColumn, sameName_lower_right]

theorem checkColumn_lower (schema : Schema) (tables : List String) (column : String) :
    Together Fault.Respelled Eq (checkColumn schema tables column)
      (checkColumn schema tables (lower column)) := by
  rw [checkColumn, checkColumn, funext (hasColumn_lower schema column)]
  split
  · exact .ok rfl
  · exact .error (.unknownColumn (same_lower column))

theorem checkTarget_lower (schema : Schema) (common : List String) (target : String × String) :
    Together Fault.Respelled Eq (checkTarget schema common target)
      (checkTarget schema (common.map lower) (lower target.1, lower target.2)) := by
  rw [checkTarget_eq_bind, checkTarget_eq_bind]
  refine (resolveTable_lower schema common target.1).bind ?_
  rintro table _ rfl
  cases table with
  | none => exact .ok rfl
  | some table => exact checkColumn_lower schema [table] target.2

end Resolution

section Header

theorem knownTables?_lower (sources : List Source) :
    knownTables? (sources.map Source.lower) = knownTables? sources := by
  rw [knownTables?, knownTables?, List.mapM_map]
  rfl

theorem answersTo_lower (qualifier : String) (source : Source) :
    source.lower.answersTo (lower qualifier) = source.answersTo qualifier := by
  cases named : source.ref.alias? <;>
    simp [Source.answersTo, Source.lower, TableRef.lower, named, sameName_lower_left,
      sameName_lower_right]

theorem qualified?_lower (sources : List Source) (qualifier : String) :
    qualified? (sources.map Source.lower) (lower qualifier) = qualified? sources qualifier := by
  rw [qualified?, qualified?, List.find?_map, Option.bind_map,
    show Source.answersTo (lower qualifier) ∘ Source.lower = Source.answersTo qualifier from
      funext (answersTo_lower qualifier)]
  rfl

theorem itemColumns_lower (schema : Schema) (sources : List Source) (item : SelectItem) :
    Together Fault.Respelled SameHeader (itemColumns schema sources item)
      (itemColumns schema (sources.map Source.lower) item.lower) := by
  have written : ∀ name, SameHeader (some [name]) (some [lower name]) :=
    fun name => .some (.cons (same_lower name) .nil)
  cases item with
  | star =>
      rw [SelectItem.lower, itemColumns, itemColumns, knownTables?_lower]
      exact .ok (sameHeader_refl _)
  | qualifiedStar qualifier =>
      rw [SelectItem.lower, itemColumns, itemColumns, qualified?_lower]
      exact .ok (sameHeader_refl _)
  | column name =>
      simp only [SelectItem.lower, itemColumns, knownTables?_lower]
      cases knownTables? sources with
      | none => exact .ok (written name)
      | some tables => exact (checkColumn_lower schema tables name).map fun _ _ _ => written name
  | qualifiedColumn qualifier name =>
      simp only [SelectItem.lower, itemColumns, qualified?_lower]
      cases qualified? sources qualifier with
      | none => exact .ok (written name)
      | some table => exact (checkColumn_lower schema [table] name).map fun _ _ _ => written name
  | aliased name => exact .ok (written name)
  | unnamed => exact .ok .none

/-- The header is that of the items, one after the other, if each item has one. -/
theorem sameHeader_joined {headers others : List (Option (List String))}
    (each : List.Forall₂ SameHeader headers others) :
    SameHeader ((headers.mapM id).map List.flatten) ((others.mapM id).map List.flatten) := by
  induction each with
  | nil => exact .some .nil
  | @cons header other headers others here _ ih =>
      rw [List.mapM_cons, List.mapM_cons]
      cases here with
      | none => exact .none
      | @some first second same =>
          revert ih
          cases headers.mapM id <;> cases others.mapM id <;> intro ih
          · exact .none
          · cases ih
          · cases ih
          · cases ih with
            | some rest => exact .some (List.rel_append same rest)

theorem header_lower (schema : Schema) (sources : List Source) (items : List SelectItem) :
    Together Fault.Respelled SameHeader (header schema sources items)
      (header schema (sources.map Source.lower) (items.map SelectItem.lower)) := by
  have each : Together Fault.Respelled (List.Forall₂ SameHeader)
      (items.mapM (itemColumns schema sources))
      ((items.map SelectItem.lower).mapM (itemColumns schema (sources.map Source.lower))) :=
    Together.mapM (List.forall₂_map_right_iff.mpr
      (List.forall₂_same.mpr fun item _ => itemColumns_lower schema sources item))
  exact each.map fun _ _ => sameHeader_joined

end Header

section Statement

theorem refs_lower (found : List Mention) :
    (found.map Mention.lower).filterMap Mention.ref? =
      (found.filterMap Mention.ref?).map TableRef.lower := by
  rw [List.filterMap_map, List.map_filterMap]
  exact congrArg (found.filterMap ·) (funext fun mention => by cases mention <;> rfl)

theorem targets_lower (found : List Mention) :
    (found.map Mention.lower).filterMap Mention.target? =
      (found.filterMap Mention.target?).map (Prod.map lower lower) := by
  rw [List.filterMap_map, List.map_filterMap]
  exact congrArg (found.filterMap ·) (funext fun mention => by cases mention <;> rfl)

theorem outermost_lower (sources : List Source) :
    outermost (sources.map Source.lower) = (outermost sources).map Source.lower :=
  List.filter_map

theorem tables_lower (sources : List Source) :
    (sources.map Source.lower).filterMap Source.table = sources.filterMap Source.table :=
  List.filterMap_map

theorem statementHeader_lower (schema : Schema) (kind : StatementKind) (sources : List Source)
    (tokens : List Token) :
    Together Fault.Respelled SameHeader (statementHeader schema kind sources tokens)
      (statementHeader schema kind (sources.map Source.lower) (tokens.map Token.lower)) := by
  rw [statementHeader, statementHeader, selectItems?_lower, outermost_lower]
  cases kind.isRead with
  | false => exact .ok .none
  | true =>
      cases selectItems? tokens with
      | none => exact .ok .none
      | some items => exact header_lower schema _ items

theorem ofTokens_lowered (schema : Schema) (kind : StatementKind) (tokens : List Token) :
    Together Fault.Respelled Analysis.Respelled (Analysis.ofTokens schema kind tokens)
      (Analysis.ofTokens schema kind (tokens.map Token.lower)) := by
  rw [ofTokens_eq_bind, ofTokens_eq_bind, commonTables_lower, mentions_lower, refs_lower,
    targets_lower]
  have resolved : Together Fault.Respelled (List.Forall₂ fun source small => source.lower = small)
      (((mentions tokens).filterMap Mention.ref?).mapM (resolveSource schema (commonTables tokens)))
      ((((mentions tokens).filterMap Mention.ref?).map TableRef.lower).mapM
        (resolveSource schema ((commonTables tokens).map lower))) :=
    Together.mapM (List.forall₂_map_right_iff.mpr
      (List.forall₂_same.mpr fun ref _ => resolveSource_lower schema _ ref))
  have checked : Together Fault.Respelled Eq
      (((mentions tokens).filterMap Mention.target?).forM (checkTarget schema (commonTables tokens)))
      ((((mentions tokens).filterMap Mention.target?).map (Prod.map lower lower)).forM
        (checkTarget schema ((commonTables tokens).map lower))) :=
    Together.forM (List.forall₂_map_right_iff.mpr
      (List.forall₂_same.mpr fun target _ => checkTarget_lower schema _ target))
  refine resolved.bind fun sources small each => ?_
  have same : sources.map Source.lower = small :=
    List.forall₂_eq_eq_eq ▸ List.forall₂_map_left_iff.mpr each
  subst same
  refine checked.bind fun _ _ _ => ?_
  refine (statementHeader_lower schema kind sources tokens).map fun _ _ alike => ⟨?_, alike⟩
  rw [tables_lower]

theorem ofText_lowered (schema : Schema) (kind : StatementKind) (text : String) :
    Together Fault.Respelled Analysis.Respelled (Analysis.ofText schema kind text)
      (Analysis.ofText schema kind (lower text)) := by
  rw [Analysis.ofText, Analysis.ofText, Token.ofText_lower]
  cases Token.ofText text with
  | error fault => exact .error (.same fault)
  | ok tokens => exact ofTokens_lowered schema kind tokens

end Statement

end Analysis

theorem Sql.StatementKind.ofText_lowered (text : String) :
    Together Fault.Respelled Eq (StatementKind.ofText text) (StatementKind.ofText (lower text)) := by
  have letters : (lower text).toList = text.toList.map Char.toLower := String.toList_ofList
  have capitals : ∀ word : List Char,
      (word.map Char.toLower).map Char.toUpper = word.map Char.toUpper := fun word => by
    rw [List.map_map]
    exact congrArg (word.map ·) (funext toUpper_toLower)
  rw [StatementKind.ofText, StatementKind.ofText, letters, leadingKeyword?_lower, firstWord_lower,
    ← lower_ofList]
  cases leadingKeyword? text.toList with
  | none => exact .error (.unsupportedStatement (same_lower _))
  | some word =>
      dsimp only [Option.map_some]
      rw [capitals]
      cases StatementKind.ofKeyword? (String.ofList (word.map Char.toUpper)) with
      | none => exact .error (.same _)
      | some kind => exact .ok rfl

/-- Texts that are the same ignoring case announce the same kind, or none. Their analyses
have the same tables, and headers that are both uncertain or list the same names ignoring
case; or both fail, with faults of one form that blame the same name. -/
theorem analysis_ignores_case {text other : String} (same : SameName text other) (schema : Schema)
    (kind : StatementKind) :
    Together Fault.Respelled Eq (StatementKind.ofText text) (StatementKind.ofText other) ∧
      Together Fault.Respelled Analysis.Respelled (Analysis.ofText schema kind text)
        (Analysis.ofText schema kind other) := by
  have small : lower other = lower text := same.lower_eq.symm
  have otherKind := StatementKind.ofText_lowered other
  have otherAnalysis := Analysis.ofText_lowered schema kind other
  rw [small] at otherKind otherAnalysis
  exact ⟨(StatementKind.ofText_lowered text).meet otherKind .meet fun left right =>
      left.trans right.symm,
    (Analysis.ofText_lowered schema kind text).meet otherAnalysis .meet .meet⟩

/-- One statement, spelled twice: a star lists the columns as the schema has them, and an
alias stands in the header as it is spelled. -/
theorem analysis_ignores_case_capitals :
    let schema := Schema.ofTables [⟨"Album", ["id", "title"]⟩]
    let text := "select a.*, TITLE as Name from album a where title = 'Low'"
    let other := "SELECT A.*, Title AS NAME FROM ALBUM A WHERE TITLE = 'LOW'"
    let header (text : String) := (Analysis.ofText schema .read text).map Analysis.columns
    SameName text other ∧ header text = .ok (some ["id", "title", "Name"]) ∧
      header other = .ok (some ["id", "title", "NAME"]) ∧
      Together Fault.Respelled Eq (StatementKind.ofText text) (StatementKind.ofText other) ∧
      Together Fault.Respelled Analysis.Respelled (Analysis.ofText schema .read text)
        (Analysis.ofText schema .read other) := by
  intro schema text other header
  have same : SameName text other := by decide +kernel
  exact ⟨same, by decide +kernel, by decide +kernel, analysis_ignores_case same schema .read⟩

end CheckedSql

import CheckedSql.Analysis.SelectList
import CheckedSql.Analysis.Source
import CheckedSql.Shape
import CheckedSql.Text.NameSet

namespace CheckedSql

open Sql Text Analysis

/-! What a statement reads and yields, found against a schema.

An item has columns only if its names are certain. A star needs every source to
be a schema table; a bare column is checked against all sources, and only then.
-/

structure Analysis where
  /-- The schema tables that the statement mentions. -/
  tables : NameSet
  /-- The header of its result, where that is certain. -/
  columns : Option (List String)
deriving DecidableEq

namespace Analysis

/-- The schema tables of all sources, if each source has one and there is one. -/
def knownTables? (sources : List Source) : Option (List String) :=
  match sources.mapM Source.table with
  | some (table :: tables) => some (table :: tables)
  | _ => none

/-- The columns of one item; none where they are not certain. -/
def itemColumns (schema : Schema) (sources : List Source) :
    SelectItem → Except Fault (Option (List String))
  | .star =>
      .ok ((knownTables? sources).map fun tables => tables.flatMap schema.columns)
  | .qualifiedStar qualifier =>
      .ok ((qualified? sources qualifier).map schema.columns)
  | .column name =>
      match knownTables? sources with
      | none => .ok (some [name])
      | some tables => (checkColumn schema tables name).map fun _ => some [name]
  | .qualifiedColumn qualifier name =>
      match qualified? sources qualifier with
      | none => .ok (some [name])
      | some table => (checkColumn schema [table] name).map fun _ => some [name]
  | .aliased name => .ok (some [name])
  | .unnamed => .ok none

/-- The header of a select list, if the columns of every item are certain. -/
def header (schema : Schema) (sources : List Source) (items : List SelectItem) :
    Except Fault (Option (List String)) :=
  (items.mapM (itemColumns schema sources)).map fun columns =>
    (columns.mapM id).map List.flatten

/-- The sources of the outermost statement. -/
def outermost (sources : List Source) : List Source :=
  sources.filter (·.ref.depth == 0)

/-- Unknown tables come before unknown written columns, and these before unknown
columns of the select list. -/
def ofTokens (schema : Schema) (kind : StatementKind) (tokens : List Token) :
    Except Fault Analysis := do
  let common := commonTables tokens
  let found := mentions tokens
  let sources ← (found.filterMap Mention.ref?).mapM (resolveSource schema common)
  (found.filterMap Mention.target?).forM (checkTarget schema common)
  let columns ←
    match kind.isRead, selectItems? tokens with
    | true, some items => header schema (outermost sources) items
    | _, _ => .ok none
  return ⟨NameSet.ofList (sources.filterMap Source.table), columns⟩

def ofText (schema : Schema) (kind : StatementKind) (text : String) : Except Fault Analysis := do
  ofTokens schema kind (← Token.ofText text)

end Analysis

end CheckedSql

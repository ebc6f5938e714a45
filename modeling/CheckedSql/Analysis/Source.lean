import CheckedSql.Analysis.Mention
import CheckedSql.Schema
import CheckedSql.Fault

namespace CheckedSql.Analysis

open Sql Text

/-- A reference with the schema table that it stands for; a common table stands for none. -/
structure Source where
  ref : TableRef
  table : Option String
deriving Repr, DecidableEq

/-- The schema table that a name stands for, none for a common table. -/
def resolveTable (schema : Schema) (common : List String) (name : String) :
    Except Fault (Option String) :=
  if isOneOf common name then .ok none
  else
    match schema.table? name with
    | some table => .ok (some table)
    | none => .error (.unknownTable name)

def hasColumn (schema : Schema) (column table : String) : Bool :=
  (schema.columns table).any fun known => decide (SameName known column)

def checkColumn (schema : Schema) (tables : List String) (column : String) : Except Fault Unit :=
  if tables.any (hasColumn schema column) then .ok ()
  else .error (.unknownColumn column tables)

def resolveSource (schema : Schema) (common : List String) (ref : TableRef) :
    Except Fault Source :=
  (resolveTable schema common ref.name).map (Source.mk ref)

/-- Checks that a written column belongs to its table, if that is a schema table. -/
def checkTarget (schema : Schema) (common : List String) (target : String × String) :
    Except Fault Unit :=
  match resolveTable schema common target.1 with
  | .error fault => .error fault
  | .ok none => .ok ()
  | .ok (some table) => checkColumn schema [table] target.2

def Source.answersTo (qualifier : String) (source : Source) : Bool :=
  source.ref.alias?.any (fun name => decide (SameName name qualifier)) ||
    decide (SameName source.ref.name qualifier)

/-- The schema table behind a qualifier: that of the first source that answers to
it. -/
def qualified? (sources : List Source) (qualifier : String) : Option String :=
  (sources.find? (Source.answersTo qualifier)).bind Source.table

theorem resolveTable_eq_ok_some {schema : Schema} {common : List String} {name table : String}
    (resolved : resolveTable schema common name = .ok (some table)) :
    table ∈ schema.names ∧ SameName table name := by
  unfold resolveTable at resolved
  split at resolved
  · cases resolved
  · split at resolved
    · rename_i found _
      cases resolved
      exact Schema.mem_names_of_table? ‹_›
    · cases resolved

end CheckedSql.Analysis

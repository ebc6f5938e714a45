import CheckedSql.Parameter
import CheckedSql.Result.Reader
import CheckedSql.Sql.Marker
import CheckedSql.Text.Basic

namespace CheckedSql.Sql

open Text

/-- The statement of a method. It is never blank. -/
structure MethodText where
  method : String
  text : String
  notBlank : allBlank text.toList = false

namespace MethodText

def of? (method text : String) : Except Fault MethodText :=
  if blank : allBlank text.toList = true then .error (.emptyQuery method)
  else .ok ⟨method, text, eq_false_of_ne_true blank⟩

theorem of?_eq_error_iff {method text : String} {fault : Fault} :
    of? method text = .error fault ↔ allBlank text.toList = true ∧ fault = .emptyQuery method := by
  unfold of?
  split
  · rename_i blank
    simp [blank, eq_comm]
  · rename_i notBlank
    simp [notBlank]

def markers? (statement : MethodText) : Except Fault (List Marker) :=
  Sql.markers? statement.text

end MethodText

end CheckedSql.Sql

namespace CheckedSql

open Sql

/-- A query as it is declared: a method name, its text, its parameters and what it
returns. -/
structure Definition where
  method : String
  text : String
  parameters : List Parameter
  returns : ReturnShape
deriving Repr, DecidableEq, Inhabited

structure Statement where
  text : String
  values : List Value
  kind : StatementKind
  /-- Reads the rows of the result. Only a read has one. -/
  reader : Option RowReader
deriving Repr, DecidableEq

inductive Outcome where
  | rows (result : RowSet)
  | affected (count : UInt64)
  | rowId (id : Int64)
deriving Repr, DecidableEq, Inhabited

def Outcome.reply : Outcome → Reply
  | .rows _ => .rowSet
  | .affected _ => .rowCount
  | .rowId _ => .rowId

/-- Runs a statement; a failure is a text. -/
abbrev Executor := Statement → Except String Outcome

end CheckedSql

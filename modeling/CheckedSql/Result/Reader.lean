import CheckedSql.Result.Mapping

namespace CheckedSql

open Sql

/-! Row sets read into the shape that a query returns.

A `RowReader` may carry a mapping planned for a known header. The plan is used
only for results under that very header, so it changes no answer.
-/

inductive Mapped where
  | scalar (value : Value)
  /-- A record by name, with the fields that a column feeds. -/
  | record (name : String) (fields : List (String × Value))
deriving Repr, DecidableEq, Inhabited

def Mapped.field? (name : String) : Mapped → Option Value
  | .scalar _ => none
  | .record _ fields => fields.lookup name

inductive Output where
  | unit
  | value (mapped : Mapped)
  | absent
  | list (items : List Mapped)
  | rowCount (count : UInt64)
  | rowId (id : Int64)
  | rows (result : RowSet)
deriving Repr, DecidableEq, Inhabited

structure RowReader where
  shape : ReturnShape
  planned : Option Mapping
deriving Repr, DecidableEq, Inhabited

inductive RowStrategy where
  | scalar (column : String) (type : ValueType) (nullable : Bool)
  | record (mapping : Mapping)
deriving Repr, DecidableEq

/-- Checks a value against the type of its place. An integer widens to a real. -/
def Value.checked (place : String) (expected : ValueType) (value : Value) :
    Except Fault Value :=
  match expected, value with
  | .real, .integer number => .ok (.real (Binary64.ofInteger number))
  | expected, value =>
      match value.type? with
      | none => .ok value
      | some found =>
          if found = expected then .ok value else .error (.columnType place expected found)

/-- Reads the cell of a place; a cell that the row lacks is `NULL`. -/
def Value.ofCell (place : String) (type : ValueType) (nullable : Bool) (cell : Option Value) :
    Except Fault Value :=
  let value := cell.getD .null
  if value.isNull && !nullable then .error (.unexpectedNull place)
  else value.checked place type

namespace RowStrategy

def readField (record : String) (row : List Value) (field : Field) (index : Nat) :
    Except Fault (String × Value) :=
  (Value.ofCell (record ++ "." ++ field.name) field.type field.nullable row[index]?).map
    (field.name, ·)

/-- Reads the fields that have a column, in declaration order. -/
def readFields (record : String) (row : List Value) :
    List (Field × Option Nat) → Except Fault (List (String × Value))
  | [] => .ok []
  | (_, none) :: rest => readFields record row rest
  | (field, some index) :: rest =>
      match readField record row field index with
      | .error fault => .error fault
      | .ok read => (readFields record row rest).map (read :: ·)

def readRow (row : List Value) : RowStrategy → Except Fault Mapped
  | .scalar column type nullable => (Value.ofCell column type nullable row[0]?).map .scalar
  | .record mapping => (readFields mapping.record row mapping.fields).map (.record mapping.record)

end RowStrategy

namespace RowReader

/-- Plans the reading of a shape; of a reactive shape, the shape that it observes.
With a known header, a scalar needs one column and a record a mapping. -/
def plan (shape : ReturnShape) (header : Option (List String)) : Except Fault RowReader :=
  let shape := shape.observed
  match shape.element, header with
  | .scalar _, some columns | .optionalScalar _, some columns =>
      if columns.length = 1 then .ok ⟨shape, none⟩
      else .error (.scalarColumnCount columns.length)
  | .record target, some columns | .optionalRecord target, some columns =>
      (Mapping.ofRecord target columns).map fun mapping => ⟨shape, some mapping⟩
  | _, _ => .ok ⟨shape, none⟩

def planFor? (reader : RowReader) (header : List String) : Option Mapping :=
  reader.planned.filter (·.columns == header)

def mappingOf (reader : RowReader) (target : Record) (header : List String) :
    Except Fault Mapping :=
  match reader.planFor? header with
  | some mapping => .ok mapping
  | none => Mapping.ofRecord target header

/-- The mapping for a result with this header, if rows are read into records. -/
def mappingFor (reader : RowReader) (header : List String) : Except Fault (Option Mapping) :=
  match reader.shape.element.record? with
  | none => .ok none
  | some target => (reader.mappingOf target header).map some

def scalarStrategy (type : ValueType) (nullable : Bool) : List String → Except Fault RowStrategy
  | [column] => .ok (.scalar column type nullable)
  | columns => .error (.unexpectedOutcome .read (.wideScalar columns.length))

def strategy (reader : RowReader) (header : List String) : Except Fault RowStrategy :=
  match reader.shape.element with
  | .scalar type => scalarStrategy type false header
  | .optionalScalar type => scalarStrategy type true header
  | .record target | .optionalRecord target => (reader.mappingOf target header).map .record
  | other => .error (.incompatibleReturn .read other)

/-- Reads every row by itself. A result without rows is read whatever its header. -/
def readRows (reader : RowReader) (result : RowSet) :
    Except Fault (List (Except Fault Mapped)) :=
  if result.rows.isEmpty then .ok []
  else (reader.strategy result.columns).map fun strategy =>
    result.rows.map strategy.readRow

def readFirst (reader : RowReader) (result : RowSet) : Except Fault (Option Mapped) := do
  (← reader.readRows result).head?.mapM id

def readAll (reader : RowReader) (result : RowSet) : Except Fault (List Mapped) := do
  (← reader.readRows result).mapM id

def read (reader : RowReader) (result : RowSet) : Except Fault Output :=
  match reader.shape with
  | .rows => .ok (.rows result)
  | .collection _ => (reader.readAll result).map .list
  | .scalar _ | .record _ =>
      match reader.readFirst result with
      | .error fault => .error fault
      | .ok none => .error .emptyResult
      | .ok (some mapped) => .ok (.value mapped)
  | .optionalScalar _ | .optionalRecord _ =>
      match reader.readFirst result with
      | .error fault => .error fault
      | .ok none | .ok (some (.scalar .null)) => .ok .absent
      | .ok (some mapped) => .ok (.value mapped)
  | other => .error (.incompatibleReturn .read other)

/-- Whether the first row has no value to show: its first cell is missing or
`NULL`. -/
def firstCellNull (rows : List (List Value)) : Bool :=
  match rows with
  | (value :: _) :: _ => value.isNull
  | _ => true

def skips (shape : ReturnShape) (result : RowSet) : Bool :=
  match shape with
  | .scalar _ => firstCellNull result.rows
  | .record _ => result.rows.isEmpty
  | _ => false

/-- Reads a result for an observer; absence is none where the shape cannot say it. -/
def readObserved (reader : RowReader) (result : RowSet) : Except Fault (Option Output) :=
  if skips reader.shape result then .ok none else (reader.read result).map some

end RowReader

end CheckedSql

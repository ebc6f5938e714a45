import CheckedSql.Value.Basic

namespace CheckedSql.Sql

inductive StatementKind where
  | read
  | insert
  | update
  | delete
deriving Repr, DecidableEq, Inhabited

namespace StatementKind

def display : StatementKind → String
  | .read => "SELECT"
  | .insert => "INSERT"
  | .update => "UPDATE"
  | .delete => "DELETE"

def isRead : StatementKind → Bool
  | .read => true
  | _ => false

/-- The kind that a statement's first keyword announces, written in capitals. -/
def ofKeyword? : String → Option StatementKind
  | "SELECT" | "WITH" => some .read
  | "INSERT" | "REPLACE" => some .insert
  | "UPDATE" => some .update
  | "DELETE" => some .delete
  | _ => none

end StatementKind

end CheckedSql.Sql

namespace CheckedSql

open Sql

/-- A field of a record. It is fed by the column of its own name, or else by the
column that `column` names. -/
structure Field where
  name : String
  type : ValueType
  nullable : Bool
  column : Option String
deriving Repr, DecidableEq, Inhabited

structure Record where
  name : String
  fields : List Field
deriving Repr, DecidableEq, Inhabited

inductive ReturnShape where
  | void
  | scalar (type : ValueType)
  | optionalScalar (type : ValueType)
  | record (target : Record)
  | optionalRecord (target : Record)
  | collection (element : ReturnShape)
  | reactive (value : ReturnShape)
  | rowCount
  | rowId
  | rows
deriving Repr, DecidableEq, Inhabited

namespace ReturnShape

def display : ReturnShape → String
  | .void => "void"
  | .scalar type => type.display
  | .optionalScalar type => "optional " ++ type.display
  | .record target => "record " ++ target.name
  | .optionalRecord target => "optional record " ++ target.name
  | .collection element => "collection of " ++ element.display
  | .reactive value => "observable " ++ value.display
  | .rowCount => "affected row count"
  | .rowId => "row id"
  | .rows => "raw rows"

def isReactive : ReturnShape → Bool
  | .reactive _ => true
  | _ => false

/-- The shape of one emission; a shape that is not reactive stands for itself. -/
def observed : ReturnShape → ReturnShape
  | .reactive value => value
  | shape => shape

/-- The shape of one row; a shape that is not a collection stands for itself. -/
def element : ReturnShape → ReturnShape
  | .collection element => element
  | shape => shape

/-- The record that rows are read into, if any. -/
def record? : ReturnShape → Option Record
  | .record target | .optionalRecord target => some target
  | .collection element => element.record?
  | .reactive value => value.record?
  | _ => none

/-- Whether a result without rows is a value of the shape. -/
def toleratesEmpty : ReturnShape → Bool
  | .optionalScalar _ | .optionalRecord _ | .collection _ | .rows => true
  | .reactive value => value.toleratesEmpty
  | _ => false

def isReadElement : ReturnShape → Bool
  | .scalar _ | .optionalScalar _ | .record _ => true
  | _ => false

/-- The shapes that one result of a read can take. -/
def isReadValue : ReturnShape → Bool
  | .scalar _ | .optionalScalar _ | .record _ | .optionalRecord _ | .rows => true
  | .collection element => element.isReadElement
  | _ => false

def permits (kind : StatementKind) (shape : ReturnShape) : Bool :=
  match kind, shape with
  | .read, shape => shape.observed.isReadValue
  | .insert, .void | .insert, .rowId => true
  | .update, .void | .update, .rowCount => true
  | .delete, .void | .delete, .rowCount => true
  | _, _ => false

inductive ReadElement : ReturnShape → Prop where
  | scalar (type : ValueType) : ReadElement (.scalar type)
  | optionalScalar (type : ValueType) : ReadElement (.optionalScalar type)
  | record (target : Record) : ReadElement (.record target)

inductive ReadValue : ReturnShape → Prop where
  | element {shape : ReturnShape} (single : ReadElement shape) : ReadValue shape
  | optionalRecord (target : Record) : ReadValue (.optionalRecord target)
  | rows : ReadValue .rows
  | collection {element : ReturnShape} (single : ReadElement element) :
      ReadValue (.collection element)

inductive Permitted : StatementKind → ReturnShape → Prop where
  | read {shape : ReturnShape} (value : ReadValue shape) : Permitted .read shape
  | observed {shape : ReturnShape} (value : ReadValue shape) : Permitted .read (.reactive shape)
  | inserted : Permitted .insert .rowId
  | counted {kind : StatementKind} (changes : kind = .update ∨ kind = .delete) :
      Permitted kind .rowCount
  | silent {kind : StatementKind} (writes : kind ≠ .read) : Permitted kind .void

theorem isReadElement_iff {shape : ReturnShape} :
    shape.isReadElement = true ↔ ReadElement shape := by
  constructor
  · intro accepted
    cases shape <;> first | exact .scalar _ | exact .optionalScalar _ | exact .record _ | cases accepted
  · rintro (_ | _ | _) <;> rfl

theorem isReadValue_iff {shape : ReturnShape} :
    shape.isReadValue = true ↔ ReadValue shape := by
  constructor
  · intro accepted
    cases shape with
    | scalar type => exact .element (.scalar type)
    | optionalScalar type => exact .element (.optionalScalar type)
    | record target => exact .element (.record target)
    | optionalRecord target => exact .optionalRecord target
    | rows => exact .rows
    | collection element => exact .collection (isReadElement_iff.mp accepted)
    | _ => cases accepted
  · rintro (single | _ | _ | single)
    · cases single <;> rfl
    · rfl
    · rfl
    · exact isReadElement_iff.mpr single

theorem permits_iff {kind : StatementKind} {shape : ReturnShape} :
    permits kind shape = true ↔ Permitted kind shape := by
  constructor
  · intro accepted
    cases kind with
    | read =>
        cases shape with
        | reactive value => exact .observed (isReadValue_iff.mp accepted)
        | _ => exact .read (isReadValue_iff.mp accepted)
    | insert => cases shape <;> first | exact .inserted | exact .silent (by decide) | cases accepted
    | update => cases shape <;> first | exact .counted (.inl rfl) | exact .silent (by decide) | cases accepted
    | delete => cases shape <;> first | exact .counted (.inr rfl) | exact .silent (by decide) | cases accepted
  · rintro (value | value | _ | changes | writes)
    · cases value with
      | element single => cases single <;> rfl
      | collection single => exact isReadElement_iff.mpr single
      | _ => rfl
    · exact isReadValue_iff.mpr value
    · rfl
    · rcases changes with rfl | rfl <;> rfl
    · cases kind <;> first | rfl | exact absurd rfl writes

end ReturnShape

end CheckedSql

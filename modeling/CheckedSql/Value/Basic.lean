import CheckedSql.Value.Binary64

namespace CheckedSql

inductive ValueType where
  | integer
  | real
  | text
  | blob
deriving Repr, DecidableEq, Inhabited

def ValueType.display : ValueType → String
  | .integer => "integer"
  | .real => "real"
  | .text => "text"
  | .blob => "blob"

inductive Value where
  | null
  | integer (value : Int64)
  | real (value : Binary64)
  | text (value : String)
  | blob (bytes : List UInt8)
deriving Repr, DecidableEq, Inhabited

namespace Value

/-- The type of a value. `NULL` has none. -/
def type? : Value → Option ValueType
  | .null => none
  | .integer _ => some .integer
  | .real _ => some .real
  | .text _ => some .text
  | .blob _ => some .blob

def isNull : Value → Bool
  | .null => true
  | _ => false

def asInteger? : Value → Option Int64
  | .integer value => some value
  | _ => none

def asText? : Value → Option String
  | .text value => some value
  | _ => none

theorem isNull_iff {value : Value} : value.isNull = true ↔ value = .null := by
  cases value <;> simp [isNull]

theorem isNull_iff_type?_eq_none {value : Value} : value.isNull = true ↔ value.type? = none := by
  cases value <;> simp [isNull, type?]

end Value

/-- A header and rows under it. A row may have more or fewer cells than the
header has columns. -/
structure RowSet where
  columns : List String
  rows : List (List Value)
deriving Repr, DecidableEq, Inhabited

def RowSet.empty : RowSet := ⟨[], []⟩

end CheckedSql

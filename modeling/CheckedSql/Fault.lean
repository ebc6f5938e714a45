import CheckedSql.Shape

namespace CheckedSql

open Sql

inductive MarkerFault where
  | unclosedQuote
  | nameStartsWithDigit
  | missingName
deriving Repr, DecidableEq

def MarkerFault.reason : MarkerFault → String
  | .unclosedQuote => "unterminated quoted literal"
  | .nameStartsWithDigit => "bind parameter name must not start with a digit"
  | .missingName => "expected a parameter name after ':'"

/-- Why a supplied argument does not fit its parameter. -/
inductive Misfit where
  | singleForCollection
  | collectionForSingle
  | wrongType (declared found : ValueType)
deriving Repr, DecidableEq

def Misfit.reason : Misfit → String
  | .singleForCollection => "expected a collection, got a single value"
  | .collectionForSingle => "expected a single value, got a collection"
  | .wrongType declared found => "expected " ++ declared.display ++ ", got " ++ found.display

/-- Why a column cannot be given to a single field. -/
inductive ColumnClash where
  | nameAndOverride (field column : String)
  | sharedByFields (first second : String)
deriving Repr, DecidableEq

def ColumnClash.reason : ColumnClash → String
  | .nameAndOverride field column =>
      "field '" ++ field ++ "' matches both '" ++ column ++ "' and its override"
  | .sharedByFields first second =>
      "claimed by fields '" ++ first ++ "' and '" ++ second ++ "'"

/-- What an executor replied where something else was due. -/
inductive Reply where
  | rowSet
  | rowCount
  | rowId
  | largeRowId (id : Nat)
  | wideScalar (columns : Nat)
deriving Repr, DecidableEq

def Reply.display : Reply → String
  | .rowSet => "a row set"
  | .rowCount => "an affected row count"
  | .rowId => "a row id"
  | .largeRowId id => s!"row id {id} out of range"
  | .wideScalar columns => s!"{columns} columns for a scalar result"

inductive Fault where
  | duplicateMethod (method : String)
  | emptyQuery (method : String)
  | malformedQuery (offset : Nat) (cause : MarkerFault)
  | unresolvedParameter (name : String)
  | unusedParameter (name : String)
  | ambiguousParameter (name : String) (rivals : List String)
  | tooManyParameters (required limit : Nat) (fromCollection : Bool)
  | unsupportedStatement (keyword : String)
  | incompatibleReturn (kind : StatementKind) (shape : ReturnShape)
  | notObservable (kind : StatementKind) (shape : ReturnShape)
  | unknownTable (table : String)
  | unknownColumn (column : String) (tables : List String)
  | noMatchingColumns (record : String) (columns : List String)
  | ambiguousColumn (record column : String) (clash : ColumnClash)
  | scalarColumnCount (columns : Nat)
  | columnType (column : String) (expected found : ValueType)
  | emptyResult
  | unexpectedNull (place : String)
  | missingArgument (name : String)
  | argumentMismatch (name : String) (misfit : Misfit)
  | missingPositional (index : Nat)
  | extraPositional (supplied markers : Nat)
  | unexpectedOutcome (kind : StatementKind) (found : Reply)
  | database (reason : String)
  | executor (reason : String)
deriving Repr, DecidableEq

namespace Fault

def listed (names : List String) : String :=
  String.intercalate ", " names

def message : Fault → String
  | .duplicateMethod method =>
      "Method '" ++ method ++ "' is already registered with a different query"
  | .emptyQuery method => "Query for '" ++ method ++ "' is empty"
  | .malformedQuery offset cause => s!"Malformed query at offset {offset}: {cause.reason}"
  | .unresolvedParameter name =>
      "Placeholder ':" ++ name ++ "' does not match any method parameter"
  | .unusedParameter name => "Parameter '" ++ name ++ "' is not used by the query"
  | .ambiguousParameter name rivals =>
      "Parameter '" ++ name ++ "' is ambiguous with: " ++ listed rivals
  | .tooManyParameters required limit _ =>
      s!"Query needs {required} bind parameters, the limit is {limit}"
  | .unsupportedStatement keyword => "Unsupported statement kind '" ++ keyword ++ "'"
  | .incompatibleReturn kind shape =>
      "A " ++ kind.display ++ " statement cannot return " ++ shape.display
  | .notObservable kind shape =>
      "A " ++ kind.display ++ " statement cannot return " ++ shape.display ++ " as an observable"
  | .unknownTable table => "Unknown table '" ++ table ++ "'"
  | .unknownColumn column tables => "Unknown column '" ++ column ++ "' in " ++ listed tables
  | .noMatchingColumns record columns =>
      "No result column matches a field of '" ++ record ++ "' (columns: " ++ listed columns ++ ")"
  | .ambiguousColumn record column clash =>
      "Column '" ++ column ++ "' is ambiguous for '" ++ record ++ "': " ++ clash.reason
  | .scalarColumnCount columns => s!"Scalar result expects exactly one column, found {columns}"
  | .columnType column expected found =>
      "Column '" ++ column ++ "' should hold " ++ expected.display ++ ", found " ++ found.display
  | .emptyResult => "Query returned no rows for a non-optional result"
  | .unexpectedNull place => "Unexpected NULL for '" ++ place ++ "'"
  | .missingArgument name => "No argument supplied for parameter '" ++ name ++ "'"
  | .argumentMismatch name misfit =>
      "Argument for parameter '" ++ name ++ "' does not fit its declaration: " ++ misfit.reason
  | .missingPositional index => s!"No argument supplied for parameter '?{index}'"
  | .extraPositional supplied markers =>
      s!"Argument for parameter '?' does not fit its declaration: " ++
        s!"{supplied} positional values supplied for {markers} markers"
  | .unexpectedOutcome kind found =>
      "Executor returned " ++ found.display ++ " for a " ++ kind.display ++ " statement"
  | .database reason => "Database error: " ++ reason
  | .executor reason => "Executor error: " ++ reason

/-- Whether a fault lies in the definition of a query, and so is permanent. A
parameter ceiling is one only if no collection argument took part. -/
def atDefinition : Fault → Bool
  | .duplicateMethod _ | .emptyQuery _ | .malformedQuery _ _ | .unresolvedParameter _
  | .unusedParameter _ | .ambiguousParameter _ _ | .unsupportedStatement _
  | .incompatibleReturn _ _ | .notObservable _ _ | .unknownTable _ | .unknownColumn _ _
  | .noMatchingColumns _ _ | .ambiguousColumn _ _ _ | .scalarColumnCount _ => true
  | .tooManyParameters _ _ fromCollection => !fromCollection
  | _ => false

/-- Checks that a statement of this kind may return this shape. -/
def checkReturn (kind : StatementKind) (shape : ReturnShape) : Except Fault Unit :=
  if ReturnShape.permits kind shape then .ok () else .error (.incompatibleReturn kind shape)

theorem checkReturn_eq_ok_iff {kind : StatementKind} {shape : ReturnShape} :
    checkReturn kind shape = .ok () ↔ ReturnShape.Permitted kind shape := by
  unfold checkReturn
  rw [← ReturnShape.permits_iff]
  split <;> simp [*]

end Fault

end CheckedSql

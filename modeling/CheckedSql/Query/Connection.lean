import CheckedSql.Query.Prepared

namespace CheckedSql

open Sql

/-! Queries run on a database connection.

A statement is handed over as its text, with its values bound in their order
(`Statement.toQuery`). A connection answers a read with rows and a write with a report
of what changed. The outcome of a write is its last row id for an insertion and its row
count for the others. What a cell holds is found by reading it as one type after another.
-/

structure ChangeReport where
  lastRowId : UInt64
  affected : UInt64
deriving Repr, DecidableEq, Inhabited

inductive ConnectionFailure where
  /-- Data that the connection did not expect. -/
  | protocol (reason : String)
  /-- Any other failure, by its wording. -/
  | other (wording : String)
deriving Repr, DecidableEq

def ConnectionFailure.display : ConnectionFailure → String
  | .protocol reason => "encountered unexpected or invalid data: " ++ reason
  | .other wording => wording

/-- What a cell reads as, none for `NULL`. A decimal and a time are read as they are
displayed. -/
structure FoundCell where
  column : String
  signed : Except ConnectionFailure (Option Int64)
  unsigned : Except ConnectionFailure (Option UInt64)
  real : Except ConnectionFailure (Option Binary64)
  text : Except ConnectionFailure (Option String)
  decimal : Except ConnectionFailure (Option String)
  dateTime : Except ConnectionFailure (Option String)
  date : Except ConnectionFailure (Option String)
  time : Except ConnectionFailure (Option String)
  bytes : Except ConnectionFailure (Option (List UInt8))

/-- An integer if a signed word holds it, otherwise its digits. -/
def Value.ofUnsigned (number : UInt64) : Value :=
  if number ≤ Int64.maxValue.toUInt64 then .integer number.toInt64
  else .text (toString number.toNat)

namespace FoundCell

/-- The value of a cell by one type, `NULL` where that type reads none. -/
def readAs {Content : Type} (value : Content → Value)
    (content : Except ConnectionFailure (Option Content)) : Except ConnectionFailure Value :=
  content.map fun content? => (content?.map value).getD .null

/-- The value by the first type that the cell reads as. -/
def value (cell : FoundCell) : Except ConnectionFailure Value :=
  readAs .integer cell.signed <|> readAs .ofUnsigned cell.unsigned <|> readAs .real cell.real <|>
    readAs .text cell.text <|> readAs .text cell.decimal <|> readAs .text cell.dateTime <|>
    readAs .text cell.date <|> readAs .text cell.time <|> readAs .blob cell.bytes

end FoundCell

/-- The header is that of the first row; without rows there is none. -/
def RowSet.ofFound (rows : List (List FoundCell)) : Except ConnectionFailure RowSet :=
  (rows.mapM (List.mapM FoundCell.value)).map fun values =>
    ⟨(rows.head?.map (·.map FoundCell.column)).getD [], values⟩

/-- An argument of a database query. An integer that is not there is `NULL`. -/
inductive QueryArgument where
  | integer (number? : Option Int64)
  | real (number : Binary64)
  | text (content : String)
  | blob (bytes : List UInt8)
deriving Repr, DecidableEq

/-- A text with markers and the arguments for them, in their order. -/
structure DatabaseQuery where
  text : String
  arguments : List QueryArgument
deriving Repr, DecidableEq

namespace DatabaseQuery

def bind (query : DatabaseQuery) (argument : QueryArgument) : DatabaseQuery :=
  { query with arguments := query.arguments ++ [argument] }

def bindValue (query : DatabaseQuery) : Value → DatabaseQuery
  | .null => query.bind (.integer none)
  | .integer number => query.bind (.integer (some number))
  | .real number => query.bind (.real number)
  | .text content => query.bind (.text content)
  | .blob bytes => query.bind (.blob bytes)

end DatabaseQuery

/-- The values of a statement, bound one after the other to its text. -/
def Statement.toQuery (statement : Statement) : DatabaseQuery :=
  statement.values.foldl DatabaseQuery.bindValue ⟨statement.text, []⟩

/-- A connection with effects of its own: what it finds by a query, and what it changes. -/
structure Connection (m : Type → Type) where
  select : DatabaseQuery → m (Except ConnectionFailure (List (List FoundCell)))
  modify : DatabaseQuery → m (Except ConnectionFailure ChangeReport)

namespace Connection

/-- A connection that finds no rows and changes none. -/
def idle : Connection Id :=
  ⟨fun _ => .ok [], fun _ => .ok ⟨0, 0⟩⟩

def failing (failure : ConnectionFailure) : Connection Id :=
  ⟨fun _ => .error failure, fun _ => .error failure⟩

/-- A connection that also notes the queries it is handed. -/
def noted (connection : Connection Id) : Connection (StateM (List DatabaseQuery)) :=
  ⟨Call.noted connection.select, Call.noted connection.modify⟩

def failed (failure : ConnectionFailure) : Fault :=
  .database failure.display

/-- The row id of an insertion, if a signed word holds it. -/
def insertedId (report : ChangeReport) : Except Fault Outcome :=
  if report.lastRowId ≤ Int64.maxValue.toUInt64 then .ok (.rowId report.lastRowId.toInt64)
  else .error (.unexpectedOutcome .insert (.largeRowId report.lastRowId.toNat))

/-- The outcome of a read by the rows that were found. -/
def found (rows : Except ConnectionFailure (List (List FoundCell))) : Except Fault Outcome :=
  ((rows >>= RowSet.ofFound).mapError failed).map .rows

def inserted (report : Except ConnectionFailure ChangeReport) : Except Fault Outcome :=
  report.mapError failed >>= insertedId

def changed (report : Except ConnectionFailure ChangeReport) : Except Fault Outcome :=
  (report.mapError failed).map (.affected ·.affected)

/-- Hands over the query of a statement, in the way that its kind asks for. -/
def run {m : Type → Type} [Monad m] (connection : Connection m) (statement : Statement) :
    m (Except Fault Outcome) :=
  match statement.kind with
  | .read => found <$> connection.select statement.toQuery
  | .insert => inserted <$> connection.modify statement.toQuery
  | .update | .delete => changed <$> connection.modify statement.toQuery

end Connection

namespace PreparedQuery

/-- Binds, runs on a connection and reads a call. A fault of binding is found before
anything reaches the connection. -/
def fetchOn {m : Type → Type} [Monad m] (query : PreparedQuery) (connection : Connection m)
    (arguments : Arguments) : m (Except Fault Output) :=
  match query.bind arguments with
  | .error fault => return .error fault
  | .ok statement => (· >>= query.output) <$> connection.run statement

def fetch (query : PreparedQuery) (connection : Connection Id) (arguments : Arguments) :
    Call DatabaseQuery Output :=
  .ofNoted (query.fetchOn connection.noted arguments)

end PreparedQuery

end CheckedSql

import CheckedSql.Analysis.Statement
import CheckedSql.Binding
import CheckedSql.Query.Statement
import CheckedSql.Sql.LeadingKeyword

namespace CheckedSql

open Sql

/-! Queries that have been checked against a schema.

`compile` makes every check that needs no arguments. What is left for a call is to
bind its arguments and to read the outcome; `execute` does both, and `observe` is
`execute` for an observer, to whom the absence of a strict value is no value.
-/

structure PreparedQuery where
  definition : Definition
  template : Template
  /-- The parameters that the statement uses, in the order of their first use. -/
  parameters : List Parameter
  kind : StatementKind
  analysis : Analysis
  reader : Option RowReader
  limit : Nat
deriving DecidableEq

/-- What a call did: what its executor was handed, in order, and its result. -/
structure Call (Handed Result : Type) where
  ran : List Handed
  result : Except Fault Result

namespace Call

variable {Handed Answer Result : Type}

/-- Answers and notes what it was handed. -/
def noted (answer : Handed → Answer) (handed : Handed) : StateM (List Handed) Answer :=
  modifyGet fun before => (answer handed, before ++ [handed])

/-- A call on an executor that notes what it is handed. -/
def ofNoted (steps : StateM (List Handed) (Except Fault Result)) : Call Handed Result :=
  let (result, ran) := steps.run []
  ⟨ran, result⟩

end Call

namespace PreparedQuery

def checkFixedCount (limit : Nat) (slots : List Slot) (parameters : List Parameter) :
    Except Fault Unit :=
  match Binding.fixedCount? slots parameters with
  | none => .ok ()
  | some required => Binding.checkCeiling limit required false

def planReader (kind : StatementKind) (returns : ReturnShape) (header : Option (List String)) :
    Except Fault (Option RowReader) :=
  if kind.isRead then (RowReader.plan returns header).map some else .ok none

def compile (schema : Schema) (settings : Settings) (definition : Definition) :
    Except Fault PreparedQuery := do
  let statement ← MethodText.of? definition.method definition.text
  let markers ← statement.markers?
  let slots := markers.map Marker.slot
  let parameters ←
    Parameter.resolve settings.unused (slots.filterMap Slot.name?) definition.parameters
  let kind ← StatementKind.ofText statement.text
  Fault.checkReturn kind definition.returns
  let analysis ← Analysis.ofText schema kind statement.text
  checkFixedCount settings.maxParameters slots parameters
  let reader ← planReader kind definition.returns analysis.columns
  return { definition, template := .ofText statement.text, parameters, kind, analysis, reader,
           limit := settings.maxParameters }

/-- The mapping planned for the header that was found, if any. -/
def mapping? (query : PreparedQuery) : Option Mapping :=
  query.reader.bind RowReader.planned

def bind (query : PreparedQuery) (arguments : Arguments) : Except Fault Statement :=
  (Binding.bind query.template query.parameters arguments query.limit).map fun binding =>
    ⟨binding.text, binding.values, query.kind, query.reader⟩

def rowReader (query : PreparedQuery) : Except Fault RowReader :=
  match query.reader with
  | some reader => .ok reader
  | none => .error (.unexpectedOutcome query.kind .rowSet)

/-- Reads an outcome as the declared shape. -/
def output (query : PreparedQuery) (outcome : Outcome) : Except Fault Output :=
  match query.kind, outcome, query.definition.returns with
  | .read, .rows result, _ => do (← query.rowReader).read result
  | .insert, .rowId id, .rowId => .ok (.rowId id)
  | .update, .affected count, .rowCount | .delete, .affected count, .rowCount =>
      .ok (.rowCount count)
  | .insert, .affected _, .void | .insert, .rowId _, .void
  | .update, .affected _, .void | .update, .rowId _, .void
  | .delete, .affected _, .void | .delete, .rowId _, .void => .ok .unit
  | kind, outcome, _ => .error (.unexpectedOutcome kind outcome.reply)

/-- Reads an outcome for an observer. -/
def outputObserved (query : PreparedQuery) (outcome : Outcome) : Except Fault (Option Output) :=
  match outcome with
  | .rows result => do (← query.rowReader).readObserved result
  | outcome => (query.output outcome).map some

/-- Reads what an executor answered; its failure is passed on as it is. -/
def readReply (read : Outcome → Except Fault Result) :
    Except String Outcome → Except Fault Result
  | .error reason => .error (.executor reason)
  | .ok outcome => read outcome

section Running

variable {m : Type → Type} [Monad m]

/-- Hands a statement to an executor with effects of its own, and reads the answer. -/
def runOn (query : PreparedQuery) (executor : Statement → m (Except String Outcome))
    (statement : Statement) : m (Except Fault Output) :=
  readReply query.output <$> executor statement

/-- Binds and runs a call. A fault of binding is found before anything is handed over. -/
def executeOn (query : PreparedQuery) (executor : Statement → m (Except String Outcome))
    (arguments : Arguments) : m (Except Fault Output) :=
  match query.bind arguments with
  | .error fault => return .error fault
  | .ok statement => query.runOn executor statement

end Running

def run (query : PreparedQuery) (executor : Executor) (statement : Statement) :
    Except Fault Output :=
  Id.run (query.runOn (fun statement => pure (executor statement)) statement)

def execute (query : PreparedQuery) (executor : Executor) (arguments : Arguments) :
    Call Statement Output :=
  .ofNoted (query.executeOn (Call.noted executor) arguments)

theorem run_eq (query : PreparedQuery) (executor : Executor) (statement : Statement) :
    query.run executor statement = readReply query.output (executor statement) :=
  rfl

theorem execute_of_refused {query : PreparedQuery} {arguments : Arguments} {fault : Fault}
    (refused : query.bind arguments = .error fault) (executor : Executor) :
    query.execute executor arguments = ⟨[], .error fault⟩ := by
  rw [execute, executeOn, refused]
  rfl

theorem execute_of_bound {query : PreparedQuery} {arguments : Arguments} {statement : Statement}
    (bound : query.bind arguments = .ok statement) (executor : Executor) :
    query.execute executor arguments = ⟨[statement], query.run executor statement⟩ := by
  rw [execute, executeOn, bound]
  rfl

/-- The statement of an observation, bound once for all its evaluations. -/
def bindObserved (query : PreparedQuery) (arguments : Arguments) : Except Fault Statement :=
  if query.definition.returns.isReactive then query.bind arguments
  else .error (.notObservable query.kind query.definition.returns)

end PreparedQuery

end CheckedSql

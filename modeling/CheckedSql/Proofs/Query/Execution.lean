import CheckedSql.Proofs.Query.Phases
import CheckedSql.Query.Connection

namespace CheckedSql

open Sql

/-- The outcome of a statement that finds nothing and changes nothing. -/
def Outcome.idle : StatementKind → Outcome
  | .read => .rows .empty
  | .insert => .rowId 0
  | .update | .delete => .affected 0

def Executor.idle : Executor :=
  fun statement => .ok (.idle statement.kind)

/-- No rows, no row id and no changes, as a value of a shape. -/
def ReturnShape.idle : ReturnShape → Except Fault Output
  | .void => .ok .unit
  | .rowId => .ok (.rowId 0)
  | .rowCount => .ok (.rowCount 0)
  | .rows => .ok (.rows .empty)
  | .collection _ => .ok (.list [])
  | .optionalScalar _ | .optionalRecord _ => .ok .absent
  | .scalar _ | .record _ => .error .emptyResult
  | .reactive value => value.idle

/-- The value that an argument stands for. -/
def QueryArgument.value : QueryArgument → Value
  | .integer none => .null
  | .integer (some number) => .integer number
  | .real number => .real number
  | .text content => .text content
  | .blob bytes => .blob bytes

/-- Binding values leaves the text as it is and adds them behind those bound before. -/
theorem DatabaseQuery.foldl_bindValue (values : List Value) (query : DatabaseQuery) :
    (values.foldl bindValue query).text = query.text ∧
      (values.foldl bindValue query).arguments.map QueryArgument.value =
        query.arguments.map QueryArgument.value ++ values := by
  induction values generalizing query with
  | nil => simp
  | cons value values ih =>
      obtain ⟨text, arguments⟩ := ih (query.bindValue value)
      rw [List.foldl_cons]
      constructor
      · rw [text]
        cases value <;> rfl
      · rw [arguments]
        cases value <;> simp [bindValue, bind, QueryArgument.value]

theorem Statement.toQuery_text (statement : Statement) : statement.toQuery.text = statement.text :=
  (DatabaseQuery.foldl_bindValue statement.values ⟨statement.text, []⟩).1

theorem Statement.toQuery_values (statement : Statement) :
    statement.toQuery.arguments.map QueryArgument.value = statement.values :=
  (DatabaseQuery.foldl_bindValue statement.values ⟨statement.text, []⟩).2

namespace Connection

variable {connection : Connection Id} {statement : Statement} {failure : ConnectionFailure}

/-- How a connection fails at a statement. -/
inductive Fails (connection : Connection Id) (statement : Statement)
    (failure : ConnectionFailure) : Prop
  | selecting (read : statement.kind = .read)
      (failed : (connection.select statement.toQuery).run = .error failure)
  | decoding (read : statement.kind = .read) {rows : List (List FoundCell)}
      (found : (connection.select statement.toQuery).run = .ok rows)
      (failed : RowSet.ofFound rows = .error failure)
  | modifying (writes : statement.kind ≠ .read)
      (failed : (connection.modify statement.toQuery).run = .error failure)

theorem run_read {m : Type → Type} [Monad m] (connection : Connection m)
    (read : statement.kind = .read) :
    connection.run statement = found <$> connection.select statement.toQuery := by
  rw [run, read]

theorem run_write {m : Type → Type} [Monad m] (connection : Connection m)
    (writes : statement.kind ≠ .read) :
    connection.run statement =
      (if statement.kind = .insert then inserted else changed) <$>
        connection.modify statement.toQuery := by
  unfold run
  cases kind : statement.kind with
  | read => exact absurd kind writes
  | insert | update | delete => rfl

theorem run_idle (statement : Statement) :
    (idle.run statement).run = .ok (.idle statement.kind) := by
  obtain ⟨text, values, kind, reader⟩ := statement
  cases kind <;> rfl

theorem run_of_fails (fails : connection.Fails statement failure) :
    (connection.run statement).run = .error (.database failure.display) := by
  cases fails with
  | selecting read failed =>
      rw [run_read connection read, Id.run_map, failed]
      rfl
  | @decoding read rows selected undecoded =>
      rw [run_read connection read, Id.run_map, selected]
      change ((RowSet.ofFound rows).mapError failed).map Outcome.rows = _
      rw [undecoded]
      rfl
  | modifying writes failed =>
      rw [run_write connection writes, Id.run_map, failed]
      split <;> rfl

end Connection

namespace PreparedQuery

variable {schema : Schema} {settings : Settings} {definition : Definition} {query : PreparedQuery}
  {arguments : Arguments} {statement : Statement}

section Idle

theorem read_idle {reader : RowReader} (value : reader.shape.ReadValue) :
    reader.read .empty = reader.shape.idle := by
  obtain ⟨shape, planned⟩ := reader
  cases value with
  | element single => cases single <;> rfl
  | optionalRecord => rfl
  | rows => rfl
  | collection => rfl

theorem idle_observed (shape : ReturnShape) : shape.observed.idle = shape.idle := by
  cases shape <;> rfl

/-- A compiled query reads the outcome of a statement that does nothing by its shape. -/
theorem output_idle (compiled : compile schema settings definition = .ok query) :
    query.output (.idle query.kind) = definition.returns.idle := by
  obtain ⟨_, _, passed⟩ := compile_eq_ok_iff.mp compiled
  have permitted := Fault.checkReturn_eq_ok_iff.mp passed.permitted
  have defined := passed.defined
  by_cases read : query.kind = .read
  · obtain ⟨reader, stored⟩ := Option.isSome_iff_exists.mp ((reader_isSome_iff passed).mpr read)
    obtain ⟨_, shape, _⟩ := reads_of_compile compiled reader stored
    rw [defined] at shape
    have value : reader.shape.ReadValue := by
      rw [shape]
      exact readValue_of_permitted (read ▸ permitted)
    have reading : query.output (.idle query.kind) = reader.read .empty := by
      simp only [PreparedQuery.output, read, Outcome.idle, rowReader, stored]
      rfl
    rw [reading, read_idle value, shape, idle_observed]
  · unfold PreparedQuery.output
    rw [defined]
    clear passed compiled
    generalize query.kind = kind at permitted read
    generalize definition.returns = shape at permitted
    cases permitted with
    | read => exact absurd rfl read
    | observed => exact absurd rfl read
    | inserted => rfl
    | counted changes => rcases changes with rfl | rfl <;> rfl
    | silent writes =>
        cases kind with
        | read => exact absurd rfl writes
        | insert | update | delete => rfl

end Idle

section Calls

variable {fault : Fault}

theorem fetch_of_refused (refused : query.bind arguments = .error fault)
    (connection : Connection Id) : query.fetch connection arguments = ⟨[], .error fault⟩ := by
  rw [fetch, fetchOn, refused]
  rfl

/-- Whatever its kind, a statement is handed over as one query. -/
theorem fetch_of_bound (bound : query.bind arguments = .ok statement)
    (connection : Connection Id) :
    query.fetch connection arguments =
      ⟨[statement.toQuery], (connection.run statement).run >>= query.output⟩ := by
  rw [fetch, fetchOn, bound]
  dsimp only
  by_cases read : statement.kind = .read
  · rw [Connection.run_read _ read, Connection.run_read _ read]
    rfl
  · rw [Connection.run_write _ read, Connection.run_write _ read]
    rfl

/-- A bound statement carries the text and the values of its binding. -/
theorem binding_of_bound (bound : query.bind arguments = .ok statement) :
    ∃ binding, Binding.bind query.template query.parameters arguments query.limit = .ok binding ∧
      statement.text = binding.text ∧ statement.values = binding.values ∧
      statement.kind = query.kind := by
  obtain ⟨binding, found, rfl⟩ := map_eq_ok_iff.mp bound
  exact ⟨binding, found, rfl, rfl, rfl⟩

/-- A refused call returns its fault and hands nothing over, whatever effects that had. -/
structure Refused (query : PreparedQuery) (arguments : Arguments) (fault : Fault) : Prop where
  executes : ∀ {m : Type → Type} [Monad m] (executor : Statement → m (Except String Outcome)),
    query.executeOn executor arguments = pure (.error fault)
  fetches : ∀ {m : Type → Type} [Monad m] (connection : Connection m),
    query.fetchOn connection arguments = pure (.error fault)
  executed : ∀ executor, query.execute executor arguments = ⟨[], .error fault⟩
  fetched : ∀ connection, query.fetch connection arguments = ⟨[], .error fault⟩

theorem refused_of_bind (refused : query.bind arguments = .error fault) :
    Refused query arguments fault where
  executes executor := by rw [executeOn, refused]
  fetches connection := by rw [fetchOn, refused]
  executed := execute_of_refused refused
  fetched := fetch_of_refused refused

/-- What the two ways of running a query make of a call bound to this statement. -/
structure RunsAlike (query : PreparedQuery) (arguments : Arguments) (statement : Statement) :
    Prop where
  /-- An executor is handed the statement and nothing else. -/
  executed : ∀ executor, (query.execute executor arguments).ran = [statement]
  /-- A connection is handed one query, with the text and the values of the statement. -/
  fetched : ∃ asked : DatabaseQuery, asked.text = statement.text ∧
    asked.arguments.map QueryArgument.value = statement.values ∧
    ∀ connection, (query.fetch connection arguments).ran = [asked]
  /-- Whatever effects an executor has, they are those of this one statement. -/
  executes : ∀ {m : Type → Type} [Monad m] (executor : Statement → m (Except String Outcome)),
    query.executeOn executor arguments = readReply query.output <$> executor statement
  fetches : ∀ {m : Type → Type} [Monad m] (connection : Connection m), ∃ result,
    query.fetchOn connection arguments = (· >>= query.output) <$> result ∧
      (statement.kind = .read →
        result = Connection.found <$> connection.select statement.toQuery) ∧
      (statement.kind ≠ .read → result =
        (if statement.kind = .insert then Connection.inserted else Connection.changed) <$>
          connection.modify statement.toQuery)
  agrees : ∀ (executor : Executor) (connection : Connection Id) outcome,
    executor statement = .ok outcome → (connection.run statement).run = .ok outcome →
    (query.fetch connection arguments).result = (query.execute executor arguments).result
  executorFails : ∀ (executor : Executor) reason, executor statement = .error reason →
    (query.execute executor arguments).result = .error (.executor reason)
  connectionFails : ∀ (connection : Connection Id) failure,
    connection.Fails statement failure →
    (query.fetch connection arguments).result = .error (.database failure.display)

theorem runsAlike_of_bound (bound : query.bind arguments = .ok statement) :
    RunsAlike query arguments statement where
  executed executor := by rw [execute_of_bound bound]
  fetched := by
    refine ⟨statement.toQuery, statement.toQuery_text, statement.toQuery_values, ?_⟩
    intro connection
    rw [fetch_of_bound bound]
  executes executor := by
    rw [executeOn, bound]
    rfl
  fetches connection := by
    refine ⟨connection.run statement, ?_, connection.run_read, connection.run_write⟩
    rw [fetchOn, bound]
  agrees executor connection outcome executes fetches := by
    rw [execute_of_bound bound, fetch_of_bound bound, run_eq, executes, fetches]
    rfl
  executorFails executor reason failed := by
    rw [execute_of_bound bound, run_eq, failed]
    rfl
  connectionFails connection failure fails := by
    rw [fetch_of_bound bound, Connection.run_of_fails fails]
    rfl

theorem fetch_idle (query : PreparedQuery) (arguments : Arguments) :
    (query.fetch .idle arguments).result = (query.execute .idle arguments).result := by
  cases bound : query.bind arguments with
  | error fault => rw [fetch_of_refused bound, execute_of_refused bound]
  | ok statement =>
      exact (runsAlike_of_bound bound).agrees .idle .idle _ rfl (Connection.run_idle statement)

/-- A call whose arguments are refused returns their fault and hands nothing over. Any other
hands over one statement, with the text and the values of its binding, and both ways make
the same of the same outcome; a failure is wrapped and not read. Where nothing is found and
nothing changes, the result is that of the declared shape. -/
theorem calls_alike (compiled : compile schema settings definition = .ok query)
    (arguments : Arguments) :
    (∀ fault, query.bind arguments = .error fault → Refused query arguments fault) ∧
    (∀ statement, query.bind arguments = .ok statement →
      (∃ binding,
        Binding.bind query.template query.parameters arguments query.limit = .ok binding ∧
          statement.text = binding.text ∧ statement.values = binding.values ∧
          statement.kind = query.kind) ∧
      RunsAlike query arguments statement ∧
      (query.execute .idle arguments).result = definition.returns.idle) ∧
    (query.fetch .idle arguments).result = (query.execute .idle arguments).result := by
  refine ⟨fun fault => refused_of_bind,
    fun statement bound => ⟨binding_of_bound bound, runsAlike_of_bound bound, ?_⟩,
    fetch_idle query arguments⟩
  obtain ⟨_, _, _, _, kind⟩ := binding_of_bound bound
  have replied : query.run .idle statement = query.output (.idle query.kind) := by
    rw [← kind]
    rfl
  rw [execute_of_bound bound, replied, output_idle compiled]

/-- A strict scalar: refused without its collection, and empty on an idle connection, which
is handed a text with two markers and an argument for each. -/
theorem calls_alike_songs :
    let schema := Schema.ofTables [⟨"song", ["id", "year"]⟩]
    let definition : Definition :=
      ⟨"year", "SELECT year FROM song WHERE id IN (:ids)", [⟨"ids", .integer, true⟩],
        .scalar .integer⟩
    let arguments : Arguments := ⟨[("ids", .list [.integer 2, .null])], []⟩
    let lost : ConnectionFailure := .protocol "lost"
    ∃ query, compile schema ⟨999, .warn⟩ definition = .ok query ∧
      query.fetch .idle ⟨[], []⟩ = ⟨[], .error (.missingArgument "ids")⟩ ∧
      ∃ statement, query.bind arguments = .ok statement ∧
        (query.execute .idle arguments).ran = [statement] ∧
        (query.fetch .idle arguments).ran =
          [⟨"SELECT year FROM song WHERE id IN (?, ?)", [.integer (some 2), .integer none]⟩] ∧
        (query.fetch .idle arguments).result = (query.execute .idle arguments).result ∧
        (query.execute .idle arguments).result = .error .emptyResult ∧
        (query.fetch (.failing lost) arguments).result = .error (.database lost.display) := by
  intro schema definition arguments lost
  have computed : (compile schema ⟨999, .warn⟩ definition).map (fun query =>
      (query.bind ⟨[], []⟩, (query.bind arguments).map Statement.kind,
        (query.fetch .idle arguments).ran)) =
      .ok (.error (.missingArgument "ids"), .ok .read,
        [⟨"SELECT year FROM song WHERE id IN (?, ?)", [.integer (some 2), .integer none]⟩]) := by
    decide +kernel
  obtain ⟨query, compiled, found⟩ := map_eq_ok_iff.mp computed
  obtain ⟨refused, found⟩ := Prod.mk.inj found
  obtain ⟨bound, asked⟩ := Prod.mk.inj found
  obtain ⟨statement, bound, kind⟩ := map_eq_ok_iff.mp bound
  obtain ⟨_, runs, same⟩ := calls_alike compiled arguments
  obtain ⟨_, alike, result⟩ := runs statement bound
  have emptied : definition.returns.idle = .error .emptyResult := rfl
  exact ⟨query, compiled, ((calls_alike compiled ⟨[], []⟩).1 _ refused).fetched .idle, statement,
    bound, alike.executed .idle, asked, same, result.trans emptied,
    alike.connectionFails (.failing lost) lost (.selecting kind rfl)⟩

end Calls

end PreparedQuery

end CheckedSql

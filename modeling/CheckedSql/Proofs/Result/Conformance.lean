import CheckedSql.Proofs.Query.Compilation
import CheckedSql.Proofs.Result.Reading

namespace CheckedSql

open Sql

/-! Outputs conform to the shape that a query declares.

`Conforms` says which outputs an outcome may give for a kind of statement and a shape.
Whatever an executor replies to a compiled query, what the caller or an observer is
handed conforms to the declared shape (`output_conforms`).
-/

/-- A shape that has a value for no result. -/
def ReturnShape.isOptional : ReturnShape → Bool
  | .optionalScalar _ | .optionalRecord _ => true
  | _ => false

/-- What the rows of a result yield as a value of a shape. -/
inductive Yields (result : RowSet) : ReturnShape → Output → Prop where
  | value {shape : ReturnShape} {row : List Value} {rest : List (List Value)} {mapped : Mapped}
      (first : result.rows = row :: rest) (reads : RowReads result.columns row shape mapped)
      (present : mapped ≠ .scalar .null) : Yields result shape (.value mapped)
  /-- An optional value is absent if there is no row, or no value in the first one. -/
  | absent {shape : ReturnShape} (optional : shape.isOptional = true)
      (empty : ∀ row rest, result.rows = row :: rest →
        RowReads result.columns row shape (.scalar .null)) : Yields result shape .absent
  | list {element : ReturnShape} {items : List Mapped}
      (each : List.Forall₂ (fun row item => RowReads result.columns row element item)
        result.rows items) : Yields result (.collection element) (.list items)
  | rows : Yields result .rows (.rows result)

inductive Conforms : StatementKind → ReturnShape → Outcome → Output → Prop where
  | read {shape : ReturnShape} {result : RowSet} {output : Output}
      (yields : Yields result shape.observed output) : Conforms .read shape (.rows result) output
  | rowId {id : Int64} : Conforms .insert .rowId (.rowId id) (.rowId id)
  | rowCount {kind : StatementKind} {count : UInt64} (changes : kind = .update ∨ kind = .delete) :
      Conforms kind .rowCount (.affected count) (.rowCount count)
  | unit {kind : StatementKind} {outcome : Outcome} (writes : kind ≠ .read)
      (rowless : ∀ result, outcome ≠ .rows result) : Conforms kind .void outcome .unit

theorem Conforms.isOptional_of_absent {kind : StatementKind} {shape : ReturnShape}
    {outcome : Outcome} (conforms : Conforms kind shape outcome .absent) :
    shape.observed.isOptional = true := by
  cases conforms with
  | read yields =>
      generalize shape.observed = value at yields
      cases yields
      assumption

section Values

variable {columns : List String} {row : List Value}

theorem ReadAs.ne_null {type : ValueType} {cell : Option Value} {value : Value}
    (read : ReadAs type false cell value) : value ≠ .null := by
  cases read with
  | same typed => rintro rfl; cases typed
  | widened => exact nofun
  | null _ allowed => cases allowed

theorem RowReads.ne_null {shape : ReturnShape} {mapped : Mapped} (strict : shape.isOptional = false)
    (reads : RowReads columns row shape mapped) : mapped ≠ .scalar .null := by
  cases reads with
  | scalar single cell => exact fun same => cell.ne_null (Mapped.scalar.inj same)
  | optionalScalar => cases strict
  | record => exact nofun

end Values

namespace RowReader

variable {reader : RowReader} {result : RowSet}

theorem yields_of_readFirst (sound : reader.Sound) {mapped : Mapped}
    (single : reader.shape.element = reader.shape)
    (read : reader.readFirst result = .ok (some mapped))
    (present : reader.shape.isOptional = true → mapped ≠ .scalar .null) :
    Yields result reader.shape (.value mapped) := by
  rcases reads_of_readFirst sound read with ⟨none, _⟩ | ⟨_, row, rest, same, first, reads⟩
  · cases none
  · cases same
    rw [single] at reads
    refine .value first reads ?_
    cases optional : reader.shape.isOptional with
    | true => exact present optional
    | false => exact reads.ne_null optional

theorem yields_absent (sound : reader.Sound) {first : Option Mapped}
    (single : reader.shape.element = reader.shape) (optional : reader.shape.isOptional = true)
    (read : reader.readFirst result = .ok first)
    (empty : first = none ∨ first = some (.scalar .null)) :
    Yields result reader.shape .absent := by
  refine .absent optional fun row rest rows => ?_
  rcases reads_of_readFirst sound read with ⟨_, none⟩ | ⟨mapped, _, _, same, first, reads⟩
  · rw [rows] at none
    cases none
  · rw [rows] at first
    cases first
    rw [single] at reads
    rcases empty with rfl | rfl
    · cases same
    · cases same
      exact reads

theorem yields_of_read (sound : reader.Sound) {output : Output}
    (read : reader.read result = .ok output) : Yields result reader.shape output := by
  unfold RowReader.read at read
  cases shape : reader.shape with
  | rows =>
      simp only [shape] at read
      cases read
      exact .rows
  | collection element =>
      simp only [shape] at read
      obtain ⟨items, each, rfl⟩ := map_eq_ok_iff.mp read
      have rows := forall₂_of_readAll sound each
      rw [shape] at rows
      exact .list rows
  | scalar | record =>
      simp only [shape] at read
      split at read
      · cases read
      · cases read
      · rename_i first
        cases read
        rw [← shape]
        refine yields_of_readFirst sound ?_ first fun optional => ?_
        · rw [shape]
          rfl
        · rw [shape] at optional
          cases optional
  | optionalScalar | optionalRecord =>
      have single : reader.shape.element = reader.shape := by
        rw [shape]
        rfl
      have optional : reader.shape.isOptional = true := by
        rw [shape]
        rfl
      simp only [shape] at read
      rw [← shape]
      split at read
      · cases read
      · rename_i first
        cases read
        exact yields_absent sound single optional first (.inl rfl)
      · rename_i first
        cases read
        exact yields_absent sound single optional first (.inr rfl)
      · rename_i present first
        cases read
        exact yields_of_readFirst sound single first fun _ => present
  | void | reactive | rowCount | rowId =>
      simp only [shape] at read
      cases read

theorem yields_of_readObserved (sound : reader.Sound) {output : Output}
    (read : reader.readObserved result = .ok (some output)) :
    Yields result reader.shape output := by
  unfold readObserved at read
  split at read
  · cases read
  · obtain ⟨value, read, same⟩ := map_eq_ok_iff.mp read
    cases same
    exact yields_of_read sound read

end RowReader

namespace PreparedQuery

variable {schema : Schema} {settings : Settings} {definition : Definition} {query : PreparedQuery}

/-- Only a read has a reader, which is sound and reads the shape that the query returns. -/
def Reads (query : PreparedQuery) : Prop :=
  ∀ reader, query.reader = some reader →
    query.kind = .read ∧ reader.shape = query.definition.returns.observed ∧ reader.Sound

theorem eq_read_of_isRead {kind : StatementKind} (read : kind.isRead = true) : kind = .read := by
  cases kind <;> first | rfl | cases read

theorem reads_of_compile (compiled : compile schema settings definition = .ok query) :
    query.Reads := by
  obtain ⟨_, _, passed⟩ := compile_eq_ok_iff.mp compiled
  intro reader stored
  have planned := passed.planned
  rw [stored] at planned
  unfold planReader at planned
  split at planned
  · rename_i read
    obtain ⟨made, plan, same⟩ := map_eq_ok_iff.mp planned
    cases same
    obtain ⟨shape, sound⟩ := RowReader.plan_sound plan
    exact ⟨eq_read_of_isRead read, passed.defined ▸ shape, sound⟩
  · cases planned

theorem rowReader_eq_ok_iff {reader : RowReader} :
    query.rowReader = .ok reader ↔ query.reader = some reader := by
  unfold rowReader
  cases query.reader <;> simp

theorem conforms_of_rows (reads : query.Reads) {reader : RowReader} {result : RowSet}
    {output : Output} (found : query.rowReader = .ok reader)
    (yields : reader.Sound → Yields result reader.shape output) :
    Conforms query.kind query.definition.returns (.rows result) output := by
  obtain ⟨kind, shape, sound⟩ := reads reader (rowReader_eq_ok_iff.mp found)
  rw [kind]
  exact .read (shape ▸ yields sound)

theorem conforms_of_output (reads : query.Reads) {outcome : Outcome} {output : Output}
    (read : query.output outcome = .ok output) :
    Conforms query.kind query.definition.returns outcome output := by
  unfold PreparedQuery.output at read
  split at read
  · obtain ⟨reader, found, read⟩ := bind_eq_ok_iff.mp read
    exact conforms_of_rows reads found fun sound => RowReader.yields_of_read sound read
  · rename_i kind returns
    cases read
    rw [kind, returns]
    exact .rowId
  · rename_i kind returns
    cases read
    rw [kind, returns]
    exact .rowCount (.inl rfl)
  · rename_i kind returns
    cases read
    rw [kind, returns]
    exact .rowCount (.inr rfl)
  iterate 6
    rename_i kind returns
    cases read
    rw [kind, returns]
    exact .unit nofun nofun
  · cases read

theorem conforms_of_outputObserved (reads : query.Reads) {outcome : Outcome} {output : Output}
    (read : query.outputObserved outcome = .ok (some output)) :
    Conforms query.kind query.definition.returns outcome output := by
  unfold outputObserved at read
  split at read
  · obtain ⟨reader, found, read⟩ := bind_eq_ok_iff.mp read
    exact conforms_of_rows reads found fun sound => RowReader.yields_of_readObserved sound read
  · obtain ⟨value, read, same⟩ := map_eq_ok_iff.mp read
    cases same
    exact conforms_of_output reads read

theorem readReply_eq_ok_iff {Result : Type} {read : Outcome → Except Fault Result}
    {reply : Except String Outcome} {result : Result} :
    readReply read reply = .ok result ↔
      ∃ outcome, reply = .ok outcome ∧ read outcome = .ok result := by
  cases reply <;> simp [readReply]

theorem output_conforms (compiled : compile schema settings definition = .ok query)
    (executor : Executor) :
    (∀ statement output, query.run executor statement = .ok output →
      ∃ outcome, executor statement = .ok outcome ∧
        Conforms query.kind definition.returns outcome output) ∧
    (∀ arguments output, (query.execute executor arguments).result = .ok output →
      ∃ statement outcome, query.bind arguments = .ok statement ∧
        executor statement = .ok outcome ∧
        Conforms query.kind definition.returns outcome output) ∧
    ∀ statement output,
      readReply query.outputObserved (executor statement) = .ok (some output) →
      ∃ outcome, executor statement = .ok outcome ∧
        Conforms query.kind definition.returns outcome output ∧
        (definition.returns.observed.isOptional = false → output ≠ .absent) := by
  have reads := reads_of_compile compiled
  obtain ⟨_, _, passed⟩ := compile_eq_ok_iff.mp compiled
  rw [← passed.defined]
  refine ⟨fun statement output ran => ?_, fun arguments output executed => ?_,
    fun statement output observed => ?_⟩
  · obtain ⟨outcome, replied, read⟩ := readReply_eq_ok_iff.mp ran
    exact ⟨outcome, replied, conforms_of_output reads read⟩
  · cases bound : query.bind arguments with
    | error fault =>
        rw [execute_of_refused bound] at executed
        cases executed
    | ok statement =>
        rw [execute_of_bound bound] at executed
        obtain ⟨outcome, replied, read⟩ := readReply_eq_ok_iff.mp executed
        exact ⟨statement, outcome, rfl, replied, conforms_of_output reads read⟩
  · obtain ⟨outcome, replied, read⟩ := readReply_eq_ok_iff.mp observed
    have conforms := conforms_of_outputObserved reads read
    refine ⟨outcome, replied, conforms, ?_⟩
    rintro strict rfl
    rw [conforms.isOptional_of_absent] at strict
    cases strict

/-- Rows shorter and longer than a reordered header, with a null and a widened integer. -/
theorem output_conforms_notes :
    let schema := Schema.ofTables [⟨"notes", ["id", "body", "stars"]⟩]
    let target : Record := ⟨"Note", [⟨"id", .integer, false, none⟩,
      ⟨"text", .text, true, some "body"⟩, ⟨"stars", .real, false, none⟩,
      ⟨"draft", .blob, false, none⟩]⟩
    let definition : Definition :=
      ⟨"notesAbove", "SELECT id, body, stars FROM notes WHERE id > :low",
        [⟨"low", .integer, false⟩], .collection (.record target)⟩
    let result : RowSet := ⟨["stars", "id", "body"],
      [[.integer 4, .integer 1], [.real ⟨0⟩, .integer 2, .text "b", .null]]⟩
    let executor : Executor := fun _ => .ok (.rows result)
    let arguments : Arguments := ⟨[("low", .single (.integer 0))], []⟩
    let output : Output := .list
      [.record "Note" [("id", .integer 1), ("text", .null), ("stars", .real (Binary64.ofInteger 4))],
        .record "Note" [("id", .integer 2), ("text", .text "b"), ("stars", .real ⟨0⟩)]]
    ∃ query, compile schema ⟨999, .warn⟩ definition = .ok query ∧
      (query.execute executor arguments).result = .ok output ∧
      ∃ statement outcome, query.bind arguments = .ok statement ∧
        executor statement = .ok outcome ∧
        Conforms query.kind definition.returns outcome output := by
  intro schema target definition result executor arguments output
  have computed : (compile schema ⟨999, .warn⟩ definition).map
      (fun query => (query.execute executor arguments).result) = .ok (.ok output) := by
    decide +kernel
  obtain ⟨query, compiled, executed⟩ := map_eq_ok_iff.mp computed
  exact ⟨query, compiled, executed,
    (output_conforms compiled executor).2.1 arguments output executed⟩

end PreparedQuery

end CheckedSql

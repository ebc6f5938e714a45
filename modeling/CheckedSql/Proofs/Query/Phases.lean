import CheckedSql.Proofs.Binding.Refusal
import CheckedSql.Proofs.Binding.Resolution
import CheckedSql.Proofs.Query.Permanence
import CheckedSql.Proofs.Result.Conformance
import CheckedSql.Proofs.Result.Misreading

namespace CheckedSql.PreparedQuery

open Sql

variable {schema : Schema} {settings : Settings} {definition : Definition} {query : PreparedQuery}

section Binding

variable {statement : MethodText} {markers : List Marker}

theorem text_of_named {method text : String} (named : MethodText.of? method text = .ok statement) :
    statement.text = text := by
  unfold MethodText.of? at named
  split at named
  · cases named
  · cases named
    rfl

theorem slots_of_compiled
    (passed : Compiled schema settings definition query statement markers) :
    query.template.slots = markers.map Marker.slot := by
  rw [passed.templated]
  exact slots_of_markers? passed.scanned

theorem selected_of_compiled
    (passed : Compiled schema settings definition query statement markers) {name : String}
    (member : .named name ∈ markers.map Marker.slot) :
    ∃ parameter ∈ definition.parameters,
      query.parameters.filter (fun other => other.name = name) = [parameter] :=
  Parameter.selected_once passed.resolved
    (List.mem_filterMap.mpr ⟨.named name, member, rfl⟩)

theorem covers_of_compiled
    (passed : Compiled schema settings definition query statement markers) :
    Binding.Covers query.parameters query.template.slots := by
  intro name member
  rw [slots_of_compiled passed] at member
  obtain ⟨parameter, _, alone⟩ := selected_of_compiled passed member
  have found : parameter ∈ query.parameters.filter (fun other => other.name = name) := by
    rw [alone]
    exact List.mem_singleton_self parameter
  obtain ⟨used, same⟩ := List.mem_filter.mp found
  exact ⟨parameter, used, of_decide_eq_true same⟩

theorem within_of_compiled
    (passed : Compiled schema settings definition query statement markers)
    (single : Binding.hasCollection query.parameters = false) :
    query.template.slots.length ≤ query.limit := by
  have counted := passed.counted
  simp only [checkFixedCount, Binding.fixedCount?, single, Bool.false_eq_true, if_false,
    Binding.checkCeiling] at counted
  rw [slots_of_compiled passed, passed.limited]
  split at counted
  · cases counted
  · rename_i within
    exact Nat.le_of_not_lt within

theorem bind_refuses_of_compiled
    (passed : Compiled schema settings definition query statement markers)
    (arguments : Arguments) :
    FailsOnly (Binding.Refusal query.parameters) (query.bind arguments) :=
  (Binding.bind_refuses (covers_of_compiled passed) (within_of_compiled passed)).map

theorem reader_isSome_iff
    (passed : Compiled schema settings definition query statement markers) :
    query.reader.isSome = true ↔ query.kind = .read := by
  have planned := passed.planned
  unfold planReader at planned
  split at planned
  · rename_i read
    obtain ⟨reader, _, stored⟩ := map_eq_ok_iff.mp planned
    rw [← stored]
    exact iff_of_true rfl (eq_read_of_isRead read)
  · rename_i unread
    rw [← Except.ok.inj planned]
    refine iff_of_false (by simp) fun read => unread ?_
    rw [read]
    rfl

end Binding

/-- Each named marker has exactly one parameter, a declared one; only a read has a
reader; and arguments that are bound or refused are all that is left to a call. -/
theorem compiled_refuses_only (compiled : compile schema settings definition = .ok query) :
    (∃ markers, markers? definition.text = .ok markers ∧
      ∀ name, .named name ∈ markers.map Marker.slot →
        ∃ parameter ∈ definition.parameters,
          query.parameters.filter (fun other => other.name = name) = [parameter]) ∧
    (query.reader.isSome = true ↔ query.kind = .read) ∧
    ∀ arguments, FailsOnly (Binding.Refusal query.parameters) (query.bind arguments) := by
  obtain ⟨statement, markers, passed⟩ := compile_eq_ok_iff.mp compiled
  refine ⟨⟨markers, ?_, fun name => selected_of_compiled passed⟩, reader_isSome_iff passed,
    bind_refuses_of_compiled passed⟩
  rw [← text_of_named passed.named]
  exact passed.scanned

/-- A name used twice, a collection, and a positional marker. -/
theorem compiled_refuses_only_songs :
    let schema := Schema.ofTables [⟨"song", ["id", "year"]⟩]
    let definition : Definition :=
      ⟨"songs", "SELECT id FROM song WHERE year > :from OR :from IN (:years) LIMIT ?",
        [⟨"years", .integer, true⟩, ⟨"from", .integer, false⟩, ⟨"unused", .text, false⟩],
        .collection (.scalar .integer)⟩
    ∃ query, compile schema ⟨3, .warn⟩ definition = .ok query ∧
      (∃ markers, markers? definition.text = .ok markers ∧
        ∀ name, .named name ∈ markers.map Marker.slot →
          ∃ parameter ∈ definition.parameters,
            query.parameters.filter (fun other => other.name = name) = [parameter]) ∧
      (query.reader.isSome = true ↔ query.kind = .read) ∧
      ∀ arguments, FailsOnly (Binding.Refusal query.parameters) (query.bind arguments) := by
  intro schema definition
  have computed : (compile schema ⟨3, .warn⟩ definition).map (fun query => query.kind) =
      .ok .read := by
    decide +kernel
  obtain ⟨query, compiled, _⟩ := map_eq_ok_iff.mp computed
  exact ⟨query, compiled, compiled_refuses_only compiled⟩

section Calls

variable {fault : Fault}

theorem observed_of_readValue {shape : ReturnShape} (value : shape.ReadValue) :
    shape.observed = shape := by
  cases value with
  | element single => cases single <;> rfl
  | optionalRecord => rfl
  | rows => rfl
  | collection => rfl

theorem readValue_of_permitted {shape : ReturnShape} (permitted : ReturnShape.Permitted .read shape) :
    shape.observed.ReadValue := by
  cases permitted with
  | read value => exact (observed_of_readValue value).symm ▸ value
  | observed value => exact value
  | counted changes => rcases changes with same | same <;> cases same
  | silent writes => exact absurd rfl writes

/-- Only a read is declared to return records. -/
theorem read_of_unmapped {kind : StatementKind} {shape : ReturnShape} {result : RowSet}
    (permitted : ReturnShape.Permitted kind shape)
    (unmapped : Unmapped shape.observed result fault) : kind = .read := by
  obtain ⟨_, _, record, _⟩ := unmapped
  cases permitted with
  | read => rfl
  | observed => rfl
  | inserted => cases record
  | counted => cases record
  | silent => cases record

/-- What is not the reading of rows fails for one call only. -/
theorem output_fails {outcome : Outcome}
    (unread : ∀ result, outcome = .rows result → query.kind ≠ .read) :
    FailsOnly Fault.Passing (query.output outcome) := by
  unfold PreparedQuery.output
  split
  · rename_i result _ read
    exact absurd read (unread _ rfl)
  iterate 9 exact .ok _
  exact .error (Fault.passing_of_eq_false rfl)

theorem readReply_permanent_iff {Result : Type} {read : Outcome → Except Fault Result}
    {refused : RowSet → Prop} {reply : Except String Outcome}
    (reads : ∀ outcome, (read outcome = .error fault ∧ fault.Permanent) ↔
      ∃ result, outcome = .rows result ∧ refused result) :
    (readReply read reply = .error fault ∧ fault.Permanent) ↔
      ∃ result, reply = .ok (.rows result) ∧ refused result := by
  cases reply with
  | error reason =>
      refine iff_of_false ?_ (by simp)
      rintro ⟨failed, permanent⟩
      cases failed
      cases permanent
  | ok outcome =>
      rw [readReply, reads]
      simp

variable {statement : MethodText} {markers : List Marker}

/-- What the reader of a compiled query makes of a result fails for good where its
header has no mapping. -/
theorem rowReader_permanent_iff {Result : Type} {result : RowSet}
    (passed : Compiled schema settings definition query statement markers)
    {next : RowReader → Except Fault Result}
    (reads : ∀ reader, reader.Sound → reader.shape.ReadValue →
      ((next reader = .error fault ∧ fault.Permanent) ↔ Unmapped reader.shape result fault)) :
    ((query.rowReader >>= next) = .error fault ∧ fault.Permanent) ↔
      Unmapped definition.returns.observed result fault := by
  have permitted := Fault.checkReturn_eq_ok_iff.mp passed.permitted
  unfold rowReader
  cases stored : query.reader with
  | none =>
      constructor
      · rintro ⟨failed, permanent⟩
        cases failed
        cases permanent
      · intro unmapped
        have found := (reader_isSome_iff passed).mpr (read_of_unmapped permitted unmapped)
        rw [stored] at found
        cases found
  | some reader =>
      obtain ⟨read, shape, sound⟩ :=
        reads_of_compile (compile_eq_ok_iff.mpr ⟨_, _, passed⟩) reader stored
      rw [passed.defined] at shape
      have value : reader.shape.ReadValue := by
        rw [shape]
        exact readValue_of_permitted (read ▸ permitted)
      rw [← shape]
      exact reads reader sound value

theorem output_permanent_iff
    (passed : Compiled schema settings definition query statement markers) {outcome : Outcome} :
    (query.output outcome = .error fault ∧ fault.Permanent) ↔
      ∃ result, outcome = .rows result ∧ Unmapped definition.returns.observed result fault := by
  by_cases reads : ∃ result, outcome = .rows result ∧ query.kind = .read
  · obtain ⟨result, rfl, read⟩ := reads
    have reading : query.output (.rows result) = query.rowReader >>= (·.read result) := by
      simp only [PreparedQuery.output, read]
    rw [reading, rowReader_permanent_iff passed fun _ => RowReader.read_permanent_iff]
    simp
  · refine iff_of_false ?_ ?_
    · rintro ⟨failed, permanent⟩
      refine output_fails (fun result same read => ?_) fault failed permanent
      exact reads ⟨result, same, read⟩
    · rintro ⟨result, rows, unmapped⟩
      have permitted := Fault.checkReturn_eq_ok_iff.mp passed.permitted
      exact reads ⟨result, rows, read_of_unmapped permitted unmapped⟩

theorem outputObserved_permanent_iff
    (passed : Compiled schema settings definition query statement markers) {outcome : Outcome} :
    (query.outputObserved outcome = .error fault ∧ fault.Permanent) ↔
      ∃ result, outcome = .rows result ∧ Unmapped definition.returns.observed result fault := by
  unfold outputObserved
  split
  · rename_i result
    rw [rowReader_permanent_iff passed fun _ => RowReader.readObserved_permanent_iff]
    simp
  · rw [map_eq_error_iff, output_permanent_iff passed]

end Calls

/-- Compiling reports permanent faults only. A call reports one just where a reply
brings rows for a record under a header that has no mapping for it. -/
theorem permanent_faults :
    FailsOnly Fault.Permanent (compile schema settings definition) ∧
    ∀ query, compile schema settings definition = .ok query →
      (∀ arguments, FailsOnly Fault.Passing (query.bind arguments)) ∧
      ∀ (executor : Executor) (fault : Fault),
        (∀ statement, (query.run executor statement = .error fault ∧ fault.Permanent) ↔
          ∃ result, executor statement = .ok (.rows result) ∧
            Unmapped definition.returns.observed result fault) ∧
        (∀ arguments,
          ((query.execute executor arguments).result = .error fault ∧ fault.Permanent) ↔
            ∃ statement result, query.bind arguments = .ok statement ∧
              executor statement = .ok (.rows result) ∧
              Unmapped definition.returns.observed result fault) ∧
        ∀ statement,
          (readReply query.outputObserved (executor statement) = .error fault ∧
              fault.Permanent) ↔
            ∃ result, executor statement = .ok (.rows result) ∧
              Unmapped definition.returns.observed result fault := by
  refine ⟨compile_fails, fun query compiled => ?_⟩
  obtain ⟨_, _, passed⟩ := compile_eq_ok_iff.mp compiled
  have refuses : ∀ arguments, FailsOnly Fault.Passing (query.bind arguments) :=
    fun arguments fault failed => Fault.passing_of_eq_false
      (bind_refuses_of_compiled passed arguments fault failed).atDefinition_eq_false
  have runs : ∀ (executor : Executor) fault statement,
      (query.run executor statement = .error fault ∧ fault.Permanent) ↔
        ∃ result, executor statement = .ok (.rows result) ∧
          Unmapped definition.returns.observed result fault :=
    fun _ _ _ => readReply_permanent_iff fun _ => output_permanent_iff passed
  refine ⟨refuses, fun executor fault => ⟨runs executor fault, fun arguments => ?_, fun _ =>
    readReply_permanent_iff fun _ => outputObserved_permanent_iff passed⟩⟩
  cases bound : query.bind arguments with
  | error reason =>
      rw [execute_of_refused bound]
      refine iff_of_false ?_ (by simp)
      intro refused
      obtain ⟨failed, permanent⟩ := refused
      cases failed
      exact refuses arguments fault bound permanent
  | ok statement =>
      rw [execute_of_bound bound, runs]
      simp

/-- A planned header, and another in the reply: one column for both fields. -/
theorem permanent_faults_observed :
    let schema := Schema.ofTables [⟨"note", ["id", "body"]⟩]
    let target : Record :=
      ⟨"Note", [⟨"id", .integer, false, none⟩, ⟨"number", .integer, true, some "id"⟩]⟩
    let definition : Definition :=
      ⟨"note", "SELECT body AS number FROM note", [], .reactive (.optionalRecord target)⟩
    let result : RowSet := ⟨["id"], [[.integer 1]]⟩
    let executor : Executor := fun _ => .ok (.rows result)
    let fault : Fault := .ambiguousColumn "Note" "id" (.sharedByFields "id" "number")
    ∃ query, compile schema ⟨999, .warn⟩ definition = .ok query ∧
      (∀ arguments, FailsOnly Fault.Passing (query.bind arguments)) ∧
      ∀ statement, readReply query.outputObserved (executor statement) = .error fault ∧
        fault.Permanent := by
  intro schema target definition result executor fault
  have computed : (compile schema ⟨999, .warn⟩ definition).map (fun query => query.kind) =
      .ok .read := by
    decide +kernel
  obtain ⟨query, compiled, _⟩ := map_eq_ok_iff.mp computed
  have faults := permanent_faults.2 query compiled
  have unmapped : Unmapped definition.returns.observed result fault :=
    ⟨by decide, target, rfl, by decide +kernel⟩
  exact ⟨query, compiled, faults.1, fun statement =>
    ((faults.2 executor fault).2.2 statement).mpr ⟨result, rfl, unmapped⟩⟩

/-- The header of a computed column is known only to the call, which then blames the
definition. -/
theorem permanent_fault_of_call :
    let schema := Schema.ofTables [⟨"note", ["id"]⟩]
    let definition : Definition :=
      ⟨"latest", "SELECT MAX(id) FROM note", [],
        .record ⟨"Note", [⟨"id", .integer, false, none⟩]⟩⟩
    let executor : Executor := fun _ => .ok (.rows ⟨["MAX(id)"], [[.integer 1]]⟩)
    let fault : Fault := .noMatchingColumns "Note" ["MAX(id)"]
    ∃ query, compile schema ⟨999, .warn⟩ definition = .ok query ∧
      (query.execute executor ⟨[], []⟩).result = .error fault ∧ fault.Permanent := by
  intro schema definition executor fault
  have computed : (compile schema ⟨999, .warn⟩ definition).map
      (fun query => (query.execute executor ⟨[], []⟩).result) = .ok (.error fault) := by
    decide +kernel
  obtain ⟨query, compiled, executed⟩ := map_eq_ok_iff.mp computed
  exact ⟨query, compiled, executed, rfl⟩

end CheckedSql.PreparedQuery

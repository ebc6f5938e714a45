import CheckedSql.Proofs.Result.Misreading

namespace CheckedSql

namespace RowReader

structure Agrees (first second : RowReader) : Prop where
  mapping : ∀ header, first.mappingFor header = second.mappingFor header
  rows : ∀ result, first.readRows result = second.readRows result
  read : ∀ result, first.read result = second.read result
  observed : ∀ result, first.readObserved result = second.readObserved result

section Plans

variable {first second reader : RowReader} {shape : ReturnShape} {header : List String}

/-- The mapping of a sound reader is that of its shape. -/
theorem mappingFor_of_sound (sound : reader.Sound) :
    reader.mappingFor header = (RowReader.mk reader.shape none).mappingFor header := by
  simp only [mappingFor]
  cases record : reader.shape.element.record? with
  | none => rfl
  | some target => exact congrArg (Except.map some) (mappingOf_eq sound record header)

theorem strategy_of_sound (sound : reader.Sound) :
    reader.strategy header = (RowReader.mk reader.shape none).strategy header := by
  simp only [RowReader.strategy]
  cases element : reader.shape.element with
  | record target | optionalRecord target =>
      have record := congrArg ReturnShape.record? element
      exact congrArg (Except.map RowStrategy.record) (mappingOf_eq sound record header)
  | _ => rfl

theorem readRows_of_sound (sound : reader.Sound) (result : RowSet) :
    reader.readRows result = (RowReader.mk reader.shape none).readRows result := by
  unfold readRows
  rw [strategy_of_sound sound]

/-- What a reader makes of a result hangs on its shape and on the rows that it reads. -/
theorem read_of_readRows {result : RowSet} (same : first.shape = second.shape)
    (rows : first.readRows result = second.readRows result) :
    first.read result = second.read result := by
  unfold RowReader.read readAll readFirst
  rw [same, rows]

theorem agrees_of_sound (same : first.shape = second.shape) (firstSound : first.Sound)
    (secondSound : second.Sound) : first.Agrees second := by
  have rows : ∀ result, first.readRows result = second.readRows result := by
    intro result
    rw [readRows_of_sound firstSound, readRows_of_sound secondSound, same]
  have read : ∀ result, first.read result = second.read result :=
    fun result => read_of_readRows same (rows result)
  refine ⟨fun header => ?_, rows, read, fun result => ?_⟩
  · rw [mappingFor_of_sound firstSound, mappingFor_of_sound secondSound, same]
  · unfold readObserved
    rw [same, read]

theorem plan_unknown (shape : ReturnShape) : plan shape none = .ok ⟨shape.observed, none⟩ := by
  simp only [plan]
  cases shape.observed.element <;> rfl

/-- A reader with a plan agrees with the reader of the same shape that has none. -/
theorem plan_agrees (planned : plan shape (some header) = .ok reader) :
    ∃ plain, plan shape none = .ok plain ∧ reader.Agrees plain := by
  obtain ⟨read, sound⟩ := plan_sound planned
  have plain := plan_sound (plan_unknown shape)
  exact ⟨_, plan_unknown shape, agrees_of_sound (read.trans plain.1.symm) sound plain.2⟩

/-- A plan for two columns, one of them under an override. -/
theorem plan_agrees_renamed :
    let target : Record :=
      ⟨"Song", [⟨"name", .text, false, none⟩, ⟨"length", .text, true, some "duration"⟩]⟩
    let shape : ReturnShape := .reactive (.collection (.record target))
    ∃ reader, plan shape (some ["name", "duration"]) = .ok reader ∧
      reader.planned.isSome = true ∧ ∃ plain, plan shape none = .ok plain ∧ reader.Agrees plain := by
  intro target shape
  have computed : (plan shape (some ["name", "duration"])).map (·.planned.isSome) = .ok true := by
    decide +kernel
  obtain ⟨reader, planned, present⟩ := map_eq_ok_iff.mp computed
  exact ⟨reader, planned, present, plan_agrees planned⟩

end Plans

end RowReader

/-- The shapes of a single value that has to be there. -/
def ReturnShape.isStrict : ReturnShape → Bool
  | .scalar _ | .record _ => true
  | _ => false

/-- What is wrong with the value of a place. -/
inductive CellFault (place : String) : Fault → Prop where
  | null : CellFault place (.unexpectedNull place)
  | type (expected found : ValueType) : CellFault place (.columnType place expected found)

section Cells

variable {place : String} {type : ValueType} {nullable : Bool} {cell : Option Value}

theorem checked_fault {value : Value} :
    FailsOnly (fun fault => ∃ found, fault = .columnType place type found)
      (value.checked place type) := by
  unfold Value.checked
  split
  · exact .ok _
  · split
    · exact .ok _
    · split
      · exact .ok _
      · exact .error ⟨_, rfl⟩

theorem ofCell_fault : FailsOnly (CellFault place) (Value.ofCell place type nullable cell) := by
  simp only [Value.ofCell]
  split
  · exact .error .null
  · intro fault failed
    obtain ⟨found, rfl⟩ := checked_fault fault failed
    exact .type type found

theorem ofCell_null (empty : cell.getD .null = .null) :
    Value.ofCell place type false cell = .error (.unexpectedNull place) := by
  simp [Value.ofCell, empty, Value.isNull]

theorem null_of_ofCell {other : String}
    (failed : Value.ofCell place type nullable cell = .error (.unexpectedNull other)) :
    cell.getD .null = .null := by
  simp only [Value.ofCell] at failed
  split at failed
  · rename_i empty
    have null := (Bool.and_eq_true _ _ ▸ empty).1
    exact Value.isNull_iff.mp null
  · obtain ⟨found, same⟩ := checked_fault _ failed
    cases same

end Cells

namespace RowStrategy

/-- A row that cannot be read has a value that does not fit its place. -/
theorem readRow_fault {strategy : RowStrategy} {row : List Value} :
    FailsOnly (fun fault => ∃ place, CellFault place fault) (strategy.readRow row) := by
  have cell : ∀ place type nullable (cell : Option Value),
      FailsOnly (fun fault => ∃ place, CellFault place fault)
        (Value.ofCell place type nullable cell) :=
    fun place _ _ _ fault failed => ⟨place, ofCell_fault fault failed⟩
  have fields : ∀ record fields, FailsOnly (fun fault => ∃ place, CellFault place fault)
      (readFields record row fields) := by
    intro record fields
    fun_induction readFields record row fields with
    | case1 => exact .ok _
    | case2 field rest ih => exact ih
    | case3 field index rest fault failed => exact .error ((cell _ _ _ _).map fault failed)
    | case4 field index rest read _ ih => exact ih.map
  cases strategy with
  | scalar column type nullable => exact (cell column type nullable _).map
  | record mapping => exact (fields mapping.record mapping.fields).map

end RowStrategy

namespace RowReader

variable {reader : RowReader} {result : RowSet} {row : List Value} {rest : List (List Value)}

theorem firstCellNull_iff {rows : List (List Value)} :
    firstCellNull rows = true ↔
      ∀ row rest, rows = row :: rest → row[0]?.getD .null = .null := by
  unfold firstCellNull
  split
  · rename_i value cells rest
    simp [Value.isNull_iff]
  · rename_i rows unfilled
    refine iff_of_true rfl fun row rest same => ?_
    cases row with
    | nil => rfl
    | cons value cells => exact absurd same (unfilled value cells rest)

/-- What a result is read as hangs on its readings, unless it is handed over as it is. -/
theorem read_congr {other : RowSet} (rowwise : reader.shape.element.Rowwise)
    (rows : reader.readRows other = reader.readRows result) :
    reader.read other = reader.read result := by
  unfold RowReader.read readAll readFirst
  rw [rows]
  cases shape : reader.shape with
  | rows =>
      rw [shape] at rowwise
      cases rowwise
  | _ => rfl

theorem read_of_readRows_failed {fault : Fault} (rowwise : reader.shape.element.Rowwise)
    (failed : reader.readRows result = .error fault) : reader.read result = .error fault := by
  unfold RowReader.read readAll readFirst
  rw [failed]
  cases shape : reader.shape with
  | collection | scalar | optionalScalar | record | optionalRecord => rfl
  | _ =>
      rw [shape] at rowwise
      cases rowwise

theorem read_of_readFirst {first second : RowSet} (rowwise : reader.shape.Rowwise)
    (same : reader.readFirst first = reader.readFirst second) :
    reader.read first = reader.read second := by
  unfold RowReader.read
  rw [same]
  generalize reader.shape = shape at rowwise
  cases rowwise <;> rfl

theorem readFirst_cons {row : List Value} {rest : List (List Value)}
    (rows : result.rows = row :: rest) : reader.readFirst result =
      (reader.strategy result.columns >>= fun strategy => strategy.readRow row).map some := by
  simp only [readFirst, readRows, rows]
  cases reader.strategy result.columns <;> rfl

theorem read_nil (strict : reader.shape.isStrict = true) (empty : result.rows = []) :
    reader.read result = .error .emptyResult := by
  have none : reader.readFirst result = .ok none := by
    simp only [readFirst, readRows, empty]
    rfl
  unfold RowReader.read
  rw [none]
  cases shape : reader.shape with
  | scalar | record => rfl
  | _ => simp [shape, ReturnShape.isStrict] at strict

theorem read_cons (strict : reader.shape.isStrict = true) (first : result.rows = row :: rest) :
    reader.read result =
      (reader.strategy result.columns >>= fun strategy => strategy.readRow row).map .value := by
  unfold RowReader.read
  rw [readFirst_cons first]
  generalize (reader.strategy result.columns >>= fun strategy => strategy.readRow row) = read
  cases shape : reader.shape with
  | scalar | record => cases read <;> rfl
  | _ => simp [shape, ReturnShape.isStrict] at strict

theorem read_scalar_cons {type : ValueType} (shape : reader.shape = .scalar type)
    (first : result.rows = row :: rest) :
    reader.read result =
      (scalarStrategy type false result.columns >>= fun strategy => strategy.readRow row).map
        .value := by
  have strict : reader.shape.isStrict = true := shape ▸ rfl
  rw [read_cons strict first]
  simp only [RowReader.strategy, shape]
  rfl

theorem strategy_fault (strict : reader.shape.isStrict = true) {header : List String} :
    FailsOnly (· ≠ .emptyResult) (reader.strategy header) := by
  simp only [RowReader.strategy]
  cases shape : reader.shape with
  | scalar type =>
      simp only [ReturnShape.element, scalarStrategy]
      split
      · exact .ok _
      · exact .error nofun
  | record target =>
      refine .map ?_
      unfold mappingOf
      split
      · exact .ok _
      · rintro fault failed rfl
        exact nomatch Mapping.ofRecord_fails _ failed
  | _ => simp [shape, ReturnShape.isStrict] at strict

/-- A strict value is missed where there is no row, and only there. -/
theorem read_eq_emptyResult_iff (strict : reader.shape.isStrict = true) :
    reader.read result = .error .emptyResult ↔ result.rows = [] := by
  refine ⟨fun failed => ?_, read_nil strict⟩
  cases rows : result.rows with
  | nil => rfl
  | cons row rest =>
      rw [read_cons strict rows, map_eq_error_iff] at failed
      have filled : FailsOnly (· ≠ .emptyResult)
          (reader.strategy result.columns >>= fun strategy => strategy.readRow row) := by
        refine (strategy_fault strict).bind fun strategy _ => ?_
        rintro fault failed rfl
        obtain ⟨place, fault⟩ := RowStrategy.readRow_fault _ failed
        cases fault
      exact absurd rfl (filled _ failed)

/-- The faults of a caller that an observer is not told of. -/
inductive Unreported (result : RowSet) : ReturnShape → Fault → Prop where
  | noRow {shape : ReturnShape} (strict : shape.isStrict = true) :
      Unreported result shape .emptyResult
  | noValue {type : ValueType} {column : String} :
      Unreported result (.scalar type) (.unexpectedNull column)
  /-- The first cell is empty, whatever the width of the header. -/
  | otherWidth {type : ValueType} {row : List Value} {rest : List (List Value)} {width : Nat}
      (first : result.rows = row :: rest) (empty : row[0]?.getD .null = .null) :
      Unreported result (.scalar type) (.unexpectedOutcome .read (.wideScalar width))

theorem unreported_of_empty_cell {type : ValueType} (shape : reader.shape = .scalar type)
    (first : result.rows = row :: rest) (empty : row[0]?.getD .null = .null) :
    ∃ fault, reader.read result = .error fault ∧ Unreported result reader.shape fault := by
  rw [read_scalar_cons shape first, shape]
  unfold scalarStrategy
  split
  · rename_i column _
    refine ⟨.unexpectedNull column, ?_, .noValue⟩
    rw [map_eq_error_iff]
    exact map_eq_error_iff.mpr (ofCell_null empty)
  · exact ⟨_, rfl, .otherWidth first empty⟩

theorem empty_cell_of_unexpectedNull {type : ValueType} {column : String}
    (shape : reader.shape = .scalar type) (first : result.rows = row :: rest)
    (failed : reader.read result = .error (.unexpectedNull column)) :
    row[0]?.getD .null = .null := by
  rw [read_scalar_cons shape first, map_eq_error_iff] at failed
  unfold scalarStrategy at failed
  split at failed
  · exact null_of_ofCell (map_eq_error_iff.mp failed)
  · cases failed

theorem readObserved_eq_none_iff :
    reader.readObserved result = .ok none ↔ skips reader.shape result = true := by
  unfold readObserved
  split
  · rename_i skipped
    exact iff_of_true rfl skipped
  · rename_i told
    refine iff_of_false (fun none => ?_) told
    obtain ⟨_, _, same⟩ := map_eq_ok_iff.mp none
    cases same

theorem skips_iff_unreported :
    skips reader.shape result = true ↔
      ∃ fault, reader.read result = .error fault ∧ Unreported result reader.shape fault := by
  constructor
  · intro skipped
    cases shape : reader.shape with
    | scalar type =>
        rw [shape] at skipped
        cases rows : result.rows with
        | nil => exact ⟨_, read_nil (shape ▸ rfl) rows, .noRow rfl⟩
        | cons row rest =>
            rw [← shape]
            exact unreported_of_empty_cell shape rows (firstCellNull_iff.mp skipped row rest rows)
    | record target =>
        rw [shape] at skipped
        exact ⟨_, read_nil (shape ▸ rfl) (List.isEmpty_iff.mp skipped), .noRow rfl⟩
    | _ => simp [shape, skips] at skipped
  · rintro ⟨fault, failed, unreported⟩
    generalize same : reader.shape = shape at unreported
    cases unreported with
    | noRow strict =>
        have empty := (read_eq_emptyResult_iff (same ▸ strict)).mp failed
        cases shape with
        | scalar | record => simp [skips, firstCellNull, empty]
        | _ => cases strict
    | noValue =>
        refine firstCellNull_iff.mpr fun row rest first => ?_
        exact empty_cell_of_unexpectedNull same first failed
    | otherWidth first empty =>
        refine firstCellNull_iff.mpr fun other others rows => ?_
        rw [first] at rows
        cases rows
        exact empty

/-- An observer is told what a caller is told, except for the absence of a strict value. -/
theorem observed_hides_absence (reader : RowReader) (result : RowSet) :
    (reader.readObserved result = .ok none ↔
      ∃ fault, reader.read result = .error fault ∧ Unreported result reader.shape fault) ∧
    (reader.readObserved result = .ok none ∨
      reader.readObserved result = (reader.read result).map some) := by
  refine ⟨readObserved_eq_none_iff.trans skips_iff_unreported, ?_⟩
  unfold readObserved
  split
  · exact .inl rfl
  · exact .inr rfl

/-- The header is too wide, and the observer is told nothing. -/
theorem wide_scalar_unreported :
    let reader : RowReader := ⟨.scalar .integer, none⟩
    let result : RowSet := ⟨["low", "high"], [[.null, .integer 1]]⟩
    RowReader.plan (.scalar .integer) none = .ok reader ∧
      reader.read result = .error (.unexpectedOutcome .read (.wideScalar 2)) ∧
      reader.readObserved result = .ok none :=
  ⟨rfl, rfl, rfl⟩

end RowReader

end CheckedSql

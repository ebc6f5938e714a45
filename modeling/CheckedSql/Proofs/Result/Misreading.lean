import CheckedSql.Proofs.Query.Permanence
import CheckedSql.Proofs.Result.Reading

namespace CheckedSql

/-- The rows of a result are read into a record, for which its header has no mapping. -/
def Unmapped (shape : ReturnShape) (result : RowSet) (fault : Fault) : Prop :=
  result.rows ≠ [] ∧ ∃ target, shape.element.record? = some target ∧
    Mapping.ofRecord target result.columns = .error fault

/-- A fault of one call. -/
def Fault.Passing (fault : Fault) : Prop :=
  ¬ fault.Permanent

theorem Unmapped.permanent {shape : ReturnShape} {result : RowSet} {fault : Fault}
    (unmapped : Unmapped shape result fault) : fault.Permanent := by
  obtain ⟨_, _, _, failed⟩ := unmapped
  exact Mapping.ofRecord_fails fault failed

section Rows

variable {place record : String} {row : List Value}

theorem Fault.passing_of_eq_false {fault : Fault} (called : fault.atDefinition = false) :
    fault.Passing := by
  intro permanent
  rw [Fault.Permanent, called] at permanent
  cases permanent

theorem checked_fails {type : ValueType} {value : Value} :
    FailsOnly Fault.Passing (value.checked place type) := by
  unfold Value.checked
  split
  · exact .ok _
  · split
    · exact .ok _
    · split
      · exact .ok _
      · exact .error (Fault.passing_of_eq_false rfl)

theorem ofCell_fails {type : ValueType} {nullable : Bool} {cell : Option Value} :
    FailsOnly Fault.Passing (Value.ofCell place type nullable cell) := by
  unfold Value.ofCell
  simp only
  split
  · exact .error (Fault.passing_of_eq_false rfl)
  · exact checked_fails

theorem RowStrategy.readFields_fails {fields : List (Field × Option Nat)} :
    FailsOnly Fault.Passing (readFields record row fields) := by
  fun_induction readFields record row fields with
  | case1 => exact .ok _
  | case2 field rest ih => exact ih
  | case3 field index rest fault failed =>
      exact .error (ofCell_fails.map fault failed)
  | case4 field index rest read _ ih => exact ih.map

theorem RowStrategy.readRow_fails {strategy : RowStrategy} :
    FailsOnly Fault.Passing (strategy.readRow row) := by
  cases strategy with
  | scalar column type nullable => exact ofCell_fails.map
  | record mapping => exact RowStrategy.readFields_fails.map

end Rows

/-- The shapes that one row is read into. -/
inductive ReturnShape.Rowwise : ReturnShape → Prop where
  | scalar (type : ValueType) : Rowwise (.scalar type)
  | optionalScalar (type : ValueType) : Rowwise (.optionalScalar type)
  | record (target : Record) : Rowwise (.record target)
  | optionalRecord (target : Record) : Rowwise (.optionalRecord target)

theorem ReturnShape.rowwise_element {shape : ReturnShape} (value : shape.ReadValue)
    (mapped : shape ≠ .rows) : shape.element.Rowwise := by
  cases value with
  | element single => cases single <;> constructor
  | optionalRecord target => exact .optionalRecord target
  | rows => exact absurd rfl mapped
  | collection single => cases single <;> constructor

namespace RowReader

variable {reader : RowReader} {header : List String} {result : RowSet} {fault : Fault}

theorem scalarStrategy_fails {type : ValueType} {nullable : Bool} :
    FailsOnly Fault.Passing (scalarStrategy type nullable header) := by
  unfold scalarStrategy
  split
  · exact .ok _
  · exact .error (Fault.passing_of_eq_false rfl)

theorem strategy_of_record (sound : reader.Sound) (rowwise : reader.shape.element.Rowwise)
    {target : Record} (record : reader.shape.element.record? = some target) :
    reader.strategy header = (Mapping.ofRecord target header).map .record := by
  rw [← mappingOf_eq sound record header]
  unfold RowReader.strategy
  generalize reader.shape.element = element at rowwise record ⊢
  cases rowwise with
  | scalar => cases record
  | optionalScalar => cases record
  | record => cases record; rfl
  | optionalRecord => cases record; rfl

theorem strategy_fails_of_no_record (rowwise : reader.shape.element.Rowwise)
    (unmapped : reader.shape.element.record? = none) :
    FailsOnly Fault.Passing (reader.strategy header) := by
  unfold RowReader.strategy
  generalize reader.shape.element = element at rowwise unmapped ⊢
  cases rowwise with
  | scalar => exact scalarStrategy_fails
  | optionalScalar => exact scalarStrategy_fails
  | record => cases unmapped
  | optionalRecord => cases unmapped

/-- A strategy is refused for good where the header has no mapping, and only there. -/
theorem strategy_permanent_iff (sound : reader.Sound) (rowwise : reader.shape.element.Rowwise) :
    (reader.strategy header = .error fault ∧ fault.Permanent) ↔
      ∃ target, reader.shape.element.record? = some target ∧
        Mapping.ofRecord target header = .error fault := by
  cases record : reader.shape.element.record? with
  | none =>
      refine iff_of_false ?_ (by simp)
      rintro ⟨failed, permanent⟩
      exact strategy_fails_of_no_record rowwise record fault failed permanent
  | some target =>
      rw [strategy_of_record sound rowwise record, map_eq_error_iff]
      constructor
      · rintro ⟨failed, _⟩
        exact ⟨target, rfl, failed⟩
      · rintro ⟨other, same, failed⟩
        cases same
        exact ⟨failed, Mapping.ofRecord_fails fault failed⟩

theorem readRows_permanent_iff (sound : reader.Sound)
    (rowwise : reader.shape.element.Rowwise) :
    (reader.readRows result = .error fault ∧ fault.Permanent) ↔
      Unmapped reader.shape result fault := by
  unfold readRows Unmapped
  split
  · rename_i empty
    exact iff_of_false (by simp) fun ⟨filled, _⟩ => filled (List.isEmpty_iff.mp empty)
  · rename_i filled
    rw [map_eq_error_iff, strategy_permanent_iff sound rowwise]
    exact (and_iff_right fun empty => filled (List.isEmpty_iff.mpr empty)).symm

theorem readRows_fail {reads : List (Except Fault Mapped)}
    (read : reader.readRows result = .ok reads) :
    ∀ read ∈ reads, FailsOnly Fault.Passing read := by
  unfold readRows at read
  split at read
  · cases read
    exact fun _ member => by cases member
  · obtain ⟨strategy, _, rfl⟩ := map_eq_ok_iff.mp read
    intro read member
    obtain ⟨row, _, rfl⟩ := List.mem_map.mp member
    exact RowStrategy.readRow_fails

theorem readFirst_permanent_iff (sound : reader.Sound)
    (rowwise : reader.shape.element.Rowwise) :
    (reader.readFirst result = .error fault ∧ fault.Permanent) ↔
      Unmapped reader.shape result fault := by
  rw [← readRows_permanent_iff sound rowwise]
  refine FailsOnly.bind_error_iff fun reads read => ?_
  have each := readRows_fail read
  cases reads with
  | nil => exact .ok none
  | cons first rest => exact (each first List.mem_cons_self).map

theorem readAll_permanent_iff (sound : reader.Sound)
    (rowwise : reader.shape.element.Rowwise) :
    (reader.readAll result = .error fault ∧ fault.Permanent) ↔
      Unmapped reader.shape result fault := by
  rw [← readRows_permanent_iff sound rowwise]
  exact FailsOnly.bind_error_iff fun reads read => .mapM (readRows_fail read)

/-- Reading fails for good only at the header, whatever the shape. -/
theorem read_permanent_iff (sound : reader.Sound) (value : reader.shape.ReadValue) :
    (reader.read result = .error fault ∧ fault.Permanent) ↔
      Unmapped reader.shape result fault := by
  have rowwise := ReturnShape.rowwise_element value
  have first (rowwise : reader.shape.element.Rowwise) :
      (reader.readFirst result = .error fault ∧ fault.Permanent) ↔
        Unmapped reader.shape result fault := readFirst_permanent_iff sound rowwise
  have each (rowwise : reader.shape.element.Rowwise) :
      (reader.readAll result = .error fault ∧ fault.Permanent) ↔
        Unmapped reader.shape result fault := readAll_permanent_iff sound rowwise
  unfold RowReader.read
  cases shape : reader.shape with rw [shape] at value rowwise first each
  | rows => exact iff_of_false (by simp) fun ⟨_, _, record, _⟩ => by cases record
  | collection element =>
      rw [map_eq_error_iff]
      exact each (rowwise (by simp))
  | scalar | record =>
      rw [← first (rowwise (by simp))]
      cases reader.readFirst result with
      | error reason => simp
      | ok read =>
          refine iff_of_false ?_ (by simp)
          rintro ⟨failed, permanent⟩
          cases read with
          | none => cases failed; cases permanent
          | some mapped => cases failed
  | optionalScalar | optionalRecord =>
      rw [← first (rowwise (by simp))]
      cases reader.readFirst result with
      | error reason => simp
      | ok read =>
          refine iff_of_false ?_ (by simp)
          rintro ⟨failed, _⟩
          dsimp only at failed
          split at failed
          · rename_i same
            cases same
          · cases failed
          · cases failed
          · cases failed
  | void | reactive | rowCount | rowId =>
      cases value with
      | element single => cases single

theorem readObserved_permanent_iff (sound : reader.Sound) (value : reader.shape.ReadValue) :
    (reader.readObserved result = .error fault ∧ fault.Permanent) ↔
      Unmapped reader.shape result fault := by
  unfold readObserved
  split
  · rename_i skipped
    refine iff_of_false (by simp) fun unmapped => ?_
    obtain ⟨filled, target, record, _⟩ := unmapped
    unfold skips at skipped
    split at skipped
    · rename_i scalar
      rw [scalar] at record
      cases record
    · exact filled (List.isEmpty_iff.mp skipped)
    · cases skipped
  · rw [map_eq_error_iff, read_permanent_iff sound value]

end RowReader

end CheckedSql

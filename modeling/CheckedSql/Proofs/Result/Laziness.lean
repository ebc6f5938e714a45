import CheckedSql.Proofs.Result.Agreement
import CheckedSql.Proofs.Result.Conformance
import CheckedSql.Result.Cursor

namespace CheckedSql

namespace RowCursor

/-- What a cursor yields after so many calls. -/
def call (cursor : RowCursor) : Nat → Option (Except Fault Mapped)
  | 0 => cursor.next.1
  | count + 1 => cursor.next.2.call count

end RowCursor

/-- What a cursor over a result yields: a reading for each row in turn, the one that is
yielded where no other row is there, and then nothing. -/
structure Lazily (reader : RowReader) (result : RowSet) (cursor : RowCursor) : Prop where
  bounds : cursor.bounds = (result.rows.length, some result.rows.length)
  each : List.Forall₂ (fun row reading => ∃ alone,
    reader.rows ⟨result.columns, [row]⟩ = .ok alone ∧ alone.drain = [reading])
      result.rows cursor.drain
  calls : ∀ count, cursor.call count = cursor.drain[count]?

/-- A list of all readings. -/
inductive Gathers : List (Except Fault Mapped) → Except Fault Output → Prop where
  | all {readings : List (Except Fault Mapped)} {items : List Mapped}
      (each : List.Forall₂ (fun reading item => reading = .ok item) readings items) :
      Gathers readings (.ok (.list items))
  | failed {before after : List (Except Fault Mapped)} {fault : Fault}
      (earlier : ∀ reading ∈ before, ∃ item, reading = .ok item) :
      Gathers (before ++ .error fault :: after) (.error fault)

/-- The first of the readings as a single value of a shape. -/
inductive Heads (shape : ReturnShape) : List (Except Fault Mapped) → Except Fault Output → Prop where
  | missing (strict : shape.isStrict = true) : Heads shape [] (.error .emptyResult)
  | absent (optional : shape.isOptional = true) : Heads shape [] (.ok .absent)
  | null {later : List (Except Fault Mapped)} (optional : shape.isOptional = true) :
      Heads shape (.ok (.scalar .null) :: later) (.ok .absent)
  | value {mapped : Mapped} {later : List (Except Fault Mapped)}
      (present : shape.isOptional = true → mapped ≠ .scalar .null) :
      Heads shape (.ok mapped :: later) (.ok (.value mapped))
  | failed {fault : Fault} {later : List (Except Fault Mapped)} :
      Heads shape (.error fault :: later) (.error fault)

namespace RowCursor

theorem call_nil (strategy : Option RowStrategy) (count : Nat) :
    (RowCursor.mk strategy []).call count = none := by
  induction count with
  | zero => rfl
  | succ count ih => exact ih

theorem call_eq_getElem? (strategy : RowStrategy) (rows : List (List Value)) (count : Nat) :
    (RowCursor.mk (some strategy) rows).call count = (rows.map strategy.readRow)[count]? := by
  induction rows generalizing count with
  | nil => exact call_nil _ count
  | cons row rest ih =>
      cases count with
      | zero => rfl
      | succ count => exact ih count

end RowCursor

theorem gathers_mapM (readings : List (Except Fault Mapped)) :
    Gathers readings ((readings.mapM id).map .list) := by
  cases done : readings.mapM id with
  | ok items => exact .all (forall₂_of_mapM done)
  | error fault =>
      obtain ⟨before, reading, after, rfl, earlier, failed⟩ := mapM_eq_error_iff.mp done
      cases failed
      exact .failed earlier

namespace RowReader

variable {reader other : RowReader} {result : RowSet} {cursor : RowCursor} {fault : Fault}

theorem rows_cons {row : List Value} {rest : List (List Value)} (rows : result.rows = row :: rest) :
    reader.rows result =
      (reader.strategy result.columns).map fun strategy => ⟨some strategy, row :: rest⟩ := by
  rw [RowReader.rows, rows]
  rfl

theorem lazily_of_rows (asked : reader.rows result = .ok cursor) :
    Lazily reader result cursor := by
  cases rows : result.rows with
  | nil =>
      rw [RowReader.rows, rows] at asked
      cases asked
      refine ⟨by rw [rows]; rfl, ?_, fun count => ?_⟩
      · rw [rows, RowCursor.drain_nil]
        exact .nil
      · rw [RowCursor.call_nil, RowCursor.drain_nil, List.getElem?_nil]
  | cons row rest =>
      rw [rows_cons rows] at asked
      obtain ⟨strategy, chosen, rfl⟩ := map_eq_ok_iff.mp asked
      refine ⟨by rw [rows]; rfl, ?_, fun count => ?_⟩
      · rw [rows, RowCursor.drain_eq, List.forall₂_map_right_iff, List.forall₂_same]
        intro row _
        refine ⟨⟨some strategy, [row]⟩, ?_, RowCursor.drain_eq strategy [row]⟩
        rw [rows_cons rfl, chosen]
        rfl
      · rw [RowCursor.call_eq_getElem?, RowCursor.drain_eq]

theorem rows_of_sound (same : reader.shape.element = other.shape.element) (sound : reader.Sound)
    (alsoSound : other.Sound) (result : RowSet) : reader.rows result = other.rows result := by
  have strategy : ∀ header, reader.strategy header = other.strategy header := by
    intro header
    rw [strategy_of_sound sound, strategy_of_sound alsoSound]
    unfold RowReader.strategy
    rw [same]
    cases other.shape.element <;> rfl
  unfold RowReader.rows
  rw [strategy]

theorem read_list {element : ReturnShape} (shape : reader.shape = .collection element)
    (asked : reader.rows result = .ok cursor) : Gathers cursor.drain (reader.read result) := by
  have all : reader.readAll result = cursor.drain.mapM id := by
    unfold readAll
    rw [readRows_eq_drain, asked]
    rfl
  unfold RowReader.read
  rw [shape, all]
  exact gathers_mapM cursor.drain

theorem read_head (rowwise : reader.shape.Rowwise) (asked : reader.rows result = .ok cursor) :
    Heads reader.shape cursor.drain (reader.read result) := by
  have head : reader.readFirst result = cursor.drain.head?.mapM id := by
    unfold readFirst
    rw [readRows_eq_drain, asked]
    rfl
  unfold RowReader.read
  rw [head]
  generalize reader.shape = shape at rowwise
  cases cursor.drain with
  | nil =>
      cases rowwise with
      | scalar | record => exact .missing rfl
      | optionalScalar | optionalRecord => exact .absent rfl
  | cons reading later =>
      cases reading with
      | error fault => cases rowwise <;> exact .failed
      | ok mapped =>
          cases rowwise with
          | scalar | record => exact .value fun optional => by cases optional
          | optionalScalar | optionalRecord =>
              cases mapped with
              | record => exact .value fun _ same => by cases same
              | scalar value =>
                  cases value with
                  | null => exact .null rfl
                  | _ => exact .value fun _ same => by cases same

end RowReader

/-- Reading rows one at a time, all of them into a list, or the first one only comes to the
same: the same header is refused, and otherwise the readings are those of the cursor. -/
theorem RowReader.rows_agree {element : ReturnShape} {known other : Option (List String)}
    {single many : RowReader} (rowwise : element.Rowwise) (planned : plan element known = .ok single)
    (collects : plan (.collection element) other = .ok many) (result : RowSet) :
    many.rows result = single.rows result ∧
      (∀ fault, single.rows result = .error fault →
        many.read result = .error fault ∧ single.read result = .error fault) ∧
      (∀ cursor, single.rows result = .ok cursor →
        Lazily single result cursor ∧ Gathers cursor.drain (many.read result) ∧
          Heads element cursor.drain (single.read result)) ∧
      ∀ row rest, result.rows = row :: rest →
        single.read result = single.read ⟨result.columns, [row]⟩ := by
  obtain ⟨shape, sound⟩ := plan_sound planned
  obtain ⟨alsoShape, alsoSound⟩ := plan_sound collects
  have observed : element.observed = element := by cases rowwise <;> rfl
  have itself : element.element = element := by cases rowwise <;> rfl
  rw [observed] at shape
  have same : many.shape.element = single.shape.element := by
    rw [shape, alsoShape, itself]
    rfl
  have agree := rows_of_sound same alsoSound sound result
  have one : single.shape.Rowwise := shape ▸ rowwise
  have each : single.shape.element.Rowwise := by rwa [shape, itself]
  refine ⟨agree, fun fault failed => ?_, fun cursor asked => ?_, fun row rest rows => ?_⟩
  · have unread : ∀ reader : RowReader, reader.rows result = .error fault →
        reader.readRows result = .error fault := by
      intro reader failed
      rw [readRows_eq_drain, failed]
      rfl
    exact ⟨read_of_readRows_failed (same ▸ each) (unread many (agree.trans failed)),
      read_of_readRows_failed each (unread single failed)⟩
  · exact ⟨lazily_of_rows asked, read_list alsoShape (agree.trans asked),
      shape ▸ read_head one asked⟩
  · refine read_of_readFirst one ?_
    rw [readFirst_cons rows, readFirst_cons rfl]

/-- A first row without a value, and two rows after it that cannot be read. -/
theorem RowReader.rows_agree_absent :
    let result : RowSet := ⟨["year"], [[.null], [.integer 4, .null], [.text "late"], [.blob []]]⟩
    let single : RowReader := ⟨.optionalScalar .real, none⟩
    let many : RowReader := ⟨.collection (.optionalScalar .real), none⟩
    let cursor : RowCursor := ⟨some (.scalar "year" .real true), result.rows⟩
    plan (.optionalScalar .real) (some ["year"]) = .ok single ∧
      plan (.collection (.optionalScalar .real)) none = .ok many ∧
      many.rows result = .ok cursor ∧ Lazily single result cursor ∧
      Gathers cursor.drain (many.read result) ∧
      many.read result = .error (.columnType "year" .real .text) ∧
      Heads (.optionalScalar .real) cursor.drain (single.read result) ∧
      single.read result = .ok .absent := by
  intro result single many cursor
  have planned : plan (.optionalScalar .real) (some ["year"]) = .ok single := rfl
  have collects : plan (.collection (.optionalScalar .real)) none = .ok many := rfl
  have asked : single.rows result = .ok cursor := rfl
  obtain ⟨same, _, agree, _⟩ := rows_agree (.optionalScalar .real) planned collects result
  obtain ⟨lazily, gathers, heads⟩ := agree cursor asked
  exact ⟨planned, collects, same.trans asked, lazily, gathers, rfl, heads, rfl⟩

end CheckedSql

import CheckedSql.Proofs.Except
import CheckedSql.Result.Reader

namespace CheckedSql

/-- What a cell is read as in a place of a type. A cell that the row lacks is none. -/
inductive ReadAs (type : ValueType) (nullable : Bool) : Option Value → Value → Prop where
  | same {value : Value} (typed : value.type? = some type) :
      ReadAs type nullable (some value) value
  | widened {number : Int64} (real : type = .real) :
      ReadAs type nullable (some (.integer number)) (.real (Binary64.ofInteger number))
  | null {cell : Option Value} (empty : cell.getD .null = .null) (allowed : nullable = true) :
      ReadAs type nullable cell .null

theorem readAs_of_checked {place : String} {type : ValueType} {nullable : Bool} {cell value : Value}
    (present : cell ≠ .null) (read : cell.checked place type = .ok value) :
    ReadAs type nullable (some cell) value := by
  unfold Value.checked at read
  split at read
  · cases read
    exact .widened rfl
  · split at read
    · rename_i untyped
      have null := Value.isNull_iff_type?_eq_none.mpr untyped
      cases cell with
      | null => exact absurd rfl present
      | integer | real | text | blob => cases null
    · rename_i found typed
      split at read
      · rename_i expected
        cases read
        exact .same (expected ▸ typed)
      · cases read

theorem readAs_of_ofCell {place : String} {type : ValueType} {nullable : Bool}
    {cell : Option Value} {value : Value}
    (read : Value.ofCell place type nullable cell = .ok value) :
    ReadAs type nullable cell value := by
  simp only [Value.ofCell] at read
  split at read
  · cases read
  · rename_i accepted
    by_cases empty : cell.getD .null = .null
    · rw [empty] at read accepted
      have allowed : nullable = true := by simpa [Value.isNull] using accepted
      have none : Value.null = value := by
        cases type <;> exact Except.ok.inj read
      exact none ▸ .null empty allowed
    · cases cell with
      | none => exact absurd rfl empty
      | some cell => exact readAs_of_checked empty read

/-- The column that feeds a field: the first of its own name, or else of its override. -/
def Field.source? (field : Field) (columns : List String) : Option Nat :=
  (columns.idxOf? field.name).or (field.column.bind fun override => columns.idxOf? override)

/-- The fields that a column feeds, in declaration order. -/
def Record.fed (target : Record) (columns : List String) : List (Field × Nat) :=
  target.fields.filterMap fun field => (field.source? columns).map (field, ·)

/-- A row as a value of a shape. -/
inductive RowReads (columns : List String) (row : List Value) : ReturnShape → Mapped → Prop where
  | scalar {type : ValueType} {value : Value} (single : columns.length = 1)
      (cell : ReadAs type false row[0]? value) : RowReads columns row (.scalar type) (.scalar value)
  | optionalScalar {type : ValueType} {value : Value} (single : columns.length = 1)
      (cell : ReadAs type true row[0]? value) :
      RowReads columns row (.optionalScalar type) (.scalar value)
  | record {shape : ReturnShape} {target : Record} {values : List (String × Value)}
      (declared : shape = .record target ∨ shape = .optionalRecord target)
      (cells : List.Forall₂ (fun fed named => named.1 = fed.1.name ∧
        ReadAs fed.1.type fed.1.nullable row[fed.2]? named.2) (target.fed columns) values) :
      RowReads columns row shape (.record target.name values)

namespace Mapping

theorem source?_eq (field : Field) (columns : List String) :
    field.source? columns =
      ((Feed.named? columns field.name).or (field.column.bind (Feed.named? columns))).map
        Feed.index := by
  unfold Field.source? Feed.named?
  cases columns.idxOf? field.name with
  | some index => rfl
  | none => cases field.column <;> simp [Function.comp_def]

theorem ofField_source {record : String} {columns : List String} {field : Field}
    {feed : Option Feed} (found : Feed.ofField record columns field = .ok feed) :
    feed.map Feed.index = field.source? columns := by
  rw [source?_eq]
  unfold Feed.ofField at found
  split at found
  · rename_i own _
    split at found <;> cases found
    rw [own]
    rfl
  · rename_i own _
    cases found
    rw [own]
    rfl
  · rename_i own
    cases found
    rw [own]
    rfl

theorem assign_sources {record : String} {columns : List String} {claimed : List (Nat × String)}
    {fields : List Field} {assigned : List (Field × Option Nat)}
    (accepted : assign record columns claimed fields = .ok assigned) :
    assigned = fields.map fun field => (field, field.source? columns) := by
  fun_induction assign record columns claimed fields generalizing assigned with
  | case1 => cases accepted; rfl
  | case2 => cases accepted
  | case3 claimed field rest found ih =>
      obtain ⟨further, tail, rfl⟩ := map_eq_ok_iff.mp accepted
      rw [List.map_cons, ← ih tail, ← ofField_source found]
      rfl
  | case4 => cases accepted
  | case5 claimed field rest feed found _ ih =>
      obtain ⟨further, tail, rfl⟩ := map_eq_ok_iff.mp accepted
      rw [List.map_cons, ← ih tail, ← ofField_source found]
      rfl

theorem ofRecord_fields {target : Record} {columns : List String} {mapping : Mapping}
    (planned : ofRecord target columns = .ok mapping) :
    mapping.fields = target.fields.map fun field => (field, field.source? columns) := by
  unfold ofRecord at planned
  split at planned
  · cases planned
  · rename_i fields assigned
    split at planned
    · cases planned
      exact assign_sources assigned
    · cases planned

end Mapping

theorem RowStrategy.forall₂_of_readFields {record : String} {row : List Value}
    {fields : List (Field × Option Nat)} {values : List (String × Value)}
    (read : readFields record row fields = .ok values) :
    List.Forall₂ (fun fed named => named.1 = fed.1.name ∧
        ReadAs fed.1.type fed.1.nullable row[fed.2]? named.2)
      (fields.filterMap fun assigned => assigned.2.map (assigned.1, ·)) values := by
  fun_induction readFields record row fields generalizing values with
  | case1 => cases read; exact .nil
  | case2 field rest ih => exact ih read
  | case3 => cases read
  | case4 field index rest named first ih =>
      obtain ⟨others, further, rfl⟩ := map_eq_ok_iff.mp read
      obtain ⟨value, cell, rfl⟩ := map_eq_ok_iff.mp first
      exact .cons ⟨rfl, readAs_of_ofCell cell⟩ (ih further)

namespace RowReader

variable {reader : RowReader} {header : List String} {result : RowSet}

/-- A plan is the mapping of the reader's record for the header that it names. -/
def Sound (reader : RowReader) : Prop :=
  ∀ mapping, reader.planned = some mapping → ∃ target,
    reader.shape.element.record? = some target ∧
      Mapping.ofRecord target mapping.columns = .ok mapping

theorem sound_of_ofRecord {shape : ReturnShape} {target : Record} {columns : List String}
    (record : shape.element.record? = some target)
    (planned : (Mapping.ofRecord target columns).map
      (fun mapping => RowReader.mk shape (some mapping)) = .ok reader) :
    reader.shape = shape ∧ reader.Sound := by
  obtain ⟨mapping, made, rfl⟩ := map_eq_ok_iff.mp planned
  refine ⟨rfl, fun stored same => ?_⟩
  cases same
  exact ⟨target, record, (Mapping.ofRecord_columns made).1.symm ▸ made⟩

theorem plan_sound {shape : ReturnShape} {known : Option (List String)}
    (planned : plan shape known = .ok reader) : reader.shape = shape.observed ∧ reader.Sound := by
  simp only [plan] at planned
  split at planned
  · split at planned <;> cases planned
    exact ⟨rfl, nofun⟩
  · split at planned <;> cases planned
    exact ⟨rfl, nofun⟩
  · rename_i element
    exact sound_of_ofRecord (congrArg ReturnShape.record? element) planned
  · rename_i element
    exact sound_of_ofRecord (congrArg ReturnShape.record? element) planned
  · cases planned
    exact ⟨rfl, nofun⟩

theorem mappingOf_eq (sound : reader.Sound) {target : Record}
    (record : reader.shape.element.record? = some target) (header : List String) :
    reader.mappingOf target header = Mapping.ofRecord target header := by
  unfold mappingOf
  split
  · rename_i mapping planned
    obtain ⟨stored, fits⟩ := Option.filter_eq_some_iff.mp planned
    obtain ⟨other, same, made⟩ := sound mapping stored
    rw [record] at same
    cases same
    rw [← made, eq_of_beq fits]
  · rfl

theorem scalarStrategy_eq_ok {type : ValueType} {nullable : Bool} {strategy : RowStrategy}
    (chosen : scalarStrategy type nullable header = .ok strategy) :
    header.length = 1 ∧ ∃ column, strategy = .scalar column type nullable := by
  unfold scalarStrategy at chosen
  split at chosen
  · cases chosen
    exact ⟨rfl, _, rfl⟩
  · cases chosen

theorem rowReads_of_record {target : Record} {row : List Value} {strategy : RowStrategy}
    {mapped : Mapped} {shape : ReturnShape}
    (declared : shape = .record target ∨ shape = .optionalRecord target)
    (chosen : (Mapping.ofRecord target header).map .record = .ok strategy)
    (read : strategy.readRow row = .ok mapped) : RowReads header row shape mapped := by
  obtain ⟨mapping, made, rfl⟩ := map_eq_ok_iff.mp chosen
  obtain ⟨values, cells, rfl⟩ := map_eq_ok_iff.mp read
  have paired := RowStrategy.forall₂_of_readFields cells
  rw [Mapping.ofRecord_fields made, List.filterMap_map] at paired
  rw [(Mapping.ofRecord_columns made).2]
  exact .record declared paired

theorem rowReads_of_readRow (sound : reader.Sound) {strategy : RowStrategy} {row : List Value}
    {mapped : Mapped} (chosen : reader.strategy header = .ok strategy)
    (read : strategy.readRow row = .ok mapped) :
    RowReads header row reader.shape.element mapped := by
  unfold RowReader.strategy at chosen
  split at chosen
  · rename_i type element
    obtain ⟨single, column, rfl⟩ := scalarStrategy_eq_ok chosen
    obtain ⟨value, cell, rfl⟩ := map_eq_ok_iff.mp read
    exact element ▸ .scalar single (readAs_of_ofCell cell)
  · rename_i type element
    obtain ⟨single, column, rfl⟩ := scalarStrategy_eq_ok chosen
    obtain ⟨value, cell, rfl⟩ := map_eq_ok_iff.mp read
    exact element ▸ .optionalScalar single (readAs_of_ofCell cell)
  · rename_i target element
    rw [mappingOf_eq sound (congrArg ReturnShape.record? element)] at chosen
    exact rowReads_of_record (.inl element) chosen read
  · rename_i target element
    rw [mappingOf_eq sound (congrArg ReturnShape.record? element)] at chosen
    exact rowReads_of_record (.inr element) chosen read
  · cases chosen

theorem readRows_eq_map (sound : reader.Sound) {reads : List (Except Fault Mapped)}
    (read : reader.readRows result = .ok reads) :
    ∃ readRow : List Value → Except Fault Mapped, reads = result.rows.map readRow ∧
      ∀ row mapped, readRow row = .ok mapped →
        RowReads result.columns row reader.shape.element mapped := by
  unfold readRows at read
  split at read
  · rename_i empty
    cases read
    exact ⟨fun _ => .error .emptyResult, by rw [List.isEmpty_iff.mp empty]; rfl, nofun⟩
  · obtain ⟨strategy, chosen, rfl⟩ := map_eq_ok_iff.mp read
    exact ⟨_, rfl, fun _ _ => rowReads_of_readRow sound chosen⟩

/-- A collection has one item for each row, in the order of the rows. -/
theorem forall₂_of_readAll (sound : reader.Sound) {items : List Mapped}
    (read : reader.readAll result = .ok items) :
    List.Forall₂ (fun row item => RowReads result.columns row reader.shape.element item)
      result.rows items := by
  obtain ⟨_, each, collected⟩ := bind_eq_ok_iff.mp read
  obtain ⟨readRow, rfl, reads⟩ := readRows_eq_map sound each
  rw [List.mapM_map] at collected
  exact (forall₂_of_mapM collected).imp reads

theorem reads_of_readFirst (sound : reader.Sound) {first : Option Mapped}
    (read : reader.readFirst result = .ok first) :
    (first = none ∧ result.rows = []) ∨
      ∃ mapped row rest, first = some mapped ∧ result.rows = row :: rest ∧
        RowReads result.columns row reader.shape.element mapped := by
  obtain ⟨_, each, head⟩ := bind_eq_ok_iff.mp read
  obtain ⟨readRow, rfl, reads⟩ := readRows_eq_map sound each
  rw [List.head?_map] at head
  cases rows : result.rows with
  | nil =>
      rw [rows] at head
      cases head
      exact .inl ⟨rfl, rfl⟩
  | cons row rest =>
      rw [rows] at head
      obtain ⟨mapped, readFirst, same⟩ := map_eq_ok_iff.mp head
      exact .inr ⟨mapped, row, rest, same.symm, rfl, reads row mapped readFirst⟩

end RowReader

end CheckedSql

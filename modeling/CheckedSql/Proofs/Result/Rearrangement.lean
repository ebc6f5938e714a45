import CheckedSql.Proofs.Result.Agreement
import CheckedSql.Proofs.Result.Matching

namespace CheckedSql

/-- The items at these positions. -/
def pick {Item : Type} (order : List Nat) (items : List Item) : List Item :=
  order.filterMap (items[·]?)

def RowSet.rearranged (order : List Nat) (result : RowSet) : RowSet :=
  ⟨pick order result.columns, result.rows.map (pick order)⟩

/-- An order of all positions below a bound. -/
def IsOrder (order : List Nat) (count : Nat) : Prop :=
  order.Perm (List.range count)

section Positions

variable {Item : Type} {order : List Nat} {items : List Item} {index count : Nat}

theorem getElem?_pick (within : ∀ index ∈ order, index < items.length) (position : Nat) :
    (pick order items)[position]? = order[position]?.bind (items[·]?) := by
  induction order generalizing position with
  | nil => rfl
  | cons first rest ih =>
      obtain ⟨here, further⟩ := List.forall_mem_cons.mp within
      have head : items[first]? = some items[first] := List.getElem?_eq_getElem here
      rw [pick, List.filterMap_cons, head]
      cases position with
      | zero => exact head.symm
      | succ position => exact ih further position

theorem IsOrder.mem_iff (orders : IsOrder order count) : index ∈ order ↔ index < count := by
  rw [List.Perm.mem_iff orders, List.mem_range]

theorem IsOrder.pick_perm (orders : IsOrder order items.length) : (pick order items).Perm items := by
  have whole : pick (List.range items.length) items = items := by
    refine List.ext_getElem? fun position => ?_
    rw [getElem?_pick (fun index member => List.mem_range.mp member)]
    by_cases within : position < items.length <;> simp [within]
  exact (List.Perm.filterMap _ orders).trans (List.Perm.of_eq whole)

/-- The item at a position is found where the order puts that position. -/
theorem IsOrder.getElem?_idxOf (orders : IsOrder order items.length) (within : index < items.length) :
    (pick order items)[order.idxOf index]? = items[index]? := by
  have member := orders.mem_iff.mpr within
  rw [getElem?_pick fun index member => orders.mem_iff.mp member,
    List.getElem?_eq_getElem (List.idxOf_lt_length_of_mem member), List.getElem_idxOf]
  rfl

theorem IsOrder.idxOf_inj (orders : IsOrder order count) {other : Nat} (within : index < count) :
    order.idxOf index = order.idxOf other ↔ index = other :=
  List.idxOf_inj (orders.mem_iff.mpr within)

end Positions

section Columns

variable {order : List Nat} {columns : List String} {field : Field}

theorem idxOf?_of_getElem? {names : List String} {name : String} {index : Nat}
    (distinct : names.Nodup) (found : names[index]? = some name) : names.idxOf? name = some index := by
  obtain ⟨within, rfl⟩ := List.getElem?_eq_some_iff.mp found
  refine List.idxOf?_eq_some_iff.mpr ⟨within, rfl, fun earlier before same => ?_⟩
  exact List.pairwise_iff_getElem.mp distinct earlier index (Nat.lt_trans before within) within
    before same

theorem idxOf?_pick (orders : IsOrder order columns.length) (distinct : columns.Nodup)
    (name : String) :
    (pick order columns).idxOf? name = (columns.idxOf? name).map order.idxOf := by
  have perm := orders.pick_perm
  cases found : columns.idxOf? name with
  | none =>
      rw [List.idxOf?_eq_none_iff] at found
      exact List.idxOf?_eq_none_iff.mpr fun member => found (perm.mem_iff.mp member)
  | some index =>
      have here := getElem?_of_idxOf? found
      refine idxOf?_of_getElem? (perm.nodup_iff.mpr distinct) ?_
      rw [orders.getElem?_idxOf (List.getElem?_eq_some_iff.mp here).1, here]

theorem source?_pick (orders : IsOrder order columns.length) (distinct : columns.Nodup)
    (field : Field) :
    field.source? (pick order columns) = (field.source? columns).map order.idxOf := by
  simp only [Field.source?, idxOf?_pick orders distinct]
  cases columns.idxOf? field.name <;> cases field.column <;> simp

theorem agrees_pick (orders : IsOrder order columns.length) (distinct : columns.Nodup)
    (agrees : field.Agrees columns) : field.Agrees (pick order columns) := by
  intro override own renamed declared named overridden
  rw [idxOf?_pick orders distinct] at named overridden
  obtain ⟨first, position, rfl⟩ := Option.map_eq_some_iff.mp named
  obtain ⟨second, place, rfl⟩ := Option.map_eq_some_iff.mp overridden
  rw [agrees override first second declared position place]

theorem unambiguous_pick (orders : IsOrder order columns.length) (distinct : columns.Nodup)
    {fields : List Field} (unambiguous : Unambiguous columns fields) :
    Unambiguous (pick order columns) fields where
  agree := fun field member => agrees_pick orders distinct (unambiguous.agree field member)
  exclusive := unambiguous.exclusive.imp fun {first second} apart index held wanted => by
    rw [source?_pick orders distinct] at held wanted
    obtain ⟨place, source, rfl⟩ := Option.map_eq_some_iff.mp held
    obtain ⟨other, also, same⟩ := Option.map_eq_some_iff.mp wanted
    cases (orders.idxOf_inj (Field.source?_lt source)).mp same.symm
    exact apart place source also

theorem clash_pick (orders : IsOrder order columns.length) (distinct : columns.Nodup)
    {before : List Field} {column : String} {clash : ColumnClash}
    (clashes : Clash columns before field column clash) :
    Clash (pick order columns) before field column clash := by
  cases clashes with
  | nameAndOverride declared named overridden apart =>
      have within := (List.idxOf?_eq_some_iff.mp named).1
      refine .nameAndOverride declared ?_ ?_ (mt (orders.idxOf_inj within).mp apart)
      · rw [idxOf?_pick orders distinct, named]
        rfl
      · rw [idxOf?_pick orders distinct, overridden]
        rfl
  | @shared holder _ index agrees earlier held wanted found =>
      have within := Field.source?_lt held
      have place : ∀ field : Field, field.source? columns = some index →
          field.source? (pick order columns) = some (order.idxOf index) := by
        intro field source
        rw [source?_pick orders distinct, source]
        rfl
      exact .shared (agrees_pick orders distinct agrees) earlier (place holder held)
        (place field wanted) (by rw [orders.getElem?_idxOf within, found])

theorem mappable_pick (orders : IsOrder order columns.length) (distinct : columns.Nodup)
    {target : Record} (mappable : Mappable target columns) :
    Mappable target (pick order columns) where
  fed := by
    obtain ⟨field, member, found⟩ := mappable.fed
    exact ⟨field, member, by simpa [source?_pick orders distinct] using found⟩
  unambiguous := unambiguous_pick orders distinct mappable.unambiguous

/-- Of the faults, only the one that lists the columns changes. -/
theorem unmappable_pick (orders : IsOrder order columns.length) (distinct : columns.Nodup)
    {target : Record} {fault : Fault} (unmappable : Unmappable target columns fault) :
    Unmappable target (pick order columns) fault ∨
      fault = .noMatchingColumns target.name columns ∧
        Unmappable target (pick order columns)
          (.noMatchingColumns target.name (pick order columns)) := by
  cases unmappable with
  | unmatched unfed =>
      refine .inr ⟨rfl, .unmatched fun field member => ?_⟩
      rw [source?_pick orders distinct, unfed field member]
      rfl
  | ambiguous first =>
      obtain ⟨before, field, after, parts, unambiguous, clashes⟩ := first
      exact .inl (.ambiguous ⟨before, field, after, parts,
        unambiguous_pick orders distinct unambiguous, clash_pick orders distinct clashes⟩)

theorem readFields_pick (orders : IsOrder order columns.length) (distinct : columns.Nodup)
    {record : String} {row : List Value} (filled : row.length = columns.length)
    (fields : List Field) :
    RowStrategy.readFields record (pick order row)
        (fields.map fun field => (field, field.source? (pick order columns))) =
      RowStrategy.readFields record row
        (fields.map fun field => (field, field.source? columns)) := by
  induction fields with
  | nil => rfl
  | cons field rest ih =>
      rw [List.map_cons, List.map_cons, source?_pick orders distinct]
      cases source : field.source? columns with
      | none => exact ih
      | some index =>
          have within : index < row.length := filled ▸ Field.source?_lt source
          have cell : RowStrategy.readField record (pick order row) field (order.idxOf index) =
              RowStrategy.readField record row field index := by
            unfold RowStrategy.readField
            rw [IsOrder.getElem?_idxOf (filled ▸ orders) within]
          simp only [Option.map_some, RowStrategy.readFields, cell, ih]

end Columns

namespace RowReader

variable {reader : RowReader} {result : RowSet} {order : List Nat} {target : Record}

theorem readRows_rearranged (sound : reader.Sound) (rowwise : reader.shape.element.Rowwise)
    (record : reader.shape.element.record? = some target) (distinct : result.columns.Nodup)
    (filled : ∀ row ∈ result.rows, row.length = result.columns.length)
    (orders : IsOrder order result.columns.length) :
    reader.readRows (result.rearranged order) = reader.readRows result ∨
      reader.readRows result = .error (.noMatchingColumns target.name result.columns) ∧
        reader.readRows (result.rearranged order) =
          .error (.noMatchingColumns target.name (result.rearranged order).columns) := by
  unfold readRows
  simp only [strategy_of_record sound rowwise record, RowSet.rearranged, List.isEmpty_map]
  cases empty : result.rows.isEmpty with
  | true => exact .inl rfl
  | false =>
      cases planned : Mapping.ofRecord target result.columns with
      | ok mapping =>
          obtain ⟨mappable, rfl⟩ := ofRecord_eq_ok_iff.mp planned
          rw [ofRecord_eq_ok_iff.mpr ⟨mappable_pick orders distinct mappable, rfl⟩]
          refine .inl (congrArg Except.ok ?_)
          dsimp only
          rw [List.map_map]
          refine List.map_congr_left fun row member => ?_
          exact congrArg (Except.map (Mapped.record target.name))
            (readFields_pick orders distinct (filled row member) target.fields)
      | error fault =>
          rcases unmappable_pick orders distinct (ofRecord_eq_error_iff.mp planned) with
            same | ⟨rfl, unmatched⟩
          · rw [ofRecord_eq_error_iff.mpr same]
            exact .inl rfl
          · rw [ofRecord_eq_error_iff.mpr unmatched]
            exact .inr ⟨rfl, rfl⟩

/-- Records are read by the names of columns: the order of the columns makes no difference,
except in the list of columns where none of them is the column of a field. -/
theorem read_rearranged {shape : ReturnShape} {known : Option (List String)}
    (planned : plan shape known = .ok reader)
    (records : shape.observed.element = .record target ∨
      shape.observed.element = .optionalRecord target)
    (distinct : result.columns.Nodup)
    (filled : ∀ row ∈ result.rows, row.length = result.columns.length)
    (orders : IsOrder order result.columns.length) :
    reader.read (result.rearranged order) = reader.read result ∨
      reader.read result = .error (.noMatchingColumns target.name result.columns) ∧
        reader.read (result.rearranged order) =
          .error (.noMatchingColumns target.name (result.rearranged order).columns) := by
  obtain ⟨same, sound⟩ := plan_sound planned
  rw [← same] at records
  have rowwise : reader.shape.element.Rowwise := by
    rcases records with element | element <;> rw [element] <;> constructor
  have record : reader.shape.element.record? = some target := by
    rcases records with element | element <;> rw [element] <;> rfl
  rcases readRows_rearranged sound rowwise record distinct filled orders with
    alike | ⟨failed, alsoFailed⟩
  · exact .inl (read_congr rowwise alike)
  · exact .inr ⟨read_of_readRows_failed rowwise failed, read_of_readRows_failed rowwise alsoFailed⟩

/-- A plan for another order of the columns, an override and a column that is not used. -/
theorem read_rearranged_planned :
    let target : Record :=
      ⟨"Song", [⟨"name", .text, false, none⟩, ⟨"length", .real, true, some "duration"⟩]⟩
    let result : RowSet := ⟨["name", "year", "duration"],
      [[.text "Isoline", .integer 1995, .integer 4], [.text "Orbit", .null, .null]]⟩
    let output : Output := .list
      [.record "Song" [("name", .text "Isoline"), ("length", .real (Binary64.ofInteger 4))],
        .record "Song" [("name", .text "Orbit"), ("length", .null)]]
    ∃ reader, plan (.collection (.record target)) (some ["duration", "name"]) = .ok reader ∧
      reader.read result = .ok output ∧
      reader.read (result.rearranged [2, 0, 1]) = .ok output := by
  intro target result output
  have computed : (plan (.collection (.record target)) (some ["duration", "name"])).map
      (·.read result) = .ok (.ok output) := by decide +kernel
  obtain ⟨reader, planned, read⟩ := map_eq_ok_iff.mp computed
  refine ⟨reader, planned, read, ?_⟩
  have orders : IsOrder [2, 0, 1] result.columns.length := by
    unfold IsOrder
    decide
  rcases read_rearranged planned (.inl rfl) (by decide) (by decide) orders with same | ⟨failed, _⟩
  · exact same.trans read
  · cases read.symm.trans failed

end RowReader

end CheckedSql

import CheckedSql.Proofs.Result.Reading

namespace CheckedSql

/-! Which columns and fields a mapping brings together, and when there is one.

`Field.source?` is the column that a field asks for. A record has a mapping for a header
if some field finds a column and no column is in doubt (`Mappable`); otherwise the first
field in doubt is reported (`Unmappable`). A mapping accounts for every column and every
field, and its report lists what is left over on either side (`Accounts`).
-/

/-- The name and the override of a field do not lead to different columns. -/
def Field.Agrees (field : Field) (columns : List String) : Prop :=
  ∀ override own renamed, field.column = some override →
    columns.idxOf? field.name = some own → columns.idxOf? override = some renamed → own = renamed

/-- No field leads to two columns, and no column to two fields. -/
structure Unambiguous (columns : List String) (fields : List Field) : Prop where
  agree : ∀ field ∈ fields, field.Agrees columns
  exclusive : fields.Pairwise fun first second =>
    ∀ index, first.source? columns = some index → second.source? columns ≠ some index

/-- What keeps a field from its column, when the fields before it have theirs. -/
inductive Clash (columns : List String) (before : List Field) (field : Field) :
    String → ColumnClash → Prop where
  | nameAndOverride {override : String} {own renamed : Nat} (declared : field.column = some override)
      (named : columns.idxOf? field.name = some own)
      (overridden : columns.idxOf? override = some renamed) (apart : own ≠ renamed) :
      Clash columns before field override (.nameAndOverride field.name field.name)
  | shared {holder : Field} {column : String} {index : Nat} (agrees : field.Agrees columns)
      (earlier : holder ∈ before) (held : holder.source? columns = some index)
      (wanted : field.source? columns = some index) (found : columns[index]? = some column) :
      Clash columns before field column (.sharedByFields holder.name field.name)

/-- The first of the fields that clashes, when those before it do not. -/
def FirstClash (columns : List String) (fields : List Field) (column : String)
    (clash : ColumnClash) : Prop :=
  ∃ before field after, fields = before ++ field :: after ∧ Unambiguous columns before ∧
    Clash columns before field column clash

structure Mappable (target : Record) (columns : List String) : Prop where
  fed : ∃ field ∈ target.fields, field.source? columns ≠ none
  unambiguous : Unambiguous columns target.fields

/-- Why a record has no mapping for a header. -/
inductive Unmappable (target : Record) (columns : List String) : Fault → Prop where
  | unmatched (unfed : ∀ field ∈ target.fields, field.source? columns = none) :
      Unmappable target columns (.noMatchingColumns target.name columns)
  | ambiguous {column : String} {clash : ColumnClash}
      (first : FirstClash columns target.fields column clash) :
      Unmappable target columns (.ambiguousColumn target.name column clash)

/-- The columns that no field asks for, in order. A repeated name is one column for each
time that it is there. -/
def Record.leftColumns (target : Record) (columns : List String) : List String :=
  (columns.zipIdx.filter fun column =>
    target.fields.all fun field => field.source? columns ≠ some column.2).map Prod.fst

def Record.leftFields (target : Record) (columns : List String) : List String :=
  (target.fields.filter fun field => (field.source? columns).isNone).map Field.name

/-- What a mapping says of each column and of each field of its record. -/
structure Accounts (target : Record) (columns : List String) (mapping : Mapping) : Prop where
  paired : mapping.fields = target.fields.map fun field => (field, field.source? columns)
  listed : mapping.uses.map Prod.fst = columns
  /-- A column is used exactly by the field that asks for it. -/
  used : ∀ index column owner, mapping.uses[index]? = some (column, owner) → ∀ field,
    owner = some field ↔ field ∈ target.fields ∧ field.source? columns = some index
  matched : ∀ index column owner, mapping.uses[index]? = some (column, owner) →
    (owner.isSome = true ↔ ∃ field ∈ target.fields, field.source? columns = some index)
  exclusive : target.fields.Pairwise fun first second =>
    ∀ index, first.source? columns = some index → second.source? columns ≠ some index
  repeated : ∀ (earlier later : Nat) column owner, earlier < later → columns[earlier]? = some column →
    mapping.uses[later]? = some (column, owner) → owner = none
  counted : mapping.matchedCount =
    target.fields.countP fun field => (field.source? columns).isSome
  unreported : MappingReport.ofMapping? mapping = none ↔
    (∀ use ∈ mapping.uses, use.2 ≠ none) ∧ ∀ field ∈ target.fields, field.source? columns ≠ none
  reported : ∀ report, MappingReport.ofMapping? mapping = some report →
    report = ⟨target.name, target.leftColumns columns, target.leftFields columns⟩

section Clashes

variable {record : String} {columns : List String} {before after : List Field} {field : Field}
  {index : Nat}

theorem getElem?_of_idxOf? {name : String} (found : columns.idxOf? name = some index) :
    columns[index]? = some name := by
  obtain ⟨within, here, _⟩ := List.idxOf?_eq_some_iff.mp found
  rw [List.getElem?_eq_getElem within, here]

/-- The column of a field is the first of its name. -/
theorem Field.first_of_source? (source : field.source? columns = some index) :
    ∃ name, columns.idxOf? name = some index := by
  rcases Option.or_eq_some_iff.mp source with named | ⟨_, overridden⟩
  · exact ⟨_, named⟩
  · obtain ⟨override, _, found⟩ := Option.bind_eq_some_iff.mp overridden
    exact ⟨override, found⟩

theorem Field.source?_lt (source : field.source? columns = some index) :
    index < columns.length := by
  obtain ⟨_, first⟩ := field.first_of_source? source
  exact (List.idxOf?_eq_some_iff.mp first).1

theorem Feed.getElem?_of_named? {name : String} {feed : Feed}
    (found : Feed.named? columns name = some feed) : columns[feed.index]? = some feed.column := by
  obtain ⟨index, position, rfl⟩ := Option.map_eq_some_iff.mp found
  exact getElem?_of_idxOf? position

theorem Feed.getElem?_of_ofField {feed : Feed}
    (found : Feed.ofField record columns field = .ok (some feed)) :
    columns[feed.index]? = some feed.column := by
  unfold Feed.ofField at found
  split at found
  · rename_i named _
    split at found <;> cases found
    exact getElem?_of_named? named
  · rename_i named _
    cases found
    exact getElem?_of_named? named
  · obtain ⟨override, _, named⟩ := Option.bind_eq_some_iff.mp (Except.ok.inj found)
    exact getElem?_of_named? named

theorem Feed.ofField_eq_error_iff {fault : Fault} :
    Feed.ofField record columns field = .error fault ↔
      ∃ override own renamed, field.column = some override ∧
        columns.idxOf? field.name = some own ∧ columns.idxOf? override = some renamed ∧
        own ≠ renamed ∧
        fault = .ambiguousColumn record override (.nameAndOverride field.name field.name) := by
  unfold Feed.ofField
  constructor
  · intro failed
    split at failed
    · rename_i own override named overridden
      split at failed <;> cases failed
      rename_i apart
      obtain ⟨_, position, rfl⟩ := Option.map_eq_some_iff.mp named
      obtain ⟨name, declared, further⟩ := Option.bind_eq_some_iff.mp overridden
      obtain ⟨_, second, rfl⟩ := Option.map_eq_some_iff.mp further
      exact ⟨name, _, _, declared, position, second, apart, rfl⟩
    · cases failed
    · cases failed
  · rintro ⟨override, own, renamed, declared, named, overridden, apart, rfl⟩
    simp [Feed.named?, declared, named, overridden, apart]

theorem Feed.agrees_of_ofField {feed : Option Feed}
    (found : Feed.ofField record columns field = .ok feed) : field.Agrees columns := by
  intro override own renamed declared named overridden
  by_contra apart
  have failed : Feed.ofField record columns field =
      .error (.ambiguousColumn record override (.nameAndOverride field.name field.name)) :=
    Feed.ofField_eq_error_iff.mpr
      ⟨override, own, renamed, declared, named, overridden, apart, rfl⟩
  cases found.symm.trans failed

theorem Clash.not_unambiguous {column : String} {clash : ColumnClash}
    (clashes : Clash columns before field column clash) :
    ¬ Unambiguous columns (before ++ field :: after) := by
  intro unambiguous
  cases clashes with
  | nameAndOverride declared named overridden apart =>
      exact apart (unambiguous.agree field (by simp) _ _ _ declared named overridden)
  | shared agrees earlier held wanted found =>
      have apart := (List.pairwise_append.mp unambiguous.exclusive).2.2
      exact apart _ earlier field List.mem_cons_self _ held wanted

theorem Unambiguous.snoc (unambiguous : Unambiguous columns before)
    (agrees : field.Agrees columns)
    (apart : ∀ other ∈ before, ∀ index, other.source? columns = some index →
      field.source? columns ≠ some index) : Unambiguous columns (before ++ [field]) where
  agree := by
    simp only [List.mem_append, List.mem_singleton]
    rintro other (earlier | rfl)
    · exact unambiguous.agree other earlier
    · exact agrees
  exclusive := by
    refine List.pairwise_append.mpr ⟨unambiguous.exclusive, List.pairwise_singleton _ _, ?_⟩
    simpa using apart

/-- A column is held by one field. -/
theorem Unambiguous.unique (unambiguous : Unambiguous columns before) {first second : Field}
    (mine : first ∈ before) (theirs : second ∈ before) (held : first.source? columns = some index)
    (also : second.source? columns = some index) : first = second := by
  obtain ⟨earlier, later, rfl⟩ := List.append_of_mem mine
  have exclusive := unambiguous.exclusive
  rw [List.pairwise_append, List.pairwise_cons] at exclusive
  obtain ⟨_, ⟨apart, _⟩, across⟩ := exclusive
  rcases List.mem_append.mp theirs with sooner | here
  · exact absurd held (across second sooner first List.mem_cons_self index also)
  · rcases List.mem_cons.mp here with rfl | further
    · rfl
    · exact absurd also (apart second further index held)

theorem Clash.unique {first second : String} {clash other : ColumnClash}
    (unambiguous : Unambiguous columns before) (clashes : Clash columns before field first clash)
    (again : Clash columns before field second other) : first = second ∧ clash = other := by
  cases clashes with
  | nameAndOverride declared named overridden apart =>
      cases again with
      | nameAndOverride again =>
          cases declared.symm.trans again
          exact ⟨rfl, rfl⟩
      | shared agrees => exact absurd (agrees _ _ _ declared named overridden) apart
  | shared agrees earlier held wanted found =>
      cases again with
      | nameAndOverride declared named overridden apart =>
          exact absurd (agrees _ _ _ declared named overridden) apart
      | shared _ alsoEarlier alsoHeld alsoWanted alsoFound =>
          cases wanted.symm.trans alsoWanted
          cases found.symm.trans alsoFound
          rw [unambiguous.unique earlier alsoEarlier held alsoHeld]
          exact ⟨rfl, rfl⟩

end Clashes

/-- Fields are given their columns, or else the first clash is reported. -/
inductive Assigns (record : String) (columns : List String) (fields : List Field) :
    Except Fault (List (Field × Option Nat)) → Prop where
  | all {assigned : List (Field × Option Nat)} (unambiguous : Unambiguous columns fields) :
      Assigns record columns fields (.ok assigned)
  | clash {column : String} {clash : ColumnClash} (first : FirstClash columns fields column clash) :
      Assigns record columns fields (.error (.ambiguousColumn record column clash))

/-- Columns given away to the fields that ask for them. -/
def Holds (columns : List String) (before : List Field) (claimed : List (Nat × String)) : Prop :=
  ∀ index name, claimed.lookup index = some name ↔
    ∃ holder ∈ before, holder.source? columns = some index ∧ holder.name = name

section Assignment

variable {record : String} {columns : List String} {before fields : List Field}
  {field : Field} {claimed : List (Nat × String)}

theorem FirstClash.not_unambiguous {column : String} {clash : ColumnClash}
    (first : FirstClash columns fields column clash) : ¬ Unambiguous columns fields := by
  obtain ⟨before, field, after, rfl, _, clashes⟩ := first
  exact clashes.not_unambiguous

theorem FirstClash.unique {first second : String} {clash other : ColumnClash}
    (found : FirstClash columns fields first clash)
    (again : FirstClash columns fields second other) : first = second ∧ clash = other := by
  obtain ⟨before, field, after, parts, unambiguous, clashes⟩ := found
  obtain ⟨sooner, rival, later, others, alsoUnambiguous, alsoClashes⟩ := again
  rw [parts, List.append_eq_append_iff] at others
  rcases others with ⟨between, rfl, split⟩ | ⟨between, rfl, split⟩
  · cases between with
    | nil =>
        cases split
        rw [List.append_nil] at alsoClashes
        exact clashes.unique unambiguous alsoClashes
    | cons head between =>
        cases split
        exact absurd alsoUnambiguous clashes.not_unambiguous
  · cases between with
    | nil =>
        cases split
        rw [List.append_nil] at clashes
        exact clashes.unique alsoUnambiguous alsoClashes
    | cons head between =>
        cases split
        exact absurd unambiguous alsoClashes.not_unambiguous

theorem Holds.skip (holds : Holds columns before claimed)
    (unmatched : field.source? columns = none) : Holds columns (before ++ [field]) claimed := by
  intro index name
  simp [holds index name, or_and_right, exists_or, unmatched]

theorem Holds.claim (holds : Holds columns before claimed) {index : Nat}
    (free : claimed.lookup index = none) (matched : field.source? columns = some index) :
    Holds columns (before ++ [field]) ((index, field.name) :: claimed) := by
  intro other name
  by_cases same : other = index
  · subst same
    have unheld : ∀ holder ∈ before, holder.source? columns ≠ some other := by
      intro holder earlier held
      cases free.symm.trans ((holds other _).mpr ⟨holder, earlier, held, rfl⟩)
    simp only [List.lookup_cons_self, Option.some.injEq, List.mem_append, List.mem_singleton]
    constructor
    · rintro rfl
      exact ⟨field, .inr rfl, matched, rfl⟩
    · rintro ⟨holder, earlier | rfl, held, rfl⟩
      · exact absurd held (unheld holder earlier)
      · rfl
  · have differs : (other == index) = false := by simpa using same
    rw [List.lookup_cons, differs, holds other name]
    constructor
    · rintro ⟨holder, earlier, held, named⟩
      exact ⟨holder, List.mem_append_left _ earlier, held, named⟩
    · rintro ⟨holder, member, held, named⟩
      rcases List.mem_append.mp member with earlier | new
      · exact ⟨holder, earlier, held, named⟩
      · cases List.mem_singleton.mp new
        cases matched.symm.trans held
        exact absurd rfl same

theorem Assigns.map {result : Except Fault (List (Field × Option Nat))}
    (assigns : Assigns record columns fields result)
    (change : List (Field × Option Nat) → List (Field × Option Nat)) :
    Assigns record columns fields (result.map change) := by
  cases assigns with
  | all unambiguous => exact .all unambiguous
  | clash first => exact .clash first

theorem assigns_assign (holds : Holds columns before claimed)
    (unambiguous : Unambiguous columns before) :
    Assigns record columns (before ++ fields) (Mapping.assign record columns claimed fields) := by
  fun_induction Mapping.assign record columns claimed fields generalizing before with
  | case1 => exact .all (by simpa using unambiguous)
  | case2 claimed field rest fault failed =>
      obtain ⟨override, own, renamed, declared, named, overridden, apart, rfl⟩ :=
        Feed.ofField_eq_error_iff.mp failed
      exact .clash ⟨before, field, rest, rfl, unambiguous,
        .nameAndOverride declared named overridden apart⟩
  | case3 claimed field rest found ih =>
      have unmatched : field.source? columns = none := (Mapping.ofField_source found).symm
      have further := unambiguous.snoc (Feed.agrees_of_ofField found) (by simp [unmatched])
      rw [List.append_cons]
      exact (ih (holds.skip unmatched) further).map _
  | case4 claimed field rest feed found name held =>
      have matched : field.source? columns = some feed.index := (Mapping.ofField_source found).symm
      obtain ⟨holder, earlier, source, rfl⟩ := (holds feed.index name).mp held
      exact .clash ⟨before, field, rest, rfl, unambiguous,
        .shared (Feed.agrees_of_ofField found) earlier source matched
          (Feed.getElem?_of_ofField found)⟩
  | case5 claimed field rest feed found free ih =>
      have matched : field.source? columns = some feed.index := (Mapping.ofField_source found).symm
      have apart : ∀ other ∈ before, ∀ index, other.source? columns = some index →
          field.source? columns ≠ some index := by
        intro other earlier index source wanted
        cases matched.symm.trans wanted
        cases free.symm.trans ((holds feed.index _).mpr ⟨other, earlier, source, rfl⟩)
      rw [List.append_cons]
      exact (ih (holds.claim free matched)
        (unambiguous.snoc (Feed.agrees_of_ofField found) apart)).map _

theorem unambiguous_nil (columns : List String) : Unambiguous columns [] :=
  ⟨List.forall_mem_nil _, .nil⟩

theorem assigns_all (record : String) (columns : List String) (fields : List Field) :
    Assigns record columns fields (Mapping.assign record columns [] fields) :=
  assigns_assign (fun _ _ => by simp) (unambiguous_nil columns)

theorem assign_exists_iff :
    (∃ assigned, Mapping.assign record columns [] fields = .ok assigned) ↔
      Unambiguous columns fields := by
  have assigns := assigns_all record columns fields
  generalize Mapping.assign record columns [] fields = result at assigns
  cases assigns with
  | all unambiguous => exact iff_of_true ⟨_, rfl⟩ unambiguous
  | clash first => exact iff_of_false (by simp) first.not_unambiguous

theorem assign_eq_error_iff {fault : Fault} :
    Mapping.assign record columns [] fields = .error fault ↔
      ∃ column clash, FirstClash columns fields column clash ∧
        fault = .ambiguousColumn record column clash := by
  have assigns := assigns_all record columns fields
  generalize Mapping.assign record columns [] fields = result at assigns
  cases assigns with
  | all unambiguous =>
      refine iff_of_false (by simp) ?_
      rintro ⟨column, clash, first, _⟩
      exact first.not_unambiguous unambiguous
  | clash first =>
      constructor
      · intro same
        cases same
        exact ⟨_, _, first, rfl⟩
      · rintro ⟨column, clash, again, rfl⟩
        obtain ⟨rfl, rfl⟩ := first.unique again
        rfl

theorem unambiguous_or_clash (columns : List String) (fields : List Field) :
    Unambiguous columns fields ∨ ∃ column clash, FirstClash columns fields column clash := by
  cases given : Mapping.assign "" columns [] fields with
  | ok assigned => exact .inl (assign_exists_iff.mp ⟨assigned, given⟩)
  | error fault =>
      obtain ⟨column, clash, first, _⟩ := assign_eq_error_iff.mp given
      exact .inr ⟨column, clash, first⟩

end Assignment

section Records

variable {target : Record} {columns : List String} {mapping : Mapping} {fault : Fault}

theorem unambiguous_of_unfed {fields : List Field}
    (unfed : ∀ field ∈ fields, field.source? columns = none) : Unambiguous columns fields where
  agree := fun field member override own renamed _ named _ => by
    have none := (Option.or_eq_none_iff.mp (unfed field member)).1
    cases named.symm.trans none
  exclusive := List.pairwise_of_forall_mem_list fun first member second _ index held => by
    cases held.symm.trans (unfed first member)

/-- What looking for a mapping comes to, once the fields in doubt are sorted out. -/
theorem ofRecord_of_unambiguous (unambiguous : Unambiguous columns target.fields) :
    Mapping.ofRecord target columns =
      if target.fields.any fun field => (field.source? columns).isSome then
        .ok ⟨target.name, columns, target.fields.map fun field => (field, field.source? columns)⟩
      else .error (.noMatchingColumns target.name columns) := by
  have whole : ∃ assigned, Mapping.assign target.name columns [] target.fields = .ok assigned :=
    assign_exists_iff.mpr unambiguous
  obtain ⟨assigned, given⟩ := whole
  unfold Mapping.ofRecord
  rw [given, Mapping.assign_sources given]
  simp only [List.any_map, Function.comp_def]

theorem ofRecord_of_clash {column : String} {clash : ColumnClash}
    (first : FirstClash columns target.fields column clash) :
    Mapping.ofRecord target columns = .error (.ambiguousColumn target.name column clash) := by
  unfold Mapping.ofRecord
  rw [assign_eq_error_iff.mpr ⟨column, clash, first, rfl⟩]

theorem any_source?_iff {fields : List Field} :
    (fields.any fun field => (field.source? columns).isSome) = true ↔
      ∃ field ∈ fields, field.source? columns ≠ none := by
  simp [Option.isSome_iff_ne_none]

theorem ofRecord_eq_ok_iff : Mapping.ofRecord target columns = .ok mapping ↔
    Mappable target columns ∧ mapping =
      ⟨target.name, columns, target.fields.map fun field => (field, field.source? columns)⟩ := by
  constructor
  · intro planned
    rcases unambiguous_or_clash columns target.fields with unambiguous | ⟨column, clash, first⟩
    · rw [ofRecord_of_unambiguous unambiguous] at planned
      split at planned
      · rename_i fed
        cases planned
        exact ⟨⟨any_source?_iff.mp fed, unambiguous⟩, rfl⟩
      · cases planned
    · cases planned.symm.trans (ofRecord_of_clash first)
  · rintro ⟨mappable, rfl⟩
    rw [ofRecord_of_unambiguous mappable.unambiguous, if_pos (any_source?_iff.mpr mappable.fed)]

theorem ofRecord_eq_error_iff :
    Mapping.ofRecord target columns = .error fault ↔ Unmappable target columns fault := by
  constructor
  · intro failed
    rcases unambiguous_or_clash columns target.fields with unambiguous | ⟨column, clash, first⟩
    · rw [ofRecord_of_unambiguous unambiguous] at failed
      split at failed
      · cases failed
      · rename_i unfed
        cases failed
        refine .unmatched fun field member => ?_
        by_contra fed
        exact unfed (any_source?_iff.mpr ⟨field, member, fed⟩)
    · cases failed.symm.trans (ofRecord_of_clash first)
      exact .ambiguous first
  · intro unmappable
    cases unmappable with
    | unmatched unfed =>
        rw [ofRecord_of_unambiguous (unambiguous_of_unfed unfed), if_neg]
        intro fed
        obtain ⟨field, member, found⟩ := any_source?_iff.mp fed
        exact found (unfed field member)
    | ambiguous first => exact ofRecord_of_clash first

end Records

namespace Mapping

variable {target : Record} {columns : List String} {mapping : Mapping} {index : Nat}
  {field : Field}

/-- The fields of a mapping do not share columns, so the first that holds one is the only. -/
theorem owner?_eq_some_iff (planned : ofRecord target columns = .ok mapping) :
    mapping.owner? index = some field ↔
      field ∈ target.fields ∧ field.source? columns = some index := by
  obtain ⟨mappable, rfl⟩ := ofRecord_eq_ok_iff.mp planned
  have held : ∀ holder,
      target.fields.find? (fun field => field.source? columns = some index) = some holder →
        holder ∈ target.fields ∧ holder.source? columns = some index := fun holder found =>
    ⟨List.mem_of_find?_eq_some found, by simpa using List.find?_some found⟩
  simp only [owner?, List.find?_map, Option.map_map, Option.map_eq_some_iff, Function.comp_def]
  constructor
  · rintro ⟨holder, found, rfl⟩
    exact held holder found
  · rintro ⟨member, source⟩
    cases found : target.fields.find? (fun field => field.source? columns = some index) with
    | none =>
        have absent := List.find?_eq_none.mp found field member
        simp [source] at absent
    | some holder =>
        obtain ⟨also, holds⟩ := held holder found
        exact ⟨holder, rfl, mappable.unambiguous.unique also member holds source⟩

theorem owner?_isSome_iff (planned : ofRecord target columns = .ok mapping) :
    (mapping.owner? index).isSome = true ↔
      index ∈ target.fields.filterMap (·.source? columns) := by
  simp only [Option.isSome_iff_exists, owner?_eq_some_iff planned, List.mem_filterMap]

theorem uses_eq (mapping : Mapping) : mapping.uses =
    mapping.columns.zipIdx.map fun column => (column.1, mapping.owner? column.2) :=
  List.mapIdx_eq_zipIdx_map

theorem unusedColumns_eq (planned : ofRecord target columns = .ok mapping) :
    mapping.unusedColumns = target.leftColumns columns := by
  have unowned : ∀ index, (mapping.owner? index).isNone =
      target.fields.all fun field => field.source? columns ≠ some index := by
    intro index
    rw [Bool.eq_iff_iff, Option.isNone_iff_eq_none, ← Option.not_isSome_iff_eq_none,
      owner?_isSome_iff planned, List.mem_filterMap]
    simp
  rw [unusedColumns, uses_eq, List.filter_map, List.map_map, (ofRecord_columns planned).1]
  simp only [Function.comp_def, unowned, Record.leftColumns]

theorem unsetFields_eq (planned : ofRecord target columns = .ok mapping) :
    mapping.unsetFields = target.leftFields columns := by
  rw [unsetFields, ofRecord_fields planned, List.filter_map, List.map_map]
  rfl

theorem countP_range {indices : List Nat} {count : Nat} (nodup : indices.Nodup)
    (within : ∀ index ∈ indices, index < count) :
    (List.range count).countP (fun index => index ∈ indices) = indices.length := by
  rw [List.countP_eq_length_filter]
  refine List.Perm.length_eq ?_
  refine (List.perm_ext_iff_of_nodup (List.nodup_range.filter _) nodup).mpr fun index => ?_
  simp only [List.mem_filter, List.mem_range, decide_eq_true_eq]
  exact and_iff_right_of_imp (within index)

/-- Fields with a column and columns with a field are as many. -/
theorem matchedCount_eq (planned : ofRecord target columns = .ok mapping) :
    mapping.matchedCount = target.fields.countP fun field => (field.source? columns).isSome := by
  have exclusive := (ofRecord_eq_ok_iff.mp planned).1.unambiguous.exclusive
  have nodup : (target.fields.filterMap (·.source? columns)).Nodup := by
    refine exclusive.filterMap _ fun _ _ apart index held other wanted => ?_
    rintro rfl
    exact apart index held wanted
  have within : ∀ index ∈ target.fields.filterMap (·.source? columns), index < columns.length := by
    intro index member
    obtain ⟨field, _, source⟩ := List.mem_filterMap.mp member
    exact field.source?_lt source
  calc mapping.matchedCount
      = (columns.zipIdx.map Prod.snd).countP fun index => (mapping.owner? index).isSome := by
        rw [matchedCount, uses_eq, List.countP_map, List.countP_map, (ofRecord_columns planned).1]
        rfl
    _ = (List.range columns.length).countP fun index =>
          index ∈ target.fields.filterMap (·.source? columns) := by
        rw [List.zipIdx_map_snd, ← List.range_eq_range']
        exact List.countP_congr fun index _ => by simp [owner?_isSome_iff planned]
    _ = target.fields.countP fun field => (field.source? columns).isSome := by
        rw [countP_range nodup within, List.length_filterMap_eq_countP]

theorem getElem?_uses {column : String} {owner : Option Field}
    (use : mapping.uses[index]? = some (column, owner)) :
    mapping.columns[index]? = some column ∧ mapping.owner? index = owner := by
  simpa [uses] using use

/-- Only the first column of a name can be used. -/
theorem owner?_of_repeated (planned : ofRecord target columns = .ok mapping) {earlier : Nat}
    {column : String} (before : earlier < index) (first : columns[earlier]? = some column)
    (again : columns[index]? = some column) : mapping.owner? index = none := by
  cases owned : mapping.owner? index with
  | none => rfl
  | some field =>
      obtain ⟨_, source⟩ := (owner?_eq_some_iff planned).mp owned
      obtain ⟨name, position⟩ := field.first_of_source? source
      cases again.symm.trans (getElem?_of_idxOf? position)
      obtain ⟨_, _, least⟩ := List.idxOf?_eq_some_iff.mp position
      have within := (List.getElem?_eq_some_iff.mp first).1
      exact absurd (List.getElem?_eq_some_iff.mp first).2 (least earlier before)

theorem unusedColumns_eq_nil_iff :
    mapping.unusedColumns = [] ↔ ∀ use ∈ mapping.uses, use.2 ≠ none := by
  simp [unusedColumns, List.filter_eq_nil_iff]

theorem unsetFields_eq_nil_iff (planned : ofRecord target columns = .ok mapping) :
    mapping.unsetFields = [] ↔ ∀ field ∈ target.fields, field.source? columns ≠ none := by
  simp [unsetFields_eq planned, Record.leftFields, List.filter_eq_nil_iff]

theorem accounts_of_ofRecord (planned : ofRecord target columns = .ok mapping) :
    Accounts target columns mapping := by
  obtain ⟨sameColumns, sameRecord⟩ := ofRecord_columns planned
  refine ⟨ofRecord_fields planned, ?_, ?_, ?_, ?_, ?_, matchedCount_eq planned, ?_, ?_⟩
  · rw [uses_eq, List.map_map, sameColumns]
    exact List.zipIdx_map_fst 0 columns
  · intro index column owner use field
    obtain ⟨_, rfl⟩ := getElem?_uses use
    exact owner?_eq_some_iff planned
  · intro index column owner use
    obtain ⟨_, rfl⟩ := getElem?_uses use
    rw [owner?_isSome_iff planned, List.mem_filterMap]
  · exact (ofRecord_eq_ok_iff.mp planned).1.unambiguous.exclusive
  · intro earlier later column owner before first use
    obtain ⟨again, rfl⟩ := getElem?_uses use
    exact owner?_of_repeated planned before first (sameColumns ▸ again)
  · rw [← unusedColumns_eq_nil_iff, ← unsetFields_eq_nil_iff planned]
    simp [MappingReport.ofMapping?]
  · intro report reported
    simp only [MappingReport.ofMapping?] at reported
    split at reported
    · cases reported
    · cases reported
      rw [sameRecord, unusedColumns_eq planned, unsetFields_eq planned]

/-- A record has a mapping for a header exactly if it can have one; the mapping then
accounts for every column and every field, and otherwise the fault says what is amiss. -/
theorem ofRecord_accounts (target : Record) (columns : List String) :
    ((∃ mapping, ofRecord target columns = .ok mapping) ↔ Mappable target columns) ∧
      (∀ fault, ofRecord target columns = .error fault ↔ Unmappable target columns fault) ∧
      ∀ mapping, ofRecord target columns = .ok mapping → Accounts target columns mapping := by
  refine ⟨?_, fun fault => ofRecord_eq_error_iff, fun mapping => accounts_of_ofRecord⟩
  constructor
  · rintro ⟨mapping, planned⟩
    exact (ofRecord_eq_ok_iff.mp planned).1
  · exact fun mappable => ⟨_, ofRecord_eq_ok_iff.mpr ⟨mappable, rfl⟩⟩

example : (ofRecord ⟨"Song", [⟨"name", .text, false, none⟩, ⟨"length", .real, true, some "time"⟩]⟩
    ["name", "year", "name"]).map MappingReport.ofMapping? =
      .ok (some ⟨"Song", ["year", "name"], ["length"]⟩) := by decide +kernel

end Mapping

end CheckedSql

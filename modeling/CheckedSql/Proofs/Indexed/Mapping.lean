import CheckedSql.Proofs.Indexed.Lookup
import CheckedSql.Proofs.Result.Matching

namespace CheckedSql.Mapping.Indexed

/-- The index of the column that a field asks for. -/
def sourceAt? (record : String) (columns : List String) (field : Field) : Lookup (Option Nat) :=
  match columns.idxOf? field.name, field.column.bind (columns.idxOf? ·) with
  | some own, some renamed =>
      if own = renamed then return some own
      else do
        let overridden ← (columns[renamed]? : Option String)
        let named ← (columns[own]? : Option String)
        throw (.ambiguousColumn record overridden (.nameAndOverride field.name named))
  | some own, none => return some own
  | none, renamed => return renamed

/-- Replaces the item at an index. -/
def set? {Item : Type} (items : List Item) (index : Nat) (item : Item) : Option (List Item) :=
  if index < items.length then some (items.set index item) else none

/-- Gives each field its column, and each column its owner. -/
def assignAt? (target : Record) (columns : List String) (owners : List (Option Nat)) (place : Nat) :
    List Field → Lookup (List (Field × Option Nat) × List (Option Nat))
  | [] => return ([], owners)
  | field :: rest => do
      match ← sourceAt? target.name columns field with
      | none =>
          let (further, owners) ← assignAt? target columns owners (place + 1) rest
          return ((field, none) :: further, owners)
      | some index =>
          match ← (owners[index]? : Option (Option Nat)) with
          | some other =>
              let column ← (columns[index]? : Option String)
              let holder ← (target.fields[other]? : Option Field)
              throw (.ambiguousColumn target.name column (.sharedByFields holder.name field.name))
          | none =>
              let owners ← set? owners index (some place)
              let (further, owners) ← assignAt? target columns owners (place + 1) rest
              return ((field, some index) :: further, owners)

/-- A column with the field that its entry tells of, if it tells of one. -/
def useAt? (target : Record) : String × Option Nat → Option (String × Option Field)
  | (column, none) => some (column, none)
  | (column, some owner) => (target.fields[owner]?).map fun field => (column, some field)

/-- A mapping, with the use of each column. -/
def ofRecord? (target : Record) (columns : List String) :
    Lookup (Mapping × List (String × Option Field)) := do
  let owners := List.replicate columns.length none
  let (fields, owners) ← assignAt? target columns owners 0 target.fields
  if fields.any (·.2.isSome) then
    let uses ← ((columns.zip owners).mapM (useAt? target) : Option (List (String × Option Field)))
    return (⟨target.name, columns, fields⟩, uses)
  else throw (.noMatchingColumns target.name columns)

/-- Whether the entries of columns tell their owners among these fields. -/
structure Owned (columns : List String) (before : List Field) (owners : List (Option Nat)) :
    Prop where
  size : owners.length = columns.length
  owner : ∀ index place : Nat, owners[index]? = some (some place) ↔
    ∃ field, before[place]? = some field ∧ field.source? columns = some index

section Owners

variable {target : Record} {columns : List String} {before rest : List Field} {field : Field}
  {owners : List (Option Nat)} {claimed : List (Nat × String)} {index : Nat}

theorem sourceAt?_eq (record : String) (columns : List String) (field : Field) :
    sourceAt? record columns field =
      .found ((Feed.ofField record columns field).map (Option.map Feed.index)) := by
  unfold sourceAt? Feed.ofField Feed.named?
  cases named : columns.idxOf? field.name with
  | none =>
      cases field.column with
      | none => rfl
      | some override =>
          rw [Option.bind_some, Option.bind_some]
          cases columns.idxOf? override <;> rfl
  | some own =>
      cases field.column with
      | none => rfl
      | some override =>
          rw [Option.bind_some, Option.bind_some]
          cases overridden : columns.idxOf? override with
          | none => rfl
          | some renamed =>
              simp only [Option.map_some]
              by_cases same : own = renamed
              · rw [if_pos same, if_pos same]
                rfl
              · rw [if_neg same, if_neg same, Lookup.some_bind (getElem?_of_idxOf? overridden),
                  Lookup.some_bind (getElem?_of_idxOf? named)]
                rfl

theorem getElem?_snoc {place : Nat} {holder : Field} : (before ++ [field])[place]? = some holder ↔
    before[place]? = some holder ∨ place = before.length ∧ field = holder := by
  rcases Nat.lt_trichotomy place before.length with inside | rfl | outside
  · rw [List.getElem?_append_left inside]
    exact (or_iff_left fun last => Nat.ne_of_lt inside last.1).symm
  · simp
  · have past : before[place]? = none := List.getElem?_eq_none (Nat.le_of_lt outside)
    have alsoPast : (before ++ [field])[place]? = none :=
      List.getElem?_eq_none (by rw [List.length_append]; exact outside)
    rw [past, alsoPast]
    simp [Nat.ne_of_gt outside]

theorem Owned.skip (owned : Owned columns before owners)
    (unmatched : field.source? columns = none) :
    Owned columns (before ++ [field]) owners where
  size := owned.size
  owner := by
    intro index place
    rw [owned.owner]
    simp only [getElem?_snoc, or_and_right, exists_or]
    refine (or_iff_left ?_).symm
    rintro ⟨holder, ⟨_, rfl⟩, source⟩
    cases unmatched.symm.trans source

theorem Owned.claim (owned : Owned columns before owners) (free : owners[index]? = some none)
    (matched : field.source? columns = some index) :
    ∃ claimed, set? owners index (some before.length) = some claimed ∧
      Owned columns (before ++ [field]) claimed := by
  have within := (List.getElem?_eq_some_iff.mp free).1
  refine ⟨_, if_pos within, by rw [List.length_set, owned.size], fun other place => ?_⟩
  simp only [getElem?_snoc, or_and_right, exists_or, ← owned.owner]
  rw [List.getElem?_set]
  by_cases same : index = other
  · subst same
    rw [if_pos rfl, if_pos within, free]
    simp [matched, eq_comm]
  · rw [if_neg same]
    refine (or_iff_left ?_).symm
    rintro ⟨holder, ⟨_, rfl⟩, source⟩
    cases matched.symm.trans source
    exact same rfl

/-- The column that a field asks for has an entry. -/
theorem Owned.entry (owned : Owned columns before owners)
    (matched : field.source? columns = some index) :
    ∃ owner, owners[index]? = some owner := by
  refine ⟨_, List.getElem?_eq_getElem ?_⟩
  rw [owned.size]
  exact field.source?_lt matched

/-- The entry of a claimed column tells the field that holds it. -/
theorem Owned.taken (owned : Owned columns before owners) (holds : Holds columns before claimed)
    {name : String} (held : claimed.lookup index = some name) :
    ∃ place holder, owners[index]? = some (some place) ∧ before[place]? = some holder ∧
      holder.name = name := by
  obtain ⟨holder, earlier, source, named⟩ := (holds index name).mp held
  obtain ⟨place, here⟩ := List.mem_iff_getElem?.mp earlier
  exact ⟨place, holder, (owned.owner _ _).mpr ⟨holder, here, source⟩, here, named⟩

/-- The entry of a column that nothing claims is empty. -/
theorem Owned.free (owned : Owned columns before owners) (holds : Holds columns before claimed)
    (matched : field.source? columns = some index) (unclaimed : claimed.lookup index = none) :
    owners[index]? = some none := by
  obtain ⟨owner, entry⟩ := owned.entry matched
  cases owner with
  | none => exact entry
  | some place =>
      obtain ⟨holder, here, source⟩ := (owned.owner _ _).mp entry
      have held := (holds index holder.name).mpr
        ⟨holder, List.mem_of_getElem? here, source, rfl⟩
      cases unclaimed.symm.trans held

/-- Fields are given their columns without a miss, and the columns their owners. -/
theorem assignAt?_eq (whole : target.fields = before ++ rest) (owned : Owned columns before owners)
    (holds : Holds columns before claimed) :
    ∃ given, assignAt? target columns owners before.length rest =
        .found ((assign target.name columns claimed rest).map fun assigned => (assigned, given)) ∧
      ∀ assigned, assign target.name columns claimed rest = .ok assigned →
        Owned columns target.fields given := by
  fun_induction assign target.name columns claimed rest generalizing before owners with
  | case1 claimed =>
      rw [List.append_nil] at whole
      exact ⟨owners, rfl, fun _ _ => whole ▸ owned⟩
  | case2 claimed field rest fault failed =>
      refine ⟨owners, ?_, fun _ failed => by cases failed⟩
      rw [assignAt?, sourceAt?_eq, failed]
      rfl
  | case3 claimed field rest unmatched ih =>
      have source : field.source? columns = none := (ofField_source unmatched).symm
      have parts : target.fields = before ++ [field] ++ rest := by simp [whole]
      obtain ⟨given, read, later⟩ := ih parts (owned.skip source) (holds.skip source)
      rw [List.length_append, List.length_singleton] at read
      refine ⟨given, ?_, fun assigned accepted => ?_⟩
      · rw [assignAt?, sourceAt?_eq, unmatched]
        simp only [Except.map, Option.map_none, Lookup.ok_bind, read]
        cases assign target.name columns claimed rest <;> rfl
      · obtain ⟨further, accepted, _⟩ := map_eq_ok_iff.mp accepted
        exact later further accepted
  | case4 claimed field rest feed found name held =>
      obtain ⟨place, holder, entry, here, rfl⟩ := owned.taken holds held
      have within := (List.getElem?_eq_some_iff.mp here).1
      have inRecord : target.fields[place]? = some holder := by
        rw [whole, List.getElem?_append_left within, here]
      refine ⟨owners, ?_, fun _ failed => by cases failed⟩
      rw [assignAt?, sourceAt?_eq, found]
      simp only [Except.map, Option.map_some, Lookup.ok_bind, Lookup.some_bind entry,
        Lookup.some_bind (Feed.getElem?_of_ofField found), Lookup.some_bind inRecord]
      rfl
  | case5 claimed field rest feed found free ih =>
      have matched : field.source? columns = some feed.index := (ofField_source found).symm
      have entry := owned.free holds matched free
      obtain ⟨next, written, claims⟩ := owned.claim entry matched
      have parts : target.fields = before ++ [field] ++ rest := by simp [whole]
      obtain ⟨given, read, later⟩ := ih parts claims (holds.claim free matched)
      rw [List.length_append, List.length_singleton] at read
      refine ⟨given, ?_, fun assigned accepted => ?_⟩
      · rw [assignAt?, sourceAt?_eq, found]
        simp only [Except.map, Option.map_some, Lookup.ok_bind, Lookup.some_bind entry,
          Lookup.some_bind written, read]
        cases assign target.name columns ((feed.index, field.name) :: claimed) rest <;> rfl
      · obtain ⟨further, accepted, _⟩ := map_eq_ok_iff.mp accepted
        exact later further accepted

end Owners

section Uses

variable {target : Record} {columns : List String} {mapping : Mapping} {owners : List (Option Nat)}

/-- An entry tells the use of its column. -/
theorem useAt?_eq (planned : ofRecord target columns = .ok mapping)
    (owned : Owned columns target.fields owners) {index : Nat} {owner : Option Nat}
    (entry : owners[index]? = some owner) (column : String) :
    useAt? target (column, owner) = some (column, mapping.owner? index) := by
  cases owner with
  | none =>
      suffices unused : mapping.owner? index = none by rw [unused]; rfl
      refine Option.eq_none_iff_forall_ne_some.mpr fun field held => ?_
      obtain ⟨member, source⟩ := (owner?_eq_some_iff planned).mp held
      obtain ⟨place, here⟩ := List.mem_iff_getElem?.mp member
      cases entry.symm.trans ((owned.owner index place).mpr ⟨field, here, source⟩)
  | some place =>
      obtain ⟨field, here, source⟩ := (owned.owner index place).mp entry
      have held := (owner?_eq_some_iff planned).mpr ⟨List.mem_of_getElem? here, source⟩
      rw [useAt?, here, held]
      rfl

theorem mapM_useAt? (planned : ofRecord target columns = .ok mapping)
    (owned : Owned columns target.fields owners) :
    (columns.zip owners).mapM (useAt? target) = some mapping.uses := by
  have listed : mapping.columns = columns := (ofRecord_columns planned).1
  have size : (columns.zip owners).length = mapping.uses.length := by
    simp [uses, listed, owned.size]
  refine mapM_eq_some_iff.mpr (List.forall₂_iff_get.mpr ⟨size, fun index inZip inUses => ?_⟩)
  have within : index < owners.length := by
    rw [List.length_zip] at inZip
    omega
  simp only [List.get_eq_getElem, List.getElem_zip, uses, List.getElem_mapIdx, listed]
  exact useAt?_eq planned owned (List.getElem?_eq_getElem within) _

end Uses

/-- A mapping is built, with its uses, and no lookup misses. -/
theorem ofRecord?_eq (target : Record) (columns : List String) :
    ofRecord? target columns =
      .found ((ofRecord target columns).map fun mapping => (mapping, mapping.uses)) := by
  have start : Owned columns [] (List.replicate columns.length none) := {
    size := List.length_replicate
    owner := by simp [List.getElem?_replicate] }
  have holds : Holds columns [] [] := by simp [Holds]
  obtain ⟨given, read, owned⟩ :=
    assignAt?_eq (List.nil_append target.fields).symm start holds
  rw [List.length_nil] at read
  simp only [ofRecord?, read]
  cases assigned : assign target.name columns [] target.fields with
  | error fault =>
      rw [ofRecord, assigned]
      rfl
  | ok fields =>
      by_cases fed : fields.any (·.2.isSome)
      · have planned : ofRecord target columns = .ok ⟨target.name, columns, fields⟩ := by
          simp only [ofRecord, assigned, if_pos fed]
        simp only [Except.map, Lookup.ok_bind, if_pos fed, planned,
          Lookup.some_bind (mapM_useAt? planned (owned fields assigned))]
        rfl
      · simp only [ofRecord, assigned, Except.map, Lookup.ok_bind, if_neg fed]
        rfl

end CheckedSql.Mapping.Indexed

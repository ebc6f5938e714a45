import Mathlib.Data.List.Forall2

namespace CheckedSql

/-! When computations that may fail succeed, and how they fail.

`FailsOnly` says that every fault of a computation is of one kind; it passes through
sequencing, so that the faults of a whole are found from those of its steps. `Together`
says of two computations that they succeed or fail alike, and passes through sequencing
in the same way.
-/

variable {Fault Item First Second : Type}

theorem bind_eq_ok_iff {first : Except Fault First} {next : First → Except Fault Second}
    {result : Second} :
    (first >>= next) = .ok result ↔ ∃ value, first = .ok value ∧ next value = .ok result := by
  cases first with
  | error fault => simp [bind, Except.bind]
  | ok value => simp [bind, Except.bind]

theorem bind_eq_error_iff {first : Except Fault First} {next : First → Except Fault Second}
    {fault : Fault} :
    (first >>= next) = .error fault ↔
      first = .error fault ∨ ∃ value, first = .ok value ∧ next value = .error fault := by
  cases first with
  | error reason => simp [bind, Except.bind]
  | ok value => simp [bind, Except.bind]

theorem map_eq_ok_iff {first : Except Fault First} {change : First → Second} {result : Second} :
    first.map change = .ok result ↔ ∃ value, first = .ok value ∧ change value = result := by
  cases first with
  | error fault => simp [Except.map]
  | ok value => simp [Except.map]

theorem map_eq_error_iff {first : Except Fault First} {change : First → Second} {fault : Fault} :
    first.map change = .error fault ↔ first = .error fault := by
  cases first with
  | error reason => simp [Except.map]
  | ok value => simp [Except.map]

/-- Each result is that of its own item. -/
theorem mapM_eq_ok_iff {items : List Item} {read : Item → Except Fault First}
    {results : List First} :
    items.mapM read = .ok results ↔
      List.Forall₂ (fun item result => read item = .ok result) items results := by
  induction items generalizing results with
  | nil =>
      rw [List.forall₂_nil_left_iff]
      exact ⟨fun done => by cases done; rfl, fun same => by rw [same]; rfl⟩
  | cons item rest ih =>
      rw [List.mapM_cons, bind_eq_ok_iff, List.forall₂_cons_left_iff]
      constructor
      · rintro ⟨first, readFirst, further⟩
        obtain ⟨others, readOthers, same⟩ := bind_eq_ok_iff.mp further
        cases same
        exact ⟨first, others, readFirst, ih.mp readOthers, rfl⟩
      · rintro ⟨first, others, readFirst, readOthers, rfl⟩
        exact ⟨first, readFirst, bind_eq_ok_iff.mpr ⟨others, ih.mpr readOthers, rfl⟩⟩

theorem forall₂_of_mapM {items : List Item} {read : Item → Except Fault First}
    {results : List First} (done : items.mapM read = .ok results) :
    List.Forall₂ (fun item result => read item = .ok result) items results :=
  mapM_eq_ok_iff.mp done

theorem exists_of_mem_forall₂ {relates : Item → First → Prop} {items : List Item}
    {results : List First} {result : First} (each : List.Forall₂ relates items results)
    (member : result ∈ results) : ∃ item ∈ items, relates item result := by
  induction each with
  | nil => cases member
  | @cons item _ _ _ here _ ih =>
      rcases List.mem_cons.mp member with rfl | later
      · exact ⟨item, List.mem_cons_self, here⟩
      · obtain ⟨other, found, related⟩ := ih later
        exact ⟨other, List.mem_cons_of_mem item found, related⟩

/-- A list of partial results is complete where each of them is there. -/
theorem mapM_eq_some_iff {items : List Item} {read : Item → Option First}
    {results : List First} :
    items.mapM read = some results ↔
      List.Forall₂ (fun item result => read item = some result) items results := by
  induction items generalizing results with
  | nil => simp [List.forall₂_nil_left_iff, eq_comm]
  | cons item rest ih =>
      simp only [List.mapM_cons, Option.bind_eq_bind, Option.bind_eq_some_iff, ih, Option.pure_def,
        Option.some.injEq, List.forall₂_cons_left_iff]
      constructor
      · rintro ⟨first, readFirst, others, readOthers, rfl⟩
        exact ⟨first, others, readFirst, readOthers, rfl⟩
      · rintro ⟨first, others, readFirst, readOthers, rfl⟩
        exact ⟨first, readFirst, others, readOthers, rfl⟩

theorem forM_eq_ok_iff {items : List Item} {check : Item → Except Fault Unit} :
    items.forM check = .ok () ↔ ∀ item ∈ items, check item = .ok () := by
  induction items with
  | nil => exact iff_of_true rfl (by simp)
  | cons item rest ih =>
      change (check item >>= fun _ => rest.forM check) = .ok () ↔ _
      rw [bind_eq_ok_iff, List.forall_mem_cons, ← ih]
      exact ⟨fun ⟨_, first, others⟩ => ⟨first, others⟩, fun ⟨first, others⟩ => ⟨(), first, others⟩⟩

theorem forM_congr {items : List Item} {check other : Item → Except Fault Unit}
    (same : ∀ item ∈ items, check item = other item) : items.forM check = items.forM other := by
  induction items with
  | nil => rfl
  | cons item rest ih =>
      obtain ⟨first, further⟩ := List.forall_mem_cons.mp same
      change (check item >>= fun _ => rest.forM check) = (other item >>= fun _ => rest.forM other)
      rw [first, ih further]

/-- The first item that fails decides the fault. -/
theorem forM_eq_error_iff {items : List Item} {check : Item → Except Fault Unit} {fault : Fault} :
    items.forM check = .error fault ↔
      ∃ before item after, items = before ++ item :: after ∧
        (∀ earlier ∈ before, check earlier = .ok ()) ∧ check item = .error fault := by
  induction items with
  | nil =>
      refine iff_of_false (fun failed => by cases failed) ?_
      rintro ⟨before, item, after, parts, _⟩
      simp at parts
  | cons first rest ih =>
      change (check first >>= fun _ => rest.forM check) = .error fault ↔ _
      rw [bind_eq_error_iff, ih]
      constructor
      · rintro (failed | ⟨_, passed, before, item, after, rfl, earlier, failed⟩)
        · exact ⟨[], first, rest, rfl, List.forall_mem_nil _, failed⟩
        · exact ⟨first :: before, item, after, rfl, List.forall_mem_cons.mpr ⟨passed, earlier⟩,
            failed⟩
      · rintro ⟨before, item, after, parts, earlier, failed⟩
        cases before with
        | nil =>
            cases parts
            exact .inl failed
        | cons head before =>
            cases parts
            obtain ⟨passed, earlier⟩ := List.forall_mem_cons.mp earlier
            exact .inr ⟨(), passed, before, item, after, rfl, earlier, failed⟩

/-- The first item that cannot be read decides the fault. -/
theorem mapM_eq_error_iff {items : List Item} {read : Item → Except Fault First} {fault : Fault} :
    items.mapM read = .error fault ↔
      ∃ before item after, items = before ++ item :: after ∧
        (∀ earlier ∈ before, ∃ result, read earlier = .ok result) ∧ read item = .error fault := by
  induction items with
  | nil =>
      refine iff_of_false (fun failed => by cases failed) ?_
      rintro ⟨before, item, after, parts, _⟩
      simp at parts
  | cons first rest ih =>
      have further : ∀ result, (rest.mapM read >>= fun others => pure (result :: others)) =
          .error fault ↔ rest.mapM read = .error fault := by
        intro result
        cases rest.mapM read <;> simp [bind, Except.bind, pure, Except.pure]
      rw [List.mapM_cons, bind_eq_error_iff]
      simp only [further, ih]
      constructor
      · rintro (failed | ⟨result, passed, before, item, after, rfl, earlier, failed⟩)
        · exact ⟨[], first, rest, rfl, List.forall_mem_nil _, failed⟩
        · exact ⟨first :: before, item, after, rfl,
            List.forall_mem_cons.mpr ⟨⟨result, passed⟩, earlier⟩, failed⟩
      · rintro ⟨before, item, after, parts, earlier, failed⟩
        cases before with
        | nil =>
            cases parts
            exact .inl failed
        | cons head before =>
            cases parts
            obtain ⟨⟨result, passed⟩, earlier⟩ := List.forall_mem_cons.mp earlier
            exact .inr ⟨result, passed, before, item, after, rfl, earlier, failed⟩

theorem mapM_exists_iff {items : List Item} {read : Item → Except Fault First} :
    (∃ results, items.mapM read = .ok results) ↔ ∀ item ∈ items, ∃ result, read item = .ok result := by
  constructor
  · rintro ⟨results, done⟩ item member
    obtain ⟨result, _, readItem⟩ := exists_of_mem_forall₂ (forall₂_of_mapM done).flip member
    exact ⟨result, readItem⟩
  · intro each
    cases done : items.mapM read with
    | ok results => exact ⟨results, rfl⟩
    | error fault =>
        obtain ⟨before, item, after, rfl, _, failed⟩ := mapM_eq_error_iff.mp done
        obtain ⟨result, readItem⟩ := each item (List.mem_append_right before List.mem_cons_self)
        cases failed.symm.trans readItem

/-- Every fault of a computation is of this kind. -/
def FailsOnly (kind : Fault → Prop) (computation : Except Fault First) : Prop :=
  ∀ fault, computation = .error fault → kind fault

namespace FailsOnly

variable {kind : Fault → Prop}

theorem ok (value : First) : FailsOnly kind (.ok value) :=
  fun _ failed => by cases failed

theorem error {fault : Fault} (faulty : kind fault) :
    FailsOnly kind (.error fault : Except Fault First) := by
  intro other failed
  cases failed
  exact faulty

theorem bind {first : Except Fault First} {next : First → Except Fault Second}
    (before : FailsOnly kind first)
    (after : ∀ value, first = .ok value → FailsOnly kind (next value)) :
    FailsOnly kind (first >>= next) := by
  cases computed : first with
  | error fault => exact error (before fault computed)
  | ok value => exact after value computed

theorem map {first : Except Fault First} {change : First → Second}
    (before : FailsOnly kind first) : FailsOnly kind (first.map change) := by
  intro fault failed
  cases computed : first with
  | error reason =>
      rw [computed] at failed
      cases failed
      exact before fault computed
  | ok value =>
      rw [computed] at failed
      cases failed

theorem mapM {items : List Item} {read : Item → Except Fault First}
    (each : ∀ item ∈ items, FailsOnly kind (read item)) : FailsOnly kind (items.mapM read) := by
  induction items with
  | nil => exact ok []
  | cons item rest ih =>
      have others := ih fun other member => each other (List.mem_cons_of_mem item member)
      rw [List.mapM_cons]
      exact (each item List.mem_cons_self).bind fun _ _ => others.bind fun _ _ => ok _

theorem forM {items : List Item} {check : Item → Except Fault Unit}
    (each : ∀ item ∈ items, FailsOnly kind (check item)) : FailsOnly kind (items.forM check) := by
  induction items with
  | nil => exact ok ()
  | cons item rest ih =>
      have others := ih fun other member => each other (List.mem_cons_of_mem item member)
      exact (each item List.mem_cons_self).bind fun _ _ => others

/-- A list is read with a fault, of the kind that its items have, if some item is. -/
theorem mapM_fails_iff {items : List Item} {read : Item → Except Fault First}
    (each : ∀ item ∈ items, FailsOnly kind (read item)) :
    (∃ fault, items.mapM read = .error fault ∧ kind fault) ↔
      ∃ item ∈ items, ∃ fault, read item = .error fault := by
  constructor
  · rintro ⟨fault, failed, _⟩
    have blamed : FailsOnly (fun _ => ∃ item ∈ items, ∃ fault, read item = .error fault)
        (items.mapM read) := mapM fun item member fault unread => ⟨item, member, fault, unread⟩
    exact blamed fault failed
  · rintro ⟨item, member, fault, unread⟩
    cases done : items.mapM read with
    | error other => exact ⟨other, rfl, mapM each other done⟩
    | ok results =>
        obtain ⟨result, _, readItem⟩ := exists_of_mem_forall₂ (forall₂_of_mapM done).flip member
        cases unread.symm.trans readItem

/-- A fault of a kind that no later step has comes of the first one. -/
theorem bind_error_iff {first : Except Fault First} {next : First → Except Fault Second}
    {fault : Fault}
    (after : ∀ value, first = .ok value → FailsOnly (fun fault => ¬ kind fault) (next value)) :
    ((first >>= next) = .error fault ∧ kind fault) ↔ (first = .error fault ∧ kind fault) := by
  cases computed : first with
  | error reason => simp [Bind.bind, Except.bind]
  | ok value =>
      refine iff_of_false ?_ (by simp)
      rintro ⟨failed, faulty⟩
      exact after value computed fault failed faulty

/-- A fault of a kind that the first step does not have comes of a later one. -/
theorem bind_error_later_iff {first : Except Fault First} {next : First → Except Fault Second}
    {fault : Fault} (before : FailsOnly (fun fault => ¬ kind fault) first) :
    ((first >>= next) = .error fault ∧ kind fault) ↔
      ∃ value, first = .ok value ∧ next value = .error fault ∧ kind fault := by
  cases computed : first with
  | error reason =>
      refine iff_of_false ?_ (by simp)
      rintro ⟨failed, faulty⟩
      cases failed
      exact before fault computed faulty
  | ok value => simp [Bind.bind, Except.bind]

end FailsOnly

/-- Two computations that both succeed, with results so related, or both fail, with faults
so related. -/
inductive Together (faults : Fault → Fault → Prop) (results : First → Second → Prop) :
    Except Fault First → Except Fault Second → Prop
  | ok {left : First} {right : Second} (related : results left right) :
      Together faults results (.ok left) (.ok right)
  | error {left right : Fault} (related : faults left right) :
      Together faults results (.error left) (.error right)

namespace Together

variable {Other Third Fourth : Type} {faults : Fault → Fault → Prop} {results : First → Second → Prop}
  {further : Third → Fourth → Prop} {left : Except Fault First} {right : Except Fault Second}

theorem bind {next : First → Except Fault Third} {other : Second → Except Fault Fourth}
    (before : Together faults results left right)
    (after : ∀ first second, results first second →
      Together faults further (next first) (other second)) :
    Together faults further (left >>= next) (right >>= other) := by
  cases before with
  | ok related => exact after _ _ related
  | error related => exact .error related

theorem map {change : First → Third} {other : Second → Fourth}
    (before : Together faults results left right)
    (after : ∀ first second, results first second → further (change first) (other second)) :
    Together faults further (left.map change) (right.map other) := by
  cases before with
  | ok related => exact .ok (after _ _ related)
  | error related => exact .error related

theorem mapM {items : List Item} {others : List Other} {read : Item → Except Fault First}
    {other : Other → Except Fault Second}
    (each : List.Forall₂ (fun item another => Together faults results (read item) (other another))
      items others) :
    Together faults (List.Forall₂ results) (items.mapM read) (others.mapM other) := by
  induction each with
  | nil => exact .ok .nil
  | cons here _ ih =>
      rw [List.mapM_cons, List.mapM_cons]
      exact here.bind fun _ _ first => ih.bind fun _ _ rest => .ok (.cons first rest)

theorem forM {items : List Item} {others : List Other} {check : Item → Except Fault Unit}
    {other : Other → Except Fault Unit}
    (each : List.Forall₂ (fun item another => Together faults Eq (check item) (other another))
      items others) :
    Together faults Eq (items.forM check) (others.forM other) := by
  induction each with
  | nil => exact .ok rfl
  | cons here _ ih => exact here.bind fun _ _ _ => ih

/-- Two computations are alike where both are like a third. -/
theorem meet {other : Except Fault First} {shared : Except Fault Third}
    {relates : First → Third → Prop} {alike : First → First → Prop}
    (before : Together faults relates left shared) (after : Together faults relates other shared)
    (faulty : ∀ {first second third}, faults first third → faults second third → faults first second)
    (sound : ∀ {first second third}, relates first third → relates second third →
      alike first second) :
    Together faults alike left other := by
  cases before with
  | ok related =>
      cases after with
      | ok also => exact .ok (sound related also)
  | error related =>
      cases after with
      | error also => exact .error (faulty related also)

end Together

end CheckedSql

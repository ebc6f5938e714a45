import CheckedSql.Proofs.Query.Compilation
import CheckedSql.Query.Catalog
import Mathlib.Data.List.Dedup

namespace CheckedSql.Catalog

/-! A catalog is written once.

`after` follows a catalog through any requests, and `exchanges` lists what it answered.
Each request keeps every entry where it is, so the index that a name was given stands for
it from then on. `write_once` says what any requests make of an empty catalog.
-/

/-- What a catalog is asked for. -/
inductive Request where
  | register (definition : Definition)
  | get (method : String)

/-- An index stands for the one query that was compiled for it. -/
inductive Answer where
  | registered (result : Except Fault Nat)
  | found (entry : Option (PreparedQuery × Nat))

def answer (catalog : Catalog) : Request → Answer × Catalog
  | .register definition =>
      (.registered (catalog.register definition).1, (catalog.register definition).2)
  | .get method => ⟨.found <| catalog.entry? method, catalog⟩

def after (catalog : Catalog) : List Request → Catalog
  | [] => catalog
  | request :: rest => (catalog.answer request).2.after rest

def exchanges (catalog : Catalog) : List Request → List (Request × Answer)
  | [] => []
  | request :: rest =>
      (request, (catalog.answer request).1) :: (catalog.answer request).2.exchanges rest

/-- The method name that a request registers, if it succeeds. -/
def registeredName? : Request × Answer → Option String
  | (.register definition, .registered (.ok _)) => some definition.method
  | _ => none

def names (catalog : Catalog) : List String :=
  catalog.queries.map (·.definition.method)

/-- The catalog with one more query at the end. -/
def add (catalog : Catalog) (query : PreparedQuery) : Catalog :=
  { catalog with queries := catalog.queries ++ [query] }

/-- Names are distinct, and each query is what its own definition compiles to. -/
structure Consistent (schema : Schema) (settings : Settings) (catalog : Catalog) : Prop where
  schema_eq : catalog.schema = schema
  settings_eq : catalog.settings = settings
  distinct : catalog.names.Nodup
  compiled : ∀ query ∈ catalog.queries,
    PreparedQuery.compile schema settings query.definition = .ok query

section Entries

variable {catalog : Catalog} {query : PreparedQuery} {method : String} {index : Nat}

theorem names_add : (catalog.add query).names = catalog.names ++ [query.definition.method] :=
  List.map_append

theorem entry?_eq_none_iff : catalog.entry? method = none ↔ method ∉ catalog.names := by
  unfold entry? names
  rw [List.find?_eq_none, List.mem_map]
  constructor
  · rintro absent ⟨query, member, rfl⟩
    obtain ⟨index, found⟩ := List.mem_iff_getElem?.mp member
    have indexed : (query, index) ∈ catalog.queries.zipIdx := List.mem_zipIdx_iff_getElem?.mpr found
    exact absent _ indexed (decide_eq_true rfl)
  · rintro absent ⟨query, index⟩ member same
    have found := List.mem_zipIdx_iff_getElem?.mp member
    exact absent ⟨query, List.mem_of_getElem? found, of_decide_eq_true same⟩

theorem of_entry? (found : catalog.entry? method = some (query, index)) :
    catalog.queries[index]? = some query ∧ query.definition.method = method :=
  ⟨List.mem_zipIdx_iff_getElem?.mp (List.mem_of_find?_eq_some found),
    by simpa using List.find?_some found⟩

theorem entry?_of_getElem? (distinct : catalog.names.Nodup)
    (stored : catalog.queries[index]? = some query) :
    catalog.entry? query.definition.method = some (query, index) := by
  cases found : catalog.entry? query.definition.method with
  | none =>
      have member : query.definition.method ∈ catalog.names :=
        List.mem_map.mpr ⟨query, List.mem_of_getElem? stored, rfl⟩
      exact absurd member <| entry?_eq_none_iff.mp found
  | some entry =>
      obtain ⟨other, place⟩ := entry
      obtain ⟨placed, same⟩ := of_entry? found
      have here : catalog.names[index]? = some query.definition.method := by
        simp [names, stored]
      have there : catalog.names[place]? = some query.definition.method := by
        simp [names, placed, same]
      have within := (List.getElem?_eq_some_iff.mp here).1
      obtain rfl := (List.getElem?_inj within distinct).mp (here.trans there.symm)
      cases placed.symm.trans stored
      rfl

theorem entry?_add_of_some {entry : PreparedQuery × Nat}
    (found : catalog.entry? method = some entry) :
    entry? (catalog.add query) method = some entry := by
  unfold entry? add at *
  rw [List.zipIdx_append, List.find?_append, found]
  rfl

theorem entry?_add_self (absent : catalog.entry? query.definition.method = none) :
    entry? (catalog.add query) query.definition.method = some (query, catalog.size) := by
  unfold entry? add size at *
  rw [List.zipIdx_append, List.find?_append, absent]
  simp

end Entries

section Registering

variable {catalog : Catalog} {definition : Definition} {query : PreparedQuery} {index : Nat}
  {fault : Fault}

theorem register_known (found : catalog.entry? definition.method = some (query, index))
    (same : query.definition = definition) : catalog.register definition = (.ok index, catalog) := by
  simp only [register, found, same, if_true]

theorem register_taken (found : catalog.entry? definition.method = some (query, index))
    (other : query.definition ≠ definition) :
    catalog.register definition = (.error (.duplicateMethod definition.method), catalog) := by
  simp only [register, found, other, if_false]

theorem register_refused (free : catalog.entry? definition.method = none)
    (refused : PreparedQuery.compile catalog.schema catalog.settings definition = .error fault) :
    catalog.register definition = (.error fault, catalog) := by
  simp only [register, free, refused]

theorem register_added (free : catalog.entry? definition.method = none)
    (compiled : PreparedQuery.compile catalog.schema catalog.settings definition = .ok query) :
    catalog.register definition = (.ok catalog.size, catalog.add query) := by
  simp only [register, free, compiled]
  rfl

/-- All that registering can do to a catalog, and to the name that it registers. -/
theorem register_cases (catalog : Catalog) (definition : Definition) :
    ((catalog.register definition).2 = catalog ∧
      ((∃ index, (catalog.register definition).1 = .ok index) →
        definition.method ∈ catalog.names)) ∨
    ∃ query, definition.method ∉ catalog.names ∧
      PreparedQuery.compile catalog.schema catalog.settings definition = .ok query ∧
      catalog.register definition = (.ok catalog.size, catalog.add query) := by
  cases found : catalog.entry? definition.method with
  | some entry =>
      obtain ⟨query, index⟩ := entry
      obtain ⟨stored, named⟩ := of_entry? found
      have member : definition.method ∈ catalog.names :=
        List.mem_map.mpr ⟨query, List.mem_of_getElem? stored, named⟩
      refine .inl ⟨?_, fun _ => member⟩
      by_cases same : query.definition = definition
      · rw [register_known found same]
      · rw [register_taken found same]
  | none =>
      cases compiled : PreparedQuery.compile catalog.schema catalog.settings definition with
      | error fault =>
          rw [register_refused found compiled]
          exact .inl ⟨rfl, by simp⟩
      | ok query =>
          exact .inr ⟨query, entry?_eq_none_iff.mp found, rfl, register_added found compiled⟩

end Registering

section Requests

variable {schema : Schema} {settings : Settings} {catalog : Catalog}

theorem consistent_empty (schema : Schema) (settings : Settings) :
    Consistent schema settings (.empty schema settings) :=
  ⟨rfl, rfl, List.nodup_nil, List.forall_mem_nil _⟩

theorem Consistent.add (consistent : Consistent schema settings catalog) {query : PreparedQuery}
    (fresh : query.definition.method ∉ catalog.names)
    (compiled : PreparedQuery.compile schema settings query.definition = .ok query) :
    Consistent schema settings (catalog.add query) := by
  refine ⟨consistent.schema_eq, consistent.settings_eq, ?_, ?_⟩
  · rw [names_add]
    refine List.nodup_append.mpr ⟨consistent.distinct, List.nodup_singleton _, ?_⟩
    rintro name member _ added rfl
    exact fresh (List.mem_singleton.mp added ▸ member)
  · refine List.forall_mem_append.mpr ⟨consistent.compiled, ?_⟩
    exact List.forall_mem_singleton.mpr compiled

/-- What is compiled under a name keeps its definition. -/
theorem definition_of_compile {definition : Definition} {query : PreparedQuery}
    (compiled : PreparedQuery.compile schema settings definition = .ok query) :
    query.definition = definition := by
  obtain ⟨_, _, passed⟩ := PreparedQuery.compile_eq_ok_iff.mp compiled
  exact passed.defined

theorem Consistent.answer (consistent : Consistent schema settings catalog) (request : Request) :
    Consistent schema settings (catalog.answer request).2 := by
  cases request with
  | get method => exact consistent
  | register definition =>
      rcases register_cases catalog definition with ⟨same, _⟩ | ⟨query, fresh, compiled, added⟩
      · exact same.symm ▸ consistent
      · rw [consistent.schema_eq, consistent.settings_eq] at compiled
        have defined := definition_of_compile compiled
        rw [Catalog.answer, added]
        exact consistent.add (defined ▸ fresh) (defined.symm ▸ compiled)

theorem Consistent.after (consistent : Consistent schema settings catalog)
    (requests : List Request) : Consistent schema settings (catalog.after requests) := by
  induction requests generalizing catalog with
  | nil => exact consistent
  | cons request rest ih => exact ih (consistent.answer request)

theorem entry?_answer {method : String} {entry : PreparedQuery × Nat}
    (found : catalog.entry? method = some entry) (request : Request) :
    entry? (catalog.answer request).2 method = some entry := by
  cases request with
  | get other => exact found
  | register definition =>
      rcases register_cases catalog definition with ⟨same, _⟩ | ⟨query, _, _, added⟩
      · exact same.symm ▸ found
      · rw [answer, added]
        exact entry?_add_of_some found

theorem entry?_after {method : String} {entry : PreparedQuery × Nat}
    (found : catalog.entry? method = some entry) (requests : List Request) :
    entry? (catalog.after requests) method = some entry := by
  induction requests generalizing catalog with
  | nil => exact found
  | cons request rest ih => exact ih <| entry?_answer found request

/-- The names of a catalog are those that were there or are registered by the request. -/
theorem mem_names_answer {name : String} (request : Request) :
    name ∈ (catalog.answer request).2.names ↔
      name ∈ catalog.names ∨ registeredName? (request, (catalog.answer request).1) = some name := by
  cases request with
  | get method => simp [answer, registeredName?]
  | register definition =>
      rcases register_cases catalog definition with ⟨same, known⟩ | ⟨query, _, compiled, added⟩
      · simp only [answer, same]
        refine (or_iff_left_of_imp fun registered => ?_).symm
        cases result : (catalog.register definition).1 with
        | error fault => simp [result, registeredName?] at registered
        | ok index =>
            simp only [result, registeredName?, Option.some.injEq] at registered
            exact registered ▸ known ⟨index, result⟩
      · simp only [answer, added, names_add, registeredName?, definition_of_compile compiled,
          List.mem_append, List.mem_singleton, Option.some.injEq, eq_comm]

theorem mem_names_after (catalog : Catalog) (requests : List Request) (name : String) :
    name ∈ (catalog.after requests).names ↔
      name ∈ catalog.names ∨ name ∈ (catalog.exchanges requests).filterMap registeredName? := by
  induction requests generalizing catalog with
  | nil => simp [after, exchanges]
  | cons request rest ih =>
      rw [after, ih, mem_names_answer, exchanges, or_assoc]
      refine or_congr_right ?_
      rw [List.filterMap_cons]
      cases registeredName? (request, (catalog.answer request).1) with
      | none => simp
      | some registered => simp [eq_comm]

end Requests

/-- What requests make of a catalog. -/
structure WriteOnce (schema : Schema) (settings : Settings) (requests : List Request)
    (catalog : Catalog) : Prop where
  /-- A query stands under its own name and is what its definition compiles to. -/
  stored : ∀ query index, catalog.queries[index]? = some query →
    catalog.entry? query.definition.method = some (query, index) ∧
      PreparedQuery.compile schema settings query.definition = .ok query
  found : ∀ method query index, catalog.entry? method = some (query, index) →
    catalog.queries[index]? = some query ∧ query.definition.method = method
  known : ∀ definition query index, catalog.entry? definition.method = some (query, index) →
    query.definition = definition → catalog.register definition = (.ok index, catalog)
  /-- A name that is taken refuses all other definitions, be they right or wrong. -/
  taken : ∀ definition query index, catalog.entry? definition.method = some (query, index) →
    query.definition ≠ definition →
    catalog.register definition = (.error (.duplicateMethod definition.method), catalog)
  refused : ∀ definition fault, catalog.entry? definition.method = none →
    PreparedQuery.compile schema settings definition = .error fault →
    catalog.register definition = (.error fault, catalog)
  added : ∀ definition query, catalog.entry? definition.method = none →
    PreparedQuery.compile schema settings definition = .ok query →
    ∃ larger, catalog.register definition = (.ok catalog.size, larger) ∧
      larger.entry? definition.method = some (query, catalog.size)
  /-- What a name was answered with once, it is answered with for ever. -/
  lasting : ∀ method entry, (catalog.answer (.get method)).1 = .found (some entry) →
    ∀ later, ((catalog.after later).answer (.get method)).1 = .found (some entry)
  size : catalog.size =
    (((Catalog.empty schema settings).exchanges requests).filterMap registeredName?).dedup.length

theorem write_once (schema : Schema) (settings : Settings) (requests : List Request) :
    WriteOnce schema settings requests ((Catalog.empty schema settings).after requests) := by
  have consistent := (consistent_empty schema settings).after requests
  have names := mem_names_after (.empty schema settings) requests
  generalize (Catalog.empty schema settings).after requests = catalog at consistent names
  refine ⟨fun query index stored => ⟨?_, ?_⟩,
    fun _ _ _ => of_entry?, fun _ _ _ => register_known, fun _ _ _ => register_taken,
    fun definition fault free refused => ?_, fun definition query free compiled => ?_,
    fun method entry got later => ?_, ?_⟩
  · exact entry?_of_getElem? consistent.distinct stored
  · exact consistent.compiled query (List.mem_of_getElem? stored)
  · rw [← consistent.schema_eq, ← consistent.settings_eq] at refused
    exact register_refused free refused
  · have defined := definition_of_compile compiled
    rw [← consistent.schema_eq, ← consistent.settings_eq] at compiled
    refine ⟨_, register_added free compiled, ?_⟩
    rw [← defined] at free ⊢
    exact entry?_add_self free
  · have found : catalog.entry? method = some entry := Answer.found.inj got
    exact congrArg Answer.found <| entry?_after found later
  · have same : catalog.names.Perm
        (((Catalog.empty schema settings).exchanges requests).filterMap registeredName?).dedup := by
      refine (List.perm_ext_iff_of_nodup consistent.distinct (List.nodup_dedup _)).mpr fun name => ?_
      rw [names, List.mem_dedup]
      exact or_iff_right List.not_mem_nil
    rw [← same.length_eq, Catalog.names, List.length_map]
    rfl

end CheckedSql.Catalog

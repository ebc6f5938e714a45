import CheckedSql.Proofs.Binding.Ceiling
import CheckedSql.Proofs.Query.Phases

namespace CheckedSql.PreparedQuery

open Sql

variable {schema : Schema} {settings : Settings} {definition : Definition} {query : PreparedQuery}
  {arguments : Arguments}

/-- The values that every call of a query brings. -/
def leastCount (query : PreparedQuery) : Nat :=
  Binding.leastCount query.parameters query.template.slots

theorem bind_exists_iff :
    (∃ statement, query.bind arguments = .ok statement) ↔
      ∃ binding, Binding.bind query.template query.parameters arguments query.limit = .ok binding := by
  unfold PreparedQuery.bind
  simp only [map_eq_ok_iff]
  exact ⟨fun ⟨_, binding, bound, _⟩ => ⟨binding, bound⟩, fun ⟨binding, bound⟩ =>
    ⟨_, binding, bound, rfl⟩⟩

section Compiled

variable {statement : MethodText} {markers : List Marker}

theorem leastCount_le_limit
    (passed : Compiled schema settings definition query statement markers)
    (single : Binding.hasCollection query.parameters = false) : query.leastCount ≤ query.limit := by
  rw [leastCount, Binding.leastCount_eq_length single]
  exact within_of_compiled passed single

theorem nodup_of_compiled
    (passed : Compiled schema settings definition query statement markers) :
    (query.parameters.map Parameter.name).Nodup := by
  rw [Parameter.names_of_resolve passed.resolved]
  exact Parameter.nodup_eraseDups _

/-- Arguments that fit are bound where their values are within the ceiling. -/
theorem bound_iff_of_fits
    (passed : Compiled schema settings definition query statement markers)
    (fits : Binding.Fits query.parameters query.template.slots arguments) :
    (∃ statement, query.bind arguments = .ok statement) ↔
      Binding.requiredCount (Binding.arity query.parameters arguments) query.template.slots ≤
        query.limit := by
  rw [bind_exists_iff]
  exact ⟨fun ⟨_, bound⟩ => (Binding.fits_of_bind bound).2,
    Binding.bound_of_fits (covers_of_compiled passed) fits⟩

theorem bound_emptied_iff
    (passed : Compiled schema settings definition query statement markers)
    (fits : Binding.Fits query.parameters query.template.slots arguments) :
    (∃ statement, query.bind arguments.emptied = .ok statement) ↔
      query.leastCount ≤ query.limit := by
  rw [bound_iff_of_fits passed fits.emptied, Binding.requiredCount_emptied fits]
  rfl

theorem bound_some_iff
    (passed : Compiled schema settings definition query statement markers) :
    (∃ arguments statement, query.bind arguments = .ok statement) ↔
      query.leastCount ≤ query.limit := by
  constructor
  · rintro ⟨arguments, bound⟩
    obtain ⟨_, inside⟩ := bind_exists_iff.mp bound
    have fits := (Binding.fits_of_bind inside).1
    exact Nat.le_trans (Binding.leastCount_le_requiredCount fits _)
      ((bound_iff_of_fits passed fits).mp bound)
  · intro within
    have fits := Binding.fits_sample (nodup_of_compiled passed) query.template.slots
    exact ⟨_, (bound_emptied_iff passed fits).mpr within⟩

/-- What a call that exceeds the ceiling reports. -/
theorem exceeded_of_bind
    (passed : Compiled schema settings definition query statement markers)
    {required limit : Nat} {fromCollection : Bool}
    (failed : query.bind arguments = .error (.tooManyParameters required limit fromCollection)) :
    Binding.Fits query.parameters query.template.slots arguments ∧
      limit = query.limit ∧ query.limit < required ∧ query.leastCount ≤ required ∧
      fromCollection = true ∧ Binding.hasCollection query.parameters = true := by
  have collected : fromCollection = true ∧ Binding.hasCollection query.parameters = true := by
    cases bind_refuses_of_compiled passed arguments _ failed with
    | ceiling _ _ collects => exact ⟨rfl, collects⟩
  obtain ⟨fits, exceeded, same⟩ :=
    Binding.exceeded_iff.mp ⟨map_eq_error_iff.mp failed, _, _, _, rfl⟩
  cases same
  exact ⟨fits, rfl, exceeded, Binding.leastCount_le_requiredCount fits _, collected⟩

/-- Emptied collections that exceed the ceiling bring the values of every call. -/
theorem exceeded_emptied
    (fits : Binding.Fits query.parameters query.template.slots arguments)
    (collects : Binding.hasCollection query.parameters = true)
    (exceeded : query.limit < query.leastCount) :
    query.bind arguments.emptied =
      .error (.tooManyParameters query.leastCount query.limit true) := by
  have least := Binding.requiredCount_emptied fits query.template.slots
  rw [leastCount, ← least] at exceeded ⊢
  obtain ⟨failed, _⟩ := Binding.exceeded_iff.mpr ⟨fits.emptied, exceeded, rfl⟩
  rw [collects] at failed
  exact map_eq_error_iff.mpr failed

end Compiled

/-- A query can be bound where the values of every call are within the ceiling, as they
are without collections. Where a call exceeds it, the collections of the call did so just
if the query can be bound. -/
theorem bindable_iff (compiled : compile schema settings definition = .ok query) :
    ((∃ arguments statement, query.bind arguments = .ok statement) ↔
      query.leastCount ≤ settings.maxParameters) ∧
    (Binding.hasCollection query.parameters = false →
      query.leastCount ≤ settings.maxParameters) ∧
    ∀ arguments required limit fromCollection,
      query.bind arguments = .error (.tooManyParameters required limit fromCollection) →
        fromCollection = true ∧ limit = settings.maxParameters ∧ limit < required ∧
          query.leastCount ≤ required ∧
          ((∃ statement, query.bind arguments.emptied = .ok statement) ↔
            query.leastCount ≤ limit) ∧
          (limit < query.leastCount →
            query.bind arguments.emptied =
              .error (.tooManyParameters query.leastCount limit true)) := by
  obtain ⟨_, _, passed⟩ := compile_eq_ok_iff.mp compiled
  rw [← passed.limited]
  refine ⟨bound_some_iff passed, leastCount_le_limit passed,
    fun arguments required limit fromCollection failed => ?_⟩
  obtain ⟨fits, rfl, exceeded, least, collected, collects⟩ := exceeded_of_bind passed failed
  exact ⟨collected, rfl, exceeded, least, bound_emptied_iff passed fits,
    exceeded_emptied fits collects⟩

/-- A name beside two collections, with as many values in one of them as the ceiling. -/
theorem bindable_iff_songs :
    let schema := Schema.ofTables [⟨"song", ["id", "year"]⟩]
    let definition : Definition :=
      ⟨"songs", "SELECT id FROM song WHERE year > :from AND id IN (:ids) AND year IN (:years)",
        [⟨"from", .integer, false⟩, ⟨"ids", .integer, true⟩, ⟨"years", .integer, true⟩],
        .collection (.scalar .integer)⟩
    let arguments : Arguments :=
      ⟨[("from", .single (.integer 1)), ("ids", .list [.integer 2, .null]), ("years", .list [])], []⟩
    ∃ query, compile schema ⟨2, .fail⟩ definition = .ok query ∧
      query.bind arguments = .error (.tooManyParameters 3 2 true) ∧
      ∃ statement, query.bind arguments.emptied = .ok statement := by
  intro schema definition arguments
  have computed : (compile schema ⟨2, .fail⟩ definition).map
      (fun query => (query.bind arguments, query.leastCount)) =
        .ok (.error (.tooManyParameters 3 2 true), 1) := by
    decide +kernel
  obtain ⟨query, compiled, found⟩ := map_eq_ok_iff.mp computed
  have failed : query.bind arguments = .error (.tooManyParameters 3 2 true) :=
    congrArg Prod.fst found
  have least : query.leastCount = 1 := congrArg Prod.snd found
  obtain ⟨_, _, _, _, emptied, _⟩ := (bindable_iff compiled).2.2 _ _ _ _ failed
  exact ⟨query, compiled, failed, emptied.mpr (by rw [least]; decide)⟩

/-- Two names exceed the ceiling in every call, and the empty collection is blamed. -/
theorem unbindable_accepted :
    let schema := Schema.ofTables [⟨"song", ["id", "year"]⟩]
    let definition : Definition :=
      ⟨"songs", "SELECT id FROM song WHERE year > :low AND year < :high AND id IN (:ids)",
        [⟨"low", .integer, false⟩, ⟨"high", .integer, false⟩, ⟨"ids", .integer, true⟩],
        .collection (.scalar .integer)⟩
    let arguments : Arguments :=
      ⟨[("low", .single (.integer 1990)), ("high", .single (.integer 2000)), ("ids", .list [])], []⟩
    ∃ query, compile schema ⟨1, .warn⟩ definition = .ok query ∧
      (∀ arguments statement, query.bind arguments ≠ .ok statement) ∧
      query.bind arguments = .error (.tooManyParameters 2 1 true) ∧
      arguments.emptied = arguments := by
  intro schema definition arguments
  have computed : (compile schema ⟨1, .warn⟩ definition).map
      (fun query => (query.bind arguments, query.leastCount)) =
        .ok (.error (.tooManyParameters 2 1 true), 2) := by
    decide +kernel
  obtain ⟨query, compiled, found⟩ := map_eq_ok_iff.mp computed
  obtain ⟨_, _, passed⟩ := compile_eq_ok_iff.mp compiled
  have least : query.leastCount = 2 := congrArg Prod.snd found
  refine ⟨query, compiled, fun arguments statement bound => ?_, congrArg Prod.fst found, rfl⟩
  have within := (bound_some_iff passed).mp ⟨arguments, statement, bound⟩
  rw [least, passed.limited] at within
  exact absurd within (by decide)

end CheckedSql.PreparedQuery

import CheckedSql.Proofs.Except
import CheckedSql.Query.Prepared

namespace CheckedSql.PreparedQuery

open Sql

/-! What a compiled query has passed.

`compile` succeeds when each of its checks does, and `Compiled` names them with what
they found (`compile_eq_ok_iff`), so that no other proof opens `compile`.
-/

variable {schema : Schema} {settings : Settings} {definition : Definition} {query : PreparedQuery}

structure Compiled (schema : Schema) (settings : Settings) (definition : Definition)
    (query : PreparedQuery) (statement : MethodText) (markers : List Marker) : Prop where
  named : MethodText.of? definition.method definition.text = .ok statement
  scanned : statement.markers? = .ok markers
  resolved : Parameter.resolve settings.unused ((markers.map Marker.slot).filterMap Slot.name?)
    definition.parameters = .ok query.parameters
  classified : StatementKind.ofText statement.text = .ok query.kind
  permitted : Fault.checkReturn query.kind definition.returns = .ok ()
  analysed : Analysis.ofText schema query.kind statement.text = .ok query.analysis
  counted : checkFixedCount settings.maxParameters (markers.map Marker.slot) query.parameters = .ok ()
  planned : planReader query.kind definition.returns query.analysis.columns = .ok query.reader
  defined : query.definition = definition
  templated : query.template = .ofText statement.text
  limited : query.limit = settings.maxParameters

theorem compile_eq_ok_iff :
    compile schema settings definition = .ok query ↔
      ∃ statement markers, Compiled schema settings definition query statement markers := by
  constructor
  · intro compiled
    simp only [compile, bind_eq_ok_iff] at compiled
    obtain ⟨statement, named, markers, scanned, parameters, resolved, kind, classified, _, permitted,
      analysis, analysed, _, counted, reader, planned, made⟩ := compiled
    cases made
    exact ⟨statement, markers, named, scanned, resolved, classified, permitted, analysed, counted,
      planned, rfl, rfl, rfl⟩
  · rintro ⟨statement, markers, passed⟩
    simp only [compile, bind_eq_ok_iff]
    refine ⟨statement, passed.named, markers, passed.scanned, _, passed.resolved, _,
      passed.classified, (), passed.permitted, _, passed.analysed, (), passed.counted, _,
      passed.planned, ?_⟩
    rw [← passed.defined, ← passed.templated, ← passed.limited]
    rfl

end CheckedSql.PreparedQuery

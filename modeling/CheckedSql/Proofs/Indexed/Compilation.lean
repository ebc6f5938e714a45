import CheckedSql.Proofs.Analysis.Tables
import CheckedSql.Proofs.Binding.Selection
import CheckedSql.Proofs.Indexed.Expansion
import CheckedSql.Proofs.Indexed.Mapping
import CheckedSql.Proofs.Indexed.SelectList
import CheckedSql.Proofs.Indexed.Tables
import CheckedSql.Proofs.Indexed.Tokens
import CheckedSql.Proofs.Query.Phases

namespace CheckedSql

open Sql

/-! Queries compiled and bound with every lookup made by its place.

Here the steps stand together that read a text by its offsets, tokens by their indices,
and columns by theirs. A lookup would miss at a place outside of what is looked at, at
offsets out of order, and at an offset inside a character. None does: each query is
compiled, and each call of it bound, as it is without these lookups, or with the same
fault (`compile?_eq`, `bind?_eq`).
-/

namespace Parameter.Indexed

def checkDistinct? (declared : List Parameter) : Lookup Unit :=
  match (declared.map fun parameter => namesakes parameter.name declared).find? (·.length > 1) with
  | none => return ()
  | some group => do
      let first ← (group[0]? : Option Parameter)
      let others ← range? group 1 group.length
      throw (.ambiguousParameter first.name (others.map Parameter.name))

def resolve? (policy : UnusedPolicy) (names : List String) (declared : List Parameter) :
    Lookup (List Parameter) := do
  checkDistinct? declared
  let used ← Lookup.found (names.eraseDups.mapM (select declared))
  Lookup.found (checkUsed policy names declared)
  return used

/-- A parameter is the first of its namesakes, if there are none before it. -/
theorem checkDistinct?_eq (declared : List Parameter) :
    checkDistinct? declared = .found (checkDistinct declared) := by
  have groups : (declared.map fun parameter => namesakes parameter.name declared).find?
      (·.length > 1) =
        (declared.find? (isAmbiguous declared)).map fun parameter =>
          namesakes parameter.name declared := List.find?_map
  unfold checkDistinct?
  rw [groups]
  cases found : declared.find? (isAmbiguous declared) with
  | none =>
      simp only [checkDistinct, found]
      rfl
  | some parameter =>
      have failed : checkDistinct declared = .error (.ambiguousParameter parameter.name
          ((namesakes parameter.name declared).tail.map Parameter.name)) := by
        simp only [checkDistinct, found]
      obtain ⟨before, first, after, parts, _, apart, _, same⟩ :=
        checkDistinct_eq_error_iff.mp failed
      have named : parameter.name = first.name := (Fault.ambiguousParameter.inj same).1
      have group : namesakes parameter.name declared = first :: namesakes first.name after := by
        rw [named, namesakes_split parts,
          namesakes_eq_nil fun other early => apart other early first List.mem_cons_self,
          List.nil_append]
      have others : range? (first :: namesakes first.name after) 1
          (first :: namesakes first.name after).length = some (namesakes first.name after) :=
        range?_to_end (Nat.le_add_left 1 _)
      rw [failed, same, Option.map_some]
      simp only [group]
      rw [Lookup.some_bind (List.getElem?_cons_zero), Lookup.some_bind others]
      rfl

theorem resolve?_eq (policy : UnusedPolicy) (names : List String) (declared : List Parameter) :
    resolve? policy names declared = .found (resolve policy names declared) := by
  unfold resolve? resolve
  rw [checkDistinct?_eq]
  refine Lookup.found_bind _ fun _ _ => ?_
  refine Lookup.found_bind _ fun used _ => ?_
  exact Lookup.found_bind _ fun _ _ => rfl

end Parameter.Indexed

namespace Analysis.Indexed

def statementHeader? (schema : Schema) (kind : StatementKind) (sources : List Source)
    (tokens : List Token) : Lookup (Option (List String)) := do
  if kind.isRead then
    match ← selectItems? tokens with
    | some items => Lookup.found (header schema (outermost sources) items)
    | none => return none
  else return none

def ofTokens? (schema : Schema) (kind : StatementKind) (tokens : List Token) : Lookup Analysis := do
  let common ← commonTables? tokens
  let found ← mentionsAt? tokens [] 0
  let sources ← Lookup.found ((found.filterMap Mention.ref?).mapM (resolveSource schema common))
  Lookup.found ((found.filterMap Mention.target?).forM (checkTarget schema common))
  let columns ← statementHeader? schema kind sources tokens
  return ⟨Text.NameSet.ofList (sources.filterMap Source.table), columns⟩

def ofText? (schema : Schema) (kind : StatementKind) (text : String) : Lookup Analysis := do
  ofTokens? schema kind (← Sql.Indexed.tokens? text.toList)

theorem statementHeader?_eq (schema : Schema) (kind : StatementKind) (sources : List Source)
    (tokens : List Token) : statementHeader? schema kind sources tokens =
      .found (statementHeader schema kind sources tokens) := by
  unfold statementHeader? statementHeader
  rw [Lookup.some_bind (selectItems?_eq tokens)]
  cases kind.isRead with
  | false => rfl
  | true => cases Analysis.selectItems? tokens <;> rfl

theorem ofTokens?_eq (schema : Schema) (kind : StatementKind) (tokens : List Token) :
    ofTokens? schema kind tokens = .found (ofTokens schema kind tokens) := by
  unfold ofTokens?
  rw [Lookup.some_bind (commonTables?_eq tokens), Lookup.some_bind (mentions?_eq tokens),
    ofTokens_eq_bind]
  refine Lookup.found_bind _ fun sources _ => ?_
  refine Lookup.found_bind _ fun _ _ => ?_
  rw [statementHeader?_eq]
  exact Lookup.found_map _ _

theorem ofText?_eq (schema : Schema) (kind : StatementKind) (text : String) :
    ofText? schema kind text = .found (ofText schema kind text) := by
  unfold ofText? ofText
  rw [Sql.Indexed.tokens?_eq]
  exact Lookup.found_bind _ fun tokens _ => ofTokens?_eq schema kind tokens

end Analysis.Indexed

namespace RowReader.Indexed

def plan? (shape : ReturnShape) (header : Option (List String)) : Lookup RowReader :=
  let shape := shape.observed
  match shape.element, header with
  | .scalar _, some columns | .optionalScalar _, some columns =>
      if columns.length = 1 then return ⟨shape, none⟩
      else throw (.scalarColumnCount columns.length)
  | .record target, some columns | .optionalRecord target, some columns => do
      let (mapping, _) ← Mapping.Indexed.ofRecord? target columns
      return ⟨shape, some mapping⟩
  | _, _ => return ⟨shape, none⟩

theorem plan?_eq (shape : ReturnShape) (header : Option (List String)) :
    plan? shape header = .found (plan shape header) := by
  unfold plan? plan
  dsimp only
  cases header with
  | none => cases shape.observed.element <;> rfl
  | some columns =>
      have counted : (if columns.length = 1 then return ⟨shape.observed, none⟩
          else throw (.scalarColumnCount columns.length) : Lookup RowReader) =
            .found (if columns.length = 1 then .ok ⟨shape.observed, none⟩
              else .error (.scalarColumnCount columns.length)) := by
        split <;> rfl
      have mapped (target : Record) : (do
          let (mapping, _) ← Mapping.Indexed.ofRecord? target columns
          return ⟨shape.observed, some mapping⟩ : Lookup RowReader) =
            .found ((Mapping.ofRecord target columns).map fun mapping =>
              ⟨shape.observed, some mapping⟩) := by
        rw [Mapping.Indexed.ofRecord?_eq]
        cases Mapping.ofRecord target columns <;> rfl
      cases shape.observed.element with
      | scalar => exact counted
      | optionalScalar => exact counted
      | record target => exact mapped target
      | optionalRecord target => exact mapped target
      | _ => rfl

end RowReader.Indexed

/-- A compiled query with its text, and with the markers that were found in it. -/
structure MarkedQuery where
  query : PreparedQuery
  text : String
  markers : List Marker

namespace MarkedQuery

def planReader? (kind : StatementKind) (returns : ReturnShape) (header : Option (List String)) :
    Lookup (Option RowReader) :=
  if kind.isRead then return some (← RowReader.Indexed.plan? returns header) else return none

def compile? (schema : Schema) (settings : Settings) (definition : Definition) :
    Lookup MarkedQuery := do
  let statement ← Lookup.found (MethodText.of? definition.method definition.text)
  let markers ← Sql.Indexed.markersAt? statement.text.toList 0
  let slots := markers.map Marker.slot
  let parameters ←
    Parameter.Indexed.resolve? settings.unused (slots.filterMap Slot.name?) definition.parameters
  let kind ← Lookup.found (StatementKind.ofText statement.text)
  Lookup.found (Fault.checkReturn kind definition.returns)
  let analysis ← Analysis.Indexed.ofText? schema kind statement.text
  Lookup.found (PreparedQuery.checkFixedCount settings.maxParameters slots parameters)
  let reader ← planReader? kind definition.returns analysis.columns
  let query : PreparedQuery :=
    { definition, template := .ofText statement.text, parameters, kind, analysis, reader,
      limit := settings.maxParameters }
  return ⟨query, statement.text, markers⟩

def bind? (marked : MarkedQuery) (arguments : Arguments) : Lookup Statement := do
  let ⟨query, text, markers⟩ := marked
  let slots := markers.map Marker.slot
  let arity := Binding.arity query.parameters arguments
  let supplied? := Binding.supplied? query.parameters arguments
  Lookup.found (query.parameters.forM (Parameter.checkArgument arguments))
  Lookup.found (Binding.checkPositional slots arguments)
  Lookup.found (Binding.checkCeiling query.limit (Binding.requiredCount arity slots)
    (Binding.hasCollection query.parameters))
  let values ← Lookup.found (Binding.slotValues supplied? arguments.positional slots)
  let expanded ← Sql.Indexed.expandAt? text.toList arity 0 markers
  return ⟨String.ofList expanded, values, query.kind, query.reader⟩

variable {schema : Schema} {settings : Settings} {definition : Definition}

theorem planReader?_eq (kind : StatementKind) (returns : ReturnShape)
    (header : Option (List String)) :
    planReader? kind returns header = .found (PreparedQuery.planReader kind returns header) := by
  unfold planReader? PreparedQuery.planReader
  rw [RowReader.Indexed.plan?_eq]
  cases kind.isRead with
  | false => rfl
  | true => exact Lookup.found_map _ some

/-- A compiled query with the text and the markers that it comes with. -/
def ofQuery (query : PreparedQuery) : MarkedQuery :=
  ⟨query, query.definition.text, markersFrom 0 query.template.segments⟩

theorem compile?_eq (schema : Schema) (settings : Settings) (definition : Definition) :
    compile? schema settings definition =
      .found ((PreparedQuery.compile schema settings definition).map ofQuery) := by
  change _ = Lookup.found (ofQuery <$> PreparedQuery.compile schema settings definition)
  unfold compile? PreparedQuery.compile
  simp only [map_bind]
  refine Lookup.found_bind _ fun statement named => ?_
  rw [Sql.Indexed.markersAt?_zero]
  refine Lookup.found_bind _ fun markers scanned => ?_
  rw [Parameter.Indexed.resolve?_eq]
  refine Lookup.found_bind _ fun parameters _ => ?_
  refine Lookup.found_bind _ fun kind _ => ?_
  refine Lookup.found_bind _ fun _ _ => ?_
  rw [Analysis.Indexed.ofText?_eq]
  refine Lookup.found_bind _ fun analysis _ => ?_
  refine Lookup.found_bind _ fun _ _ => ?_
  rw [planReader?_eq]
  refine Lookup.found_bind _ fun reader _ => ?_
  have text : statement.text = definition.text := PreparedQuery.text_of_named named
  have placed : markers = markersFrom 0 (split statement.text.toList) :=
    (markers?_eq_ok_iff.mp scanned).2
  rw [placed, text]
  rfl

theorem bind?_eq {query : PreparedQuery}
    (compiled : PreparedQuery.compile schema settings definition = .ok query)
    (arguments : Arguments) : bind? (ofQuery query) arguments = .found (query.bind arguments) := by
  obtain ⟨statement, markers, passed⟩ := PreparedQuery.compile_eq_ok_iff.mp compiled
  have text : statement.text = query.definition.text :=
    (PreparedQuery.text_of_named passed.named).trans (congrArg Definition.text passed.defined.symm)
  have template : query.template = .ofText query.definition.text := text ▸ passed.templated
  have scanned : markers? query.definition.text = .ok markers := text ▸ passed.scanned
  have placed : markers = markersFrom 0 query.template.segments :=
    template ▸ (markers?_eq_ok_iff.mp scanned).2
  have slots : query.template.slots = markers.map Marker.slot :=
    PreparedQuery.slots_of_compiled passed
  change _ = Lookup.found (_ <$> Binding.bind _ _ _ _)
  unfold bind? Binding.bind
  simp only [ofQuery, ← placed, map_bind, slots]
  refine Lookup.found_bind _ fun _ _ => ?_
  refine Lookup.found_bind _ fun _ _ => ?_
  refine Lookup.found_bind _ fun _ _ => ?_
  refine Lookup.found_bind _ fun values _ => ?_
  obtain ⟨expanded, cut, whole⟩ := Option.map_eq_some_iff.mp (Sql.Indexed.expandAt?_eq scanned _)
  rw [Lookup.some_bind cut, whole, template]
  rfl

/-- No lookup misses while a query is compiled, nor while arguments are bound to it. -/
structure NeverMisses (schema : Schema) (settings : Settings) (definition : Definition) : Prop where
  compiled : ∃ result, compile? schema settings definition = .found result ∧
    result.map MarkedQuery.query = PreparedQuery.compile schema settings definition
  bound : ∀ marked, compile? schema settings definition = .found (.ok marked) →
    ∀ arguments, marked.bind? arguments = .found (marked.query.bind arguments)
  /-- The bytes of the masked text are those of a text, so that none is replaced. -/
  unreplaced : ∀ masked, Sql.Indexed.maskedBytes? definition.text.toList = .found (.ok masked) →
    Text.bytes (Text.decodeLossy masked) = masked
  /-- A token that starts with a backtick ends with another one. -/
  enclosed : ∀ masked, Sql.Indexed.mask? definition.text.toList = .found (.ok masked) →
    ∀ piece ∈ Sql.tokenTexts masked, piece.text.head? = some '`' →
      ∃ name, piece.text = '`' :: (name ++ ['`'])

theorem no_lookup_misses (schema : Schema) (settings : Settings) (definition : Definition) :
    NeverMisses schema settings definition where
  compiled := by
    refine ⟨_, compile?_eq schema settings definition, ?_⟩
    cases PreparedQuery.compile schema settings definition <;> rfl
  bound := by
    intro marked found arguments
    rw [compile?_eq] at found
    obtain ⟨query, compiled, rfl⟩ := map_eq_ok_iff.mp (Lookup.found_inj found)
    exact bind?_eq compiled arguments
  unreplaced := by
    intro masked found
    rw [Sql.Indexed.maskedBytes?_eq] at found
    obtain ⟨text, _, rfl⟩ := map_eq_ok_iff.mp (Lookup.found_inj found)
    rw [Text.decodeLossy_bytes]
  enclosed := by
    intro masked found piece member
    rw [Sql.Indexed.mask?_eq] at found
    exact (Sql.Indexed.sliced_of_mask (Lookup.found_inj found) piece member).enclosed

end MarkedQuery

end CheckedSql

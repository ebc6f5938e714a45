import CheckedSql.Analysis.Statement
import CheckedSql.Proofs.Analysis.References

namespace CheckedSql.Grammar

open Sql Text Analysis

/-! The header of a query, by the scope of SQL.

A source is a relation: it has a name, and columns where they are known. A header is
that of the first select, and a star stands for the columns of all sources of its own
select. The names of calls and operations are left open.
-/

/-- The headers of the common tables in sight, the innermost first; none where the
header is not known. -/
abbrev Scope := List (String × Option (List String))

structure Relation where
  name : String
  columns : Option (List String)
deriving Repr, DecidableEq

/-- The columns of a common table in sight, or else of a schema table. -/
def columnsOf? (schema : Schema) (scope : Scope) (table : String) : Option (List String) :=
  match scope.find? fun entry => decide (SameName entry.1 table) with
  | some entry => entry.2
  | none => (schema.table? table).map schema.columns

def Source.name : Source → String
  | .table name alias? => ((alias?.map Alias.name).getD name).text
  | .derived _ named => named.name.text

/-- The columns that an item stands for. -/
def Item.columns? (relations : List Relation) : Item → Option (List String)
  | .star => (relations.mapM Relation.columns).map List.flatten
  | .qualifiedStar source =>
      match relations.filter fun relation => decide (SameName relation.name source.text) with
      | [relation] => relation.columns
      | _ => none
  | .column name _ | .qualifiedColumn _ name | .aliased _ _ name => some [name.text]
  | .call _ _ | .constant | .operation _ _ _ _ _ => none

def headerOf? (relations : List Relation) (items : List Item) : Option (List String) :=
  (items.mapM (Item.columns? relations)).map List.flatten

/-- What the query of a common table sees: after `RECURSIVE` also the table itself, with
a header that is not known yet. -/
def ownHeaders (recursive : Bool) (name : Name) (scope : Scope) : Scope :=
  if recursive then (name.text, none) :: scope else scope

mutual

def Query.header? (schema : Schema) (scope : Scope) : Query → Option (List String)
  | .plain body => body.header? schema scope
  | .opened _ recursive? tables body =>
      body.header? schema (tables.scope schema recursive?.isSome scope)

/-- The scope after common tables. -/
def CommonTables.scope (schema : Schema) (recursive : Bool) (scope : Scope) :
    CommonTables → Scope
  | .one name _ query =>
      (name.text, query.header? schema (ownHeaders recursive name scope)) :: scope
  | .more name _ query rest =>
      rest.scope schema recursive
        ((name.text, query.header? schema (ownHeaders recursive name scope)) :: scope)

def Body.header? (schema : Schema) (scope : Scope) : Body → Option (List String)
  | .one select => select.header? schema scope
  | .union select _ _ _ => select.header? schema scope

def Select.header? (schema : Schema) (scope : Scope) : Select → Option (List String)
  | .mk _ _ items _ first tail =>
      headerOf? (first.relation schema scope :: tail.relations schema scope) items.toList

def Source.relation (schema : Schema) (scope : Scope) : Source → Relation
  | .table name alias? =>
      ⟨(Source.table name alias?).name, columnsOf? schema scope name.text⟩
  | .derived query named => ⟨named.name.text, query.header? schema scope⟩

def Tail.relations (schema : Schema) (scope : Scope) : Tail → List Relation
  | .done => []
  | .clauses _ _ => []
  | .comma source rest => source.relation schema scope :: rest.relations schema scope
  | .join _ _ source _ _ rest => source.relation schema scope :: rest.relations schema scope

end

/-- The sources of a tail, each with whether the analysis comes to it. -/
def Tail.sources (listing : Bool) : Tail → List (Source × Bool)
  | .done => []
  | .clauses _ _ => []
  | .comma source rest => (source, listing) :: rest.sources (listing && source.isTable)
  | .join _ _ source _ _ rest => (source, true) :: rest.sources false

def Select.sources : Select → List (Source × Bool)
  | .mk _ _ _ _ first tail => (first, true) :: tail.sources first.isTable

/-- The reference behind a source that the analysis lists. -/
def listedRef? : Source × Bool → Option TableRef
  | (.table name alias?, true) => some (tableRef name alias? 0)
  | _ => none

def Select.outer (select : Select) : List TableRef :=
  select.sources.filterMap listedRef?

/-- The references listed by a union after its first select. -/
def Body.others : Body → List TableRef
  | .one _ => []
  | .union _ _ _ rest => rest.first.outer ++ rest.others

def Body.outer (body : Body) : List TableRef :=
  body.first.outer ++ body.others

theorem relations_of_sources (schema : Schema) (scope : Scope) :
    (tail : Tail) → (listing : Bool) → tail.relations schema scope =
      (tail.sources listing).map fun source => source.1.relation schema scope
  | .done, _ => rfl
  | .clauses _ _, _ => rfl
  | .comma source rest, _ => by
      rw [Tail.relations, Tail.sources, List.map_cons, relations_of_sources]
  | .join _ _ source _ _ rest, _ => by
      rw [Tail.relations, Tail.sources, List.map_cons, relations_of_sources]

theorem header?_select (schema : Schema) (scope : Scope) (select : Select) :
    select.header? schema scope =
      headerOf? (select.sources.map fun source => source.1.relation schema scope)
        select.items.toList := by
  obtain ⟨_, _, items, _, first, tail⟩ := select
  rw [Select.header?, Select.sources, List.map_cons,
    relations_of_sources schema scope tail first.isTable]
  rfl

theorem header?_body (schema : Schema) (scope : Scope) (body : Body) :
    body.header? schema scope = body.first.header? schema scope := by
  cases body with
  | one select => rfl
  | union select => rfl

/-- What the selects of a query see. -/
def Query.scope (schema : Schema) : Query → Scope
  | .plain _ => []
  | .opened _ recursive? tables _ => tables.scope schema recursive?.isSome []

/-- The sources of the first select. -/
def Query.relations (schema : Schema) (query : Query) : List Relation :=
  query.body.first.sources.map fun source => source.1.relation schema (query.scope schema)

theorem header?_query (schema : Schema) (query : Query) :
    query.header? schema [] = headerOf? (query.relations schema) query.items := by
  cases query with
  | plain body =>
      rw [Query.header?, header?_body, header?_select]
      rfl
  | opened opening recursive? tables body =>
      rw [Query.header?, header?_body, header?_select]
      rfl

theorem CommonTables.mem_scope {schema : Schema} {recursive : Bool}
    {entry : String × Option (List String)} :
    (tables : CommonTables) → {scope : Scope} → entry ∈ tables.scope schema recursive scope →
      entry ∈ scope ∨ entry.1 ∈ tables.names
  | .one name introduced query, scope, member => by
      rcases List.mem_cons.mp member with rfl | outer
      · exact .inr (List.mem_singleton_self name.text)
      · exact .inl outer
  | .more name introduced query rest, scope, member => by
      rcases rest.mem_scope member with inner | later
      · rcases List.mem_cons.mp inner with rfl | outer
        · exact .inr List.mem_cons_self
        · exact .inl outer
      · exact .inr (List.mem_cons_of_mem name.text later)

theorem mem_commonNames_of_scope {schema : Schema} {query : Query}
    {entry : String × Option (List String)} (member : entry ∈ query.scope schema) :
    entry.1 ∈ query.commonNames := by
  cases query with
  | plain body => cases member
  | opened opening recursive? tables body =>
      rcases tables.mem_scope member with outer | named
      · cases outer
      · exact named

/-- The listed references outside all parentheses. -/
def outermostRefs (references : List Reference) : List TableRef :=
  ((references.filter Reference.listed).map Reference.ref).filter (·.depth == 0)

theorem outermostRefs_append (left right : List Reference) :
    outermostRefs (left ++ right) = outermostRefs left ++ outermostRefs right := by
  simp only [outermostRefs, List.filter_append, List.map_append]

theorem outermostRefs_deep {references : List Reference} (deep : Deep 1 references) :
    outermostRefs references = [] := by
  refine List.filter_eq_nil_iff.mpr fun ref member => ?_
  obtain ⟨reference, listed, rfl⟩ := List.mem_map.mp member
  have inside := deep reference (List.mem_filter.mp listed).1
  simp only [beq_iff_eq]
  omega

theorem outermostRefs_source (visible : List String) (source : Source) (listed : Bool) :
    outermostRefs (source.references visible 0 listed) = (listedRef? (source, listed)).toList := by
  cases source with
  | table name alias? => cases listed <;> rfl
  | derived query named =>
      rw [Source.references, outermostRefs_deep (query.deep visible 1)]
      cases listed <;> rfl

theorem outermostRefs_tail (visible : List String) :
    (tail : Tail) → (listing : Bool) → outermostRefs (tail.references visible 0 listing) =
      (tail.sources listing).filterMap listedRef?
  | .done, _ => rfl
  | .clauses word rest, _ => by
      rw [Tail.references, outermostRefs_deep (rest.deep visible 0)]
      rfl
  | .comma source rest, listing => by
      rw [Tail.references, outermostRefs_append, outermostRefs_source, outermostRefs_tail,
        Tail.sources, List.filterMap_cons]
      cases listedRef? (source, listing) <;> rfl
  | .join kinds join source on condition rest, _ => by
      rw [Tail.references, outermostRefs_append, outermostRefs_append, outermostRefs_source,
        outermostRefs_deep (condition.deep visible 0), outermostRefs_tail, Tail.sources,
        List.filterMap_cons, List.append_nil]
      cases listedRef? (source, true) <;> rfl

theorem outermostRefs_select (visible : List String) (select : Select) :
    outermostRefs (select.references visible 0) = select.outer := by
  obtain ⟨opening, quantifier?, items, sources, first, tail⟩ := select
  rw [Select.references, outermostRefs_append, outermostRefs_append,
    outermostRefs_deep (items.deep visible 0), outermostRefs_source, outermostRefs_tail,
    Select.outer, Select.sources, List.filterMap_cons, List.nil_append]
  cases listedRef? (first, true) <;> rfl

theorem outermostRefs_body :
    (body : Body) → (visible : List String) →
      outermostRefs (body.references visible 0) = body.outer
  | .one select, visible => by
      rw [Body.references, outermostRefs_select, Body.outer, Body.first, Body.others,
        List.append_nil]
  | .union select union quantifier? rest, visible => by
      rw [Body.references, outermostRefs_append, outermostRefs_select, outermostRefs_body]
      rfl

theorem outermostRefs_query (query : Query) :
    outermostRefs (query.references [] 0) = query.body.outer := by
  cases query with
  | plain body => exact outermostRefs_body body []
  | opened opening recursive? tables body =>
      rw [Query.references, outermostRefs_append,
        outermostRefs_deep (tables.deep recursive?.isSome [] 0), outermostRefs_body,
        List.nil_append]
      rfl

end CheckedSql.Grammar

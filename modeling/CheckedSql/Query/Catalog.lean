import CheckedSql.Query.Prepared
import CheckedSql.Text.NameSet
import CheckedSql.Text.Quoted

namespace CheckedSql

open Text

/-- Queries by method name. An entry is only ever added, at the end, and its index
identifies it from then on. -/
structure Catalog where
  schema : Schema
  settings : Settings
  queries : List PreparedQuery

namespace Catalog

def empty (schema : Schema) (settings : Settings) : Catalog :=
  ⟨schema, settings, []⟩

/-- The query of a method name, with its index. -/
def entry? (catalog : Catalog) (method : String) : Option (PreparedQuery × Nat) :=
  catalog.queries.zipIdx.find? (·.1.definition.method = method)

/-- Adds a definition, or finds it where it was added before. A name stands for one
definition; a definition that does not compile leaves the catalog as it is. -/
def register (catalog : Catalog) (definition : Definition) : Except Fault Nat × Catalog :=
  match catalog.entry? definition.method with
  | some (existing, index) =>
      if existing.definition = definition then (.ok index, catalog)
      else (.error (.duplicateMethod definition.method), catalog)
  | none =>
      match PreparedQuery.compile catalog.schema catalog.settings definition with
      | .error fault => (.error fault, catalog)
      | .ok query =>
          (.ok catalog.queries.length, { catalog with queries := catalog.queries ++ [query] })

def size (catalog : Catalog) : Nat :=
  catalog.queries.length

def isEmpty (catalog : Catalog) : Bool :=
  catalog.queries.isEmpty

def methods (catalog : Catalog) : NameSet :=
  .ofList (catalog.queries.map (·.definition.method))

def policyText : UnusedPolicy → String
  | .warn => "Warn"
  | .fail => "Fail"

def debugText (catalog : Catalog) : String :=
  "QueryRegistry \x7b config: BinderConfig \x7b max_bind_parameters: " ++
    toString catalog.settings.maxParameters ++ ", unused_parameters: " ++
    policyText catalog.settings.unused ++ " \x7d, methods: [" ++
    String.intercalate ", " (catalog.methods.names.map quoted) ++ "] \x7d"

end Catalog

end CheckedSql

import CheckedSql.Analysis.Mention
import CheckedSql.Proofs.Analysis.Balance

namespace CheckedSql.Grammar

open Sql Analysis

/-! The tables that the sources of a query name, by the scope of SQL.

A common table is visible in the body of its query and in the common tables after it,
in its own query only after `RECURSIVE`. `listed` tells which references the reading
of mentions comes to: a table after a comma only if all sources before it are tables
after commas as well. `mentions_tokens` proves that it comes to these and no others.
-/

structure Reference where
  ref : TableRef
  /-- The common tables that the reference may mean. -/
  visible : List String
  listed : Bool
deriving Repr, DecidableEq

def CommonTables.names : CommonTables → List String
  | .one name _ _ => [name.text]
  | .more name _ _ rest => name.text :: rest.names

/-- The common tables that a query itself opens with. -/
def Query.commonNames : Query → List String
  | .plain _ => []
  | .opened _ _ tables _ => tables.names

def Source.isTable : Source → Bool
  | .table _ _ => true
  | .derived _ _ => false

def tableRef (name : Name) (alias? : Option Alias) (depth : Nat) : TableRef :=
  ⟨name.text, alias?.map fun named => named.name.text, depth⟩

/-- What the query of a common table sees. -/
def ownScope (recursive : Bool) (name : Name) (visible : List String) : List String :=
  if recursive then name.text :: visible else visible

mutual

def Query.references (visible : List String) (depth : Nat) : Query → List Reference
  | .plain body => body.references visible depth
  | .opened _ recursive? tables body =>
      tables.references recursive?.isSome visible depth ++
        body.references (tables.names ++ visible) depth

def CommonTables.references (recursive : Bool) (visible : List String) (depth : Nat) :
    CommonTables → List Reference
  | .one name _ query => query.references (ownScope recursive name visible) (depth + 1)
  | .more name _ query rest =>
      query.references (ownScope recursive name visible) (depth + 1) ++
        rest.references recursive (name.text :: visible) depth

def Body.references (visible : List String) (depth : Nat) : Body → List Reference
  | .one select => select.references visible depth
  | .union select _ _ rest => select.references visible depth ++ rest.references visible depth

def Select.references (visible : List String) (depth : Nat) : Select → List Reference
  | .mk _ _ items _ first tail =>
      items.references visible depth ++ first.references visible depth true ++
        tail.references visible depth first.isTable

def Items.references (visible : List String) (depth : Nat) : Items → List Reference
  | .one item => item.references visible depth
  | .more item rest => item.references visible depth ++ rest.references visible depth

def Item.references (visible : List String) (depth : Nat) : Item → List Reference
  | .aliased value _ _ => value.references visible depth
  | .call _ arguments => arguments.references visible (depth + 1)
  | .operation value _ _ _ _ => value.references visible depth
  | .star | .qualifiedStar _ | .column _ _ | .qualifiedColumn _ _ | .constant => []

def Source.references (visible : List String) (depth : Nat) (listed : Bool) :
    Source → List Reference
  | .table name alias? => [⟨tableRef name alias? depth, visible, listed⟩]
  | .derived query _ => query.references visible (depth + 1)

/-- `listing` tells whether all sources so far are tables after commas. -/
def Tail.references (visible : List String) (depth : Nat) (listing : Bool) :
    Tail → List Reference
  | .done => []
  | .clauses _ rest => rest.references visible depth
  | .comma source rest =>
      source.references visible depth listing ++
        rest.references visible depth (listing && source.isTable)
  | .join _ _ source _ condition rest =>
      source.references visible depth true ++ condition.references visible depth ++
        rest.references visible depth false

def Expr.references {region : Region} (visible : List String) (depth : Nat) :
    Expr region → List Reference
  | .done => []
  | .token _ _ rest => rest.references visible depth
  | .group inner rest => inner.references visible (depth + 1) ++ rest.references visible depth
  | .extract _ _ _ _ operand rest =>
      operand.references visible (depth + 1) ++ rest.references visible depth
  | .subquery query rest =>
      query.references visible (depth + 1) ++ rest.references visible depth

end

/-- The mentions of the references that the reading comes to. -/
def mentioned (references : List Reference) : List Mention :=
  (references.filter Reference.listed).map fun reference => .source reference.ref

@[simp]
theorem mentioned_append (left right : List Reference) :
    mentioned (left ++ right) = mentioned left ++ mentioned right := by
  simp only [mentioned, List.filter_append, List.map_append]

/-- Every reference stands inside as many parentheses. -/
def Deep (depth : Nat) (references : List Reference) : Prop :=
  ∀ reference ∈ references, depth ≤ reference.ref.depth

namespace Deep

variable {depth : Nat} {left right references : List Reference}

theorem nil : Deep depth [] := fun _ member => by cases member

theorem append (first : Deep depth left) (second : Deep depth right) :
    Deep depth (left ++ right) := by
  intro reference member
  rcases List.mem_append.mp member with here | there
  · exact first reference here
  · exact second reference there

theorem weaken (deep : Deep (depth + 1) references) : Deep depth references :=
  fun reference member => Nat.le_of_succ_le (deep reference member)

end Deep

mutual

theorem Query.deep (visible : List String) (depth : Nat) : (query : Query) →
    Deep depth (query.references visible depth)
  | .plain body => body.deep visible depth
  | .opened _ recursive? tables body =>
      (tables.deep recursive?.isSome visible depth).weaken.append
        (body.deep (tables.names ++ visible) depth)

theorem CommonTables.deep (recursive : Bool) (visible : List String) (depth : Nat) :
    (tables : CommonTables) → Deep (depth + 1) (tables.references recursive visible depth)
  | .one name _ query => query.deep (ownScope recursive name visible) (depth + 1)
  | .more name _ query rest =>
      (query.deep (ownScope recursive name visible) (depth + 1)).append
        (rest.deep recursive (name.text :: visible) depth)

theorem Body.deep (visible : List String) (depth : Nat) : (body : Body) →
    Deep depth (body.references visible depth)
  | .one select => select.deep visible depth
  | .union select _ _ rest => (select.deep visible depth).append (rest.deep visible depth)

theorem Select.deep (visible : List String) (depth : Nat) : (select : Select) →
    Deep depth (select.references visible depth)
  | .mk _ _ items _ first tail =>
      ((items.deep visible depth).weaken.append (first.deep visible depth true)).append
        (tail.deep visible depth first.isTable)

theorem Items.deep (visible : List String) (depth : Nat) : (items : Items) →
    Deep (depth + 1) (items.references visible depth)
  | .one item => item.deep visible depth
  | .more item rest => (item.deep visible depth).append (rest.deep visible depth)

theorem Item.deep (visible : List String) (depth : Nat) : (item : Item) →
    Deep (depth + 1) (item.references visible depth)
  | .aliased value _ _ => value.deep visible depth
  | .call _ arguments => (arguments.deep visible (depth + 1)).weaken
  | .operation value _ _ _ _ => value.deep visible depth
  | .star | .qualifiedStar _ | .column _ _ | .qualifiedColumn _ _ | .constant => .nil

theorem Source.deep (visible : List String) (depth : Nat) (listed : Bool) :
    (source : Source) → Deep depth (source.references visible depth listed)
  | .table name alias? => by
      intro reference member
      cases List.mem_singleton.mp member
      exact Nat.le_refl depth
  | .derived query _ => (query.deep visible (depth + 1)).weaken

theorem Tail.deep (visible : List String) (depth : Nat) (listing : Bool) : (tail : Tail) →
    Deep depth (tail.references visible depth listing)
  | .done => .nil
  | .clauses _ rest => (rest.deep visible depth).weaken
  | .comma source rest =>
      (source.deep visible depth listing).append
        (rest.deep visible depth (listing && source.isTable))
  | .join _ _ source _ condition rest =>
      ((source.deep visible depth true).append (condition.deep visible depth).weaken).append
        (rest.deep visible depth false)

theorem Expr.deep {region : Region} (visible : List String) (depth : Nat) :
    (expr : Expr region) → Deep (depth + 1) (expr.references visible depth)
  | .done => .nil
  | .token _ _ rest => rest.deep visible depth
  | .group inner rest =>
      (inner.deep visible (depth + 1)).weaken.append (rest.deep visible depth)
  | .extract _ _ _ _ operand rest =>
      (operand.deep visible (depth + 1)).weaken.append (rest.deep visible depth)
  | .subquery query rest =>
      (query.deep visible (depth + 1)).append (rest.deep visible depth)

end

end CheckedSql.Grammar

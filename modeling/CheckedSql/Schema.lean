import CheckedSql.Text.Basic
import CheckedSql.Text.NameSet

namespace CheckedSql

open Text

/-! The tables of a database and their columns.

Tables are kept in the order of their names, and no name stands twice, so
`columns` is the semantic model. `table?` finds a table ignoring case: of several
the first by name.
-/

structure Table where
  name : String
  columns : List String
deriving Repr, DecidableEq, Inhabited

structure Schema where
  tables : List Table
  increasing : tables.Pairwise (·.name < ·.name)

namespace Schema

def empty : Schema := ⟨[], .nil⟩

instance : Inhabited Schema := ⟨empty⟩

private def place (table : Table) : List Table → List Table
  | [] => [table]
  | head :: rest =>
      if table.name < head.name then table :: head :: rest
      else if table.name = head.name then table :: rest
      else head :: place table rest

private theorem mem_place {table other : Table} {tables : List Table}
    (member : other ∈ place table tables) : other = table ∨ other ∈ tables := by
  induction tables with
  | nil => exact .inl (List.mem_singleton.mp member)
  | cons head rest ih =>
      simp only [place] at member
      split at member
      · exact List.mem_cons.mp member
      · split at member
        · exact (List.mem_cons.mp member).imp_right (List.mem_cons_of_mem head)
        · rcases List.mem_cons.mp member with same | below
          · exact .inr (same ▸ List.mem_cons_self)
          · exact (ih below).imp_right (List.mem_cons_of_mem head)

private theorem increasing_place {table : Table} {tables : List Table}
    (increasing : tables.Pairwise (·.name < ·.name)) :
    (place table tables).Pairwise (·.name < ·.name) := by
  induction tables with
  | nil => simp [place]
  | cons head rest ih =>
      obtain ⟨least, tail⟩ := List.pairwise_cons.mp increasing
      simp only [place]
      split
      · rename_i before
        refine List.pairwise_cons.mpr ⟨?_, increasing⟩
        intro other member
        rcases List.mem_cons.mp member with same | member
        · exact same ▸ before
        · exact String.lt_trans before (least other member)
      · split
        · rename_i same
          exact List.pairwise_cons.mpr ⟨fun other member => same ▸ least other member, tail⟩
        · rename_i notBefore different
          refine List.pairwise_cons.mpr ⟨?_, ih tail⟩
          intro other member
          rcases mem_place member with same | member
          · subst other
            exact Decidable.byContradiction fun notAfter =>
              different (String.le_antisymm (String.not_lt.mp notAfter) (String.not_lt.mp notBefore))
          · exact least other member

/-- A table takes the place of an earlier one of the same name. -/
def withTable (schema : Schema) (table : Table) : Schema :=
  ⟨place table schema.tables, increasing_place schema.increasing⟩

def ofTables (tables : List Table) : Schema :=
  tables.foldl withTable empty

def names (schema : Schema) : List String :=
  schema.tables.map Table.name

/-- The columns of the table of exactly this name, none if there is no such table. -/
def columns (schema : Schema) (name : String) : List String :=
  ((schema.tables.find? (·.name = name)).map Table.columns).getD []

/-- The first table whose name is the given one ignoring case. -/
def table? (schema : Schema) (name : String) : Option String :=
  schema.names.find? fun known => decide (SameName known name)

theorem mem_names_of_table? {schema : Schema} {name found : String}
    (resolved : schema.table? name = some found) :
    found ∈ schema.names ∧ SameName found name :=
  ⟨List.mem_of_find?_eq_some resolved, of_decide_eq_true
    (List.find?_some (p := fun known => decide (SameName known name)) resolved)⟩

end Schema

end CheckedSql

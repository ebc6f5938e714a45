import CheckedSql.Fault

namespace CheckedSql

/-! Which column of a result feeds which field of a record.

A field is fed by the first column of its own name, or else by the first column of
its override. `fields` is the semantic model; what the mapping says of columns is
read off it.
-/

structure Mapping where
  record : String
  columns : List String
  /-- The fields in declaration order, each with the index of its column. -/
  fields : List (Field × Option Nat)
deriving Repr, DecidableEq, Inhabited

structure Feed where
  index : Nat
  column : String
deriving Repr, DecidableEq

namespace Feed

def named? (columns : List String) (name : String) : Option Feed :=
  (columns.idxOf? name).map fun index => ⟨index, name⟩

/-- The column that feeds a field. The field's own name and its override may not
lead to different columns. -/
def ofField (record : String) (columns : List String) (field : Field) :
    Except Fault (Option Feed) :=
  match named? columns field.name, field.column.bind (named? columns) with
  | some own, some override =>
      if own.index = override.index then .ok (some own)
      else
        .error (.ambiguousColumn record override.column (.nameAndOverride field.name own.column))
  | some own, none => .ok (some own)
  | none, override => .ok override

end Feed

namespace Mapping

/-- Gives each field its column. `claimed` lists the columns already given away,
with the fields that hold them. -/
def assign (record : String) (columns : List String) (claimed : List (Nat × String)) :
    List Field → Except Fault (List (Field × Option Nat))
  | [] => .ok []
  | field :: rest =>
      match Feed.ofField record columns field with
      | .error fault => .error fault
      | .ok none => (assign record columns claimed rest).map ((field, none) :: ·)
      | .ok (some feed) =>
          match claimed.lookup feed.index with
          | some holder =>
              .error (.ambiguousColumn record feed.column (.sharedByFields holder field.name))
          | none =>
              (assign record columns ((feed.index, field.name) :: claimed) rest).map
                ((field, some feed.index) :: ·)

def ofRecord (target : Record) (columns : List String) : Except Fault Mapping :=
  match assign target.name columns [] target.fields with
  | .error fault => .error fault
  | .ok fields =>
      if fields.any (·.2.isSome) then .ok ⟨target.name, columns, fields⟩
      else .error (.noMatchingColumns target.name columns)

def owner? (mapping : Mapping) (index : Nat) : Option Field :=
  (mapping.fields.find? (·.2 = some index)).map Prod.fst

/-- The columns in order, each with the field that it feeds. -/
def uses (mapping : Mapping) : List (String × Option Field) :=
  mapping.columns.mapIdx fun index column => (column, mapping.owner? index)

def matchedCount (mapping : Mapping) : Nat :=
  mapping.uses.countP (·.2.isSome)

def unusedColumns (mapping : Mapping) : List String :=
  (mapping.uses.filter (·.2.isNone)).map Prod.fst

def unsetFields (mapping : Mapping) : List String :=
  (mapping.fields.filter (·.2.isNone)).map (·.1.name)

theorem ofRecord_columns {target : Record} {columns : List String} {mapping : Mapping}
    (planned : ofRecord target columns = .ok mapping) :
    mapping.columns = columns ∧ mapping.record = target.name := by
  unfold ofRecord at planned
  split at planned
  · cases planned
  · split at planned
    · cases planned; exact ⟨rfl, rfl⟩
    · cases planned

end Mapping

/-- What a mapping leaves over: columns that feed no field, and fields that no
column feeds. -/
structure MappingReport where
  record : String
  unusedColumns : List String
  unsetFields : List String
deriving Repr, DecidableEq

namespace MappingReport

def ofMapping? (mapping : Mapping) : Option MappingReport :=
  let report := ⟨mapping.record, mapping.unusedColumns, mapping.unsetFields⟩
  if report.unusedColumns.isEmpty && report.unsetFields.isEmpty then none else some report

def display (report : MappingReport) : String :=
  let unused :=
    if report.unusedColumns.isEmpty then ""
    else "; unused columns: " ++ Fault.listed report.unusedColumns
  let unset :=
    if report.unsetFields.isEmpty then ""
    else "; fields not set: " ++ Fault.listed report.unsetFields
  "The query returns some columns that do not match '" ++ report.record ++ "'" ++ unused ++ unset

end MappingReport

end CheckedSql

import CheckedSql.Toml.Rule

namespace CheckedSql.Toml

/-! What the keys of a document stand for, and how tables grow.

A table that was written out, in braces or under a header of its own, is closed: no
dotted key adds to it. A table that was only implied by a longer header may still get
its own header, and a table of dotted keys only further dotted keys.
-/

inductive TableOrigin where
  /-- Under a header of its own. -/
  | header
  /-- By the header of a table inside. -/
  | implied
  /-- By dotted keys. -/
  | dotted
deriving Repr, DecidableEq

inductive Item where
  | string (text : String)
  | integer (value : Int)
  /-- Any other value that has no parts. -/
  | scalar
  | array (items : List Item)
  | inline (entries : List (String × Item))
  | table (origin : TableOrigin) (entries : List (String × Item))
  | tables (elements : List (List (String × Item)))

abbrev Entries := List (String × Item)

namespace Entries

def get? (entries : Entries) (key : String) : Option Item :=
  entries.lookup key

def put (entries : Entries) (key : String) (item : Item) : Entries :=
  match entries with
  | [] => [(key, item)]
  | (other, old) :: rest =>
      if other = key then (key, item) :: rest else (other, old) :: put rest key item

/-- Changes the table at a path, and says no if there is none or it is closed. The
last table of an array stands for the array. Missing tables are added. -/
def changeAt (byDots : Bool) (change : TableOrigin → Entries → Option Entries)
    (origin : TableOrigin) (entries : Entries) : List String → Option Entries
  | [] => change origin entries
  | key :: path =>
      match entries.get? key with
      | none =>
          let added := if byDots then .dotted else .implied
          (changeAt byDots change added [] path).map fun inner =>
            entries.put key (.table added inner)
      | some (.table origin inner) =>
          if byDots ∧ origin = .header then none
          else (changeAt byDots change origin inner path).map fun inner =>
            entries.put key (.table origin inner)
      | some (.tables elements) =>
          match elements.getLast? with
          | none => none
          | some last =>
              (changeAt byDots change .header last path).map fun last =>
                entries.put key (.tables (elements.dropLast ++ [last]))
      | some _ => none

def add (key : String) (item : Item) (entries : Entries) : Option Entries :=
  match entries.get? key with
  | none => some (entries.put key item)
  | some _ => none

/-- Adds an item under a dotted key, the path to a table and a new key in it. -/
def addDotted (entries : Entries) (path : List String) (key : String) (item : Item) :
    Option Entries :=
  changeAt true (fun origin inner =>
    if path ≠ [] ∧ origin ≠ .dotted then none else inner.add key item) .header entries path

end Entries

/-- An item under a dotted key; the last key of the path is its own. -/
structure Pair where
  path : List String
  item : Item

def Pair.addTo (entries : Entries) (pair : Pair) : Option Entries :=
  match pair.path.getLast? with
  | none => none
  | some key => entries.addDotted pair.path.dropLast key pair.item

def Entries.ofPairs (entries : Entries) (pairs : List Pair) : Option Entries :=
  pairs.foldlM Pair.addTo entries

/-- A header: the path of a table, and whether it is one of an array. -/
structure Header where
  path : List String
  inArray : Bool

/-- The item that a header and the pairs under it make of what its key stood for. -/
def Header.item? (header : Header) (pairs : List Pair) : Option Item → Option Item
  | none =>
      (Entries.ofPairs [] pairs).map fun entries =>
        if header.inArray then .tables [entries] else .table .header entries
  | some (.table .implied entries) =>
      if header.inArray then none
      else (Entries.ofPairs entries pairs).map (.table .header)
  | some (.tables elements) =>
      if header.inArray then
        (Entries.ofPairs [] pairs).map fun entries => .tables (elements ++ [entries])
      else none
  | some _ => none

def Entries.addTable (entries : Entries) (header : Header) (pairs : List Pair) :
    Option Entries :=
  match header.path.getLast? with
  | none => none
  | some key =>
      changeAt false (fun _ inner =>
        (header.item? pairs (inner.get? key)).map (inner.put key)) .header entries
        header.path.dropLast

end CheckedSql.Toml

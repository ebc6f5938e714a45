import CheckedSql.Text.Basic
import CheckedSql.Fault

namespace CheckedSql

open Text

/-- What becomes of a declared parameter that the statement never uses. -/
inductive UnusedPolicy where
  | warn
  | fail
deriving Repr, DecidableEq, Inhabited

structure Settings where
  /-- The ceiling on the markers of one statement. -/
  maxParameters : Nat
  unused : UnusedPolicy
deriving Repr, DecidableEq

def Settings.standard : Settings := ⟨999, .warn⟩

instance : Inhabited Settings := ⟨.standard⟩

structure Parameter where
  name : String
  type : ValueType
  collection : Bool
deriving Repr, DecidableEq, Inhabited

namespace Parameter

/-- All parameters whose name is the given one ignoring case. -/
def namesakes (name : String) (parameters : List Parameter) : List Parameter :=
  parameters.filter fun parameter => decide (SameName parameter.name name)

def isAmbiguous (parameters : List Parameter) (parameter : Parameter) : Bool :=
  (namesakes parameter.name parameters).length > 1

/-- The first declared parameter that has rivals is at fault. -/
def checkDistinct (parameters : List Parameter) : Except Fault Unit :=
  match parameters.find? (isAmbiguous parameters) with
  | none => .ok ()
  | some parameter =>
      .error (.ambiguousParameter parameter.name
        ((namesakes parameter.name parameters).tail.map Parameter.name))

def named? (name : String) (parameters : List Parameter) : Option Parameter :=
  parameters.find? (·.name = name)

def select (parameters : List Parameter) (name : String) : Except Fault Parameter :=
  match named? name parameters with
  | some parameter => .ok parameter
  | none => .error (.unresolvedParameter name)

def checkUsed (policy : UnusedPolicy) (names : List String) (parameters : List Parameter) :
    Except Fault Unit :=
  match policy, parameters.find? (fun parameter => !names.contains parameter.name) with
  | .fail, some parameter => .error (.unusedParameter parameter.name)
  | _, _ => .ok ()

/-- The parameters that a statement uses, each once, in the order in which the statement
first names them. -/
def resolve (policy : UnusedPolicy) (names : List String) (parameters : List Parameter) :
    Except Fault (List Parameter) := do
  checkDistinct parameters
  let used ← names.eraseDups.mapM (select parameters)
  checkUsed policy names parameters
  return used

theorem named?_some {name : String} {parameters : List Parameter} {parameter : Parameter}
    (found : named? name parameters = some parameter) :
    parameter ∈ parameters ∧ parameter.name = name :=
  ⟨List.mem_of_find?_eq_some found, of_decide_eq_true
    (List.find?_some (p := fun parameter : Parameter => decide (parameter.name = name)) found)⟩

end Parameter

end CheckedSql

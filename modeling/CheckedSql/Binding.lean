import CheckedSql.Parameter
import CheckedSql.Sql.Template
import CheckedSql.Total

namespace CheckedSql

open Sql

/-! Supplied arguments, and statements with arguments bound to them.

`bind` checks in a fixed order: each parameter has a fitting argument, the
positional values are as many as the positional slots, and the values in all are
within the ceiling.
-/

inductive Argument where
  | single (value : Value)
  | list (values : List Value)
deriving Repr, DecidableEq, Inhabited

def Argument.values : Argument → List Value
  | .single value => [value]
  | .list values => values

/-- The arguments of one call; of several for one name the first counts. -/
structure Arguments where
  named : List (String × Argument)
  positional : List Value
deriving Repr, DecidableEq, Inhabited

namespace Arguments

/-- Arguments from pairs in the order in which they are given: a later pair takes
the place of an earlier one. -/
def ofPairs (pairs : List (String × Argument)) (positional : List Value) : Arguments :=
  ⟨pairs.reverse, positional⟩

def get? (arguments : Arguments) (name : String) : Option Argument :=
  arguments.named.lookup name

end Arguments

/-- Whether a value may stand where a type is declared: `NULL` may stand
anywhere, and an integer also for a real. -/
def ValueType.accepts (declared : ValueType) (value : Value) : Bool :=
  match value.type? with
  | none => true
  | some found => found == declared || (declared == .real && found == .integer)

namespace Parameter

def valueMisfit? (declared : ValueType) (value : Value) : Option Misfit :=
  if declared.accepts value then none else value.type?.map (Misfit.wrongType declared)

/-- Why an argument does not fit, if it does not. -/
def misfit? (parameter : Parameter) (argument : Argument) : Option Misfit :=
  match parameter.collection, argument with
  | true, .single _ => some .singleForCollection
  | false, .list _ => some .collectionForSingle
  | _, argument => argument.values.findSome? (valueMisfit? parameter.type)

def checkArgument (arguments : Arguments) (parameter : Parameter) : Except Fault Unit :=
  match arguments.get? parameter.name with
  | none => .error (.missingArgument parameter.name)
  | some argument =>
      match parameter.misfit? argument with
      | some misfit => .error (.argumentMismatch parameter.name misfit)
      | none => .ok ()

end Parameter

/-- A statement's text with question marks, and the values for them in order. -/
structure Binding where
  text : String
  values : List Value
deriving Repr, DecidableEq

namespace Binding

def isPositional : Slot → Bool
  | .positional => true
  | .named _ => false

def positionalCount (slots : List Slot) : Nat :=
  slots.countP isPositional

def checkPositional (slots : List Slot) (arguments : Arguments) : Except Fault Unit :=
  let supplied := arguments.positional.length
  let slots := positionalCount slots
  if supplied < slots then .error (.missingPositional (supplied + 1))
  else if slots < supplied then .error (.extraPositional supplied slots)
  else .ok ()

/-- The argument that is bound to a name, if it is the name of a parameter. -/
def supplied? (parameters : List Parameter) (arguments : Arguments) (name : String) :
    Option Argument :=
  if parameters.any (·.name = name) then arguments.get? name else none

def arity (parameters : List Parameter) (arguments : Arguments) (name : String) : Nat :=
  match supplied? parameters arguments name with
  | some argument => argument.values.length
  | none => 1

def hasCollection (parameters : List Parameter) : Bool :=
  parameters.any Parameter.collection

/-- The number of values of every call, if no parameter is a collection. -/
def fixedCount? (slots : List Slot) (parameters : List Parameter) : Option Nat :=
  if hasCollection parameters then none else some slots.length

def requiredCount (arity : String → Nat) (slots : List Slot) : Nat :=
  total (Template.slotArity arity) slots

def checkCeiling (limit required : Nat) (fromCollection : Bool) : Except Fault Unit :=
  if limit < required then .error (.tooManyParameters required limit fromCollection) else .ok ()

/-- The values for the slots in order. Positional slots take the positional values
one after the other. -/
def slotValues (supplied? : String → Option Argument) (positional : List Value) :
    List Slot → Except Fault (List Value)
  | [] => .ok []
  | .named name :: slots =>
      match supplied? name with
      | none => .error (.unresolvedParameter name)
      | some argument => (slotValues supplied? positional slots).map (argument.values ++ ·)
  | .positional :: slots =>
      (slotValues supplied? positional.tail slots).map (positional.head?.toList ++ ·)

def bind (template : Template) (parameters : List Parameter) (arguments : Arguments)
    (limit : Nat) : Except Fault Binding := do
  let slots := template.slots
  let arity := arity parameters arguments
  parameters.forM (Parameter.checkArgument arguments)
  checkPositional slots arguments
  checkCeiling limit (requiredCount arity slots) (hasCollection parameters)
  let values ← slotValues (supplied? parameters arguments) arguments.positional slots
  return ⟨template.expand arity, values⟩

end Binding

end CheckedSql

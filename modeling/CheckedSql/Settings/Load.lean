import CheckedSql.Parameter
import CheckedSql.Toml.Document

namespace CheckedSql

open Toml

inductive SettingsFault where
  /-- The text is no document, or a key does not have its type. -/
  | invalid
  | zeroCeiling
deriving Repr, DecidableEq

def SettingsFault.message : SettingsFault → String
  | .invalid => "Invalid binder configuration"
  | .zeroCeiling => "max_bind_parameters must be greater than zero"

namespace Settings

def limit? : Item → Option Nat
  | .integer value => if 0 ≤ value then some value.toNat else none
  | _ => none

def UnusedPolicy.named? : String → Option UnusedPolicy
  | "warn" => some .warn
  | "fail" => some .fail
  | _ => none

def hasNothing : Item → Bool
  | .array items => items.isEmpty
  | .inline entries | .table _ entries => entries.isEmpty
  | .tables elements => elements.isEmpty
  | _ => false

/-- A policy is named by a string, or by the only key of a table that has nothing
under it. -/
def policy? : Item → Option UnusedPolicy
  | .string name => UnusedPolicy.named? name
  | .inline [(name, item)] | .table _ [(name, item)] =>
      if hasNothing item then UnusedPolicy.named? name else none
  | _ => none

/-- The value of a key, or the standard one if the key is missing. -/
def valueOf {Kind : Type} (entries : Entries) (key : String) (read? : Item → Option Kind)
    (standard : Kind) : Except SettingsFault Kind :=
  match entries.get? key with
  | none => .ok standard
  | some item =>
      match read? item with
      | some value => .ok value
      | none => .error .invalid

def ofEntries (entries : Entries) : Except SettingsFault Settings := do
  let maxParameters ←
    valueOf entries "max_bind_parameters" limit? Settings.standard.maxParameters
  let unused ← valueOf entries "unused_parameters" policy? Settings.standard.unused
  if maxParameters = 0 then .error .zeroCeiling else .ok ⟨maxParameters, unused⟩

def ofToml (text : String) : Except SettingsFault Settings :=
  match document? text with
  | none => .error .invalid
  | some entries => ofEntries entries

end Settings

end CheckedSql

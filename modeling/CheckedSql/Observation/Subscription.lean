import CheckedSql.Query.Prepared
import CheckedSql.Text.Quoted

namespace CheckedSql

open Text

/-! Subscriptions to the results of a query, and how their surroundings behave.

An executor and a sink may do actions of their own while they are being called. A
`Behaviour` says which, call by call: it is what is left of two scripts.
-/

inductive Action where
  | notify (changed : NameSet)
  | refresh (id : String)
  | unsubscribe (id : String)
deriving DecidableEq

/-- One call of an executor: what it does first, and what it then replies. -/
structure Turn where
  actions : List Action
  reply : Except String Outcome

structure Behaviour where
  /-- The calls of the executor that are still to come. -/
  turns : List Turn
  /-- The reply to all calls after those. -/
  lastReply : Except String Outcome
  /-- What the sink does on each emission that is still to come. -/
  reactions : List (List Action)

namespace Behaviour

/-- Without any turns the executor replies with no rows. -/
def ofScripts (turns : List Turn) (reactions : List (List Action)) : Behaviour :=
  ⟨turns, .ok (.rows .empty), reactions⟩

def callExecutor (behaviour : Behaviour) : Turn × Behaviour :=
  match behaviour.turns with
  | [] => (⟨[], behaviour.lastReply⟩, behaviour)
  | turn :: turns => (turn, { behaviour with turns, lastReply := turn.reply })

def callSink (behaviour : Behaviour) : List Action × Behaviour :=
  match behaviour.reactions with
  | [] => ([], behaviour)
  | actions :: reactions => (actions, { behaviour with reactions })

end Behaviour

structure Subscription where
  query : PreparedQuery
  /-- Bound once, for all evaluations. -/
  statement : Statement
  handle : Nat
  behaviour : Behaviour
  /-- An evaluation is under way. -/
  running : Bool
  /-- A signal has come during the evaluation. -/
  pending : Bool
  cancelled : Bool

namespace Subscription

def start (query : PreparedQuery) (statement : Statement) (handle : Nat)
    (behaviour : Behaviour) : Subscription :=
  { query, statement, handle, behaviour, running := false, pending := false, cancelled := false }

def tables (subscription : Subscription) : NameSet :=
  subscription.query.analysis.tables

def isActive (subscription : Subscription) : Bool :=
  !subscription.cancelled

/-- What a reply lets the subscription emit: nothing, an output or a fault. -/
def emission (subscription : Subscription) (reply : Except String Outcome) :
    Option (Except Fault Output) :=
  match PreparedQuery.readReply subscription.query.outputObserved reply with
  | .ok none => none
  | .ok (some output) => some (.ok output)
  | .error fault => some (.error fault)

def debugText (subscription : Subscription) : String :=
  "ReactiveSubscription \x7b method: " ++ quoted subscription.query.definition.method ++
    ", tables: \x7b" ++ String.intercalate ", " (subscription.tables.names.map quoted) ++
    "\x7d, active: " ++ (if subscription.isActive then "true" else "false") ++ " \x7d"

end Subscription

end CheckedSql

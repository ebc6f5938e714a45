import CheckedSql.Observation.Run

namespace CheckedSql

open Text

namespace World

def perform (world : World) (action : Action) : World :=
  (world.act action).2.run (world.act action).1

/-- Adds a subscription. It watches its tables from then on. -/
def join (world : World) (query : PreparedQuery) (statement : Statement)
    (behaviour : Behaviour) : World :=
  let watching := world.tracker.subscribe query.analysis.tables world.subscriptions.length
  let subscription := Subscription.start query statement watching.1 behaviour
  { world with
    tracker := watching.2, subscriptions := world.subscriptions ++ [subscription] }

/-- Adds a subscription and signals it to evaluate for the first time. -/
def start (world : World) (query : PreparedQuery) (statement : Statement)
    (behaviour : Behaviour) : List Task × World :=
  (world.join query statement behaviour).signal world.subscriptions.length

def drop (world : World) (id : String) : World :=
  match world.holder? id with
  | none => world
  | some index =>
      { world.cancel index with holders := world.holders.filter (·.1 ≠ id) }

/-- Gives an identifier to a subscription; the one that had it is dropped. -/
def hold (world : World) (id : String) (index : Nat) : World :=
  { world.drop id with holders := (world.drop id).holders ++ [(id, index)] }

/-- Observes a query. The identifier stands for the new subscription only after its
first evaluation. -/
def observe (world : World) (id : String) (query : PreparedQuery) (arguments : Arguments)
    (behaviour : Behaviour) : Except Fault World :=
  (query.bindObserved arguments).map fun statement =>
    let started := world.start query statement behaviour
    (started.2.run started.1).hold id world.subscriptions.length

def subscription? (world : World) (id : String) : Option Subscription :=
  (world.holder? id).bind (world.subscriptions[·]?)

end World

end CheckedSql

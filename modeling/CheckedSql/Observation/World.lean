import CheckedSql.Observation.Subscription
import CheckedSql.Observation.Tracker

namespace CheckedSql

open Text

/-! Subscriptions at work, with signals that arrive while others are answered.

`World.step` does one task and says which tasks come before all others then; an
executor or a sink that acts on its own becomes such tasks. `events` is the
semantic model of a run: the signals, calls, replies and emissions in order. A
subscription evaluates one call at a time: a signal during an evaluation is
remembered, and however many come, one further evaluation answers them.
-/

inductive Task where
  | act (action : Action)
  /-- Tells one subscription of a change. -/
  | deliver (index : Nat) (changed : NameSet)
  /-- Calls the executor. -/
  | evaluate (index : Nat)
  /-- Takes the executor's reply and emits it. -/
  | receive (index : Nat) (reply : Except String Outcome)
  /-- Ends an evaluation or starts the next one. -/
  | settle (index : Nat)

/-- What befalls the subscription of an index. -/
inductive Event where
  | signalled (index : Nat)
  | called (index : Nat)
  | replied (index : Nat) (reply : Except String Outcome)
  | emitted (index : Nat) (result : Except Fault Output)
  | settled (index : Nat)
  | cancelled (index : Nat)

/-- Who is told of a change: those who watch one of its tables, or all that ever
subscribed. -/
inductive Delivery where
  | matching
  | everyone
deriving Repr, DecidableEq

structure World where
  delivery : Delivery
  tracker : Tracker Nat
  subscriptions : List Subscription
  /-- The subscription that an identifier stands for, by index. -/
  holders : List (String × Nat)
  events : List Event

namespace World

def empty (delivery : Delivery) : World :=
  ⟨delivery, .empty, [], [], []⟩

def record (world : World) (event : Event) : World :=
  { world with events := world.events ++ [event] }

def put (world : World) (index : Nat) (subscription : Subscription) : World :=
  { world with subscriptions := world.subscriptions.set index subscription }

/-- The subscriptions that are told of a change, in the order of subscribing. -/
def targets (world : World) (changed : NameSet) : List Nat :=
  match world.delivery with
  | .matching => world.tracker.signalled changed
  | .everyone => List.range world.subscriptions.length

/-- A signal starts an evaluation, or is remembered by the one under way. A
cancelled subscription takes none. -/
def signal (world : World) (index : Nat) : List Task × World :=
  match world.subscriptions[index]? with
  | none => ([], world)
  | some subscription =>
      if subscription.cancelled then ([], world.record (.signalled index))
      else if subscription.running then
        ([], (world.put index { subscription with pending := true }).record (.signalled index))
      else
        ([.evaluate index],
          (world.put index { subscription with running := true }).record (.signalled index))

/-- Cancels a subscription and gives up its place in the tracker. -/
def cancel (world : World) (index : Nat) : World :=
  match world.subscriptions[index]? with
  | none => world
  | some subscription =>
      { world.put index { subscription with cancelled := true } with
        tracker := world.tracker.unsubscribe subscription.handle }.record (.cancelled index)

def holder? (world : World) (id : String) : Option Nat :=
  world.holders.lookup id

def act (world : World) : Action → List Task × World
  | .notify changed => ((world.targets changed).map (Task.deliver · changed), world)
  | .refresh id =>
      match world.holder? id with
      | none => ([], world)
      | some index => world.signal index
  | .unsubscribe id =>
      match world.holder? id with
      | none => ([], world)
      | some index => ([], world.cancel index)

/-- A change concerns a subscription only if its query reads one of the tables. -/
def deliver (world : World) (index : Nat) (changed : NameSet) : List Task × World :=
  match world.subscriptions[index]? with
  | none => ([], world)
  | some subscription =>
      if sharesTable subscription.tables changed then world.signal index else ([], world)

def evaluate (world : World) (index : Nat) : List Task × World :=
  match world.subscriptions[index]? with
  | none => ([], world)
  | some subscription =>
      let (turn, behaviour) := subscription.behaviour.callExecutor
      (turn.actions.map Task.act ++ [.receive index turn.reply],
        (world.put index { subscription with behaviour }).record (.called index))

/-- A subscription that was cancelled in the meantime emits nothing. -/
def receive (world : World) (index : Nat) (reply : Except String Outcome) :
    List Task × World :=
  match world.subscriptions[index]? with
  | none => ([], world)
  | some subscription =>
      let replied := world.record (.replied index reply)
      match if subscription.cancelled then none else subscription.emission reply with
      | none => ([.settle index], replied)
      | some result =>
          let (actions, behaviour) := subscription.behaviour.callSink
          (actions.map Task.act ++ [.settle index],
            (replied.put index { subscription with behaviour }).record (.emitted index result))

def settle (world : World) (index : Nat) : List Task × World :=
  match world.subscriptions[index]? with
  | none => ([], world)
  | some subscription =>
      if subscription.pending && !subscription.cancelled then
        ([.evaluate index],
          (world.put index { subscription with pending := false }).record (.settled index))
      else
        ([], (world.put index { subscription with running := false, pending := false }).record
          (.settled index))

def step (world : World) : Task → List Task × World
  | .act action => world.act action
  | .deliver index changed => world.deliver index changed
  | .evaluate index => world.evaluate index
  | .receive index reply => world.receive index reply
  | .settle index => world.settle index

end World

end CheckedSql

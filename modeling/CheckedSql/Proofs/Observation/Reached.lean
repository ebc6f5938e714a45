import CheckedSql.Observation.Session

namespace CheckedSql

open Text

/-! The configurations that runs pass through.

A configuration is a world with the tasks that are still to be done. `Reached` closes
the empty world under single tasks and under all that may be done from outside while
control is there, which is also while an executor or a sink is being called. What is
done from outside to the end reaches a configuration without tasks (`Reached.perform`,
`Reached.observe`).
-/

namespace Event

def index : Event → Nat
  | .signalled index | .called index | .replied index _ | .emitted index _ | .settled index
  | .cancelled index => index

end Event

namespace Task

/-- Whether a task is one of the evaluation loop of a subscription. -/
def loops (index : Nat) : Task → Bool
  | .evaluate target | .receive target _ | .settle target => target == index
  | .act _ | .deliver _ _ => false

def calls : Task → Bool
  | .evaluate _ => true
  | _ => false

end Task

def World.history (world : World) (index : Nat) : List Event :=
  world.events.filter (·.index == index)

def World.advance (world : World) (tasks : List Task) : Nat → World × List Task
  | 0 => (world, tasks)
  | count + 1 =>
      match tasks with
      | [] => (world, [])
      | task :: rest => (world.step task).2.advance ((world.step task).1 ++ rest) count

/-- Control is outside a subscription's evaluation loop. -/
def Outside (index : Nat) (tasks : List Task) : Prop :=
  tasks.filter (Task.loops index) = []

/-- Nothing is about to call an executor, so control may be outside. -/
def Free (tasks : List Task) : Prop :=
  ∀ index, tasks.head? ≠ some (.evaluate index)

inductive Reached (delivery : Delivery) : World → List Task → Prop
  | empty : Reached delivery (.empty delivery) []
  | step {world : World} {task : Task} {rest : List Task}
      (reached : Reached delivery world (task :: rest)) :
      Reached delivery (world.step task).2 ((world.step task).1 ++ rest)
  /-- A change may be told in any order. -/
  | told {world : World} {changed : NameSet} {rest : List Task} {order : List Nat}
      (reached : Reached delivery world (.act (.notify changed) :: rest))
      (everyone : order.Perm (world.targets changed)) :
      Reached delivery world (order.map (Task.deliver · changed) ++ rest)
  | acted {world : World} {tasks : List Task} (reached : Reached delivery world tasks)
      (free : Free tasks) (action : Action) : Reached delivery world (.act action :: tasks)
  | started {world : World} {tasks : List Task} (reached : Reached delivery world tasks)
      (free : Free tasks) (query : PreparedQuery) (statement : Statement) (behaviour : Behaviour) :
      Reached delivery (world.start query statement behaviour).2
        ((world.start query statement behaviour).1 ++ tasks)
  | held {world : World} {tasks : List Task} (reached : Reached delivery world tasks)
      (free : Free tasks) (id : String) (index : Nat) : Reached delivery (world.hold id index) tasks
  | dropped {world : World} {tasks : List Task} (reached : Reached delivery world tasks)
      (free : Free tasks) (id : String) : Reached delivery (world.drop id) tasks

namespace Reached

variable {delivery : Delivery} {world : World}

theorem free_nil : Free [] := nofun

theorem run {tasks : List Task} (reached : Reached delivery world tasks) :
    Reached delivery (world.run tasks) [] := by
  fun_induction World.run world tasks with
  | case1 => exact reached
  | case2 world task rest ih => exact ih reached.step

theorem advance {tasks : List Task} (reached : Reached delivery world tasks) (count : Nat) :
    Reached delivery (world.advance tasks count).1 (world.advance tasks count).2 := by
  induction count generalizing world tasks with
  | zero => exact reached
  | succ count ih =>
      cases tasks with
      | nil => exact reached
      | cons task rest => exact ih reached.step

theorem perform (reached : Reached delivery world []) (action : Action) :
    Reached delivery (world.perform action) [] := by
  have done := (reached.acted free_nil action).step
  rw [List.append_nil] at done
  exact done.run

theorem observe {after : World} {id : String} {query : PreparedQuery} {arguments : Arguments}
    {behaviour : Behaviour} (reached : Reached delivery world [])
    (observed : world.observe id query arguments behaviour = .ok after) :
    Reached delivery after [] := by
  cases bound : query.bindObserved arguments with
  | error fault => simp [World.observe, bound, Except.map] at observed
  | ok statement =>
      simp only [World.observe, bound, Except.map, Except.ok.injEq] at observed
      subst observed
      have started := reached.started free_nil query statement behaviour
      rw [List.append_nil] at started
      exact started.run.held free_nil id _

end Reached

end CheckedSql

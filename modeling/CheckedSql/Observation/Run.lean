import CheckedSql.Observation.World
import CheckedSql.Total

namespace CheckedSql

open Text

/-! Runs of a world, to the end of all tasks.

A run ends because each step lightens its burden: an action is done once, each
signal asks for at most one evaluation, and each evaluation takes three tasks. The
weight of a notification covers all who may be told of it.
-/

def Action.weight (breadth : Nat) : Action → Nat
  | .notify _ => 1 + breadth * 4
  | .refresh _ => 4
  | .unsubscribe _ => 1

def Task.weight (breadth : Nat) : Task → Nat
  | .act action => action.weight breadth
  | .deliver _ _ => 4
  | .evaluate _ => 3
  | .receive _ _ => 2
  | .settle _ => 1

def Behaviour.weight (breadth : Nat) (behaviour : Behaviour) : Nat :=
  total (fun turn => total (Action.weight breadth) turn.actions) behaviour.turns +
    total (total (Action.weight breadth)) behaviour.reactions

def Subscription.weight (breadth : Nat) (subscription : Subscription) : Nat :=
  subscription.behaviour.weight breadth + if subscription.pending then 3 else 0

theorem Action.weight_le {small large : Nat} (below : small ≤ large) (action : Action) :
    action.weight small ≤ action.weight large := by
  cases action with
  | notify => exact Nat.add_le_add_left (Nat.mul_le_mul_right 4 below) 1
  | _ => exact Nat.le_refl _

theorem Task.weight_le {small large : Nat} (below : small ≤ large) (task : Task) :
    task.weight small ≤ task.weight large := by
  cases task with
  | act action => exact Action.weight_le below action
  | _ => exact Nat.le_refl _

theorem Subscription.weight_le {small large : Nat} (below : small ≤ large)
    (subscription : Subscription) : subscription.weight small ≤ subscription.weight large :=
  have lists := total_le_total (Action.weight_le below)
  Nat.add_le_add_right
    (Nat.add_le_add (total_le_total (fun turn : Turn => lists turn.actions) _)
      (total_le_total lists _)) _

theorem Task.total_act (breadth : Nat) (actions : List Action) :
    total (weight breadth) (actions.map Task.act) = total (Action.weight breadth) actions :=
  total_map (weight breadth) Task.act actions

theorem Task.total_deliver (breadth : Nat) (changed : NameSet) (targets : List Nat) :
    total (weight breadth) (targets.map (Task.deliver · changed)) = targets.length * 4 := by
  induction targets with
  | nil => rfl
  | cons target rest ih =>
      rw [List.map_cons, total_cons, ih, List.length_cons]
      simp only [weight]
      omega

theorem Behaviour.weight_callExecutor (breadth : Nat) (behaviour : Behaviour) :
    total (Action.weight breadth) behaviour.callExecutor.1.actions +
      behaviour.callExecutor.2.weight breadth = behaviour.weight breadth := by
  unfold callExecutor
  split
  · exact Nat.zero_add _
  · rename_i turn turns ahead
    simp only [weight, ahead, total_cons]
    omega

theorem Behaviour.weight_callSink (breadth : Nat) (behaviour : Behaviour) :
    total (Action.weight breadth) behaviour.callSink.1 + behaviour.callSink.2.weight breadth =
      behaviour.weight breadth := by
  unfold callSink
  split
  · exact Nat.zero_add _
  · rename_i actions reactions ahead
    simp only [weight, ahead, total_cons]
    omega

namespace World

/-- No change can be told to more than this many. -/
def breadth (world : World) : Nat :=
  world.tracker.count + world.subscriptions.length

def load (world : World) : Nat :=
  total (Subscription.weight world.breadth) world.subscriptions

def burden (world : World) (tasks : List Task) : Nat :=
  total (Task.weight world.breadth) tasks + world.load

theorem targets_length_le (world : World) (changed : NameSet) :
    (world.targets changed).length ≤ world.breadth := by
  unfold targets breadth
  cases world.delivery with
  | matching => exact Nat.le_trans (world.tracker.signalled_length_le changed) (Nat.le_add_right _ _)
  | everyone =>
      simp only [List.length_range]
      exact Nat.le_add_left _ _

/-- What holds of a task's effect: nobody is added, and the burden falls. -/
def Lightens (world : World) (weight : Nat) (effect : List Task × World) : Prop :=
  effect.2.breadth ≤ world.breadth ∧ effect.2.burden effect.1 < weight + world.load

theorem lightens_idle (world : World) {weight : Nat} (positive : 0 < weight) :
    world.Lightens weight ([], world) :=
  ⟨Nat.le_refl _, by simp only [burden, total_nil]; omega⟩

theorem lightens_record (world : World) {weight : Nat} {tasks : List Task} {event : Event}
    (lighter : total (Task.weight world.breadth) tasks < weight) :
    world.Lightens weight (tasks, world.record event) :=
  ⟨Nat.le_refl _, Nat.add_lt_add_right lighter _⟩

/-- Replacing one subscription lightens if the tasks that come with it weigh less
than what the subscription and the task lose. -/
theorem lightens_put {world : World} {index weight : Nat} {old new : Subscription}
    {tasks : List Task} {events : List Event}
    (found : world.subscriptions[index]? = some old)
    (lighter : total (Task.weight world.breadth) tasks + new.weight world.breadth <
      weight + old.weight world.breadth) :
    world.Lightens weight (tasks, { world.put index new with events }) := by
  have same : World.breadth { world.put index new with events } = world.breadth := by
    simp only [breadth, put, List.length_set]
  refine ⟨Nat.le_of_eq same, ?_⟩
  have moved := total_set (Subscription.weight world.breadth) new found
  simp only [burden, load, same]
  simp only [put]
  omega

theorem lightens_signal (world : World) (index : Nat) :
    world.Lightens 4 (world.signal index) := by
  unfold signal
  split
  · exact world.lightens_idle (Nat.succ_pos _)
  · rename_i subscription found
    split
    · exact world.lightens_record (Nat.succ_pos _)
    · split
      · refine lightens_put found ?_
        simp only [total_nil, Subscription.weight, if_true]
        omega
      · refine lightens_put found ?_
        simp only [total_cons, total_nil, Task.weight, Subscription.weight]
        omega

theorem lightens_cancel (world : World) (index : Nat) :
    world.Lightens 1 ([], world.cancel index) := by
  unfold cancel
  split
  · exact world.lightens_idle (Nat.succ_pos _)
  · rename_i subscription found
    have fewer := world.tracker.count_unsubscribe_le subscription.handle
    have narrower :
        (World.breadth ({ world.put index { subscription with cancelled := true } with
          tracker := world.tracker.unsubscribe subscription.handle }.record (.cancelled index))) ≤
          world.breadth := by
      simp only [breadth, record, put, List.length_set]
      omega
    refine ⟨narrower, ?_⟩
    have moved := total_set (Subscription.weight world.breadth)
      { subscription with cancelled := true } found
    have lighter := total_le_total (Subscription.weight_le narrower)
      (world.subscriptions.set index { subscription with cancelled := true })
    have same : Subscription.weight world.breadth { subscription with cancelled := true } =
        subscription.weight world.breadth := rfl
    simp only [burden, load, total_nil]
    simp only [record, put] at lighter ⊢
    omega

theorem lightens_act (world : World) (action : Action) :
    world.Lightens (action.weight world.breadth) (world.act action) := by
  cases action with
  | notify changed =>
      refine ⟨Nat.le_refl _, ?_⟩
      have told := world.targets_length_le changed
      simp only [act, burden, Task.total_deliver, Action.weight]
      omega
  | refresh id =>
      simp only [act]
      split
      · exact world.lightens_idle (Nat.succ_pos _)
      · exact world.lightens_signal _
  | unsubscribe id =>
      simp only [act]
      split
      · exact world.lightens_idle (Nat.succ_pos _)
      · exact world.lightens_cancel _

theorem lightens_step (world : World) (task : Task) :
    world.Lightens (task.weight world.breadth) (world.step task) := by
  cases task with
  | act action => exact world.lightens_act action
  | deliver index changed =>
      simp only [step, deliver]
      split
      · exact world.lightens_idle (Nat.succ_pos _)
      · split
        · exact world.lightens_signal index
        · exact world.lightens_idle (Nat.succ_pos _)
  | evaluate index =>
      simp only [step, evaluate]
      split
      · exact world.lightens_idle (Nat.succ_pos _)
      · rename_i subscription found
        refine lightens_put found ?_
        have kept := subscription.behaviour.weight_callExecutor world.breadth
        simp only [total_append, Task.total_act, Subscription.weight]
        simp only [total_cons, total_nil, Task.weight]
        omega
  | receive index reply =>
      simp only [step, receive]
      split
      · exact world.lightens_idle (Nat.succ_pos _)
      · rename_i subscription found
        split
        · exact world.lightens_record (Nat.lt_succ_self _)
        · refine lightens_put found ?_
          have kept := subscription.behaviour.weight_callSink world.breadth
          simp only [total_append, Task.total_act, Subscription.weight]
          simp only [total_cons, total_nil, Task.weight]
          omega
  | settle index =>
      simp only [step, settle]
      split
      · exact world.lightens_idle (Nat.succ_pos _)
      · rename_i subscription found
        split
        · rename_i waiting
          have pending : subscription.pending = true := (Bool.and_eq_true _ _ ▸ waiting).1
          refine lightens_put found ?_
          simp only [total_cons, total_nil, Task.weight, Subscription.weight, pending, if_true,
            Bool.false_eq_true, if_false]
          omega
        · refine lightens_put found ?_
          simp only [total_nil, Task.weight, Subscription.weight, Bool.false_eq_true, if_false]
          omega

theorem burden_step_lt (world : World) (task : Task) (rest : List Task) :
    (world.step task).2.burden ((world.step task).1 ++ rest) < world.burden (task :: rest) := by
  obtain ⟨narrower, lighter⟩ := world.lightens_step task
  have others := total_le_total (Task.weight_le narrower) rest
  simp only [burden, total_append] at lighter ⊢
  have total : total (Task.weight world.breadth) (task :: rest) =
      task.weight world.breadth + total (Task.weight world.breadth) rest := by
    simp only [total_cons]
  omega

def run (world : World) : List Task → World
  | [] => world
  | task :: rest => (world.step task).2.run ((world.step task).1 ++ rest)
termination_by tasks => world.burden tasks
decreasing_by exact world.burden_step_lt task rest

end World

end CheckedSql

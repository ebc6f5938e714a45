import CheckedSql.Proofs.Observation.Course
import CheckedSql.Proofs.Observation.Reached

namespace CheckedSql

open Text

/-! Every configuration traces the course of each subscription.

`Traced` ties what a configuration holds of one subscription (its flags, its events and
the tasks of its loop) to a phase of its course. An operation on one subscription leaves
what is held of all others as it was (`Traces.update`), so each needs only its own course.
-/

/-- What stands of a subscription and its evaluation loop in a phase. -/
def Phase.Holds (index : Nat) (subscription : Subscription) (loop : List Task) : Phase → Prop
  | .idle => subscription.running = false ∧ subscription.pending = false ∧ loop = []
  | .due =>
      subscription.running = true ∧ subscription.pending = false ∧ loop = [.evaluate index]
  | .calling heard =>
      subscription.running = true ∧ subscription.pending = heard ∧
        ∃ reply, loop = [.receive index reply]
  | .emitting heard =>
      subscription.running = true ∧ subscription.pending = heard ∧ loop = [.settle index]

namespace Phase

variable {index : Nat} {subscription : Subscription} {loop : List Task} {phase : Phase}

/-- The first task of a loop tells the phase, and is the only one. -/
theorem due_of_evaluate (holds : phase.Holds index subscription (.evaluate index :: loop)) :
    phase = .due ∧ loop = [] := by
  cases phase with
  | due => exact ⟨rfl, (List.cons.inj holds.2.2).2⟩
  | idle | emitting => cases holds.2.2
  | calling => obtain ⟨_, _, _, same⟩ := holds; cases same

theorem calling_of_receive {reply : Except String Outcome}
    (holds : phase.Holds index subscription (.receive index reply :: loop)) :
    (∃ heard, phase = .calling heard) ∧ loop = [] := by
  cases phase with
  | calling heard => obtain ⟨_, _, _, same⟩ := holds; cases same; exact ⟨⟨heard, rfl⟩, rfl⟩
  | idle | due | emitting => cases holds.2.2

theorem emitting_of_settle (holds : phase.Holds index subscription (.settle index :: loop)) :
    (∃ heard, phase = .emitting heard) ∧ loop = [] := by
  cases phase with
  | emitting heard => exact ⟨⟨heard, rfl⟩, (List.cons.inj holds.2.2).2⟩
  | idle | due => cases holds.2.2
  | calling => obtain ⟨_, _, _, same⟩ := holds; cases same

end Phase

def Traced (index : Nat) (history : List Event) (loop : List Task) : Option Subscription → Prop
  | none => history = [] ∧ loop = []
  | some subscription =>
      ∃ phase, Course index subscription.emission phase subscription.cancelled history ∧
        phase.Holds index subscription loop

def Traces (world : World) (tasks : List Task) : Prop :=
  ∀ index, Traced index (world.history index) (tasks.filter (Task.loops index))
    world.subscriptions[index]?

def Calm (tasks : List Task) : Prop :=
  ∀ task ∈ tasks, task.calls = false

section Views

variable {world : World} {index target : Nat} {old new : Subscription}

theorem filter_loops_act (actions : List Action) :
    (actions.map Task.act).filter (Task.loops index) = [] := by
  simp [List.filter_map, Function.comp_def, Task.loops]

theorem loops_evaluate (target : Nat) : (Task.evaluate target).loops target :=
  beq_self_eq_true target

theorem loops_receive (target : Nat) (reply : Except String Outcome) :
    (Task.receive target reply).loops target :=
  beq_self_eq_true target

theorem loops_settle (target : Nat) : (Task.settle target).loops target :=
  beq_self_eq_true target

theorem filter_loops_own {task : Task} (own : task.loops target) (rest : List Task) :
    (task :: rest).filter (Task.loops target) = task :: rest.filter (Task.loops target) :=
  List.filter_cons_of_pos own

/-- What an executor or a sink does by itself comes before the next task of the loop. -/
theorem filter_loops_next {task : Task} {rest : List Task} (own : task.loops target)
    (alone : rest.filter (Task.loops target) = []) (actions : List Action) :
    (actions.map Task.act ++ [task] ++ rest).filter (Task.loops target) = [task] := by
  rw [List.filter_append, List.filter_append, filter_loops_act, alone, filter_loops_own own]
  rfl

theorem filter_loops_deliver (order : List Nat) (changed : NameSet) :
    (order.map (Task.deliver · changed)).filter (Task.loops index) = [] := by
  simp [List.filter_map, Function.comp_def, Task.loops]

theorem World.put_self (found : world.subscriptions[target]? = some old) :
    (world.put target new).subscriptions[target]? = some new :=
  List.getElem?_set_self (List.getElem?_eq_some_iff.mp found).1

theorem World.put_other (other : index ≠ target) :
    (world.put target new).subscriptions[index]? = world.subscriptions[index]? :=
  List.getElem?_set_ne other.symm

end Views

namespace Traces

variable {world : World} {tasks rest : List Task} {target : Nat}

/-- An operation on one subscription needs a course of that one only. -/
theorem update {after : World} {remaining : List Task} {extra : List Event}
    {subscription : Subscription} (traces : Traces world tasks)
    (stored : after.subscriptions[target]? = some subscription)
    (others : ∀ index, index ≠ target → after.subscriptions[index]? = world.subscriptions[index]?)
    (added : after.events = world.events ++ extra)
    (own : ∀ event ∈ extra, event.index = target)
    (loops : ∀ index, index ≠ target →
      remaining.filter (Task.loops index) = tasks.filter (Task.loops index))
    (traced : Traced target (world.history target ++ extra)
      (remaining.filter (Task.loops target)) (some subscription)) :
    Traces after remaining := by
  intro index
  by_cases same : index = target
  · subst same
    have history : after.history index = world.history index ++ extra := by
      rw [World.history, added, List.filter_append]
      refine congrArg _ (List.filter_eq_self.mpr fun event member => ?_)
      simp [own event member]
    rw [stored, history]
    exact traced
  · have history : after.history index = world.history index := by
      rw [World.history, added, List.filter_append]
      have none : extra.filter (·.index == index) = [] := by
        refine List.filter_eq_nil_iff.mpr fun event member => ?_
        simp [own event member, Ne.symm same]
      rw [none, List.append_nil]
      rfl
    rw [others index same, history, loops index same]
    exact traces index

theorem phase {subscription : Subscription} (traces : Traces world tasks)
    (found : world.subscriptions[target]? = some subscription) :
    ∃ phase, Course target subscription.emission phase subscription.cancelled
        (world.history target) ∧
      phase.Holds target subscription (tasks.filter (Task.loops target)) := by
  have traced := traces target
  rw [found] at traced
  exact traced

theorem not_due {phase : Phase} {subscription : Subscription} (calm : Calm tasks)
    (holds : phase.Holds target subscription (tasks.filter (Task.loops target))) :
    phase ≠ .due := by
  rintro rfl
  have member : Task.evaluate target ∈ tasks.filter (Task.loops target) :=
    holds.2.2 ▸ List.mem_cons_self
  exact nomatch calm _ (List.mem_filter.mp member).1

theorem found_of_head {task : Task} (traces : Traces world (task :: rest))
    (own : task.loops target) : ∃ subscription, world.subscriptions[target]? = some subscription := by
  cases found : world.subscriptions[target]? with
  | some subscription => exact ⟨subscription, rfl⟩
  | none =>
      have traced := traces target
      rw [found, filter_loops_own own] at traced
      exact nomatch traced.2

theorem signal (traces : Traces world rest) (calm : Calm rest) (target : Nat) :
    Traces (world.signal target).2 ((world.signal target).1 ++ rest) := by
  cases found : world.subscriptions[target]? with
  | none =>
      simp only [World.signal, found]
      exact traces
  | some subscription =>
      obtain ⟨phase, course, holds⟩ := traces.phase found
      have undue := not_due calm holds
      have own : ∀ event ∈ [Event.signalled target], event.index = target :=
        List.forall_mem_singleton.mpr rfl
      cases cancelled : subscription.cancelled with
      | true =>
          simp only [World.signal, found, cancelled, if_true]
          rw [cancelled] at course
          have ignored : Course target subscription.emission phase subscription.cancelled
              (world.history target ++ [.signalled target]) := cancelled ▸ course.ignored
          exact traces.update found (fun _ _ => rfl) rfl own (fun _ _ => rfl)
            ⟨phase, ignored, holds⟩
      | false =>
          rw [cancelled] at course
          have signalled : Course target subscription.emission phase.signalled
              subscription.cancelled (world.history target ++ [.signalled target]) :=
            cancelled ▸ course.signalled undue
          cases running : subscription.running with
          | true =>
              simp only [World.signal, found, cancelled, running, if_true, Bool.false_eq_true,
                if_false]
              refine traces.update (World.put_self found) (fun _ => World.put_other) rfl own
                (fun _ _ => rfl) ⟨phase.signalled, cancelled ▸ signalled, ?_⟩
              cases phase with
              | idle => exact absurd holds.1 (by simp [running])
              | due => exact absurd rfl undue
              | calling | emitting => exact ⟨rfl, rfl, holds.2.2⟩
          | false =>
              have others : ∀ index, index ≠ target →
                  (Task.evaluate target :: rest).filter (Task.loops index) =
                    rest.filter (Task.loops index) := by
                intro index other
                simp [Task.loops, Ne.symm other]
              simp only [World.signal, found, cancelled, running, Bool.false_eq_true, if_false]
              refine traces.update (World.put_self found) (fun _ => World.put_other) rfl own others
                ⟨phase.signalled, cancelled ▸ signalled, ?_⟩
              cases phase with
              | idle =>
                  have loop := filter_loops_own (loops_evaluate target) rest
                  rw [holds.2.2] at loop
                  exact ⟨rfl, holds.2.1, loop⟩
              | due | calling | emitting => exact absurd holds.1 (by simp [running])

theorem cancel (traces : Traces world rest) (calm : Calm rest) (target : Nat) :
    Traces (world.cancel target) rest := by
  cases found : world.subscriptions[target]? with
  | none =>
      simp only [World.cancel, found]
      exact traces
  | some subscription =>
      obtain ⟨phase, course, holds⟩ := traces.phase found
      have cancelled := course.cancelled (not_due calm holds)
      have own : ∀ event ∈ [Event.cancelled target], event.index = target :=
        List.forall_mem_singleton.mpr rfl
      simp only [World.cancel, found]
      refine traces.update (World.put_self found) (fun _ => World.put_other) rfl own
        (fun _ _ => rfl) ⟨phase, cancelled, ?_⟩
      cases phase <;> exact holds

theorem evaluate (traces : Traces world (.evaluate target :: rest)) :
    Traces (world.evaluate target).2 ((world.evaluate target).1 ++ rest) := by
  obtain ⟨subscription, found⟩ := traces.found_of_head (loops_evaluate target)
  obtain ⟨phase, course, holds⟩ := traces.phase found
  rw [filter_loops_own (loops_evaluate target)] at holds
  obtain ⟨rfl, alone⟩ := Phase.due_of_evaluate holds
  simp only [World.evaluate, found]
  generalize subscription.behaviour.callExecutor = called
  have own : ∀ event ∈ [Event.called target], event.index = target :=
    List.forall_mem_singleton.mpr rfl
  have next := filter_loops_next (loops_receive target called.1.reply) alone called.1.actions
  refine traces.update (World.put_self found) (fun _ => World.put_other) rfl own ?_
    ⟨.calling false, course.called, holds.1, holds.2.1, called.1.reply, next⟩
  intro index other
  simp [filter_loops_act, Task.loops, Ne.symm other]

theorem receive {reply : Except String Outcome}
    (traces : Traces world (.receive target reply :: rest)) :
    Traces (world.receive target reply).2 ((world.receive target reply).1 ++ rest) := by
  obtain ⟨subscription, found⟩ := traces.found_of_head (loops_receive target reply)
  obtain ⟨phase, course, holds⟩ := traces.phase found
  rw [filter_loops_own (loops_receive target reply)] at holds
  obtain ⟨⟨heard, rfl⟩, alone⟩ := Phase.calling_of_receive holds
  have replied := course.replied reply
  have next := filter_loops_next (loops_settle target) alone
  simp only [World.receive, found]
  split
  · rename_i silent
    have nothing : delivered target subscription.emission subscription.cancelled reply = [] := by
      unfold delivered
      split at silent <;> simp_all
    have own : ∀ event ∈ [Event.replied target reply], event.index = target :=
      List.forall_mem_singleton.mpr rfl
    rw [nothing] at replied
    refine traces.update found (fun _ _ => rfl) rfl own ?_
      ⟨.emitting heard, replied, holds.1, holds.2.1, next []⟩
    intro index other
    simp [Task.loops, Ne.symm other]
  · rename_i result emitted
    have one : delivered target subscription.emission subscription.cancelled reply =
        [.emitted target result] := by
      unfold delivered
      split at emitted <;> simp_all
    have own : ∀ event ∈ [Event.replied target reply] ++ [Event.emitted target result],
        event.index = target := by
      simp [Event.index]
    rw [one] at replied
    refine traces.update (World.put_self found) (fun _ => World.put_other)
      (List.append_assoc _ _ _) own ?_ ⟨.emitting heard, replied, holds.1, holds.2.1, next _⟩
    intro index other
    simp [filter_loops_act, Task.loops, Ne.symm other]

theorem settle (traces : Traces world (.settle target :: rest)) :
    Traces (world.settle target).2 ((world.settle target).1 ++ rest) := by
  obtain ⟨subscription, found⟩ := traces.found_of_head (loops_settle target)
  obtain ⟨phase, course, holds⟩ := traces.phase found
  rw [filter_loops_own (loops_settle target)] at holds
  obtain ⟨⟨heard, rfl⟩, alone⟩ := Phase.emitting_of_settle holds
  have own : ∀ event ∈ [Event.settled target], event.index = target :=
    List.forall_mem_singleton.mpr rfl
  simp only [World.settle, found]
  split
  · rename_i waiting
    obtain ⟨pending, active⟩ := Bool.and_eq_true_iff.mp waiting
    have uncancelled : subscription.cancelled = false := by simpa using active
    have renewed : Course target subscription.emission .due subscription.cancelled
        (world.history target ++ [.settled target]) := by
      rw [holds.2.1.symm.trans pending, uncancelled] at course
      exact uncancelled ▸ course.renewed
    have next := filter_loops_next (loops_evaluate target) alone []
    refine traces.update (World.put_self found) (fun _ => World.put_other) rfl own ?_
      ⟨.due, renewed, holds.1, rfl, next⟩
    intro index other
    simp [Task.loops, Ne.symm other]
  · rename_i done
    have rested : heard = false ∨ subscription.cancelled = true := by
      rw [← holds.2.1]
      simpa [Classical.or_iff_not_imp_left] using done
    refine traces.update (World.put_self found) (fun _ => World.put_other) rfl own ?_
      ⟨.idle, course.rested rested, rfl, rfl, alone⟩
    intro index other
    simp [Task.loops, Ne.symm other]

theorem of_loops {after : World} {remaining : List Task} (traces : Traces world tasks)
    (subscriptions : after.subscriptions = world.subscriptions)
    (events : after.events = world.events)
    (loops : ∀ index, remaining.filter (Task.loops index) = tasks.filter (Task.loops index)) :
    Traces after remaining := by
  intro index
  rw [World.history, subscriptions, events, loops index]
  exact traces index

theorem act (traces : Traces world rest) (calm : Calm rest) (action : Action) :
    Traces (world.act action).2 ((world.act action).1 ++ rest) := by
  cases action with
  | notify changed =>
      refine traces.of_loops rfl rfl fun index => ?_
      simp only [World.act, List.filter_append, filter_loops_deliver, List.nil_append]
  | refresh id =>
      simp only [World.act]
      split
      · exact traces
      · exact traces.signal calm _
  | unsubscribe id =>
      simp only [World.act]
      split
      · exact traces
      · exact traces.cancel calm _

theorem deliver (traces : Traces world rest) (calm : Calm rest) (target : Nat)
    (changed : NameSet) :
    Traces (world.deliver target changed).2 ((world.deliver target changed).1 ++ rest) := by
  simp only [World.deliver]
  split
  · exact traces
  · split
    · exact traces.signal calm target
    · exact traces

theorem step {task : Task} (traces : Traces world (task :: rest)) (calm : Calm rest) :
    Traces (world.step task).2 ((world.step task).1 ++ rest) := by
  cases task with
  | act action =>
      have waiting : Traces world rest := traces.of_loops rfl rfl fun _ => rfl
      exact waiting.act calm action
  | deliver target changed =>
      have waiting : Traces world rest := traces.of_loops rfl rfl fun _ => rfl
      exact waiting.deliver calm target changed
  | evaluate target => exact traces.evaluate
  | receive target reply => exact traces.receive
  | settle target => exact traces.settle

theorem start (traces : Traces world tasks) (query : PreparedQuery) (statement : Statement)
    (behaviour : Behaviour) :
    Traces (world.start query statement behaviour).2
      ((world.start query statement behaviour).1 ++ tasks) := by
  have absent : world.subscriptions[world.subscriptions.length]? = none :=
    List.getElem?_eq_none (Nat.le_refl _)
  have traced := traces world.subscriptions.length
  rw [absent] at traced
  obtain ⟨silent, alone⟩ := traced
  have joined : (world.join query statement behaviour).subscriptions[world.subscriptions.length]? =
      some (.start query statement
        (world.tracker.subscribe query.analysis.tables world.subscriptions.length).1 behaviour) :=
    List.getElem?_concat_length
  have older : ∀ index, index ≠ world.subscriptions.length →
      (world.join query statement behaviour).subscriptions[index]? = world.subscriptions[index]? := by
    intro index other
    simp only [World.join, List.getElem?_append]
    split
    · rfl
    · rename_i beyond
      have further : 1 ≤ index - world.subscriptions.length := by omega
      rw [List.getElem?_eq_none further, List.getElem?_eq_none (Nat.le_of_not_lt beyond)]
  simp only [World.start, World.signal, joined, Subscription.start, Bool.false_eq_true, if_false]
  refine traces.update (World.put_self joined) ?_ rfl (by simp [Event.index]) ?_
    ⟨.due, ?_, rfl, rfl, ?_⟩
  · exact fun index other => (World.put_other other).trans (older index other)
  · intro index other
    simp [Task.loops, Ne.symm other]
  · rw [silent]
    exact .started
  · exact filter_loops_next (loops_evaluate _) alone []

theorem drop (traces : Traces world tasks) (calm : Calm tasks) (id : String) :
    Traces (world.drop id) tasks := by
  simp only [World.drop]
  split
  · exact traces
  · exact (traces.cancel calm _).of_loops rfl rfl fun _ => rfl

theorem hold (traces : Traces world tasks) (calm : Calm tasks) (id : String) (index : Nat) :
    Traces (world.hold id index) tasks :=
  (traces.drop calm id).of_loops rfl rfl fun _ => rfl

end Traces

section Ahead

variable {world : World} {tasks rest : List Task}

theorem calm_nil : Calm [] := nofun

theorem calm_of_free (ahead : Calm tasks.tail) (free : Free tasks) : Calm tasks := by
  cases tasks with
  | nil => exact calm_nil
  | cons task rest =>
      refine List.forall_mem_cons.mpr ⟨?_, ahead⟩
      cases task with
      | evaluate index => exact absurd rfl (free index)
      | _ => rfl

theorem calm_deliver (order : List Nat) (changed : NameSet) :
    Calm (order.map (Task.deliver · changed)) :=
  List.forall_mem_map.mpr fun _ _ => rfl

theorem calm_acts {task : Task} (calm : task.calls = false) (actions : List Action) :
    Calm (actions.map Task.act ++ [task]) :=
  List.forall_mem_append.mpr
    ⟨List.forall_mem_map.mpr fun _ _ => rfl, List.forall_mem_singleton.mpr calm⟩

theorem calm_tail (calm : Calm tasks) : Calm tasks.tail :=
  fun task member => calm task (List.mem_of_mem_tail member)

theorem calm_tail_signal (world : World) (index : Nat) : Calm (world.signal index).1.tail := by
  unfold World.signal
  repeat' split
  all_goals exact calm_nil

/-- Only the first of the tasks that a task asks for can call an executor. -/
theorem calm_tail_step (world : World) (task : Task) : Calm (world.step task).1.tail := by
  cases task with
  | act action =>
      cases action with
      | notify changed => exact calm_tail (calm_deliver _ changed)
      | refresh id =>
          simp only [World.step, World.act]
          split
          · exact calm_nil
          · exact calm_tail_signal world _
      | unsubscribe id =>
          simp only [World.step, World.act]
          split <;> exact calm_nil
  | deliver index changed =>
      simp only [World.step, World.deliver]
      repeat' split
      · exact calm_nil
      · exact calm_tail_signal world index
      · exact calm_nil
  | evaluate index =>
      simp only [World.step, World.evaluate]
      split
      · exact calm_nil
      · exact calm_tail (calm_acts rfl _)
  | receive index reply =>
      simp only [World.step, World.receive]
      repeat' split
      · exact calm_nil
      · exact calm_nil
      · exact calm_tail (calm_acts rfl _)
  | settle index =>
      simp only [World.step, World.settle]
      repeat' split
      all_goals exact calm_nil

theorem calm_tail_append {added : List Task} (ahead : Calm added.tail) (calm : Calm rest) :
    Calm (added ++ rest).tail := by
  cases added with
  | nil => exact calm_tail calm
  | cons task more => exact List.forall_mem_append.mpr ⟨ahead, calm⟩

end Ahead

namespace Reached

variable {delivery : Delivery} {world : World} {tasks : List Task}

theorem calm_and_traces (reached : Reached delivery world tasks) :
    Calm tasks.tail ∧ Traces world tasks := by
  induction reached with
  | empty => exact ⟨calm_nil, fun _ => ⟨rfl, rfl⟩⟩
  | step _ ih => exact ⟨calm_tail_append (calm_tail_step _ _) ih.1, ih.2.step ih.1⟩
  | told reached everyone ih =>
      refine ⟨calm_tail_append (calm_tail (calm_deliver _ _)) ih.1, ih.2.of_loops rfl rfl ?_⟩
      intro index
      rw [List.filter_append, filter_loops_deliver]
      rfl
  | acted reached free action ih =>
      exact ⟨calm_of_free ih.1 free, ih.2.of_loops rfl rfl fun _ => rfl⟩
  | started reached free query statement behaviour ih =>
      refine ⟨calm_tail_append (calm_tail_signal _ _) (calm_of_free ih.1 free), ?_⟩
      exact ih.2.start query statement behaviour
  | held reached free id index ih => exact ⟨ih.1, ih.2.hold (calm_of_free ih.1 free) id index⟩
  | dropped reached free id ih => exact ⟨ih.1, ih.2.drop (calm_of_free ih.1 free) id⟩

theorem course {index : Nat} {subscription : Subscription} (reached : Reached delivery world tasks)
    (found : world.subscriptions[index]? = some subscription) :
    ∃ phase, Course index subscription.emission phase subscription.cancelled
        (world.history index) ∧
      phase.Holds index subscription (tasks.filter (Task.loops index)) :=
  reached.calm_and_traces.2.phase found

end Reached

end CheckedSql

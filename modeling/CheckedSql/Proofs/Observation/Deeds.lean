import CheckedSql.Proofs.Observation.Origin
import CheckedSql.Proofs.Observation.Renewal
import CheckedSql.Proofs.Observation.Tracing

namespace CheckedSql

open Text

/-! Runs with a record of all that was done.

A deed is one task or one request from outside, with the world that it met. `Recorded`
passes through configurations as `Reached` does and keeps the deeds in their order, so
that a property of runs can speak of what came before or in between. The events of a
world are those of its deeds (`Recorded.events_eq`), and what one deed keeps a whole run
keeps (`Recorded.induct`).
-/

inductive Request where
  | observe (query : PreparedQuery) (arguments : Arguments) (behaviour : Behaviour)
  | hold (id : String) (index : Nat)
  | drop (id : String)

inductive Doing where
  | task (task : Task)
  | request (request : Request)

namespace World

/-- Observing, up to the first evaluation. -/
def launch (world : World) (query : PreparedQuery) (arguments : Arguments)
    (behaviour : Behaviour) : Except Fault (List Task × World) :=
  (query.bindObserved arguments).map fun statement => world.start query statement behaviour

def answer (world : World) : Request → List Task × World
  | .observe query arguments behaviour =>
      match world.launch query arguments behaviour with
      | .error _ => ([], world)
      | .ok launched => launched
  | .hold id index => ([], world.hold id index)
  | .drop id => ([], world.drop id)

variable {world : World} {query : PreparedQuery} {arguments : Arguments} {behaviour : Behaviour}

theorem observe_eq (world : World) (id : String) (query : PreparedQuery) (arguments : Arguments)
    (behaviour : Behaviour) :
    world.observe id query arguments behaviour =
      (world.launch query arguments behaviour).map fun launched =>
        (launched.2.run launched.1).hold id world.subscriptions.length := by
  unfold observe launch
  cases query.bindObserved arguments <;> rfl

theorem launch_eq_ok {launched : List Task × World}
    (begun : world.launch query arguments behaviour = .ok launched) :
    ∃ statement, launched = world.start query statement behaviour := by
  unfold launch at begun
  cases bound : query.bindObserved arguments with
  | error fault => simp [bound, Except.map] at begun
  | ok statement =>
      rw [bound] at begun
      cases begun
      exact ⟨statement, rfl⟩

theorem events_start (world : World) (query : PreparedQuery) (statement : Statement)
    (behaviour : Behaviour) :
    (world.start query statement behaviour).2.events =
      world.events ++ [.signalled world.subscriptions.length] := by
  have joined : (world.join query statement behaviour).subscriptions[world.subscriptions.length]? =
      some (.start query statement
        (world.tracker.subscribe query.analysis.tables world.subscriptions.length).1 behaviour) :=
    List.getElem?_concat_length
  exact events_signal joined

theorem added_drop (world : World) (id : String) :
    ∃ added, (world.drop id).events = world.events ++ added ∧
      ∀ event ∈ added, event.cancels = true := by
  have unchanged : ∃ added, world.events = world.events ++ added ∧
      ∀ event ∈ added, event.cancels = true := ⟨[], (List.append_nil _).symm, nofun⟩
  unfold drop
  split
  · exact unchanged
  · rename_i index held
    cases found : world.subscriptions[index]? with
    | none =>
        simp only [cancel, found]
        exact unchanged
    | some subscription =>
        exact ⟨_, events_cancel found, List.forall_mem_singleton.mpr rfl⟩

end World

structure Deed where
  world : World
  doing : Doing

namespace Deed

def result (deed : Deed) : List Task × World :=
  match deed.doing with
  | .task task => deed.world.step task
  | .request request => deed.world.answer request

/-- What a deed takes from the tasks that are waiting. -/
def taken (deed : Deed) : List Task :=
  match deed.doing with
  | .task task => [task]
  | .request _ => []

def tasks (deed : Deed) : List Task :=
  deed.result.1

def after (deed : Deed) : World :=
  deed.result.2

def events (deed : Deed) : List Event :=
  deed.after.events.drop deed.world.events.length

/-- The observation that a deed starts, by its index. -/
def started? (deed : Deed) : Option Nat :=
  match deed.doing with
  | .request (.observe query arguments behaviour) =>
      match deed.world.launch query arguments behaviour with
      | .error _ => none
      | .ok _ => some deed.world.subscriptions.length
  | _ => none

def Explains (deed : Deed) (event : Event) : Prop :=
  match deed.doing with
  | .task task => event.ArisesFrom deed.world task
  | .request (.observe _ _ _) =>
      ∃ index, deed.started? = some index ∧ event = .signalled index
  | .request (.hold _ _) | .request (.drop _) => event.cancels = true

theorem added (deed : Deed) :
    ∃ added, deed.after.events = deed.world.events ++ added ∧
      ∀ event ∈ added, deed.Explains event := by
  obtain ⟨world, task | request⟩ := deed
  · exact events_step world task
  · cases request with
    | observe query arguments behaviour =>
        simp only [after, result, World.answer, Explains, started?]
        cases begun : world.launch query arguments behaviour with
        | error fault => exact ⟨[], (List.append_nil _).symm, nofun⟩
        | ok launched =>
            obtain ⟨statement, rfl⟩ := World.launch_eq_ok begun
            refine ⟨_, world.events_start query statement behaviour, ?_⟩
            exact List.forall_mem_singleton.mpr ⟨_, rfl, rfl⟩
    | hold id index => exact world.added_drop id
    | drop id => exact world.added_drop id

theorem events_after (deed : Deed) : deed.after.events = deed.world.events ++ deed.events := by
  obtain ⟨added, same, _⟩ := deed.added
  rw [events, same, List.drop_left]

variable {deed : Deed} {index : Nat}

theorem explains_of_mem {event : Event} (member : event ∈ deed.events) : deed.Explains event := by
  obtain ⟨added, same, explains⟩ := deed.added
  rw [events, same, List.drop_left] at member
  exact explains event member

theorem doing_of_called (called : .called index ∈ deed.events) :
    deed.doing = .task (.evaluate index) := by
  have explains := explains_of_mem called
  obtain ⟨world, task | request⟩ := deed
  · exact congrArg Doing.task explains
  · cases request with
    | observe => obtain ⟨_, _, same⟩ := explains; cases same
    | hold | drop => cases explains

/-- A call is all that there is to its deed. -/
theorem events_of_called (called : .called index ∈ deed.events) :
    deed.events = [.called index] := by
  have doing := doing_of_called called
  have same := deed.events_after
  obtain ⟨world, _⟩ := deed
  cases (show _ = Doing.task (.evaluate index) from doing)
  cases found : world.subscriptions[index]? with
  | none =>
      simp only [after, result, World.step, World.evaluate, found] at same
      rw [List.self_eq_append_right.mp same] at called
      cases called
  | some subscription =>
      simp only [after, result, World.step, World.evaluate, found, World.record, World.put] at same
      exact (List.append_cancel_left same).symm

/-- A signal comes of a task that signals, or of an observation as it starts. -/
theorem cause_of_signalled (signalled : .signalled index ∈ deed.events) :
    (∃ task, deed.doing = .task task ∧ Signals deed.world index task) ∨
      deed.started? = some index := by
  have explains := explains_of_mem signalled
  obtain ⟨world, task | request⟩ := deed
  · exact .inl ⟨task, rfl, explains⟩
  · cases request with
    | observe => obtain ⟨_, started, same⟩ := explains; cases same; exact .inr started
    | hold | drop => cases explains

theorem target_of_deliver {changed : NameSet} (told : .deliver index changed ∈ deed.tasks) :
    deed.doing = .task (.act (.notify changed)) ∧ index ∈ deed.world.targets changed := by
  have unsignalled (world : World) (target : Nat) :
      Task.deliver index changed ∉ (world.signal target).1 := by
    unfold World.signal
    repeat' split
    all_goals simp
  obtain ⟨world, task | request⟩ := deed
  · cases task with
    | act action =>
        cases action with
        | notify =>
            obtain ⟨target, member, same⟩ := List.mem_map.mp told
            cases same
            exact ⟨rfl, member⟩
        | refresh id =>
            simp only [tasks, result, World.step, World.act] at told
            split at told
            · cases told
            · exact absurd told (unsignalled world _)
        | unsubscribe id =>
            simp only [tasks, result, World.step, World.act] at told
            split at told <;> cases told
    | deliver target other =>
        simp only [tasks, result, World.step, World.deliver] at told
        repeat' split at told
        · cases told
        · exact absurd told (unsignalled world target)
        · cases told
    | evaluate | receive | settle =>
        simp only [tasks, result, World.step, World.evaluate, World.receive, World.settle] at told
        repeat' split at told
        all_goals simp at told
  · cases request with
    | observe query arguments behaviour =>
        simp only [tasks, result, World.answer] at told
        split at told
        · cases told
        · rename_i launched begun
          obtain ⟨statement, rfl⟩ := World.launch_eq_ok begun
          exact absurd told (unsignalled _ _)
    | hold | drop => cases told

theorem eq_length_of_started (started : deed.started? = some index) :
    index = deed.world.subscriptions.length := by
  unfold started? at started
  repeat' split at started
  all_goals cases started
  rfl

end Deed

/-- A change was notified with a subscription among its targets. -/
def Notified (deeds : List Deed) (index : Nat) (changed : NameSet) : Prop :=
  ∃ notice ∈ deeds, notice.doing = .task (.act (.notify changed)) ∧
    index ∈ notice.world.targets changed

namespace Notified

variable {deeds : List Deed} {index : Nat} {changed : NameSet}

theorem of_deliver (deed : Deed) (told : .deliver index changed ∈ deed.tasks) :
    Notified (deeds ++ [deed]) index changed :=
  ⟨deed, List.mem_append_right _ List.mem_cons_self, Deed.target_of_deliver told⟩

theorem later (notified : Notified deeds index changed) (deed : Deed) :
    Notified (deeds ++ [deed]) index changed :=
  have ⟨notice, member, told⟩ := notified
  ⟨notice, List.mem_append_left _ member, told⟩

end Notified

inductive Recorded (delivery : Delivery) : List Deed → World → List Task → Prop
  | empty : Recorded delivery [] (.empty delivery) []
  | step {deeds : List Deed} {world : World} {task : Task} {rest : List Task}
      (recorded : Recorded delivery deeds world (task :: rest)) :
      Recorded delivery (deeds ++ [⟨world, .task task⟩]) (world.step task).2
        ((world.step task).1 ++ rest)
  /-- A change may be told in any order. -/
  | told {deeds : List Deed} {world : World} {changed : NameSet} {rest : List Task}
      {order : List Nat} (recorded : Recorded delivery deeds world (.act (.notify changed) :: rest))
      (everyone : order.Perm (world.targets changed)) :
      Recorded delivery (deeds ++ [⟨world, .task (.act (.notify changed))⟩]) world
        (order.map (Task.deliver · changed) ++ rest)
  | acted {deeds : List Deed} {world : World} {tasks : List Task}
      (recorded : Recorded delivery deeds world tasks) (free : Free tasks) (action : Action) :
      Recorded delivery deeds world (.act action :: tasks)
  | asked {deeds : List Deed} {world : World} {tasks : List Task}
      (recorded : Recorded delivery deeds world tasks) (free : Free tasks) (request : Request) :
      Recorded delivery (deeds ++ [⟨world, .request request⟩]) (world.answer request).2
        ((world.answer request).1 ++ tasks)

/-- The deeds of `World.advance`. -/
def World.deeds (world : World) (tasks : List Task) : Nat → List Deed
  | 0 => []
  | count + 1 =>
      match tasks with
      | [] => []
      | task :: rest =>
          ⟨world, .task task⟩ :: (world.step task).2.deeds ((world.step task).1 ++ rest) count

namespace Recorded

variable {delivery : Delivery} {deeds before after : List Deed} {deed : Deed} {world : World}
  {tasks : List Task}

theorem reached (recorded : Recorded delivery deeds world tasks) :
    Reached delivery world tasks := by
  induction recorded with
  | empty => exact .empty
  | step _ ih => exact ih.step
  | told _ everyone ih => exact ih.told everyone
  | acted _ free action ih => exact ih.acted free action
  | @asked _ world _ _ free request ih =>
      cases request with
      | observe query arguments behaviour =>
          simp only [World.answer]
          split
          · exact ih
          · rename_i launched begun
            obtain ⟨statement, rfl⟩ := World.launch_eq_ok begun
            exact ih.started free query statement behaviour
      | hold id index => exact ih.held free id index
      | drop id => exact ih.dropped free id

/-- What each deed keeps, a run keeps. -/
theorem induct (property : List Deed → World → Prop) (empty : property [] (.empty delivery))
    (next : ∀ deeds deed, property deeds deed.world → property (deeds ++ [deed]) deed.after)
    (recorded : Recorded delivery deeds world tasks) : property deeds world := by
  induction recorded with
  | empty => exact empty
  | @step _ world task _ _ ih => exact next _ ⟨world, .task task⟩ ih
  | @told _ world changed _ _ _ _ ih => exact next _ ⟨world, .task (.act (.notify changed))⟩ ih
  | acted _ _ _ ih => exact ih
  | @asked _ world _ _ _ request ih => exact next _ ⟨world, .request request⟩ ih

theorem events_eq (recorded : Recorded delivery deeds world tasks) :
    world.events = deeds.flatMap Deed.events := by
  refine induct (fun deeds world => world.events = deeds.flatMap Deed.events) rfl ?_ recorded
  intro deeds deed same
  rw [deed.events_after, same, List.flatMap_append, List.flatMap_singleton]

/-- Every deed was done in a configuration that a record of the deeds before it leads to. -/
theorem earlier (recorded : Recorded delivery deeds world tasks)
    (split : deeds = before ++ deed :: after) :
    ∃ rest, Recorded delivery before deed.world (deed.taken ++ rest) := by
  induction recorded generalizing after with
  | empty => cases before <;> cases split
  | acted _ _ _ ih => exact ih split
  | @step _ _ _ waiting recorded ih | @told _ _ _ waiting _ recorded _ ih
  | @asked _ _ waiting recorded _ _ ih =>
      rcases append_singleton_eq_append_cons split with ⟨_, rfl, rfl⟩ | ⟨rest, rfl, same⟩
      · exact ⟨waiting, recorded⟩
      · exact ih same

/-- Who is about to be told of a change was a target when it was notified. -/
theorem notified {index : Nat} {changed : NameSet}
    (recorded : Recorded delivery deeds world tasks) (waiting : .deliver index changed ∈ tasks) :
    Notified deeds index changed := by
  induction recorded with
  | empty => cases waiting
  | @step _ world task _ _ ih =>
      rcases List.mem_append.mp waiting with told | waiting
      · exact Notified.of_deliver ⟨world, .task task⟩ told
      · exact (ih (List.mem_cons_of_mem _ waiting)).later _
  | @told deeds world changed _ _ _ everyone ih =>
      rcases List.mem_append.mp waiting with told | waiting
      · obtain ⟨target, member, same⟩ := List.mem_map.mp told
        cases same
        exact ⟨_, List.mem_append_right deeds List.mem_cons_self, rfl, everyone.mem_iff.mp member⟩
      · exact (ih (List.mem_cons_of_mem _ waiting)).later _
  | acted _ _ _ ih =>
      rcases List.mem_cons.mp waiting with same | waiting
      · cases same
      · exact ih waiting
  | @asked _ world _ _ _ request ih =>
      rcases List.mem_append.mp waiting with told | waiting
      · exact Notified.of_deliver ⟨world, .request request⟩ told
      · exact (ih waiting).later _

theorem advance (recorded : Recorded delivery deeds world tasks) (count : Nat) :
    Recorded delivery (deeds ++ world.deeds tasks count) (world.advance tasks count).1
      (world.advance tasks count).2 := by
  induction count generalizing deeds world tasks with
  | zero =>
      rw [World.deeds, List.append_nil]
      exact recorded
  | succ count ih =>
      cases tasks with
      | nil =>
          rw [World.deeds, List.append_nil]
          exact recorded
      | cons task rest =>
          have later := ih recorded.step
          rw [List.append_assoc] at later
          exact later

theorem run (recorded : Recorded delivery deeds world tasks) :
    ∃ more, Recorded delivery (deeds ++ more) (world.run tasks) [] := by
  fun_induction World.run world tasks generalizing deeds with
  | case1 => exact ⟨[], by simpa using recorded⟩
  | case2 world task rest ih =>
      obtain ⟨more, later⟩ := ih recorded.step
      exact ⟨_, List.append_assoc deeds _ more ▸ later⟩

/-- Whatever is observed from outside, a record goes on. -/
theorem observe {after : World} {id : String} {query : PreparedQuery} {arguments : Arguments}
    {behaviour : Behaviour} (recorded : Recorded delivery deeds world [])
    (observed : world.observe id query arguments behaviour = .ok after) :
    ∃ more, Recorded delivery (deeds ++ more) after [] := by
  rw [World.observe_eq] at observed
  cases begun : world.launch query arguments behaviour with
  | error fault => simp [begun, Except.map] at observed
  | ok launched =>
      simp only [begun, Except.map, Except.ok.injEq] at observed
      subst observed
      have started := recorded.asked Reached.free_nil (.observe query arguments behaviour)
      simp only [World.answer, begun, List.append_nil] at started
      obtain ⟨more, done⟩ := started.run
      have held := done.asked Reached.free_nil (.hold id world.subscriptions.length)
      rw [List.append_assoc, List.append_assoc] at held
      exact ⟨_, held⟩

theorem perform (recorded : Recorded delivery deeds world []) (action : Action) :
    ∃ more, Recorded delivery (deeds ++ more) (world.perform action) [] := by
  have done := (recorded.acted Reached.free_nil action).step
  rw [List.append_nil] at done
  obtain ⟨more, later⟩ := done.run
  exact ⟨_, List.append_assoc deeds _ more ▸ later⟩

end Recorded

end CheckedSql

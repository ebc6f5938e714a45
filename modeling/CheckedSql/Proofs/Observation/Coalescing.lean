import CheckedSql.Proofs.Observation.Origin
import CheckedSql.Proofs.Observation.Renewal
import CheckedSql.Proofs.Observation.Tracing

namespace CheckedSql

/-! Signals are never lost, and those of one evaluation are answered by one more.

`Coalesced` says so of a subscription in a configuration; `signals_coalesce` that it
holds in every configuration that is reached.
-/

structure Coalesced (world : World) (tasks : List Task) (index : Nat)
    (subscription : Subscription) : Prop where
  /-- A task that signals the subscription is noted as a signal, and no other is. -/
  signalled : ∀ task, ∃ added, (world.step task).2.history index = world.history index ++ added ∧
    (Signals world index task → added = [.signalled index]) ∧
    (¬ Signals world index task → added.any Event.signals = false)
  cancelled : subscription.cancelled = (world.history index).any Event.cancels
  /-- Outside its loop a subscription is at rest, and called after all its signals. -/
  rests : Outside index tasks →
    subscription.running = false ∧ subscription.pending = false ∧
      (subscription.cancelled = false →
        ∃ before after, world.history index = before ++ .called index :: after ∧
          after.any Event.signals = false)
  /-- An evaluation that heard a signal is followed by another at once, unless the
  subscription is cancelled by then; no other is. -/
  follows : ∀ before window after,
    world.history index = before ++ .called index :: (window ++ .settled index :: after) →
    window.any Event.calls = false →
    ((after.head? = some (.called index) ∨
        after = [] ∧ tasks.head? = some (.evaluate index)) ↔
      window.any Event.signals = true ∧
        (before ++ .called index :: window).any Event.cancels = false)
  /-- The calls are those of the signals that found the subscription at rest and of the
  evaluations that heard a signal, as long as it was not cancelled. -/
  calls : tasks.head? ≠ some (.evaluate index) →
    (world.history index).countP Event.calls =
      Event.occasions Event.opens [] (world.history index) +
        Event.occasions Event.renews [] (world.history index)

theorem history_unsignalled {world : World} {task : Task} {index : Nat}
    (unsignalled : ¬ Signals world index task) :
    ∃ added, (world.step task).2.history index = world.history index ++ added ∧
      added.any Event.signals = false := by
  obtain ⟨added, same, arise⟩ := history_step world task index
  refine ⟨added, same, List.any_eq_false.mpr fun event member signals => ?_⟩
  obtain ⟨rfl, arises⟩ := arise event member
  cases event with
  | signalled => exact unsignalled arises
  | _ => cases signals

/-- The next task calls the executor of a subscription exactly when that is due. -/
theorem due_iff {index : Nat} {subscription : Subscription} {tasks : List Task} {phase : Phase}
    (ahead : Calm tasks.tail)
    (holds : phase.Holds index subscription (tasks.filter (Task.loops index))) :
    phase = .due ↔ tasks.head? = some (.evaluate index) := by
  cases tasks with
  | nil =>
      refine iff_of_false ?_ nofun
      rintro rfl
      exact nomatch holds.2.2
  | cons task rest =>
      constructor
      · rintro rfl
        have member : Task.evaluate index ∈ (task :: rest).filter (Task.loops index) :=
          holds.2.2 ▸ List.mem_cons_self
        rcases List.mem_cons.mp (List.mem_filter.mp member).1 with rfl | later
        · rfl
        · exact nomatch ahead _ later
      · intro head
        cases head
        rw [filter_loops_own (loops_evaluate index)] at holds
        exact (Phase.due_of_evaluate holds).1

theorem signals_coalesce {delivery : Delivery} {world : World} {tasks : List Task} {index : Nat}
    {subscription : Subscription} (reached : Reached delivery world tasks)
    (found : world.subscriptions[index]? = some subscription) :
    Coalesced world tasks index subscription := by
  obtain ⟨phase, course, holds⟩ := reached.course found
  have due := due_iff reached.calm_and_traces.1 holds
  refine ⟨fun task => ?_, course.any_cancels.symm, fun outside => ?_,
    fun before window after split uncalled => ?_, fun undue => ?_⟩
  · by_cases signals : Signals world index task
    · exact ⟨_, history_signals found signals, fun _ => rfl, absurd signals⟩
    · obtain ⟨added, same, silent⟩ := history_unsignalled signals
      exact ⟨added, same, fun signalled => absurd signalled signals, fun _ => silent⟩
  · rw [outside] at holds
    cases phase with
    | idle =>
        exact ⟨holds.1, holds.2.1, fun uncancelled => course.answered uncancelled nofun nofun⟩
    | due | emitting => cases holds.2.2
    | calling => obtain ⟨_, _, _, same⟩ := holds; cases same
  · have followed := course.followed_iff (split.trans (List.append_assoc before (_ :: window) _).symm)
    rw [Event.hearing_of_called uncalled] at followed
    rw [← due]
    exact followed
  · have total := course.calls_total
    have none : phase.waiting = 0 := by
      cases phase with
      | due => exact absurd (due.mp rfl) undue
      | _ => rfl
    omega

/-- Two changes during the first evaluation and one during its emission: four signals, the
first one included, and two calls. -/
theorem signals_coalesce_notified :
    let query : PreparedQuery :=
      { definition := ⟨"watch", "SELECT id FROM notes", [], .reactive .rows⟩,
        template := .ofText "SELECT id FROM notes", parameters := [], kind := .read,
        analysis := ⟨.ofList ["notes"], some ["id"]⟩, reader := some ⟨.rows, none⟩, limit := 999 }
    let statement : Statement := ⟨query.definition.text, [], .read, query.reader⟩
    let change : Action := .notify (.ofList ["NOTES"])
    let behaviour := Behaviour.ofScripts [⟨[change, change], .ok (.rows .empty)⟩] [[change]]
    let started := (World.empty .matching).start query statement behaviour
    let stopped := started.2.advance started.1 12
    ∃ subscription, stopped.1.subscriptions[0]? = some subscription ∧
      Reached .matching stopped.1 stopped.2 ∧ Coalesced stopped.1 stopped.2 0 subscription ∧
      stopped.2 = [] ∧ subscription.isActive = true ∧
      (stopped.1.history 0).countP Event.signals = 4 ∧
      (stopped.1.history 0).countP Event.calls = 2 := by
  intro query statement change behaviour started stopped
  have present : stopped.1.subscriptions[0]?.map Subscription.isActive = some true := by
    decide +kernel
  obtain ⟨subscription, found, active⟩ := Option.map_eq_some_iff.mp present
  have start : Reached .matching started.2 (started.1 ++ []) :=
    Reached.empty.started Reached.free_nil query statement behaviour
  rw [List.append_nil] at start
  have reached : Reached .matching stopped.1 stopped.2 := start.advance 12
  exact ⟨subscription, found, reached, signals_coalesce reached found,
    List.isEmpty_iff.mp (by decide +kernel), active, by decide +kernel, by decide +kernel⟩

end CheckedSql

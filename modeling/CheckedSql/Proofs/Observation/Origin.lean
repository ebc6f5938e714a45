import CheckedSql.Proofs.Observation.Reached

namespace CheckedSql

open Text

/-- A subscription is signalled by a refresh under its identifier and by a change of a table
that its query reads. -/
def Signals (world : World) (index : Nat) : Task → Prop
  | .act (.refresh id) => world.holder? id = some index
  | .deliver target changed =>
      target = index ∧ ∃ subscription, world.subscriptions[index]? = some subscription ∧
        ∃ table ∈ subscription.tables, ∃ other ∈ changed, SameName other table
  | _ => False

def Cancels (world : World) (index : Nat) : Task → Prop
  | .act (.unsubscribe id) => world.holder? id = some index
  | _ => False

namespace Event

def ArisesFrom (world : World) (task : Task) : Event → Prop
  | .signalled index => Signals world index task
  | .called index => task = .evaluate index
  | .replied index reply => task = .receive index reply
  | .emitted index _ => ∃ reply, task = .receive index reply
  | .settled index => task = .settle index
  | .cancelled index => Cancels world index task

end Event

section Origin

variable {world after : World} {index : Nat} {subscription : Subscription} {added : List Event}

theorem history_added (same : after.events = world.events ++ added) :
    after.history index = world.history index ++ added.filter (·.index == index) := by
  rw [World.history, same, List.filter_append]
  rfl

theorem events_signal (found : world.subscriptions[index]? = some subscription) :
    (world.signal index).2.events = world.events ++ [.signalled index] := by
  simp only [World.signal, found]
  repeat' split
  all_goals rfl

theorem events_cancel (found : world.subscriptions[index]? = some subscription) :
    (world.cancel index).events = world.events ++ [.cancelled index] := by
  simp only [World.cancel, found]
  rfl

theorem added_signal (world : World) (index : Nat) :
    ∃ added, (world.signal index).2.events = world.events ++ added ∧
      ∀ event ∈ added, event = .signalled index := by
  cases found : world.subscriptions[index]? with
  | none => exact ⟨[], by simp [World.signal, found], nofun⟩
  | some subscription => exact ⟨_, events_signal found, fun _ => List.mem_singleton.mp⟩

theorem events_step (world : World) (task : Task) :
    ∃ added, (world.step task).2.events = world.events ++ added ∧
      ∀ event ∈ added, event.ArisesFrom world task := by
  have unchanged : ∃ added, world.events = world.events ++ added ∧
      ∀ event ∈ added, event.ArisesFrom world task := ⟨[], (List.append_nil _).symm, nofun⟩
  cases task with
  | act action =>
      cases action with
      | notify changed => exact unchanged
      | refresh id =>
          simp only [World.step, World.act]
          split
          · exact unchanged
          · rename_i target held
            obtain ⟨added, same, signals⟩ := added_signal world target
            exact ⟨added, same, fun event member => signals event member ▸ held⟩
      | unsubscribe id =>
          simp only [World.step, World.act]
          split
          · exact unchanged
          · rename_i target held
            cases found : world.subscriptions[target]? with
            | none =>
                simp only [World.cancel, found]
                exact unchanged
            | some subscription =>
                exact ⟨_, events_cancel found, List.forall_mem_singleton.mpr held⟩
  | deliver target changed =>
      simp only [World.step, World.deliver]
      split
      · exact unchanged
      · rename_i subscription found
        split
        · rename_i shared
          obtain ⟨added, same, signals⟩ := added_signal world target
          refine ⟨added, same, fun event member => signals event member ▸ ?_⟩
          exact ⟨rfl, subscription, found, sharesTable_iff.mp shared⟩
        · exact unchanged
  | evaluate target =>
      simp only [World.step, World.evaluate]
      split
      · exact unchanged
      · exact ⟨_, rfl, List.forall_mem_singleton.mpr rfl⟩
  | receive target reply =>
      simp only [World.step, World.receive]
      split
      · exact unchanged
      · split
        · exact ⟨_, rfl, List.forall_mem_singleton.mpr rfl⟩
        · refine ⟨_, List.append_assoc _ _ _, ?_⟩
          exact List.forall_mem_cons.mpr ⟨rfl, List.forall_mem_singleton.mpr ⟨reply, rfl⟩⟩
  | settle target =>
      simp only [World.step, World.settle]
      split
      · exact unchanged
      · split
        · exact ⟨_, rfl, List.forall_mem_singleton.mpr rfl⟩
        · exact ⟨_, rfl, List.forall_mem_singleton.mpr rfl⟩

theorem history_step (world : World) (task : Task) (index : Nat) :
    ∃ added, (world.step task).2.history index = world.history index ++ added ∧
      ∀ event ∈ added, event.index = index ∧ event.ArisesFrom world task := by
  obtain ⟨added, same, arise⟩ := events_step world task
  refine ⟨_, history_added same, fun event member => ?_⟩
  obtain ⟨member, own⟩ := List.mem_filter.mp member
  exact ⟨by simpa using own, arise event member⟩

theorem history_signals {task : Task} (found : world.subscriptions[index]? = some subscription)
    (signals : Signals world index task) :
    (world.step task).2.history index = world.history index ++ [.signalled index] := by
  have signalled : (world.signal index).2.history index =
      world.history index ++ [.signalled index] := by
    rw [history_added (events_signal found)]
    simp [Event.index]
  cases task with
  | act action =>
      cases action with
      | refresh id =>
          have held : world.holder? id = some index := signals
          simp only [World.step, World.act, held]
          exact signalled
      | notify | unsubscribe => exact signals.elim
  | deliver target changed =>
      obtain ⟨rfl, other, same, shared⟩ := signals
      simp only [World.step, World.deliver, same, sharesTable_iff.mpr shared, if_true]
      exact signalled
  | evaluate | receive | settle => exact signals.elim

theorem history_cancel (found : world.subscriptions[index]? = some subscription) :
    (world.cancel index).history index = world.history index ++ [.cancelled index] := by
  rw [history_added (events_cancel found)]
  simp [Event.index]

end Origin

end CheckedSql

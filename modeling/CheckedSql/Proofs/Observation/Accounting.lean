import CheckedSql.Proofs.Observation.Deeds

namespace CheckedSql

open Text

/-! Calls of executors and registrations, accounted for by the deeds of a run.

`subscriptions_accounted` says that each call but the first of a subscription answers a
refresh or a change of a table that its query reads, that a refused observation does
nothing, and that the tracker holds as many registrations as subscriptions were started
and not ended.
-/

/-- What no task changes of a subscription. -/
def World.standings (world : World) : List (PreparedQuery × Nat) :=
  world.subscriptions.map fun subscription => (subscription.query, subscription.handle)

/-- Two worlds with the same registrations of the same subscriptions. -/
structure World.Keeps (world after : World) : Prop where
  tracker : after.tracker = world.tracker
  standings : after.standings = world.standings

/-- The subscription that a deed unsubscribes or drops. It is dropped also when its
identifier is given to another. -/
def Deed.ended? (deed : Deed) : Option Nat :=
  let held := match deed.doing with
    | .task (.act (.unsubscribe id)) | .request (.hold id _) | .request (.drop id) =>
        deed.world.holder? id
    | _ => none
  held.filter (· < deed.world.subscriptions.length)

namespace World

variable {world : World} {index : Nat} {old new : Subscription} {events : List Event}

theorem standings_put (found : world.subscriptions[index]? = some old)
    (query : new.query = old.query) (handle : new.handle = old.handle) :
    (world.put index new).standings = world.standings := by
  refine List.ext_getElem? fun position => ?_
  simp only [standings, put, List.getElem?_map, List.getElem?_set]
  split
  · rename_i same
    subst same
    obtain ⟨within, _⟩ := List.getElem?_eq_some_iff.mp found
    rw [if_pos within, found, Option.map_some, Option.map_some, query, handle]
  · rfl

theorem keeps_put (found : world.subscriptions[index]? = some old)
    (query : new.query = old.query) (handle : new.handle = old.handle) :
    world.Keeps { world.put index new with events } :=
  ⟨rfl, standings_put found query handle⟩

theorem keeps_signal (world : World) (index : Nat) : world.Keeps (world.signal index).2 := by
  unfold signal
  split
  · exact ⟨rfl, rfl⟩
  · rename_i subscription found
    repeat' split
    · exact ⟨rfl, rfl⟩
    · exact keeps_put found rfl rfl
    · exact keeps_put found rfl rfl

end World

/-- What becomes of the registrations by a deed. -/
inductive Deed.Registers (deed : Deed) : Prop
  | keeps (unstarted : deed.started? = none) (unended : deed.ended? = none)
      (kept : deed.world.Keeps deed.after)
  | ends {index : Nat} {subscription : Subscription}
      (found : deed.world.subscriptions[index]? = some subscription)
      (unstarted : deed.started? = none) (ended : deed.ended? = some index)
      (tracker : deed.after.tracker = deed.world.tracker.unsubscribe subscription.handle)
      (standings : deed.after.standings = deed.world.standings)
  | starts (query : PreparedQuery)
      (started : deed.started? = some deed.world.subscriptions.length)
      (unended : deed.ended? = none)
      (tracker : deed.after.tracker = (deed.world.tracker.subscribe query.analysis.tables
        deed.world.subscriptions.length).2)
      (standings : deed.after.standings =
        deed.world.standings ++ [(query, deed.world.tracker.next)])

namespace Deed

variable {deed : Deed}

/-- A deed that does to the registrations what dropping an identifier does. -/
theorem registers_of_drop (id : String) (unstarted : deed.started? = none)
    (ended : deed.ended? = (deed.world.holder? id).filter (· < deed.world.subscriptions.length))
    (dropped : (deed.world.drop id).Keeps deed.after) : deed.Registers := by
  obtain ⟨tracker, standings⟩ := dropped
  cases held : deed.world.holder? id with
  | none =>
      simp only [World.drop, held] at tracker standings
      exact .keeps unstarted (by rw [ended, held, Option.filter_none]) ⟨tracker, standings⟩
  | some index =>
      cases found : deed.world.subscriptions[index]? with
      | none =>
          have beyond := List.getElem?_eq_none_iff.mp found
          simp only [World.drop, held, World.cancel, found] at tracker standings
          exact .keeps unstarted (by simp [ended, held, beyond]) ⟨tracker, standings⟩
      | some subscription =>
          obtain ⟨within, _⟩ := List.getElem?_eq_some_iff.mp found
          have marked : (deed.world.put index { subscription with cancelled := true }).standings =
              deed.world.standings := World.standings_put found rfl rfl
          simp only [World.drop, held, World.cancel, found] at tracker standings
          exact .ends found unstarted (by simp [ended, held, within]) tracker
            (standings.trans marked)

theorem registers (deed : Deed) : deed.Registers := by
  obtain ⟨world, task | request⟩ := deed
  · cases task with
    | act action =>
        cases action with
        | notify => exact .keeps rfl rfl ⟨rfl, rfl⟩
        | refresh id =>
            refine .keeps rfl rfl ?_
            simp only [after, result, World.step, World.act]
            split
            · exact ⟨rfl, rfl⟩
            · exact world.keeps_signal _
        | unsubscribe id =>
            refine registers_of_drop id rfl rfl ?_
            simp only [after, result, World.step, World.act, World.drop]
            cases world.holder? id <;> exact ⟨rfl, rfl⟩
    | deliver index changed =>
        refine .keeps rfl rfl ?_
        simp only [after, result, World.step, World.deliver]
        repeat' split
        · exact ⟨rfl, rfl⟩
        · exact world.keeps_signal index
        · exact ⟨rfl, rfl⟩
    | evaluate index =>
        refine .keeps rfl rfl ?_
        simp only [after, result, World.step, World.evaluate]
        split
        · exact ⟨rfl, rfl⟩
        · rename_i subscription found
          exact World.keeps_put found rfl rfl
    | receive index reply =>
        refine .keeps rfl rfl ?_
        simp only [after, result, World.step, World.receive]
        repeat' split
        · exact ⟨rfl, rfl⟩
        · exact ⟨rfl, rfl⟩
        · rename_i subscription found _ _ _
          exact World.keeps_put found rfl rfl
    | settle index =>
        refine .keeps rfl rfl ?_
        simp only [after, result, World.step, World.settle]
        repeat' split
        · exact ⟨rfl, rfl⟩
        · rename_i subscription found _
          exact World.keeps_put found rfl rfl
        · rename_i subscription found _
          exact World.keeps_put found rfl rfl
  · cases request with
    | observe query arguments behaviour =>
        cases begun : world.launch query arguments behaviour with
        | error fault =>
            refine .keeps (by simp [started?, begun]) rfl ?_
            simp only [after, result, World.answer, begun]
            exact ⟨rfl, rfl⟩
        | ok launched =>
            obtain ⟨statement, rfl⟩ := World.launch_eq_ok begun
            have joined : (world.join query statement behaviour).Keeps
                (world.start query statement behaviour).2 := World.keeps_signal _ _
            refine .starts query (by simp [started?, begun]) rfl ?_ ?_
            · simp only [after, result, World.answer, begun]
              exact joined.tracker
            · simp only [after, result, World.answer, begun]
              rw [joined.standings]
              simp [World.standings, World.join, Subscription.start, Tracker.subscribe]
    | hold id index => exact registers_of_drop id rfl rfl ⟨rfl, rfl⟩
    | drop id => exact registers_of_drop id rfl rfl ⟨rfl, rfl⟩

theorem standings_prefix (deed : Deed) : deed.world.standings <+: deed.after.standings := by
  cases deed.registers with
  | keeps _ _ kept => exact ⟨[], by rw [kept.standings, List.append_nil]⟩
  | ends _ _ _ _ standings => exact ⟨[], by rw [standings, List.append_nil]⟩
  | starts _ _ _ _ standings => exact ⟨_, standings.symm⟩

end Deed

/-- A deed that asks for an evaluation of a subscription to a query of these tables. -/
inductive Deed.Prompts (deed : Deed) (earlier : List Deed) (index : Nat) (tables : NameSet) : Prop
  | refreshed {id : String} (doing : deed.doing = .task (.act (.refresh id)))
      (held : deed.world.holder? id = some index)
  | changed {changed : NameSet} (doing : deed.doing = .task (.deliver index changed))
      (notified : Notified earlier index changed)
      (shared : ∃ table ∈ tables, ∃ other ∈ changed, SameName other table)

/-- A subscription that no deed has unsubscribed or dropped. -/
def lasts (deeds : List Deed) (index : Nat) : Bool :=
  deeds.all fun deed => decide (deed.ended? ≠ some index)

theorem lasts_concat (deeds : List Deed) (deed : Deed) (index : Nat) :
    lasts (deeds ++ [deed]) index = (lasts deeds index && decide (deed.ended? ≠ some index)) := by
  simp [lasts]

theorem lasts_of_unended {deeds : List Deed} {deed : Deed} (unended : deed.ended? = none) :
    lasts (deeds ++ [deed]) = lasts deeds := by
  funext index
  rw [lasts_concat, unended]
  simp

/-- What the tracker holds, by the deeds of a run. -/
structure Ledger (deeds : List Deed) (world : World) : Prop where
  next : world.tracker.next = world.subscriptions.length
  handles : world.standings.map Prod.snd = List.range world.subscriptions.length
  started : deeds.filterMap Deed.started? = List.range world.subscriptions.length
  unknown : ∀ index, world.subscriptions.length ≤ index → lasts deeds index = true
  watching : world.tracker.watchers.map Watcher.handle =
    (List.range world.subscriptions.length).filter (lasts deeds)

namespace Ledger

variable {deeds : List Deed} {deed : Deed} {world : World}

theorem empty (delivery : Delivery) : Ledger [] (.empty delivery) :=
  ⟨rfl, rfl, rfl, fun _ _ => rfl, rfl⟩

theorem length_standings (world : World) : world.standings.length = world.subscriptions.length :=
  List.length_map _

theorem length_eq {after : World} (same : after.standings = world.standings) :
    after.subscriptions.length = world.subscriptions.length := by
  rw [← length_standings, same, length_standings]

theorem handle_eq (ledger : Ledger deeds world) {index : Nat} {subscription : Subscription}
    (found : world.subscriptions[index]? = some subscription) : subscription.handle = index := by
  have handle : (world.standings.map Prod.snd)[index]? = some subscription.handle := by
    simp [World.standings, found]
  rw [ledger.handles, List.getElem?_range (List.getElem?_eq_some_iff.mp found).1] at handle
  exact (Option.some.inj handle).symm

theorem keep (ledger : Ledger deeds deed.world) (unstarted : deed.started? = none)
    (unended : deed.ended? = none) (kept : deed.world.Keeps deed.after) :
    Ledger (deeds ++ [deed]) deed.after := by
  have length := length_eq kept.standings
  have lasting : lasts (deeds ++ [deed]) = lasts deeds := lasts_of_unended unended
  refine ⟨?_, ?_, ?_, ?_, ?_⟩
  · rw [kept.tracker, length, ledger.next]
  · rw [kept.standings, length, ledger.handles]
  · simp [unstarted, length, ledger.started]
  · rw [lasting, length]
    exact ledger.unknown
  · rw [lasting, length, kept.tracker, ledger.watching]

theorem strike (ledger : Ledger deeds deed.world) {index : Nat} {subscription : Subscription}
    (found : deed.world.subscriptions[index]? = some subscription)
    (unstarted : deed.started? = none) (ended : deed.ended? = some index)
    (tracker : deed.after.tracker = deed.world.tracker.unsubscribe subscription.handle)
    (standings : deed.after.standings = deed.world.standings) :
    Ledger (deeds ++ [deed]) deed.after := by
  have length := length_eq standings
  have lasting : lasts (deeds ++ [deed]) = fun other => other ≠ index && lasts deeds other := by
    funext other
    rw [lasts_concat, ended, Bool.and_comm]
    simp [eq_comm]
  refine ⟨?_, ?_, ?_, ?_, ?_⟩
  · rw [tracker, length, ← ledger.next]
    rfl
  · rw [standings, length, ledger.handles]
  · simp [unstarted, length, ledger.started]
  · intro other beyond
    have within := (List.getElem?_eq_some_iff.mp found).1
    rw [length] at beyond
    simp [lasting, ledger.unknown other beyond]
    omega
  · -- The handle of a subscription is its index, so no other loses its place.
    rw [lasting, length, ← List.filter_filter, ← ledger.watching, List.filter_map, tracker,
      ledger.handle_eq found]
    rfl

theorem enter (ledger : Ledger deeds deed.world) {query : PreparedQuery}
    (started : deed.started? = some deed.world.subscriptions.length)
    (unended : deed.ended? = none)
    (tracker : deed.after.tracker = (deed.world.tracker.subscribe query.analysis.tables
      deed.world.subscriptions.length).2)
    (standings : deed.after.standings =
      deed.world.standings ++ [(query, deed.world.tracker.next)]) :
    Ledger (deeds ++ [deed]) deed.after := by
  have length : deed.after.subscriptions.length = deed.world.subscriptions.length + 1 := by
    rw [← length_standings, standings, List.length_append, length_standings]
    rfl
  have lasting : lasts (deeds ++ [deed]) = lasts deeds := lasts_of_unended unended
  refine ⟨?_, ?_, ?_, ?_, ?_⟩
  · rw [tracker, length, ← ledger.next]
    rfl
  · rw [standings, length, List.range_succ, List.map_append, ledger.handles, ← ledger.next]
    rfl
  · simp [started, length, ledger.started, List.range_succ]
  · intro other beyond
    rw [length] at beyond
    rw [lasting]
    exact ledger.unknown other (Nat.le_of_succ_le beyond)
  · have fresh := ledger.unknown _ (Nat.le_refl _)
    rw [lasting, length, tracker, List.range_succ, List.filter_append, ← ledger.watching]
    simp [Tracker.subscribe, fresh, ledger.next]

theorem next_deed (ledger : Ledger deeds deed.world) : Ledger (deeds ++ [deed]) deed.after := by
  cases deed.registers with
  | keeps unstarted unended kept => exact ledger.keep unstarted unended kept
  | ends found unstarted ended tracker standings =>
      exact ledger.strike found unstarted ended tracker standings
  | starts query started unended tracker standings =>
      exact ledger.enter started unended tracker standings

theorem count_eq (ledger : Ledger deeds world) :
    world.tracker.count = (deeds.filterMap Deed.started?).countP (lasts deeds) := by
  have watched := congrArg List.length ledger.watching
  rw [List.length_map, ← List.countP_eq_length_filter, ← ledger.started] at watched
  exact watched

end Ledger

/-- What the deeds of a run account for. -/
structure Accounted (deeds : List Deed) (world : World) : Prop where
  /-- Between two calls of an executor is a deed that asks for the second. -/
  prompted : ∀ {index : Nat} {subscription : Subscription} {before window after : List Deed}
    {first second : Deed}, world.subscriptions[index]? = some subscription →
    deeds = before ++ first :: (window ++ second :: after) →
    .called index ∈ first.events → .called index ∈ second.events →
    ∃ earlier prompt later, window = earlier ++ prompt :: later ∧
      prompt.Prompts (before ++ first :: earlier) index subscription.tables
  /-- A refused observation does nothing and leaves nothing to do. -/
  refused : ∀ deed ∈ deeds, ∀ {id : String} {query : PreparedQuery} {arguments : Arguments}
    {behaviour : Behaviour} {fault : Fault},
    deed.doing = .request (.observe query arguments behaviour) →
    deed.world.observe id query arguments behaviour = .error fault →
    deed.after = deed.world ∧ deed.tasks = []
  /-- Registered are those that were started and last. -/
  registered : world.tracker.count = (deeds.filterMap Deed.started?).countP (lasts deeds)

namespace Recorded

variable {delivery : Delivery} {deeds before window after : List Deed} {deed first second : Deed}
  {world : World} {tasks : List Task} {index : Nat} {subscription : Subscription}

theorem ledger (recorded : Recorded delivery deeds world tasks) : Ledger deeds world :=
  recorded.induct Ledger (.empty delivery) fun _ _ => Ledger.next_deed

theorem standings_prefix (recorded : Recorded delivery deeds world tasks) :
    ∀ deed ∈ deeds, deed.world.standings <+: world.standings := by
  refine induct (fun deeds world => ∀ deed ∈ deeds, deed.world.standings <+: world.standings)
    nofun ?_ recorded
  intro deeds last kept deed member
  rcases List.mem_append.mp member with past | latest
  · exact (kept deed past).trans last.standings_prefix
  · rw [List.mem_singleton.mp latest]
    exact last.standings_prefix

theorem tables_eq {past : Subscription} (recorded : Recorded delivery deeds world tasks)
    (member : deed ∈ deeds) (known : deed.world.subscriptions[index]? = some past)
    (found : world.subscriptions[index]? = some subscription) :
    past.tables = subscription.tables := by
  obtain ⟨more, grown⟩ := recorded.standings_prefix deed member
  have stood : deed.world.standings[index]? = some (past.query, past.handle) := by
    simp [World.standings, known]
  have stands : world.standings[index]? = some (subscription.query, subscription.handle) := by
    simp [World.standings, found]
  have within := (List.getElem?_eq_some_iff.mp stood).1
  rw [← grown, List.getElem?_append_left within, stood] at stands
  exact congrArg (·.1.analysis.tables) (Option.some.inj stands)

theorem signalled_between (recorded : Recorded delivery deeds world tasks)
    (found : world.subscriptions[index]? = some subscription)
    (split : deeds = before ++ first :: (window ++ second :: after))
    (called : .called index ∈ first.events) (again : .called index ∈ second.events) :
    ∃ prompt ∈ window, .signalled index ∈ prompt.events := by
  obtain ⟨phase, course, _⟩ := recorded.reached.course found
  have history : world.history index =
      ((before.flatMap Deed.events).filter (·.index == index) ++ .called index ::
        (window.flatMap Deed.events).filter (·.index == index)) ++ .called index ::
          (after.flatMap Deed.events).filter (·.index == index) := by
    rw [World.history, recorded.events_eq, split]
    simp [Deed.events_of_called called, Deed.events_of_called again, Event.index]
  obtain ⟨event, kept, signals⟩ := List.any_eq_true.mp (course.prompted history)
  obtain ⟨happened, own⟩ := List.mem_filter.mp kept
  obtain ⟨prompt, within, member⟩ := List.mem_flatMap.mp happened
  cases event with
  | signalled target =>
      obtain rfl : target = index := eq_of_beq own
      exact ⟨prompt, within, member⟩
  | _ => cases signals

/-- After its first call only a refresh or a change signals a subscription. -/
theorem prompts_of_signalled (recorded : Recorded delivery deeds world tasks)
    (found : world.subscriptions[index]? = some subscription)
    (split : deeds = before ++ deed :: after) (member : first ∈ before)
    (called : .called index ∈ first.events) (signalled : .signalled index ∈ deed.events) :
    deed.Prompts before index subscription.tables := by
  obtain ⟨rest, earlier⟩ := recorded.earlier split
  rcases Deed.cause_of_signalled signalled with ⟨task, doing, signals⟩ | started
  · cases task with
    | act action =>
        cases action with
        | refresh id => exact .refreshed doing signals
        | notify | unsubscribe => exact signals.elim
    | deliver target changed =>
        obtain ⟨rfl, past, known, shared⟩ := signals
        have waiting : .deliver target changed ∈ deed.taken ++ rest := by
          simp [Deed.taken, doing]
        have among : deed ∈ deeds := split ▸ List.mem_append_right before List.mem_cons_self
        rw [recorded.tables_eq among known found] at shared
        exact .changed doing (earlier.notified waiting) shared
    | evaluate | receive | settle => exact signals.elim
  · -- Only a subscription that was not there before is signalled by an observation.
    have traced := earlier.reached.calm_and_traces.2 index
    rw [List.getElem?_eq_none (Nat.le_of_eq (Deed.eq_length_of_started started).symm)] at traced
    have happened : .called index ∈ deed.world.history index := by
      rw [World.history, earlier.events_eq]
      simp only [List.mem_filter, List.mem_flatMap]
      exact ⟨⟨first, member, called⟩, beq_self_eq_true index⟩
    rw [traced.1] at happened
    cases happened

end Recorded

theorem subscriptions_accounted {delivery : Delivery} {deeds : List Deed} {world : World}
    {tasks : List Task} (recorded : Recorded delivery deeds world tasks) :
    Accounted deeds world where
  prompted := by
    intro index subscription before window after first second found split called again
    obtain ⟨prompt, member, signalled⟩ := recorded.signalled_between found split called again
    obtain ⟨earlier, later, rfl⟩ := List.append_of_mem member
    refine ⟨earlier, prompt, later, rfl, ?_⟩
    have arranged : deeds =
        (before ++ first :: earlier) ++ prompt :: (later ++ second :: after) := by
      rw [split]
      simp only [List.append_assoc, List.cons_append]
    exact recorded.prompts_of_signalled found arranged
      (List.mem_append_right before List.mem_cons_self) called signalled
  refused := by
    intro deed _ id query arguments behaviour fault doing refused
    obtain ⟨world, _⟩ := deed
    cases doing
    rw [World.observe_eq] at refused
    cases begun : world.launch query arguments behaviour with
    | error => simp [Deed.after, Deed.tasks, Deed.result, World.answer, begun]
    | ok => simp [begun, Except.map] at refused
  registered := recorded.ledger.count_eq

/-- Of two subscriptions one is unsubscribed twice by its own executor, which was called again
for a change; a third observation is refused. -/
theorem subscriptions_accounted_twice :
    let query : PreparedQuery :=
      { definition := ⟨"watch", "SELECT id FROM notes", [], .reactive .rows⟩,
        template := .ofText "SELECT id FROM notes", parameters := [], kind := .read,
        analysis := ⟨.ofList ["notes"], some ["id"]⟩, reader := some ⟨.rows, none⟩, limit := 999 }
    let behaviour := Behaviour.ofScripts
      [⟨[], .ok (.rows .empty)⟩, ⟨[.unsubscribe "a", .unsubscribe "a"], .error "busy"⟩] []
    let started := (World.empty .matching).answer (.observe query ⟨[], []⟩ behaviour)
    let first := started.2.advance started.1 3
    let joined := (first.1.hold "a" 0).answer (.observe query ⟨[], []⟩ (.ofScripts [] []))
    let second := joined.2.advance joined.1 3
    let refused := second.1.answer (.observe query ⟨[], [.integer 1]⟩ behaviour)
    let stopped := refused.2.advance [.act (.notify (.ofList ["NOTES"]))] 9
    ∃ deeds, Recorded .matching deeds stopped.1 stopped.2 ∧ Accounted deeds stopped.1 ∧
      stopped.1.subscriptions.length = 2 ∧ stopped.1.tracker.count = 1 ∧
        (stopped.1.history 0).countP Event.calls = 2 := by
  intro query behaviour started first joined second refused stopped
  have opened : Recorded .matching _ started.2 (started.1 ++ []) :=
    Recorded.empty.asked Reached.free_nil (.observe query ⟨[], []⟩ behaviour)
  rw [List.append_nil] at opened
  have settled : first.2 = [] := List.isEmpty_iff.mp (by decide +kernel)
  have held := (settled ▸ opened.advance 3).asked Reached.free_nil (.hold "a" 0)
  have added : Recorded .matching _ joined.2 (joined.1 ++ []) :=
    held.asked Reached.free_nil (.observe query ⟨[], []⟩ (.ofScripts [] []))
  rw [List.append_nil] at added
  have idle : second.2 = [] := List.isEmpty_iff.mp (by decide +kernel)
  have unchanged : refused.1 = [] := List.isEmpty_iff.mp (by decide +kernel)
  have asked := (idle ▸ added.advance 3).asked Reached.free_nil
    (.observe query ⟨[], [.integer 1]⟩ behaviour)
  have recorded := ((unchanged ▸ asked).acted Reached.free_nil
    (.notify (.ofList ["NOTES"]))).advance 9
  exact ⟨_, recorded, subscriptions_accounted recorded, by decide +kernel, by decide +kernel,
    by decide +kernel⟩

end CheckedSql

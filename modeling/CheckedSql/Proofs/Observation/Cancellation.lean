import CheckedSql.Proofs.Except
import CheckedSql.Proofs.Observation.Origin
import CheckedSql.Proofs.Observation.Tracing

namespace CheckedSql

/-- What replies make a subscription emit: each result once, faults included, and nothing
for an absent value. -/
inductive Emits (query : PreparedQuery) :
    List (Except String Outcome) → List (Except Fault Output) → Prop
  | done : Emits query [] []
  | output {reply : Except String Outcome} {output : Output}
      {replies : List (Except String Outcome)} {emissions : List (Except Fault Output)}
      (read : PreparedQuery.readReply query.outputObserved reply = .ok (some output))
      (later : Emits query replies emissions) :
      Emits query (reply :: replies) (.ok output :: emissions)
  | nothing {reply : Except String Outcome} {replies : List (Except String Outcome)}
      {emissions : List (Except Fault Output)}
      (read : PreparedQuery.readReply query.outputObserved reply = .ok none)
      (later : Emits query replies emissions) : Emits query (reply :: replies) emissions
  | fault {reply : Except String Outcome} {fault : Fault}
      {replies : List (Except String Outcome)} {emissions : List (Except Fault Output)}
      (read : PreparedQuery.readReply query.outputObserved reply = .error fault)
      (later : Emits query replies emissions) :
      Emits query (reply :: replies) (.error fault :: emissions)

/-- What holds of a subscription wherever a run stands. -/
structure Orderly (world : World) (index : Nat) (subscription : Subscription) : Prop where
  /-- At every moment all calls are answered, but for the last. -/
  serial : ∀ before after, world.history index = before ++ after →
    before.countP Event.replies ≤ before.countP Event.calls ∧
      before.countP Event.calls ≤ before.countP Event.replies + 1
  /-- The replies before a cancellation are emitted once each and in their order. -/
  emissions : Emits subscription.query
    ((Event.heeded (world.history index)).filterMap Event.reply?)
    ((world.history index).filterMap Event.emitted?)
  active : subscription.isActive = true ↔ .cancelled index ∉ world.history index
  /-- After a cancellation nothing is called and nothing emitted. -/
  final : (world.history index).Pairwise fun earlier later =>
    earlier = .cancelled index → later ≠ .called index ∧ later.emitted? = none
  /-- A task cancels the subscription if it unsubscribes it, and no other does. -/
  unsubscribes : ∀ task, ∃ added,
    (world.step task).2.history index = world.history index ++ added ∧
      (Cancels world index task → added = [.cancelled index]) ∧
      (¬ Cancels world index task → .cancelled index ∉ added)
  drops : ∀ id, world.holder? id = some index →
    (world.drop id).history index = world.history index ++ [.cancelled index]
  /-- An identifier that is given to the subscription stands for it until it is dropped. -/
  held : ∀ id, (world.hold id index).holder? id = some index ∧ (world.drop id).holder? id = none
  /-- What other identifiers stand for stays as it was. -/
  others : ∀ id other, other ≠ id →
    (world.hold id index).holder? other = world.holder? other ∧
      (world.drop id).holder? other = world.holder? other

theorem emits_filterMap (subscription : Subscription) (replies : List (Except String Outcome)) :
    Emits subscription.query replies (replies.filterMap subscription.emission) := by
  induction replies with
  | nil => exact .done
  | cons reply replies ih =>
      cases read : PreparedQuery.readReply subscription.query.outputObserved reply with
      | error fault =>
          have emission : subscription.emission reply = some (.error fault) := by
            rw [Subscription.emission, read]
          rw [List.filterMap_cons_some emission]
          exact .fault read ih
      | ok output? =>
          cases output? with
          | none =>
              have emission : subscription.emission reply = none := by
                rw [Subscription.emission, read]
              rw [List.filterMap_cons_none emission]
              exact .nothing read ih
          | some output =>
              have emission : subscription.emission reply = some (.ok output) := by
                rw [Subscription.emission, read]
              rw [List.filterMap_cons_some emission]
              exact .output read ih

section Holders

variable {id other : String}

theorem lookup_filter_other (apart : other ≠ id) (holders : List (String × Nat)) :
    (holders.filter (·.1 ≠ id)).lookup other = holders.lookup other := by
  induction holders with
  | nil => rfl
  | cons holder holders ih =>
      by_cases same : holder.1 = id
      · have unlike : (other == holder.1) = false := beq_false_of_ne (same ▸ apart)
        rw [List.filter_cons_of_neg (by simpa using same), ih, List.lookup_cons, unlike]
      · rw [List.filter_cons_of_pos (by simpa using same), List.lookup_cons, List.lookup_cons, ih]

theorem holder?_drop_self (world : World) (id : String) : (world.drop id).holder? id = none := by
  unfold World.drop
  split
  · assumption
  · apply List.lookup_eq_none_iff.mpr
    intro holder member
    obtain ⟨_, unlike⟩ := List.mem_filter.mp member
    exact bne_iff_ne.mpr (of_decide_eq_true unlike).symm

theorem holder?_drop_other (world : World) (apart : other ≠ id) :
    (world.drop id).holder? other = world.holder? other := by
  unfold World.drop
  split
  · rfl
  · exact lookup_filter_other apart world.holders

theorem holder?_hold (world : World) (id : String) (index : Nat) (other : String) :
    (world.hold id index).holder? other =
      ((world.drop id).holder? other).or ([(id, index)].lookup other) :=
  List.lookup_append

end Holders

section

variable {world : World} {task : Task} {index : Nat} {subscription : Subscription}

theorem history_uncancelled (kept : ¬ Cancels world index task) :
    ∃ added, (world.step task).2.history index = world.history index ++ added ∧
      .cancelled index ∉ added := by
  obtain ⟨added, same, arise⟩ := history_step world task index
  exact ⟨added, same, fun member => kept (arise _ member).2⟩

theorem history_cancels (found : world.subscriptions[index]? = some subscription)
    (cancels : Cancels world index task) :
    (world.step task).2.history index = world.history index ++ [.cancelled index] := by
  cases task with
  | act action =>
      cases action with
      | unsubscribe id =>
          have held : world.holder? id = some index := cancels
          simp only [World.step, World.act, held]
          exact history_cancel found
      | notify | refresh => exact cancels.elim
  | deliver | evaluate | receive | settle => exact cancels.elim

theorem history_drop (found : world.subscriptions[index]? = some subscription) {id : String}
    (held : world.holder? id = some index) :
    (world.drop id).history index = world.history index ++ [.cancelled index] := by
  simp only [World.drop, held]
  exact history_cancel found

end

theorem evaluations_orderly {delivery : Delivery} {world : World} {tasks : List Task} {index : Nat}
    {subscription : Subscription} (reached : Reached delivery world tasks)
    (found : world.subscriptions[index]? = some subscription) :
    Orderly world index subscription := by
  obtain ⟨phase, course, _⟩ := reached.course found
  constructor
  case serial => exact fun before after => course.serial
  case emissions =>
    rw [course.emissions_eq]
    exact emits_filterMap subscription _
  case active =>
    rw [← course.cancelled_iff, Subscription.isActive]
    simp
  case final => exact course.final
  case unsubscribes =>
    intro task
    by_cases cancels : Cancels world index task
    · exact ⟨_, history_cancels found cancels, fun _ => rfl, absurd cancels⟩
    · obtain ⟨added, same, absent⟩ := history_uncancelled cancels
      exact ⟨added, same, fun cancelling => absurd cancelling cancels, fun _ => absent⟩
  case drops => exact fun id => history_drop found
  case held =>
    intro id
    have dropped := holder?_drop_self world id
    refine ⟨?_, dropped⟩
    rw [holder?_hold, dropped]
    simp
  case others =>
    intro id other apart
    have kept := holder?_drop_other world apart
    refine ⟨?_, kept⟩
    rw [holder?_hold, kept, List.lookup_cons, beq_false_of_ne apart]
    simp

/-- Four evaluations: a number, a failure, no rows where one is due, and one that ends
unsubscribed by its own executor. Only the first two are emitted. -/
theorem evaluations_orderly_unsubscribed :
    let query : PreparedQuery :=
      { definition := ⟨"watch", "SELECT id FROM notes", [], .reactive (.scalar .integer)⟩,
        template := .ofText "SELECT id FROM notes", parameters := [], kind := .read,
        analysis := ⟨.ofList ["notes"], some ["id"]⟩, reader := some ⟨.scalar .integer, none⟩,
        limit := 999 }
    let statement : Statement := ⟨query.definition.text, [], .read, query.reader⟩
    let row (number : Int64) : Outcome := .rows ⟨["id"], [[.integer number]]⟩
    let behaviour := Behaviour.ofScripts
      [⟨[], .ok (row 7)⟩, ⟨[], .error "busy"⟩, ⟨[], .ok (.rows .empty)⟩,
        ⟨[.refresh "a", .unsubscribe "a"], .ok (row 8)⟩] []
    let started := (World.empty .matching).start query statement behaviour
    let first := started.2.advance started.1 3
    let refresh : Task := .act (.refresh "a")
    let stopped := (first.1.hold "a" 0).advance [refresh, refresh, refresh] 14
    ∃ subscription, stopped.1.subscriptions[0]? = some subscription ∧
      Reached .matching stopped.1 stopped.2 ∧ Orderly stopped.1 0 subscription ∧
      stopped.2 = [] ∧ subscription.isActive = false ∧
      (stopped.1.history 0).countP Event.calls = 4 ∧
      (stopped.1.history 0).filterMap Event.emitted? =
        [.ok (.value (.scalar (.integer 7))), .error (.executor "busy")] := by
  intro query statement row behaviour started first refresh stopped
  have present : stopped.1.subscriptions[0]?.map Subscription.isActive = some false := by
    decide +kernel
  obtain ⟨subscription, found, inactive⟩ := Option.map_eq_some_iff.mp present
  have start : Reached .matching started.2 (started.1 ++ []) :=
    Reached.empty.started Reached.free_nil query statement behaviour
  rw [List.append_nil] at start
  have done : first.2 = [] := List.isEmpty_iff.mp (by decide +kernel)
  have idle : Reached .matching first.1 [] := done ▸ start.advance 3
  have free (tasks : List Task) : Free (refresh :: tasks) := by simp [Free, refresh]
  have reached : Reached .matching stopped.1 stopped.2 :=
    ((((idle.held Reached.free_nil "a" 0).acted Reached.free_nil (.refresh "a")).acted
      (free _) (.refresh "a")).acted (free _) (.refresh "a")).advance 14
  exact ⟨subscription, found, reached, evaluations_orderly reached found,
    List.isEmpty_iff.mp (by decide +kernel), inactive, by decide +kernel, by decide +kernel⟩

end CheckedSql

import CheckedSql.Proofs.Observation.Course
import Mathlib.Data.List.Induction

namespace CheckedSql

namespace Event

/-- A signal since the last call. -/
def hearing (history : List Event) : Bool :=
  history.foldl (fun heard event => !event.calls && (event.signals || heard)) false

/-- A signal that comes when all calls are settled and nothing is cancelled. -/
def opens (before : List Event) (event : Event) : Bool :=
  event.signals && before.countP Event.calls == before.countP Event.settles &&
    !before.any Event.cancels

/-- The end of an evaluation that heard a signal, with nothing cancelled. -/
def renews (before : List Event) (event : Event) : Bool :=
  event.settles && hearing before && !before.any Event.cancels

/-- How many events meet a test together with what came before them. -/
def occasions (test : List Event → Event → Bool) (before : List Event) : List Event → Nat
  | [] => 0
  | event :: rest =>
      (if test before event then 1 else 0) + occasions test (before ++ [event]) rest

theorem occasions_append (test : List Event → Event → Bool) (before events more : List Event) :
    occasions test before (events ++ more) =
      occasions test before events + occasions test (before ++ events) more := by
  induction events generalizing before with
  | nil => simp [occasions]
  | cons event rest ih => simp [occasions, ih, Nat.add_assoc]

theorem occasions_concat (test : List Event → Event → Bool) (events : List Event) (event : Event) :
    occasions test [] (events ++ [event]) =
      occasions test [] events + if test events event then 1 else 0 :=
  occasions_append test [] events [event]

theorem occasions_append_absent {test : List Event → Event → Bool} {kind : Event → Bool}
    {events more : List Event} (narrow : ∀ before event, test before event → kind event)
    (absent : more.any kind = false) :
    occasions test [] (events ++ more) = occasions test [] events := by
  rw [occasions_append]
  generalize [] ++ events = before
  induction more generalizing before with
  | nil => rfl
  | cons event rest ih =>
      obtain ⟨first, later⟩ := Bool.or_eq_false_iff.mp absent
      have unmet : ¬ test before event := fun met => by simp [narrow before event met] at first
      have others := ih later (before ++ [event])
      simpa only [occasions, if_neg unmet, Nat.zero_add] using others

theorem signals_of_opens (before : List Event) (event : Event) (opened : opens before event) :
    event.signals := by
  simp only [opens, Bool.and_eq_true] at opened
  exact opened.1.1

theorem settles_of_renews (before : List Event) (event : Event) (renewed : renews before event) :
    event.settles := by
  simp only [renews, Bool.and_eq_true] at renewed
  exact renewed.1.1

theorem hearing_append_uncalled {before window : List Event}
    (uncalled : window.any Event.calls = false) :
    hearing (before ++ window) = (window.any Event.signals || hearing before) := by
  unfold hearing
  rw [List.foldl_append]
  generalize before.foldl _ false = heard
  induction window generalizing heard with
  | nil => rfl
  | cons event rest ih =>
      obtain ⟨first, later⟩ := Bool.or_eq_false_iff.mp uncalled
      simp only [List.foldl_cons, ih later, first, List.any_cons, Bool.not_false, Bool.true_and]
      cases event.signals <;> simp

theorem hearing_of_called {index : Nat} {before window : List Event}
    (uncalled : window.any Event.calls = false) :
    hearing (before ++ .called index :: window) = window.any Event.signals := by
  have fresh : hearing (before ++ [.called index]) = false := by
    simp [hearing, List.foldl_append, Event.calls]
  rw [List.append_cons, hearing_append_uncalled uncalled, fresh, Bool.or_false]

theorem hearing_concat (history : List Event) (event : Event) :
    hearing (history ++ [event]) = (!event.calls && (event.signals || hearing history)) := by
  simp [hearing, List.foldl_append]

theorem signals_of_hearing {index : Nat} {before window : List Event}
    (heard : hearing (before ++ .called index :: window) = true) :
    window.any Event.signals = true := by
  induction window using List.reverseRecOn with
  | nil =>
      rw [hearing_concat] at heard
      cases heard
  | append_singleton rest event ih =>
      rw [← List.cons_append, ← List.append_assoc, hearing_concat] at heard
      simp only [Bool.and_eq_true, Bool.or_eq_true] at heard
      rw [List.any_append, Bool.or_eq_true]
      rcases heard.2 with signals | earlier
      · exact .inr (by simp [signals])
      · exact .inl (ih earlier)

end Event

namespace Phase

def waiting : Phase → Nat
  | .due => 1
  | .idle | .calling _ | .emitting _ => 0

def unsettled : Phase → Nat
  | .calling _ | .emitting _ => 1
  | .idle | .due => 0

@[simp] theorem unsettled_signalled (phase : Phase) :
    phase.signalled.unsettled = phase.unsettled := by
  cases phase <;> rfl

end Phase

namespace Course

open Event

variable {index : Nat} {emission : Emission} {phase : Phase} {cancelled : Bool}
  {history before after window : List Event}

theorem calls_eq_settles (course : Course index emission phase cancelled history) :
    history.countP Event.calls = history.countP Event.settles + phase.unsettled := by
  induction course with
  | started => rfl
  | signalled course undue ih => simpa [Event.calls, Event.settles] using ih
  | replied course reply ih =>
      rw [List.countP_append, List.countP_append, ih, countP_replied, countP_replied]
      · rfl
      · exact fun _ => rfl
      · exact fun _ => rfl
  | called | ignored | renewed | rested | cancelled =>
      simp_all [Event.calls, Event.settles, Phase.unsettled]

/-- Unless it is cancelled, an evaluation knows whether a signal has come since its call. -/
theorem hearing_eq (course : Course index emission phase cancelled history) {heard : Bool}
    (within : phase.heard? = some heard) (uncancelled : cancelled = false) :
    hearing history = heard := by
  induction course generalizing heard with
  | started | renewed | rested => cases within
  | ignored | cancelled => cases uncancelled
  | called => exact (hearing_of_called rfl).trans (Option.some.inj within)
  | @signalled phase =>
      rw [hearing_append_uncalled rfl]
      cases phase <;> cases within <;> rfl
  | replied course reply ih =>
      rw [hearing_append_uncalled (any_replied (fun _ => rfl) rfl), any_replied (fun _ => rfl) rfl]
      exact ih within uncancelled

/-- A subscription at rest was called after all its signals, unless it is cancelled. -/
theorem answered (course : Course index emission phase cancelled history)
    (uncancelled : cancelled = false) (undue : phase ≠ .due) (unheard : phase.heard? ≠ some true) :
    ∃ before after, history = before ++ .called index :: after ∧
      after.any Event.signals = false := by
  induction course with
  | started | renewed => exact absurd rfl undue
  | @signalled phase => cases phase <;> first | exact absurd rfl undue | exact absurd rfl unheard
  | ignored | cancelled => cases uncancelled
  | @called _ history course => exact ⟨history, [], rfl, rfl⟩
  | replied course reply ih =>
      obtain ⟨before, after, rfl, quiet⟩ := ih uncancelled nofun unheard
      refine ⟨before, after ++ _, List.append_assoc _ _ _, ?_⟩
      rw [List.any_append, quiet, any_replied (fun _ => rfl) rfl, Bool.or_false]
  | rested course done ih =>
      have unheard := done.resolve_right (by simp [uncancelled])
      obtain ⟨before, after, rfl, quiet⟩ := ih uncancelled nofun (by simp [Phase.heard?, unheard])
      refine ⟨before, after ++ _, List.append_assoc _ _ _, ?_⟩
      rw [List.any_append, quiet]
      rfl

/-- An evaluation that may end at rest heard no signal, or the subscription is cancelled. -/
theorem not_hearing_of_done {heard : Bool}
    (course : Course index emission (.emitting heard) cancelled history)
    (done : heard = false ∨ cancelled = true) :
    ¬ (hearing history = true ∧ history.any Event.cancels = false) := by
  rintro ⟨hearing, uncancelled⟩
  rw [course.any_cancels] at uncancelled
  rw [course.hearing_eq rfl uncancelled] at hearing
  simp [hearing, uncancelled] at done

/-- A call comes next, if anything has come. -/
def Followed (index : Nat) (phase : Phase) (after : List Event) : Prop :=
  after.head? = some (.called index) ∨ after = [] ∧ phase = .due

theorem followed_append {past : Phase} {extra : List Event} (some : extra ≠ [])
    (called : extra.head? = .some (.called index) ↔ past = .due) (after : List Event) :
    Followed index phase (after ++ extra) ↔ Followed index past after := by
  cases after with
  | nil => simp [Followed, some, called]
  | cons event rest => simp [Followed]

/-- An evaluation is followed by another at once, if it heard a signal and ended with
the subscription not cancelled. -/
theorem followed_iff (course : Course index emission phase cancelled history)
    (split : history = before ++ .settled index :: after) :
    Followed index phase after ↔ hearing before = true ∧ before.any Event.cancels = false := by
  induction course generalizing before after with
  | started => cases before <;> simp at split
  | signalled course undue ih | cancelled course undue ih =>
      obtain ⟨rest, rfl, earlier⟩ := append_eq_append_cons (by simp) split
      exact (followed_append (by simp) (by simpa using undue) rest).trans (ih earlier)
  | ignored course ih =>
      obtain ⟨rest, rfl, earlier⟩ := append_eq_append_cons (by simp) split
      have undue : _ ≠ Phase.due := fun due => nomatch course.not_cancelled_of_due due
      exact (followed_append (by simp) (by simpa using undue) rest).trans (ih earlier)
  | called course ih =>
      obtain ⟨rest, rfl, earlier⟩ := append_eq_append_cons (by simp) split
      exact (followed_append (by simp) (by simp) rest).trans (ih earlier)
  | @replied _ cancelled _ course reply ih =>
      have absent : .settled index ∉
          .replied index reply :: delivered index emission cancelled reply :=
        (not_mem_delivered rfl).mpr nofun
      obtain ⟨rest, rfl, earlier⟩ := append_eq_append_cons absent split
      exact (followed_append (by simp) (by simp) rest).trans (ih earlier)
  | renewed course ih =>
      rcases append_singleton_eq_append_cons split with ⟨rfl, _, rfl⟩ | ⟨rest, rfl, earlier⟩
      · simp [Followed, course.hearing_eq rfl rfl, course.any_cancels]
      · exact (followed_append (by simp) (by simp) rest).trans (ih earlier)
  | rested course done ih =>
      rcases append_singleton_eq_append_cons split with ⟨rfl, _, rfl⟩ | ⟨rest, rfl, earlier⟩
      · exact iff_of_false (by simp [Followed]) (course.not_hearing_of_done done)
      · exact (followed_append (by simp) (by simp) rest).trans (ih earlier)

/-- A subscription that is due was signalled after all its calls. -/
theorem prompted_of_due (course : Course index emission phase cancelled history)
    (due : phase = .due) (split : history = before ++ .called index :: window) :
    window.any Event.signals = true := by
  cases course with
  | started => cases before <;> simp at split
  | signalled course undue =>
      obtain ⟨rest, rfl, _⟩ := append_eq_append_cons (by simp) split
      simp [Event.signals]
  | ignored course => cases course.not_cancelled_of_due due
  | renewed course =>
      obtain ⟨rest, rfl, earlier⟩ := append_eq_append_cons (by simp) split
      have heard := course.hearing_eq rfl rfl
      rw [earlier] at heard
      simp [signals_of_hearing heard]
  | cancelled course undue => exact absurd due undue
  | called | replied | rested => cases due

/-- Between any two calls there is a signal. -/
theorem prompted (course : Course index emission phase cancelled history)
    (split : history = (before ++ .called index :: window) ++ .called index :: after) :
    window.any Event.signals = true := by
  induction course generalizing after with
  | started =>
      rcases List.append_eq_singleton_iff.mp split.symm with ⟨none, _⟩ | ⟨_, none⟩
      · simp at none
      · cases none
  | called course ih =>
      rcases append_singleton_eq_append_cons split with ⟨_, _, same⟩ | ⟨rest, _, earlier⟩
      · exact course.prompted_of_due rfl same
      · exact ih earlier
  | @replied _ cancelled _ course reply ih =>
      have absent : .called index ∉
          .replied index reply :: delivered index emission cancelled reply :=
        (not_mem_delivered rfl).mpr nofun
      obtain ⟨rest, _, earlier⟩ := append_eq_append_cons absent split
      exact ih earlier
  | signalled _ _ ih | ignored _ ih | renewed _ ih | rested _ _ ih | cancelled _ _ ih =>
      obtain ⟨rest, _, earlier⟩ := append_eq_append_cons (by simp) split
      exact ih earlier

/-- One event keeps the total if it is a call that was due, or makes one due by opening
or renewing. -/
theorem calls_total_concat {past : Phase} {event : Event}
    (total : history.countP Event.calls + past.waiting =
      occasions opens [] history + occasions renews [] history)
    (balanced : (if event.calls then 1 else 0) + phase.waiting =
      past.waiting + (if opens history event then 1 else 0) +
        if renews history event then 1 else 0) :
    (history ++ [event]).countP Event.calls + phase.waiting =
      occasions opens [] (history ++ [event]) + occasions renews [] (history ++ [event]) := by
  rw [occasions_concat, occasions_concat, List.countP_append, List.countP_singleton]
  omega

/-- The calls are those of the signals that opened an evaluation and of the evaluations
that another follows, but for the one that is due. -/
theorem calls_total (course : Course index emission phase cancelled history) :
    history.countP Event.calls + phase.waiting =
      occasions opens [] history + occasions renews [] history := by
  induction course with
  | started => rfl
  | @signalled phase history course undue ih =>
      -- Only a signal that finds all calls settled opens an evaluation.
      have opened : opens history (.signalled index) = (phase.unsettled == 0) := by
        rw [Bool.eq_iff_iff]
        simp [opens, Event.signals, course.any_cancels, course.calls_eq_settles]
      refine calls_total_concat ih ?_
      rw [opened]
      cases phase with
      | due => exact absurd rfl undue
      | idle | calling | emitting => rfl
  | ignored course ih =>
      refine calls_total_concat ih ?_
      simp [opens, renews, course.any_cancels, Event.calls]
  | called course ih => exact calls_total_concat ih rfl
  | replied course reply ih =>
      rw [occasions_append_absent signals_of_opens (any_replied (fun _ => rfl) rfl),
        occasions_append_absent settles_of_renews (any_replied (fun _ => rfl) rfl),
        List.countP_append, countP_replied fun _ => rfl]
      exact ih
  | @renewed history course ih =>
      have heard : hearing history = true := course.hearing_eq rfl rfl
      have renewed : renews history (.settled index) = true := by
        simp [renews, Event.settles, heard, course.any_cancels]
      refine calls_total_concat ih ?_
      rw [renewed]
      rfl
  | @rested _ _ history course done ih =>
      have rests : renews history (.settled index) = false := by
        refine Bool.eq_false_iff.mpr fun renewed => ?_
        simp only [renews, Bool.and_eq_true, Bool.not_eq_true'] at renewed
        exact course.not_hearing_of_done done ⟨renewed.1.2, renewed.2⟩
      refine calls_total_concat ih ?_
      rw [rests]
      rfl
  | cancelled course undue ih => exact calls_total_concat ih (Nat.zero_add _)

end Course

end CheckedSql

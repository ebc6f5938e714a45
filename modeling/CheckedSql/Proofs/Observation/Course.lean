import CheckedSql.Proofs.Observation.Reached

namespace CheckedSql

/-! The course of one subscription, apart from all others.

`Course` builds the histories of a subscription event by event, with the phase that
each leads to. The rest says what holds of every such history: calls are answered
before the next, emissions are those of the replies before a cancellation, and each
evaluation that heard a signal is followed by one more.
-/

/-- Where a subscription stands. Within an evaluation it is known whether a signal has
been heard since the call. -/
inductive Phase where
  | idle
  | due
  | calling (heard : Bool)
  | emitting (heard : Bool)

namespace Phase

def heard? : Phase → Option Bool
  | .calling heard | .emitting heard => some heard
  | .idle | .due => none

def unanswered : Phase → Nat
  | .calling _ => 1
  | .idle | .due | .emitting _ => 0

def signalled : Phase → Phase
  | .idle | .due => .due
  | .calling _ => .calling true
  | .emitting _ => .emitting true

theorem unanswered_le_one (phase : Phase) : phase.unanswered ≤ 1 := by
  cases phase <;> simp [unanswered]

@[simp] theorem unanswered_signalled (phase : Phase) :
    phase.signalled.unanswered = phase.unanswered := by
  cases phase <;> rfl

end Phase

namespace Event

def reply? : Event → Option (Except String Outcome)
  | .replied _ reply => some reply
  | _ => none

def emitted? : Event → Option (Except Fault Output)
  | .emitted _ result => some result
  | _ => none

def signals : Event → Bool
  | .signalled _ => true
  | _ => false

def calls : Event → Bool
  | .called _ => true
  | _ => false

def replies : Event → Bool
  | .replied _ _ => true
  | _ => false

def settles : Event → Bool
  | .settled _ => true
  | _ => false

def cancels : Event → Bool
  | .cancelled _ => true
  | _ => false

/-- The events before a cancellation. -/
def heeded (history : List Event) : List Event :=
  history.takeWhile (!·.cancels)

theorem heeded_append (before after : List Event) :
    heeded (before ++ after) =
      heeded before ++ if before.any Event.cancels then [] else heeded after := by
  induction before with
  | nil => rfl
  | cons event rest ih =>
      unfold heeded at ih ⊢
      cases cancels : event.cancels with
      | true => simp [cancels]
      | false =>
          simp only [List.cons_append, List.any_cons, cancels, Bool.false_or, Bool.not_false,
            List.takeWhile_cons_of_pos, ih]

end Event

abbrev Emission := Except String Outcome → Option (Except Fault Output)

/-- The emission of a reply, unless the subscription is cancelled. -/
def delivered (index : Nat) (emission : Emission) (cancelled : Bool)
    (reply : Except String Outcome) : List Event :=
  if cancelled then [] else (emission reply).toList.map (.emitted index)

inductive Course (index : Nat) (emission : Emission) : Phase → Bool → List Event → Prop
  | started : Course index emission .due false [.signalled index]
  | signalled {phase : Phase} {before : List Event}
      (course : Course index emission phase false before) (undue : phase ≠ .due) :
      Course index emission phase.signalled false (before ++ [.signalled index])
  | ignored {phase : Phase} {before : List Event}
      (course : Course index emission phase true before) :
      Course index emission phase true (before ++ [.signalled index])
  | called {cancelled : Bool} {before : List Event}
      (course : Course index emission .due cancelled before) :
      Course index emission (.calling false) cancelled (before ++ [.called index])
  | replied {heard cancelled : Bool} {before : List Event}
      (course : Course index emission (.calling heard) cancelled before)
      (reply : Except String Outcome) :
      Course index emission (.emitting heard) cancelled
        (before ++ .replied index reply :: delivered index emission cancelled reply)
  | renewed {before : List Event} (course : Course index emission (.emitting true) false before) :
      Course index emission .due false (before ++ [.settled index])
  | rested {heard cancelled : Bool} {before : List Event}
      (course : Course index emission (.emitting heard) cancelled before)
      (done : heard = false ∨ cancelled = true) :
      Course index emission .idle cancelled (before ++ [.settled index])
  | cancelled {phase : Phase} {cancelled : Bool} {before : List Event}
      (course : Course index emission phase cancelled before) (undue : phase ≠ .due) :
      Course index emission phase true (before ++ [.cancelled index])

section Ends

variable {Item : Type} {items extra before after : List Item} {middle : Item}

/-- An item that is not among those added stood before them. -/
theorem append_eq_append_cons (absent : middle ∉ extra)
    (same : items ++ extra = before ++ middle :: after) :
    ∃ rest, after = rest ++ extra ∧ items = before ++ middle :: rest := by
  rcases List.append_eq_append_iff.mp same with ⟨gap, beforeEq, extraEq⟩ | ⟨gap, itemsEq, afterEq⟩
  · exact absurd (extraEq ▸ List.mem_append_right gap List.mem_cons_self) absent
  · cases gap with
    | nil =>
        rw [List.nil_append] at afterEq
        exact absurd (afterEq ▸ List.mem_cons_self) absent
    | cons first rest =>
        obtain ⟨rfl, rfl⟩ := List.cons.inj afterEq
        exact ⟨rest, rfl, itemsEq⟩

theorem append_singleton_eq_append_cons {last : Item}
    (same : items ++ [last] = before ++ middle :: after) :
    (after = [] ∧ last = middle ∧ items = before) ∨
      ∃ rest, after = rest ++ [last] ∧ items = before ++ middle :: rest := by
  rcases List.eq_nil_or_concat after with rfl | ⟨rest, final, rfl⟩
  · obtain ⟨rfl, final⟩ := List.append_inj' same rfl
    cases final
    exact .inl ⟨rfl, rfl, rfl⟩
  · rw [List.concat_eq_append, ← List.cons_append, ← List.append_assoc] at same
    obtain ⟨rfl, final⟩ := List.append_inj' same rfl
    cases final
    exact .inr ⟨rest, List.concat_eq_append, rfl⟩

theorem append_eq_append_cases (same : items ++ extra = before ++ after) :
    (∃ rest, items = before ++ rest) ∨ ∃ gap, before = items ++ gap ∧ gap <+: extra := by
  rcases List.append_eq_append_iff.mp same with ⟨gap, beforeEq, extraEq⟩ | ⟨gap, itemsEq, _⟩
  · exact .inr ⟨gap, beforeEq, after, extraEq.symm⟩
  · exact .inl ⟨gap, itemsEq⟩

end Ends

namespace Course

variable {index : Nat} {emission : Emission} {phase : Phase} {cancelled : Bool}
  {history before after between window : List Event}

theorem mem_delivered {reply : Except String Outcome} {event : Event}
    (member : event ∈ delivered index emission cancelled reply) :
    cancelled = false ∧ ∃ result, emission reply = some result ∧ event = .emitted index result := by
  unfold delivered at member
  cases cancelled with
  | true => cases member
  | false =>
      obtain ⟨result, emitted, same⟩ := List.mem_map.mp member
      exact ⟨rfl, result, Option.mem_toList.mp emitted, same.symm⟩

theorem not_cancelled_of_due (course : Course index emission phase cancelled history)
    (due : phase = .due) : cancelled = false := by
  induction course with
  | started | signalled | renewed => rfl
  | ignored course ih => exact ih due
  | cancelled course undue => exact absurd due undue
  | called | replied | rested => cases due

theorem not_mem_delivered {event : Event} {reply : Except String Outcome}
    (silent : event.emitted? = none) :
    event ∉ .replied index reply :: delivered index emission cancelled reply ↔
      event ≠ .replied index reply := by
  rw [List.mem_cons, not_or]
  refine and_iff_left fun member => ?_
  obtain ⟨_, result, _, rfl⟩ := mem_delivered member
  cases silent

theorem cancelled_iff (course : Course index emission phase cancelled history) :
    cancelled = true ↔ .cancelled index ∈ history := by
  induction course with
  | started => simp
  | cancelled => simp
  | @replied _ cancelled _ course reply ih =>
      have absent : .cancelled index ∉
          .replied index reply :: delivered index emission cancelled reply :=
        (not_mem_delivered rfl).mpr nofun
      rw [ih, List.mem_append, or_iff_left absent]
  | signalled _ _ ih | ignored _ ih | called _ ih | renewed _ ih | rested _ _ ih => simpa using ih

theorem final (course : Course index emission phase cancelled history) :
    history.Pairwise fun earlier later =>
      earlier = .cancelled index → later ≠ .called index ∧ later.emitted? = none := by
  induction course with
  | started => exact List.pairwise_singleton _ _
  | called course ih =>
      refine List.pairwise_append.mpr ⟨ih, List.pairwise_singleton _ _, ?_⟩
      rintro earlier member _ _ rfl
      have uncancelled := course.not_cancelled_of_due rfl
      rw [course.cancelled_iff.mpr member] at uncancelled
      cases uncancelled
  | replied course reply ih =>
      refine List.pairwise_append.mpr ⟨ih, ?_, ?_⟩
      · refine List.pairwise_cons.mpr ⟨nofun, List.pairwise_of_forall_mem_list ?_⟩
        rintro _ member _ _ rfl
        obtain ⟨_, _, _, same⟩ := mem_delivered member
        cases same
      · rintro _ member later added rfl
        rcases List.mem_cons.mp added with rfl | added
        · exact ⟨nofun, rfl⟩
        · have uncancelled := (mem_delivered added).1
          rw [course.cancelled_iff.mpr member] at uncancelled
          cases uncancelled
  | signalled _ _ ih | ignored _ ih | renewed _ ih | rested _ _ ih | cancelled _ _ ih =>
      refine List.pairwise_append.mpr ⟨ih, List.pairwise_singleton _ _, ?_⟩
      simp [Event.emitted?]

section Tests

variable {test : Event → Bool} {reply : Except String Outcome}
  (silent : ∀ result, test (.emitted index result) = false)

include silent

theorem any_delivered : (delivered index emission cancelled reply).any test = false := by
  refine List.any_eq_false.mpr fun event member => ?_
  obtain ⟨_, result, _, rfl⟩ := mem_delivered member
  simp [silent result]

theorem countP_replied :
    (.replied index reply :: delivered index emission cancelled reply).countP test =
      if test (.replied index reply) then 1 else 0 := by
  have none : (delivered index emission cancelled reply).countP test = 0 :=
    List.countP_eq_zero.mpr (List.any_eq_false.mp (any_delivered silent))
  rw [List.countP_cons, none, Nat.zero_add]

theorem any_replied (unmet : test (.replied index reply) = false) :
    (.replied index reply :: delivered index emission cancelled reply).any test = false := by
  rw [List.any_cons, unmet, any_delivered silent, Bool.or_self]

end Tests

theorem calls_eq (course : Course index emission phase cancelled history) :
    history.countP Event.calls = history.countP Event.replies + phase.unanswered := by
  induction course with
  | started => rfl
  | signalled course undue ih => simpa [Event.calls, Event.replies] using ih
  | replied course reply ih =>
      rw [List.countP_append, List.countP_append, ih, countP_replied, countP_replied]
      · rfl
      · exact fun _ => rfl
      · exact fun _ => rfl
  | called | ignored | renewed | rested | cancelled =>
      simp_all [Event.calls, Event.replies, Phase.unanswered]

/-- What is added to a course keeps calls and replies in turn if it has a call only
where none is open, and a reply only where one is. -/
theorem serial_within {extra gap : List Event}
    (course : Course index emission phase cancelled history) (within : gap <+: extra)
    (called : phase.unanswered + extra.countP Event.calls ≤ 1)
    (replied : extra.countP Event.replies ≤ phase.unanswered) :
    (history ++ gap).countP Event.replies ≤ (history ++ gap).countP Event.calls ∧
      (history ++ gap).countP Event.calls ≤ (history ++ gap).countP Event.replies + 1 := by
  have fewerCalls := within.sublist.countP_le (p := Event.calls)
  have fewerReplies := within.sublist.countP_le (p := Event.replies)
  have ended := course.calls_eq
  rw [List.countP_append, List.countP_append]
  omega

/-- Calls are answered one by one: none comes before the last is answered. -/
theorem serial (course : Course index emission phase cancelled history)
    (split : history = before ++ after) :
    before.countP Event.replies ≤ before.countP Event.calls ∧
      before.countP Event.calls ≤ before.countP Event.replies + 1 := by
  induction course generalizing before after with
  | started =>
      have start : before <+: [.signalled index] := ⟨after, split.symm⟩
      have calls : before.countP Event.calls ≤ 0 := start.countP_le
      have replies : before.countP Event.replies ≤ 0 := start.countP_le
      omega
  | replied course reply ih =>
      rcases append_eq_append_cases split with ⟨rest, earlier⟩ | ⟨gap, rfl, within⟩
      · exact ih earlier
      · refine course.serial_within within ?_ ?_
        · exact Nat.le_of_eq (congrArg (1 + ·) (countP_replied fun _ => rfl))
        · exact Nat.le_of_eq (countP_replied fun _ => rfl)
  | called course ih =>
      rcases append_eq_append_cases split with ⟨rest, earlier⟩ | ⟨gap, rfl, within⟩
      · exact ih earlier
      · exact course.serial_within within (Nat.le_refl _) (Nat.le_refl _)
  | @signalled phase _ course _ ih | @ignored phase _ course ih | @cancelled phase _ _ course _ ih =>
      rcases append_eq_append_cases split with ⟨rest, earlier⟩ | ⟨gap, rfl, within⟩
      · exact ih earlier
      · exact course.serial_within within phase.unanswered_le_one (Nat.zero_le _)
  | renewed course ih | rested course _ ih =>
      rcases append_eq_append_cases split with ⟨rest, earlier⟩ | ⟨gap, rfl, within⟩
      · exact ih earlier
      · exact course.serial_within within (Nat.zero_le _) (Nat.zero_le _)

theorem any_cancels (course : Course index emission phase cancelled history) :
    history.any Event.cancels = cancelled := by
  induction course with
  | replied course reply ih =>
      rw [List.any_append, ih, any_replied (fun _ => rfl) rfl, Bool.or_false]
  | _ => simp_all [Event.cancels]

/-- The emissions are those of the replies before a cancellation, in their order. -/
theorem emissions_eq (course : Course index emission phase cancelled history) :
    history.filterMap Event.emitted? =
      ((Event.heeded history).filterMap Event.reply?).filterMap emission := by
  induction course with
  | started => rfl
  | @replied _ cancelled before course reply ih =>
      rw [Event.heeded_append, course.any_cancels]
      simp only [List.filterMap_append, ih]
      refine congrArg _ ?_
      cases cancelled with
      | true => rfl
      | false =>
          cases emitted : emission reply with
          | none =>
              simp [delivered, Event.heeded, Event.cancels, Event.reply?, Event.emitted?, emitted]
          | some result =>
              simp [delivered, Event.heeded, Event.cancels, Event.reply?, Event.emitted?, emitted,
                List.filterMap_cons]
  | signalled course _ ih | ignored course ih | called course ih | renewed course ih
  | rested course _ ih | cancelled course _ ih =>
      rw [Event.heeded_append, course.any_cancels]
      simp only [List.filterMap_append, ih]
      refine congrArg _ ?_
      split <;> rfl

end Course

end CheckedSql

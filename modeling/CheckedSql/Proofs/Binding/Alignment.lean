import CheckedSql.Binding
import CheckedSql.Proofs.Except
import CheckedSql.Proofs.Sql.Expansion

namespace CheckedSql.Binding

open Sql Text

/-! Bound statements beside their templates.

`Aligned` lays a template and the statement bound from it side by side. Both have the
same gaps between their markers; where the template has a marker, the statement has
a question mark for each value that the marker takes, and `Takes` says which values
these are. The main statement is `bind_aligned`: the question marks that a scan of the
bound text finds are those of the markers, each at the place of its value.
-/

/-- The values that a slot takes of what is supplied, and the positional values that
it leaves. -/
inductive Takes (supplied? : String → Option Argument) :
    Slot → List Value → List Value → List Value → Prop
  | named {name : String} {argument : Argument} {positional : List Value}
      (supplied : supplied? name = some argument) :
      Takes supplied? (.named name) positional argument.values positional
  | positional {value : Value} {rest : List Value} :
      Takes supplied? .positional (value :: rest) [value] rest

/-- So many question marks with a comma and a blank between them. -/
def joined (count : Nat) : List Char :=
  [',', ' '].intercalate (List.replicate count ['?'])

def placed (offset : Nat) : List Value → List (Nat × Value)
  | [] => []
  | value :: rest => (offset, value) :: placed (offset + 3) rest

/-- Reads: from these offsets on, with these positional values to come, the markers
of the first text become question marks in the second, and the values stand at these
offsets there. -/
inductive Aligned (supplied? : String → Option Argument) :
    Nat → Nat → List Value → List Marker → List Char → List Char → List (Nat × Value) → Prop
  | ending {source target : Nat} (gap : List Char) :
      Aligned supplied? source target [] [] gap gap []
  | marker {source target : Nat} {slot : Slot} {positional values left : List Value}
      {markers : List Marker} {before after : List Char} {places : List (Nat × Value)}
      (gap : List Char) (takes : Takes supplied? slot positional values left)
      (further : Aligned supplied? (source + byteSize gap + byteSize slot.text)
        (target + byteSize gap + byteSize (joined values.length)) left markers before after
        places) :
      Aligned supplied? source target positional (⟨slot, source + byteSize gap⟩ :: markers)
        (gap ++ slot.text ++ before) (gap ++ joined values.length ++ after)
        (placed (target + byteSize gap) values ++ places)

theorem questionMarks_eq_joined (count : Nat) : Template.questionMarks count = joined count := by
  fun_induction Template.questionMarks count with
  | case1 => rfl
  | case2 => rfl
  | case3 count ih =>
      rw [ih]
      simp [joined, List.replicate_succ, List.intercalate_cons_cons]

theorem placed_snd (offset : Nat) (values : List Value) :
    (placed offset values).map Prod.snd = values := by
  fun_induction placed offset values with
  | case1 => rfl
  | case2 offset value rest ih => rw [List.map_cons, ih]

theorem markersFrom_questions (offset : Nat) (values : List Value) :
    markersFrom offset (Segment.questions values.length) =
      (placed offset values).map fun place => ⟨.positional, place.1⟩ := by
  induction values generalizing offset with
  | nil => rfl
  | cons value rest ih =>
      cases rest with
      | nil => rfl
      | cons next rest =>
          have tail := ih (offset + 3)
          simp only [List.length_cons] at tail
          simp only [List.length_cons, Segment.questions, markersFrom, placed, List.map_cons]
          exact congrArg _ tail

variable {given? : String → Option Argument} {arity : String → Nat}

theorem Aligned.prepend {source target : Nat} {positional : List Value} {markers : List Marker}
    {before after gap : List Char} {places : List (Nat × Value)}
    (aligned : Aligned given? (source + byteSize gap) (target + byteSize gap) positional markers
      before after places) :
    Aligned given? source target positional markers (gap ++ before) (gap ++ after) places := by
  generalize sourceEq : source + byteSize gap = sourceStart at aligned
  generalize targetEq : target + byteSize gap = targetStart at aligned
  cases aligned with
  | ending => exact .ending (gap ++ _)
  | @marker _ _ slot _ values left markers before after places inner takes further =>
      subst sourceEq targetEq
      rw [Nat.add_assoc source, Nat.add_assoc target, ← byteSize_append] at further
      have grown := Aligned.marker (gap ++ inner) takes further
      rw [byteSize_append, ← Nat.add_assoc, ← Nat.add_assoc] at grown
      simpa only [List.append_assoc] using grown

theorem positionalCount_positional (slots : List Slot) :
    positionalCount (.positional :: slots) = positionalCount slots + 1 :=
  List.countP_cons_of_pos rfl

theorem takes_of_slotValues {slot : Slot} {slots : List Slot} {positional values : List Value}
    (read : slotValues given? positional (slot :: slots) = .ok values)
    (enough : positional.length = positionalCount (slot :: slots)) :
    ∃ taken left further, Takes given? slot positional taken left ∧
      slotValues given? left slots = .ok further ∧ values = taken ++ further ∧
      left.length = positionalCount slots := by
  cases slot with
  | named name =>
      cases supplied : given? name with
      | none => simp [slotValues, supplied] at read
      | some argument =>
          simp only [slotValues, supplied] at read
          obtain ⟨further, tail, same⟩ := map_eq_ok_iff.mp read
          exact ⟨argument.values, positional, further, .named supplied, tail, same.symm,
            by simpa [positionalCount, isPositional] using enough⟩
  | positional =>
      cases positional with
      | nil => rw [positionalCount_positional] at enough; cases enough
      | cons value left =>
          simp only [slotValues, List.tail_cons, List.head?_cons, Option.toList_some] at read
          obtain ⟨further, tail, same⟩ := map_eq_ok_iff.mp read
          rw [positionalCount_positional] at enough
          exact ⟨[value], left, further, .positional, tail, same.symm, Nat.succ.inj enough⟩

theorem Takes.slotArity {slot : Slot} {positional taken left : List Value}
    (takes : Takes given? slot positional taken left)
    (sized : ∀ name argument, given? name = some argument →
      arity name = argument.values.length) :
    Template.slotArity arity slot = taken.length := by
  cases takes with
  | named supplied => exact sized _ _ supplied
  | positional => rfl

/-- A template lies aligned with its expansion if the expansion has as many question
marks for each name as it has values. -/
theorem aligned_expanded (source target : Nat) {segments : List Segment}
    {positional values : List Value}
    (sized : ∀ name argument, given? name = some argument →
      arity name = argument.values.length)
    (read : slotValues given? positional (segments.filterMap Segment.slot?) = .ok values)
    (enough : positional.length = positionalCount (segments.filterMap Segment.slot?)) :
    ∃ places, Aligned given? source target positional (markersFrom source segments)
        (segments.flatMap Segment.text) (segments.flatMap (Template.expandSegment arity)) places ∧
      values = places.map Prod.snd ∧
      markersFrom target (segments.flatMap (Segment.expanded arity)) =
        places.map fun place => ⟨.positional, place.1⟩ := by
  induction segments generalizing source target positional values with
  | nil =>
      cases read
      cases List.length_eq_zero_iff.mp enough
      exact ⟨[], .ending [], rfl, rfl⟩
  | cons segment rest ih =>
      cases marked : segment.slot? with
      | none =>
          simp only [List.filterMap_cons, marked] at read enough
          obtain ⟨places, aligned, valuesEq, markersEq⟩ := ih (source + segment.size)
            (target + segment.size) read enough
          refine ⟨places, ?_, valuesEq, ?_⟩
          · simpa [markersFrom, marked, Template.expandSegment] using aligned.prepend
          · simpa [markersFrom, marked, Segment.expanded] using markersEq
      | some slot =>
          rw [List.filterMap_cons_some marked] at read enough
          obtain ⟨taken, left, further, takes, readRest, rfl, enoughRest⟩ :=
            takes_of_slotValues read enough
          have size : segment.size = byteSize slot.text := by
            rw [Segment.size, Segment.text_eq_of_slot? marked]
          have count := takes.slotArity sized
          obtain ⟨places, aligned, rfl, markersEq⟩ := ih (source + byteSize slot.text)
            (target + byteSize (joined taken.length)) readRest enoughRest
          refine ⟨placed target taken ++ places, ?_, by rw [List.map_append, placed_snd], ?_⟩
          · have laid := Aligned.marker [] takes aligned
            simpa [markersFrom, marked, Template.expandSegment, count, size, byteSize,
              questionMarks_eq_joined, Segment.text_eq_of_slot? marked] using laid
          · simp only [List.flatMap_cons, Segment.expanded, marked, count]
            rw [markersFrom_append, markersFrom_questions, Segment.questions_text,
              questionMarks_eq_joined, List.map_append]
            exact congrArg _ markersEq

section Bind

variable {text : String} {parameters : List Parameter} {arguments : Arguments} {limit : Nat}
  {binding : Binding}

theorem checkPositional_eq_ok_iff {slots : List Slot} :
    checkPositional slots arguments = .ok () ↔
      arguments.positional.length = positionalCount slots := by
  unfold checkPositional
  simp only
  split
  · exact iff_of_false nofun (by omega)
  · split
    · exact iff_of_false nofun (by omega)
    · exact iff_of_true rfl (by omega)

theorem bound_of_bind {template : Template}
    (bound : bind template parameters arguments limit = .ok binding) :
    arguments.positional.length = positionalCount template.slots ∧
      slotValues (supplied? parameters arguments) arguments.positional template.slots =
        .ok binding.values ∧
      binding.text = template.expand (Binding.arity parameters arguments) := by
  unfold bind at bound
  obtain ⟨_, _, bound⟩ := bind_eq_ok_iff.mp bound
  obtain ⟨_, positional, bound⟩ := bind_eq_ok_iff.mp bound
  obtain ⟨_, _, bound⟩ := bind_eq_ok_iff.mp bound
  obtain ⟨values, read, same⟩ := bind_eq_ok_iff.mp bound
  cases same
  exact ⟨checkPositional_eq_ok_iff.mp positional, read, rfl⟩

theorem arity_of_supplied {name : String} {argument : Argument}
    (supplied : supplied? parameters arguments name = some argument) :
    Binding.arity parameters arguments name = argument.values.length := by
  rw [Binding.arity, supplied]

theorem arity_pos {name : String}
    (filled : ∀ parameter ∈ parameters, arguments.get? parameter.name ≠ some (.list [])) :
    0 < Binding.arity parameters arguments name := by
  unfold Binding.arity
  cases supplied : supplied? parameters arguments name with
  | none => exact Nat.one_pos
  | some argument =>
      unfold supplied? at supplied
      split at supplied
      · rename_i declared
        obtain ⟨parameter, member, same⟩ := List.any_eq_true.mp declared
        cases argument with
        | single value => exact Nat.one_pos
        | list values =>
            cases values with
            | nil =>
                rw [← of_decide_eq_true same] at supplied
                exact absurd supplied (filled parameter member)
            | cons value rest => exact Nat.succ_pos _
      · cases supplied

/-- A scan of a bound text finds the question marks of its values, each at the place of
the marker that its value comes from. -/
theorem bind_aligned {markers : List Marker} (scanned : markers? text = .ok markers)
    (bound : bind (.ofText text) parameters arguments limit = .ok binding)
    (filled : ∀ parameter ∈ parameters, arguments.get? parameter.name ≠ some (.list [])) :
    ∃ places, Aligned (supplied? parameters arguments) 0 0 arguments.positional markers
        text.toList binding.text.toList places ∧
      binding.values = places.map Prod.snd ∧
      markers? binding.text = .ok (places.map fun place => ⟨.positional, place.1⟩) := by
  obtain ⟨readable, rfl⟩ := markers?_eq_ok_iff.mp scanned
  obtain ⟨enough, read, expansion⟩ := bound_of_bind bound
  obtain ⟨places, aligned, valuesEq, markersEq⟩ := aligned_expanded 0 0
    (fun _ _ => arity_of_supplied) read enough
  have taken : ∀ slot ∈ (split text.toList).filterMap Segment.slot?,
      0 < Template.slotArity (Binding.arity parameters arguments) slot := by
    intro slot _
    cases slot with
    | named name => exact arity_pos filled
    | positional => exact Nat.one_pos
  have segmented := segmented_expanded (segmented_split text.toList) readable taken
  have produced : binding.text.toList =
      (split text.toList).flatMap (Template.expandSegment (Binding.arity parameters arguments)) := by
    rw [expansion, Template.expand, String.toList_ofList]
    rfl
  have resplit : split binding.text.toList =
      (split text.toList).flatMap (Segment.expanded (Binding.arity parameters arguments)) := by
    rw [produced, ← Segment.flatMap_expanded_text, split_of_segmented segmented]
  refine ⟨places, ?_, valuesEq, markers?_eq_ok_iff.mpr ?_⟩
  · rw [produced]
    simpa only [Template.ofText, split_flatMap_text] using aligned
  · rw [resplit]
    exact ⟨readable_expanded readable, markersEq.symm⟩

end Bind

/-- A value of its own, a list of two and a positional argument. -/
theorem bind_aligned_list :
    let text := "id = :id OR id IN (:ids, ?)"
    let markers : List Marker := [⟨.named "id", 5⟩, ⟨.named "ids", 19⟩, ⟨.positional, 25⟩]
    let parameters : List Parameter := [⟨"id", .integer, false⟩, ⟨"ids", .integer, true⟩]
    let arguments : Arguments :=
      ⟨[("id", .single (.integer 1)), ("ids", .list [.integer 2, .integer 3])], [.null]⟩
    let binding : Binding :=
      ⟨"id = ? OR id IN (?, ?, ?)", [.integer 1, .integer 2, .integer 3, .null]⟩
    markers? text = .ok markers ∧
      bind (.ofText text) parameters arguments 999 = .ok binding ∧
      (∀ parameter ∈ parameters, arguments.get? parameter.name ≠ some (.list [])) ∧
      ∃ places, Aligned (supplied? parameters arguments) 0 0 arguments.positional markers
          text.toList binding.text.toList places ∧
        binding.values = places.map Prod.snd ∧
        markers? binding.text = .ok (places.map fun place => ⟨.positional, place.1⟩) := by
  intro text markers parameters arguments binding
  have scanned : markers? text = .ok markers := by decide +kernel
  have bound : bind (.ofText text) parameters arguments 999 = .ok binding := by decide +kernel
  have filled : ∀ parameter ∈ parameters, arguments.get? parameter.name ≠ some (.list []) := by
    decide
  exact ⟨scanned, bound, filled, bind_aligned scanned bound filled⟩

end CheckedSql.Binding

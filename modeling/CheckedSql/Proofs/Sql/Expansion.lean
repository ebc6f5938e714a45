import CheckedSql.Sql.Template
import CheckedSql.Proofs.Sql.Grammar

namespace CheckedSql.Sql

open Text

namespace Segment

/-- Neither a lone colon nor an open quote. -/
def Readable : Segment → Prop
  | .colon | .unclosed _ _ => False
  | _ => True

theorem fault?_eq_none_iff (rest : List Segment) {segment : Segment} :
    segment.fault? rest = none ↔ segment.Readable := by
  cases segment <;> simp [fault?, Readable]

def questions : Nat → List Segment
  | 0 => []
  | 1 => [.positional]
  | count + 2 => .positional :: .other ',' :: .other ' ' :: questions (count + 1)

def expanded (arity : String → Nat) (segment : Segment) : List Segment :=
  match segment.slot? with
  | some slot => questions (Template.slotArity arity slot)
  | none => [segment]

theorem questions_text (count : Nat) :
    (questions count).flatMap text = Template.questionMarks count := by
  fun_induction questions count with
  | case1 => rfl
  | case2 => rfl
  | case3 count ih =>
      simp only [List.flatMap_cons, text, ih, List.cons_append, List.nil_append,
        Template.questionMarks]

theorem expanded_text (arity : String → Nat) (segment : Segment) :
    (segment.expanded arity).flatMap text = Template.expandSegment arity segment := by
  unfold expanded Template.expandSegment
  cases segment.slot? with
  | none => exact List.flatMap_singleton _ _
  | some slot => exact questions_text _

theorem flatMap_expanded_text (arity : String → Nat) (segments : List Segment) :
    (segments.flatMap (expanded arity)).flatMap text =
      segments.flatMap (Template.expandSegment arity) := by
  simp only [List.flatMap_assoc, expanded_text]

theorem readable_questions {count : Nat} : ∀ segment ∈ questions count, segment.Readable := by
  fun_induction questions count with
  | case1 => exact List.forall_mem_nil _
  | case2 => exact List.forall_mem_singleton.mpr trivial
  | case3 count ih =>
      exact List.forall_mem_cons.mpr ⟨trivial, List.forall_mem_cons.mpr ⟨trivial,
        List.forall_mem_cons.mpr ⟨trivial, ih⟩⟩⟩

/-- Whether a segment stops depends on the next character alone. -/
theorem stops_of_head? {segment : Segment} {after other : List Char}
    (same : other.head? = after.head?) (stops : segment.Stops after) : segment.Stops other := by
  have ended : after = [] → other = [] := by
    rintro rfl
    exact List.head?_eq_none_iff.mp same
  cases segment <;> simp only [Stops, same] at stops ⊢
  case lineComment => exact fun unended => ended (stops unended)
  case blockComment => exact fun unclosed => ended (stops unclosed)
  case unclosed => exact ended stops
  all_goals exact stops

/-- Only a name goes on before a question mark where something else may follow. -/
theorem stops_of_question {segment : Segment} {after other : List Char} (legal : segment.Legal)
    (readable : segment.Readable) (followed : after ≠ []) (stops : segment.Stops after)
    (question : other.head? = some '?') : segment.Stops other := by
  cases segment with
  | literal quote body =>
      obtain ⟨rfl | rfl, _⟩ := legal <;> simp [Stops, question]
  | lineComment body ended => exact fun unended => absurd (stops unended) followed
  | blockComment body closed => exact fun unclosed => absurd (stops unclosed) followed
  | colon => exact readable.elim
  | unclosed quote body => exact readable.elim
  | named name =>
      intro char head
      cases question.symm.trans head
      rfl
  | _ => simp [Stops, question]

end Segment

/-- The markers of segments, by their offsets. -/
def markersFrom (offset : Nat) : List Segment → List Marker
  | [] => []
  | segment :: rest =>
      segment.slot?.toList.map (⟨·, offset⟩) ++ markersFrom (offset + segment.size) rest

theorem markersFrom_append (offset : Nat) (left right : List Segment) :
    markersFrom offset (left ++ right) =
      markersFrom offset left ++
        markersFrom (offset + byteSize (left.flatMap Segment.text)) right := by
  induction left generalizing offset with
  | nil => rfl
  | cons segment rest ih =>
      rw [List.cons_append, markersFrom, ih, markersFrom, List.append_assoc, List.flatMap_cons,
        byteSize_append, Segment.size, Nat.add_assoc]

theorem readings_eq_ok_iff {offset : Nat} {segments : List Segment} {markers : List Marker} :
    (readings offset segments).mapM id = Except.ok markers ↔
      (∀ segment ∈ segments, segment.Readable) ∧ markers = markersFrom offset segments := by
  fun_induction readings offset segments generalizing markers with
  | case1 => simp [markersFrom, pure, Except.pure, eq_comm]
  | case2 offset segment rest fault faulty =>
      have unreadable : ¬ segment.Readable := by
        rw [← Segment.fault?_eq_none_iff rest, faulty]
        exact Option.some_ne_none fault
      simp [bind, Except.bind, unreadable]
  | case3 offset segment rest sound slot marked ih =>
      have readable := (Segment.fault?_eq_none_iff rest).mp sound
      rw [List.forall_mem_cons, and_iff_right readable, markersFrom, marked]
      simp only [List.mapM_cons, id, bind, Except.bind, pure, Except.pure]
      cases tail : (readings (offset + segment.size) rest).mapM id with
      | error fault =>
          refine iff_of_false (fun read => by cases read) ?_
          rintro ⟨sound, _⟩
          cases tail.symm.trans (ih.mpr ⟨sound, rfl⟩)
      | ok further =>
          obtain ⟨sound, same⟩ := ih.mp tail
          rw [and_iff_right sound, same]
          simp [eq_comm]
  | case4 offset segment rest sound unmarked ih =>
      have readable := (Segment.fault?_eq_none_iff rest).mp sound
      rw [ih, List.forall_mem_cons, and_iff_right readable, markersFrom, unmarked]
      rfl

theorem markers?_eq_ok_iff {text : String} {markers : List Marker} :
    markers? text = .ok markers ↔
      (∀ segment ∈ split text.toList, segment.Readable) ∧
        markers = markersFrom 0 (split text.toList) :=
  readings_eq_ok_iff

/-- The first character of an expansion is that of the template, or a question mark in
the place of a name. -/
theorem head?_expanded {arity : String → Nat} {segments : List Segment}
    (taken : ∀ slot ∈ segments.filterMap Segment.slot?, 0 < Template.slotArity arity slot) :
    (segments.flatMap (Template.expandSegment arity)).head? =
        (segments.flatMap Segment.text).head? ∨
      segments.flatMap Segment.text ≠ [] ∧
        (segments.flatMap (Template.expandSegment arity)).head? = some '?' := by
  cases segments with
  | nil => exact .inl rfl
  | cons segment rest =>
      have nonempty : (segment :: rest).flatMap Segment.text ≠ [] := by
        simp [segment.text_ne_nil]
      cases marked : segment.slot? with
      | none =>
          refine .inl ?_
          simp only [List.flatMap_cons, Template.expandSegment, marked]
          obtain ⟨char, further, same⟩ := List.exists_cons_of_ne_nil segment.text_ne_nil
          rw [same]
          rfl
      | some slot =>
          have positive := taken slot (by simp [marked])
          refine .inr ⟨nonempty, ?_⟩
          simp only [List.flatMap_cons, Template.expandSegment, marked]
          cases many : Template.slotArity arity slot with
          | zero => omega
          | succ count => cases count <;> rfl

theorem segmented_questions {rest : List Segment} (segmented : Segmented rest) (count : Nat) :
    Segmented (Segment.questions count ++ rest) := by
  fun_induction Segment.questions count with
  | case1 => exact segmented
  | case2 => exact .cons trivial trivial segmented
  | case3 count ih =>
      refine .cons trivial trivial (.cons ?_ ?_ (.cons ?_ ?_ ih))
      all_goals simp [Segment.Legal, Segment.Stops, isQuote]

theorem readable_expanded {arity : String → Nat} {segments : List Segment}
    (readable : ∀ segment ∈ segments, segment.Readable) :
    ∀ segment ∈ segments.flatMap (Segment.expanded arity), segment.Readable := by
  intro segment member
  obtain ⟨source, origin, inside⟩ := List.mem_flatMap.mp member
  unfold Segment.expanded at inside
  split at inside
  · exact Segment.readable_questions segment inside
  · cases List.mem_singleton.mp inside
    exact readable segment origin

/-- Writing question marks for the names leaves every other segment as it was. -/
theorem segmented_expanded {arity : String → Nat} {segments : List Segment}
    (segmented : Segmented segments) (readable : ∀ segment ∈ segments, segment.Readable)
    (taken : ∀ slot ∈ segments.filterMap Segment.slot?, 0 < Template.slotArity arity slot) :
    Segmented (segments.flatMap (Segment.expanded arity)) := by
  induction segmented with
  | nil => exact .nil
  | @cons segment rest legal stops further ih =>
      have takenRest : ∀ slot ∈ rest.filterMap Segment.slot?, 0 < Template.slotArity arity slot :=
        fun slot member => taken slot (by
          rw [List.filterMap_cons]
          split
          · exact member
          · exact List.mem_cons_of_mem _ member)
      have tail := ih (fun other member => readable other (List.mem_cons_of_mem _ member)) takenRest
      rw [List.flatMap_cons, Segment.expanded]
      cases marked : segment.slot? with
      | some slot => exact segmented_questions tail _
      | none =>
          refine .cons legal ?_ tail
          change segment.Stops ((rest.flatMap (Segment.expanded arity)).flatMap Segment.text)
          rw [Segment.flatMap_expanded_text]
          rcases head?_expanded takenRest with same | ⟨followed, question⟩
          · exact Segment.stops_of_head? same stops
          · exact Segment.stops_of_question legal (readable segment List.mem_cons_self) followed
              stops question

end CheckedSql.Sql

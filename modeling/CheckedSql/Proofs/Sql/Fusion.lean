import CheckedSql.Proofs.Sql.Expansion

namespace CheckedSql.Sql

open Text

/-! Reading an expanded template in which names are left without a question mark.

What stands on the two sides of such a name comes together. Two literals in the same
quotes become one, with the inner quotes doubled, and a dash before a comment of two
dashes becomes part of it; neither moves a marker (`Fused`). Only a dash before a dash
and a slash before a star open a comment that was not there. Where the template is
`Guarded` against these, its expansion is read with the markers that were written
(`exists_fused`).
-/

/-- Two segments that open a comment where nothing stands between them. -/
inductive OpensComment : Segment → Segment → Prop
  | line : OpensComment (.other '-') (.other '-')
  | block : OpensComment (.other '/') (.other '*')

/-- No two segments that open a comment have only empty expansions between them. -/
def Guarded (arity : String → Nat) (segments : List Segment) : Prop :=
  ∀ before left gone right after, segments = before ++ left :: (gone ++ right :: after) →
    (∀ segment ∈ gone, Template.expandSegment arity segment = []) → ¬ OpensComment left right

/-- Segments that are read where others are written, with the same markers. -/
structure Fused (written read : List Segment) : Prop where
  segmented : Segmented read
  readable : ∀ segment ∈ read, segment.Readable
  text : read.flatMap Segment.text = written.flatMap Segment.text
  markers : ∀ offset, markersFrom offset read = markersFrom offset written

variable {arity : String → Nat} {segment first : Segment}
  {segments written read more : List Segment} {char quote : Char}

section Heads

theorem other_of_star (legal : segment.Legal) (head : segment.text.head? = some '*') :
    segment = .other '*' := by
  cases segment with
  | other char =>
      cases head
      rfl
  | literal quote body => obtain ⟨rfl | rfl, _⟩ := legal <;> cases head
  | unclosed quote body =>
      cases head
      cases legal.1
  | _ => cases head

theorem dash_of_head (legal : segment.Legal) (head : segment.text.head? = some '-') :
    segment = .other '-' ∨ ∃ body ended, segment = .lineComment body ended := by
  cases segment with
  | other char =>
      cases head
      exact .inl rfl
  | lineComment body ended => exact .inr ⟨body, ended, rfl⟩
  | literal quote body => obtain ⟨rfl | rfl, _⟩ := legal <;> cases head
  | unclosed quote body =>
      cases head
      cases legal.1
  | _ => cases head

/-- A readable segment that starts with a quote is enclosed in it. -/
theorem quoted_of_head (legal : segment.Legal) (readable : segment.Readable)
    (isQuoted : isQuote quote = true) (head : segment.text.head? = some quote) :
    ∃ body, Enclosed quote body ∧
      segment = if quote = '`' then .identifier body else .literal quote body := by
  cases segment with
  | literal other body =>
      cases head
      obtain ⟨isLiteral, enclosed⟩ := legal
      refine ⟨body, enclosed, ?_⟩
      rcases isLiteral with rfl | rfl <;> rfl
  | identifier body =>
      cases head
      exact ⟨body, legal, rfl⟩
  | other char =>
      cases head
      cases isQuoted.symm.trans legal.1
  | unclosed => exact readable.elim
  | colon => exact readable.elim
  | _ =>
      cases head
      cases isQuoted

theorem exists_cons_of_head (head : (segments.flatMap Segment.text).head? = some char) :
    ∃ first more, segments = first :: more ∧ first.text.head? = some char := by
  cases segments with
  | nil => cases head
  | cons first more =>
      refine ⟨first, more, rfl, ?_⟩
      obtain ⟨start, rest, same⟩ := List.exists_cons_of_ne_nil first.text_ne_nil
      rw [List.flatMap_cons, same] at head
      rw [same]
      exact head

/-- What an expansion starts with comes of the first segment that is not left out. -/
theorem exists_of_head_expansion
    (head : (segments.flatMap (Template.expandSegment arity)).head? = some char) :
    ∃ gone right after, segments = gone ++ right :: after ∧
      (∀ segment ∈ gone, Template.expandSegment arity segment = []) ∧
      (Template.expandSegment arity right).head? = some char := by
  induction segments with
  | nil => cases head
  | cons segment rest ih =>
      rw [List.flatMap_cons] at head
      cases expansion : Template.expandSegment arity segment with
      | nil =>
          rw [expansion, List.nil_append] at head
          obtain ⟨gone, right, after, rfl, empty, first⟩ := ih head
          exact ⟨segment :: gone, right, after, rfl, List.forall_mem_cons.mpr ⟨expansion, empty⟩,
            first⟩
      | cons start further =>
          rw [expansion] at head
          exact ⟨[], segment, rest, rfl, List.forall_mem_nil _, by rw [expansion]; exact head⟩

theorem expandSegment_of_head (head : (Template.expandSegment arity segment).head? = some char)
    (notMark : char ≠ '?') : Template.expandSegment arity segment = segment.text := by
  unfold Template.expandSegment at head ⊢
  cases marked : segment.slot? with
  | none => rfl
  | some slot =>
      simp only [marked] at head
      generalize Template.slotArity arity slot = count at head
      match count, head with
      | 1, head => exact absurd (Option.some.inj head).symm notMark
      | count + 2, head => exact absurd (Option.some.inj head).symm notMark

end Heads

theorem Enclosed.doubled_append {body other : List Char} (enclosed : Enclosed quote body)
    (further : Enclosed quote other) : Enclosed quote (body ++ quote :: quote :: other) := by
  induction enclosed with
  | nil => exact .doubled further
  | escaped escapes char _ ih => exact .escaped escapes char ih
  | doubled _ ih => exact .doubled ih
  | plain different unescaped _ ih => exact .plain different unescaped ih

namespace Fused

theorem nil : Fused [] [] :=
  ⟨.nil, List.forall_mem_nil _, rfl, fun _ => rfl⟩

theorem questions (fused : Fused written read) (count : Nat) :
    Fused (Segment.questions count ++ written) (Segment.questions count ++ read) := by
  refine ⟨segmented_questions fused.segmented count, ?_, ?_, fun offset => ?_⟩
  · intro segment member
    rcases List.mem_append.mp member with question | further
    · exact Segment.readable_questions segment question
    · exact fused.readable segment further
  · rw [List.flatMap_append, List.flatMap_append, fused.text]
  · rw [markersFrom_append, markersFrom_append, fused.markers]

theorem keep (fused : Fused written read) (legal : segment.Legal) (readable : segment.Readable)
    (stops : segment.Stops (read.flatMap Segment.text)) :
    Fused (segment :: written) (segment :: read) := by
  refine ⟨.cons legal stops fused.segmented, List.forall_mem_cons.mpr ⟨readable, fused.readable⟩,
    ?_, fun offset => ?_⟩
  · rw [List.flatMap_cons, List.flatMap_cons, fused.text]
  · rw [markersFrom, markersFrom, fused.markers]

/-- Two segments without markers are read as one. -/
theorem join {joined : Segment} (fused : Fused written (first :: more))
    (unmarked : segment.slot? = none) (firstUnmarked : first.slot? = none)
    (joinedUnmarked : joined.slot? = none) (legal : joined.Legal) (readable : joined.Readable)
    (stops : ∀ after, first.Stops after → joined.Stops after)
    (whole : joined.text = segment.text ++ first.text) :
    Fused (segment :: written) (joined :: more) := by
  have size : joined.size = segment.size + first.size := by
    rw [Segment.size, whole, byteSize_append]
    rfl
  refine ⟨?_, List.forall_mem_cons.mpr ⟨readable, (List.forall_mem_cons.mp fused.readable).2⟩, ?_,
    fun offset => ?_⟩
  · cases fused.segmented with
    | cons _ ends further => exact .cons legal (stops _ ends) further
  · rw [List.flatMap_cons, List.flatMap_cons, ← fused.text, List.flatMap_cons, whole,
      List.append_assoc]
  · rw [markersFrom, markersFrom, ← fused.markers, markersFrom, unmarked, firstUnmarked,
      joinedUnmarked, size, Nat.add_assoc]
    rfl

/-- Two literals in the same quotes are read as one that holds these quotes twice. -/
theorem literal {body : List Char} (fused : Fused written read)
    (legal : (Segment.literal quote body).Legal)
    (head : (read.flatMap Segment.text).head? = some quote) :
    ∃ joined, Fused (.literal quote body :: written) joined := by
  obtain ⟨isLiteral, enclosed⟩ := legal
  have isQuoted : isQuote quote = true := by rcases isLiteral with rfl | rfl <;> rfl
  have notBacktick : quote ≠ '`' := by rcases isLiteral with rfl | rfl <;> decide
  obtain ⟨first, more, rfl, starts⟩ := exists_cons_of_head head
  obtain ⟨other, further, same⟩ := quoted_of_head
    (legal_of_segmented fused.segmented first List.mem_cons_self)
    (fused.readable first List.mem_cons_self) isQuoted starts
  rw [if_neg notBacktick] at same
  subst same
  exact ⟨.literal quote (body ++ quote :: quote :: other) :: more, fused.join rfl rfl rfl
    ⟨isLiteral, enclosed.doubled_append further⟩ trivial (fun _ => id) (by simp [Segment.text])⟩

/-- Two names in backticks are read as one. -/
theorem identifier {body : List Char} (fused : Fused written read)
    (enclosed : Enclosed '`' body) (head : (read.flatMap Segment.text).head? = some '`') :
    ∃ joined, Fused (.identifier body :: written) joined := by
  obtain ⟨first, more, rfl, starts⟩ := exists_cons_of_head head
  obtain ⟨other, further, same⟩ := quoted_of_head
    (legal_of_segmented fused.segmented first List.mem_cons_self)
    (fused.readable first List.mem_cons_self) rfl starts
  rw [if_pos rfl] at same
  subst same
  exact ⟨.identifier (body ++ '`' :: '`' :: other) :: more, fused.join rfl rfl rfl
    (enclosed.doubled_append further) trivial (fun _ => id) (by simp [Segment.text])⟩

/-- A dash before a comment of two dashes is read as the first dash of the comment. -/
theorem dash (fused : Fused written read) (head : (read.flatMap Segment.text).head? = some '-')
    (dashes : ['-', '-'] <+: read.flatMap Segment.text) :
    ∃ joined, Fused (.other '-' :: written) joined := by
  obtain ⟨first, more, rfl, starts⟩ := exists_cons_of_head head
  have legal := legal_of_segmented fused.segmented first List.mem_cons_self
  rcases dash_of_head legal starts with rfl | ⟨body, ended, rfl⟩
  · -- a dash of its own stops before another dash
    cases fused.segmented with
    | cons _ stops _ =>
        obtain ⟨after, whole⟩ := dashes
        refine absurd ?_ (stops.1 rfl)
        rw [List.flatMap_cons, Segment.text, List.cons_append, List.cons_append,
          List.singleton_append, List.cons.injEq] at whole
        rw [← whole.2]
        rfl
  · refine ⟨.lineComment ('-' :: body) ended :: more, fused.join rfl rfl rfl ?_ trivial
      (fun _ => id) (by simp [Segment.text])⟩
    rintro (_ | ⟨_, inside⟩)
    exact legal inside

/-- A segment comes before what is read after it, or becomes part of its start. -/
theorem cons {after : List Char} (fused : Fused written read) (legal : segment.Legal)
    (readable : segment.Readable) (unmarked : segment.slot? = none)
    (stops : segment.Stops after) (ended : after = [] → read.flatMap Segment.text = [])
    (dashed : segment = .other '-' → (read.flatMap Segment.text).head? = some '-' →
      ['-', '-'] <+: read.flatMap Segment.text)
    (starred : segment = .other '/' → (read.flatMap Segment.text).head? ≠ some '*') :
    ∃ joined, Fused (segment :: written) joined := by
  by_cases here : segment.Stops (read.flatMap Segment.text)
  · exact ⟨_, fused.keep legal readable here⟩
  cases segment with
  | literal quote body => exact fused.literal legal (not_not.mp here)
  | identifier body => exact fused.identifier legal (not_not.mp here)
  | lineComment body isEnded => exact absurd (fun unended => ended (stops unended)) here
  | blockComment body isClosed => exact absurd (fun unclosed => ended (stops unclosed)) here
  | operator second => exact absurd trivial here
  | positional => exact absurd trivial here
  | named name => cases unmarked
  | colon => exact readable.elim
  | unclosed => exact readable.elim
  | other char =>
      by_cases dash : char = '-' ∧ (read.flatMap Segment.text).head? = some '-'
      · obtain ⟨rfl, head⟩ := dash
        exact fused.dash head (dashed rfl head)
      · refine absurd ⟨fun isDash head => dash ⟨isDash, head⟩, fun isSlash => ?_⟩ here
        exact starred (congrArg Segment.other isSlash)

end Fused

theorem Guarded.tail (guarded : Guarded arity (segment :: segments)) : Guarded arity segments :=
  fun before left gone right after parts => guarded (segment :: before) left gone right after
    (by rw [parts, List.cons_append])

/-- Nothing opens a comment in a template with a lone dash, and without a slash or
without a star. -/
theorem guarded_of_lone (lone : segments.count (.other '-') ≤ 1)
    (apart : .other '/' ∉ segments ∨ .other '*' ∉ segments) : Guarded arity segments := by
  rintro before left gone right after rfl _ opens
  cases opens with
  | line =>
      simp only [List.count_append, List.count_cons_self] at lone
      omega
  | block => simp at apart

/-- A guarded dash comes before no other, and only before a comment if before a dash. -/
theorem Guarded.dashes (guarded : Guarded arity (.other '-' :: segments))
    (legal : ∀ segment ∈ segments, segment.Legal)
    (head : (segments.flatMap (Template.expandSegment arity)).head? = some '-') :
    ['-', '-'] <+: segments.flatMap (Template.expandSegment arity) := by
  obtain ⟨gone, right, after, rfl, empty, starts⟩ := exists_of_head_expansion head
  have whole := expandSegment_of_head starts (by decide)
  rw [whole] at starts
  rcases dash_of_head (legal right (by simp)) starts with rfl | ⟨body, ended, rfl⟩
  · exact absurd .line (guarded [] _ gone _ after rfl empty)
  · rw [List.flatMap_append, List.flatMap_cons, whole, List.flatMap_eq_nil_iff.mpr empty]
    simp [Segment.text]

theorem Guarded.not_star (guarded : Guarded arity (.other '/' :: segments))
    (legal : ∀ segment ∈ segments, segment.Legal) :
    (segments.flatMap (Template.expandSegment arity)).head? ≠ some '*' := by
  intro head
  obtain ⟨gone, right, after, rfl, empty, starts⟩ := exists_of_head_expansion head
  rw [expandSegment_of_head starts (by decide)] at starts
  cases other_of_star (legal right (by simp)) starts
  exact guarded [] _ gone _ after rfl empty .block

/-- The expansion of a guarded template is read with the markers that are written in it,
also where names in it are left out. -/
theorem exists_fused (segmented : Segmented segments)
    (readable : ∀ segment ∈ segments, segment.Readable) (guarded : Guarded arity segments) :
    ∃ read, Fused (segments.flatMap (Segment.expanded arity)) read := by
  induction segmented with
  | nil => exact ⟨[], .nil⟩
  | @cons segment rest legal stops further ih =>
      obtain ⟨first, others⟩ := List.forall_mem_cons.mp readable
      obtain ⟨read, fused⟩ := ih others guarded.tail
      rw [List.flatMap_cons, Segment.expanded]
      cases marked : segment.slot? with
      | some slot => exact ⟨_, fused.questions _⟩
      | none =>
          have legals := legal_of_segmented further
          have text : read.flatMap Segment.text = rest.flatMap (Template.expandSegment arity) := by
            rw [fused.text, Segment.flatMap_expanded_text]
          refine fused.cons legal first marked stops (fun ends => ?_) ?_ ?_
          · cases rest with
            | nil => exact text
            | cons next _ => exact absurd (List.append_eq_nil_iff.mp ends).1 next.text_ne_nil
          · rintro rfl
            rw [text]
            exact guarded.dashes legals
          · rintro rfl
            rw [text]
            exact guarded.not_star legals

end CheckedSql.Sql

import Mathlib.Data.List.Forall2
import CheckedSql.Proofs.Sql.Scanning

namespace CheckedSql.Sql

open Text

/-! Other literals and comments in the place of those that a text has.

`Replaced` says what may take the place of a segment: another string in the same quotes,
and for a comment anything that passes for a gap between words. The segments of the new
text are the ones put there (`segmented_replaced`), unless a comment of two dashes comes
directly after a dash, where it starts one character earlier. No marker changes
(`slots_replaced`), and none moves where each place keeps its size
(`readings_replaced`).
-/

namespace Segment

def IsComment : Segment → Prop
  | .lineComment _ _ | .blockComment _ _ => True
  | _ => False

def IsBlankChar (char : Char) : Prop :=
  char = ' ' ∨ char = '\n'

/-- A comment, closed if it is a block, or a blank. -/
def Gap : Segment → Prop
  | .lineComment body _ => '\n' ∉ body
  | .blockComment body closed => ¬ ClosesComment body ∧ closed = true
  | .other char => IsBlankChar char
  | _ => False

/-- Whether a segment is no comment that lacks its end of line. -/
def endsLine : Segment → Bool
  | .lineComment _ ended => ended
  | _ => true

/-- What may take the place of a segment. -/
inductive Replaced : Segment → List Segment → Prop
  | same (segment : Segment) : Replaced segment [segment]
  | literal {quote : Char} {body other : List Char} (enclosed : Enclosed quote other) :
      Replaced (.literal quote body) [.literal quote other]
  | comment {comment : Segment} {piece : List Segment} (isComment : comment.IsComment)
      (nonempty : piece ≠ []) (gaps : ∀ other ∈ piece, other.Gap) : Replaced comment piece

/-- A segment that can be read and is no marker. -/
def Silent (segment : Segment) : Prop :=
  segment.Readable ∧ segment.slot? = none

/-- The characters with which a gap starts. -/
def StartsGap (char : Char) : Prop :=
  char = '-' ∨ char = '/' ∨ IsBlankChar char

section Gap

variable {segment : Segment}

theorem silent_of_isComment (isComment : segment.IsComment) : segment.Silent := by
  cases segment <;> first | exact ⟨trivial, rfl⟩ | cases isComment

theorem Gap.silent (gap : segment.Gap) : segment.Silent := by
  cases segment <;> first | exact ⟨trivial, rfl⟩ | cases gap

theorem Gap.legal (gap : segment.Gap) : segment.Legal := by
  cases segment with
  | lineComment body ended => exact gap
  | blockComment body closed => exact gap.1
  | other char => rcases gap with rfl | rfl <;> exact ⟨rfl, by decide, by decide⟩
  | _ => cases gap

theorem Gap.stops {after : List Char} (gap : segment.Gap)
    (placed : after = [] ∨ segment.endsLine = true) : segment.Stops after := by
  cases segment with
  | lineComment body ended =>
      exact fun unended => placed.resolve_right fun ends => by cases ends.symm.trans unended
  | blockComment body closed => exact fun unclosed => by cases gap.2.symm.trans unclosed
  | other char =>
      rcases gap with rfl | rfl <;>
        exact ⟨fun dash => absurd dash (by decide), fun slash => absurd slash (by decide)⟩
  | _ => cases gap

theorem Gap.head (gap : segment.Gap) :
    ∃ char, segment.text.head? = some char ∧ StartsGap char := by
  cases segment with
  | lineComment => exact ⟨'-', rfl, .inl rfl⟩
  | blockComment => exact ⟨'/', rfl, .inr (.inl rfl)⟩
  | other char => exact ⟨char, rfl, .inr (.inr gap)⟩
  | _ => cases gap

theorem Gap.head_dash (gap : segment.Gap) (dash : segment.text.head? = some '-') :
    ∃ body ended, segment = .lineComment body ended := by
  cases segment with
  | lineComment body ended => exact ⟨body, ended, rfl⟩
  | blockComment => cases dash
  | other char =>
      cases dash
      rcases gap with same | same <;> cases same
  | _ => cases gap

theorem colonFault_gap (gap : segment.Gap) (rest : List Segment) :
    colonFault (segment :: rest) = .missingName := by
  cases segment with
  | other char => rcases gap with rfl | rfl <;> rfl
  | _ => rfl

theorem gap_others {blanks : List Char} (blank : ∀ char ∈ blanks, IsBlankChar char) :
    ∀ other ∈ blanks.map Segment.other, other.Gap := by
  intro other member
  obtain ⟨char, present, rfl⟩ := List.mem_map.mp member
  exact blank char present

end Gap

variable {segment : Segment} {piece : List Segment}

theorem Replaced.same_or_silent (replaced : Replaced segment piece) :
    piece = [segment] ∨ segment.Silent ∧ ∀ other ∈ piece, other.Silent := by
  cases replaced with
  | same => exact .inl rfl
  | literal => exact .inr ⟨⟨trivial, rfl⟩, List.forall_mem_singleton.mpr ⟨trivial, rfl⟩⟩
  | comment isComment _ gaps =>
      exact .inr ⟨silent_of_isComment isComment, fun other member => (gaps other member).silent⟩

theorem filterMap_slot?_silent (silent : ∀ other ∈ piece, other.Silent) :
    piece.filterMap slot? = [] :=
  List.filterMap_eq_nil_iff.mpr fun other member => (silent other member).2

theorem Replaced.slots (replaced : Replaced segment piece) :
    piece.filterMap slot? = segment.slot?.toList := by
  rcases replaced.same_or_silent with rfl | ⟨silent, others⟩
  · cases found : segment.slot? <;> simp [found]
  · rw [filterMap_slot?_silent others, silent.2]
    rfl

theorem Replaced.readable (replaced : Replaced segment piece) (readable : segment.Readable) :
    ∀ other ∈ piece, other.Readable := by
  rcases replaced.same_or_silent with rfl | ⟨_, others⟩
  · exact List.forall_mem_singleton.mpr readable
  · exact fun other member => (others other member).1

theorem head?_text_cons {first : Segment} {char : Char} (head : first.text.head? = some char)
    (rest : List Segment) : ((first :: rest).flatMap text).head? = some char := by
  rw [List.flatMap_cons, List.head?_append, head]
  rfl

theorem Replaced.head (replaced : Replaced segment piece) :
    ∃ char, (piece.flatMap text).head? = some char ∧
      (segment.text.head? = some char ∨ StartsGap char) := by
  cases replaced with
  | same =>
      obtain ⟨char, rest, spelled⟩ := List.exists_cons_of_ne_nil segment.text_ne_nil
      exact ⟨char, by simp [spelled], .inl (by rw [spelled]; rfl)⟩
  | @literal quote => exact ⟨quote, rfl, .inl rfl⟩
  | comment _ nonempty gaps =>
      obtain ⟨first, rest, rfl⟩ := List.exists_cons_of_ne_nil nonempty
      obtain ⟨char, head, starts⟩ := (gaps first List.mem_cons_self).head
      exact ⟨char, head?_text_cons head rest, .inr starts⟩

/-- A dash at the start of a replacement was there before, unless a comment starts
with it. -/
theorem Replaced.head_dash (replaced : Replaced segment piece)
    (dash : (piece.flatMap text).head? = some '-') :
    segment.text.head? = some '-' ∨
      ∃ body ended rest, piece = .lineComment body ended :: rest := by
  cases replaced with
  | same => exact .inl (by simpa [List.flatMap_singleton] using dash)
  | literal => exact .inl dash
  | comment _ nonempty gaps =>
      obtain ⟨first, rest, rfl⟩ := List.exists_cons_of_ne_nil nonempty
      have gap := gaps first List.mem_cons_self
      obtain ⟨char, head, _⟩ := gap.head
      rw [head?_text_cons head] at dash
      cases dash
      obtain ⟨body, ended, rfl⟩ := gap.head_dash head
      exact .inr ⟨body, ended, rest, rfl⟩

end Segment

open Segment

section Replacement

variable {segments : List Segment} {pieces : List (List Segment)} {after other : List Char}

/-- What may follow a segment in the place of a text: nothing only for nothing, and
otherwise the same character or one that starts a gap. -/
structure Follows (after other : List Char) : Prop where
  ended : after = [] → other = []
  head : other.head? = after.head? ∨ ∃ char, other.head? = some char ∧ StartsGap char

theorem follows_replaced (replaced : List.Forall₂ Replaced segments pieces) :
    Follows (segments.flatMap text) (pieces.flatten.flatMap text) := by
  cases replaced with
  | nil => exact ⟨fun _ => rfl, .inl rfl⟩
  | @cons segment piece rest others first further =>
      obtain ⟨char, head, same⟩ := first.head
      have found : ((piece :: others).flatten.flatMap text).head? = some char := by
        rw [List.flatten_cons, List.flatMap_append, List.head?_append, head]
        rfl
      refine ⟨fun none => ?_, ?_⟩
      · rw [List.flatMap_cons, List.append_eq_nil_iff] at none
        exact absurd none.1 segment.text_ne_nil
      · rw [found]
        refine same.imp (fun same => ?_) fun starts => ⟨char, rfl, starts⟩
        rw [List.flatMap_cons, List.head?_append, same]
        rfl

theorem stops_of_follows {segment : Segment} (legal : segment.Legal) (stops : segment.Stops after)
    (follows : Follows after other) (dash : segment = .other '-' → other.head? ≠ some '-') :
    segment.Stops other := by
  rcases follows.head with same | ⟨char, head, starts⟩
  · exact stops_of_head? same stops
  have followed : ¬ after = [] := fun none => by simp [follows.ended none] at head
  have plain : isQuote char = false ∧ isNamePart char = false ∧ isNameStart char = false ∧
      char ≠ ':' ∧ char ≠ '=' ∧ char ≠ '*' := by
    rcases starts with rfl | rfl | rfl | rfl <;> decide
  cases segment with
  | literal quote body =>
      intro same
      cases head.symm.trans same
      rcases legal.1 with rfl | rfl <;> cases plain.1
  | identifier body =>
      intro same
      cases head.symm.trans same
      cases plain.1
  | lineComment body ended => exact fun unended => absurd (stops unended) followed
  | blockComment body closed => exact fun unclosed => absurd (stops unclosed) followed
  | operator second => trivial
  | named name =>
      intro next found
      cases head.symm.trans found
      exact plain.2.1
  | positional => trivial
  | colon =>
      intro next found
      cases head.symm.trans found
      exact ⟨plain.2.2.2.1, plain.2.2.2.2.1, plain.2.2.1⟩
  | unclosed quote body => exact absurd stops followed
  | other first =>
      refine ⟨fun same => dash (congrArg _ same), fun _ found => ?_⟩
      cases head.symm.trans found
      exact plain.2.2.2.2.2 rfl

/-- A comment without an end of line stands last. -/
def Ended (segments : List Segment) : Prop :=
  segments.dropLast.all endsLine = true

instance (segments : List Segment) : Decidable (Ended segments) :=
  inferInstanceAs (Decidable (_ = true))

theorem ended_of_forall (each : ∀ segment ∈ segments, segment.endsLine = true) : Ended segments :=
  List.all_eq_true.mpr fun segment member => each segment ((List.dropLast_sublist segments).subset member)

theorem ended_cons {segment : Segment} {rest : List Segment} (ended : Ended (segment :: rest)) :
    (rest = [] ∨ segment.endsLine = true) ∧ Ended rest := by
  cases rest with
  | nil => exact ⟨.inl rfl, rfl⟩
  | cons next rest =>
      rw [Ended, List.dropLast_cons_cons, List.all_cons, Bool.and_eq_true] at ended
      exact ⟨.inr ended.1, ended.2⟩

theorem ended_of_append {left right : List Segment} (ended : Ended (left ++ right)) :
    Ended right := by
  induction left with
  | nil => exact ended
  | cons segment left ih => exact ih (ended_cons ended).2

theorem segmented_gaps {piece rest : List Segment} (gaps : ∀ other ∈ piece, other.Gap)
    (ended : Ended (piece ++ rest)) (segmented : Segmented rest) : Segmented (piece ++ rest) := by
  induction piece with
  | nil => exact segmented
  | cons first piece ih =>
      obtain ⟨gap, further⟩ := List.forall_mem_cons.mp gaps
      obtain ⟨placed, later⟩ := ended_cons ended
      have stopped := placed.imp_left (congrArg (List.flatMap text))
      exact .cons gap.legal (gap.stops stopped) (ih further later)

/-- A comment of two dashes directly after a dash. -/
def DashedComment (segments : List Segment) : Prop :=
  ∃ body ended, [Segment.other '-', .lineComment body ended] <:+: segments

theorem not_dashed_of_append {left right : List Segment} (apart : ¬ DashedComment (left ++ right)) :
    ¬ DashedComment right := by
  rintro ⟨body, ended, inside⟩
  exact apart ⟨body, ended, inside.trans (List.suffix_append left right).isInfix⟩

/-- No dash comes to stand after a dash. -/
theorem head_ne_dash (replaced : List.Forall₂ Replaced segments pieces)
    (stops : (Segment.other '-').Stops (segments.flatMap text))
    (apart : ¬ DashedComment (.other '-' :: pieces.flatten)) :
    (pieces.flatten.flatMap text).head? ≠ some '-' := by
  intro dash
  cases replaced with
  | nil => cases dash
  | @cons segment piece rest others first further =>
      obtain ⟨char, head, _⟩ := first.head
      have found : (piece.flatMap text).head? = some '-' := by
        rw [List.flatten_cons, List.flatMap_append, List.head?_append, head] at dash
        rw [head]
        exact dash
      rcases first.head_dash found with before | ⟨body, ended, further, rfl⟩
      · refine stops.1 rfl ?_
        rw [List.flatMap_cons, List.head?_append, before]
        rfl
      · exact apart ⟨body, ended, [], further ++ others.flatten, rfl⟩

/-- The segments of the new text are those that were put there. -/
theorem segmented_replaced (segmented : Segmented segments)
    (replaced : List.Forall₂ Replaced segments pieces) (ended : Ended pieces.flatten)
    (apart : ¬ DashedComment pieces.flatten) : Segmented pieces.flatten := by
  induction segmented generalizing pieces with
  | nil =>
      cases replaced
      exact .nil
  | @cons segment rest legal stops further ih =>
      cases replaced with
      | @cons _ piece _ others first replaced =>
          rw [List.flatten_cons] at ended apart ⊢
          have tail := ih replaced (ended_of_append ended) (not_dashed_of_append apart)
          have follows := follows_replaced replaced
          cases first with
          | same =>
              refine .cons legal (stops_of_follows legal stops follows fun dash => ?_) tail
              subst dash
              exact head_ne_dash replaced stops apart
          | @literal quote body other enclosed =>
              have stopped : (Segment.literal quote other).Stops (rest.flatMap text) := stops
              have legal : (Segment.literal quote other).Legal := ⟨legal.1, enclosed⟩
              exact .cons legal (stops_of_follows legal stopped follows (by simp)) tail
          | comment _ _ gaps => exact segmented_gaps gaps ended tail

theorem slots_replaced (replaced : List.Forall₂ Replaced segments pieces) :
    pieces.flatten.filterMap slot? = segments.filterMap slot? := by
  induction replaced with
  | nil => rfl
  | @cons segment piece rest others first _ ih =>
      rw [List.flatten_cons, List.filterMap_append, ih, first.slots, List.filterMap_cons]
      cases segment.slot? <;> rfl

theorem readable_replaced (replaced : List.Forall₂ Replaced segments pieces)
    (readable : ∀ segment ∈ segments, segment.Readable) :
    ∀ segment ∈ pieces.flatten, segment.Readable := by
  induction replaced with
  | nil => exact List.forall_mem_nil _
  | @cons segment piece rest others first _ ih =>
      obtain ⟨here, further⟩ := List.forall_mem_cons.mp readable
      intro other member
      rcases List.mem_append.mp member with inside | later
      · exact first.readable here other inside
      · exact ih further other later

/-- What is silent is passed over. -/
theorem readings_silent {piece rest : List Segment} (silent : ∀ other ∈ piece, other.Silent)
    (offset : Nat) :
    readings offset (piece ++ rest) = readings (offset + extent piece) rest := by
  induction piece generalizing offset with
  | nil => rfl
  | cons segment piece ih =>
      obtain ⟨⟨readable, unmarked⟩, further⟩ := List.forall_mem_cons.mp silent
      rw [List.cons_append, readings, (fault?_eq_none_iff _).mpr readable, unmarked, extent_cons,
        ← Nat.add_assoc]
      exact ih further (offset + segment.size)

theorem colonFault_replaced (replaced : List.Forall₂ Replaced segments pieces) :
    colonFault pieces.flatten = colonFault segments := by
  cases replaced with
  | nil => rfl
  | @cons segment piece rest others first _ =>
      cases first with
      | same => cases segment <;> rfl
      | literal => rfl
      | comment isComment nonempty gaps =>
          have missing : colonFault (segment :: rest) = .missingName := by
            cases segment <;> first | rfl | cases isComment
          obtain ⟨first, piece, rfl⟩ := List.exists_cons_of_ne_nil nonempty
          rw [missing]
          exact colonFault_gap (gaps first List.mem_cons_self) _

/-- Where each place keeps its size the readings stay the same, the fault among them. -/
theorem readings_replaced (replaced : List.Forall₂ Replaced segments pieces)
    (sized : List.Forall₂ (fun segment piece => extent piece = segment.size) segments pieces)
    (offset : Nat) : readings offset pieces.flatten = readings offset segments := by
  induction replaced generalizing offset with
  | nil => rfl
  | @cons segment piece rest others first further ih =>
      cases sized with
      | cons size sizes =>
          rw [List.flatten_cons]
          rcases first.same_or_silent with rfl | ⟨silent, quiet⟩
          · have fault : segment.fault? others.flatten = segment.fault? rest := by
              cases segment <;> first | rfl | exact congrArg some (colonFault_replaced further)
            rw [List.singleton_append, readings, readings, fault, ih sizes]
          · have alone : readings offset ([segment] ++ rest) = readings (offset + segment.size) rest := by
              rw [readings_silent (List.forall_mem_singleton.mpr silent), extent_singleton]
            rw [readings_silent quiet, ih sizes, size, ← alone, List.singleton_append]

/-- No dash stands before a comment of two dashes where a text is cut. -/
theorem not_dashed_of_segmented (segmented : Segmented segments) : ¬ DashedComment segments := by
  rintro ⟨body, ended, before, after, rfl⟩
  induction before with
  | nil =>
      cases segmented with
      | cons _ stops => exact stops.1 rfl rfl
  | cons first before ih =>
      cases segmented with
      | cons _ _ further => exact ih further

theorem replaced_kept (kept : List Segment) (replaced : List.Forall₂ Replaced segments pieces) :
    List.Forall₂ Replaced (kept ++ segments) (kept.map ([·]) ++ pieces) := by
  induction kept with
  | nil => exact replaced
  | cons segment kept ih => exact .cons (.same segment) ih

end Replacement

/-- Whether one text is another with these pieces in the places of its segments. -/
structure Rewording (text : String) (pieces : List (List Segment)) (other : String) : Prop where
  replaced : List.Forall₂ Replaced (split text.toList) pieces
  spelled : pieces.flatten.flatMap Segment.text = other.toList
  ended : Ended pieces.flatten

namespace Rewording

variable {text other : String} {pieces : List (List Segment)} {markers : List Marker}

/-- The new text is cut into the pieces just if no comment starts before its place. -/
theorem split_eq_iff (rewording : Rewording text pieces other) :
    split other.toList = pieces.flatten ↔ ¬ DashedComment pieces.flatten := by
  constructor
  · intro cut
    rw [← cut]
    exact not_dashed_of_segmented (segmented_split _)
  · intro apart
    have segmented := segmented_replaced (segmented_split _) rewording.replaced rewording.ended apart
    rw [← rewording.spelled, split_of_segmented segmented]

theorem slots (rewording : Rewording text pieces other)
    (apart : ¬ DashedComment pieces.flatten) (scanned : markers? text = .ok markers) :
    ∃ others, markers? other = .ok others ∧
      others.map Marker.slot = markers.map Marker.slot := by
  obtain ⟨readable, _⟩ := markers?_eq_ok_iff.mp scanned
  have cut := rewording.split_eq_iff.mpr apart
  have scannedToo : markers? other = .ok (markersFrom 0 pieces.flatten) := by
    rw [markers?_eq_ok_iff, cut]
    exact ⟨readable_replaced rewording.replaced readable, rfl⟩
  refine ⟨_, scannedToo, ?_⟩
  rw [← slots_of_markers? scannedToo, ← slots_of_markers? scanned, Template.slots, Template.slots,
    Template.ofText, Template.ofText, cut, slots_replaced rewording.replaced]

end Rewording

end CheckedSql.Sql

import CheckedSql.Proofs.Sql.Expansion

namespace CheckedSql.Sql

open Text

/-- Whether these are the segments of a text. -/
structure Segmentation (text : String) (segments : List Segment) : Prop where
  segmented : Segmented segments
  whole : segments.flatMap Segment.text = text.toList

theorem segmentation_split (text : String) : Segmentation text (split text.toList) :=
  ⟨segmented_split _, split_flatMap_text _⟩

theorem Segmentation.eq_split {text : String} {segments : List Segment}
    (segmentation : Segmentation text segments) : segments = split text.toList := by
  rw [← segmentation.whole, split_of_segmented segmentation.segmented]

/-- The number of bytes that segments take, and so the offset of what follows them. -/
def extent (segments : List Segment) : Nat :=
  byteSize (segments.flatMap Segment.text)

theorem extent_cons (segment : Segment) (rest : List Segment) :
    extent (segment :: rest) = segment.size + extent rest := by
  rw [extent, List.flatMap_cons, byteSize_append]
  rfl

theorem extent_singleton (segment : Segment) : extent [segment] = segment.size :=
  extent_cons segment []

theorem extent_append (left right : List Segment) :
    extent (left ++ right) = extent left + extent right := by
  rw [extent, List.flatMap_append, byteSize_append]
  rfl

/-- Why a segment cannot be read where this text follows it. -/
inductive Breaks : Segment → List Char → MarkerFault → Prop
  | unclosed (quote : Char) (body after : List Char) :
      Breaks (.unclosed quote body) after .unclosedQuote
  | digit {after : List Char} {next : Char} (head : after.head? = some next)
      (isDigit : next.isDigit = true) : Breaks .colon after .nameStartsWithDigit
  | nameless {after : List Char}
      (other : ∀ next, after.head? = some next → next.isDigit = false) :
      Breaks .colon after .missingName

/-- The markers that a scan from an offset yields, and the fault that ends it. -/
inductive Scanned (offset : Nat) (segments : List Segment) : List Marker → Option Fault → Prop
  | whole (readable : ∀ segment ∈ segments, segment.Readable) :
      Scanned offset segments (markersFrom offset segments) none
  | broken {before after : List Segment} {segment : Segment} {cause : MarkerFault}
      (parts : segments = before ++ segment :: after)
      (readable : ∀ segment ∈ before, segment.Readable)
      (breaks : Breaks segment (after.flatMap Segment.text) cause) :
      Scanned offset segments (markersFrom offset before)
        (some (.malformedQuery (offset + extent before) cause))

/-- How markers lie in the text of these segments. -/
structure Spread (segments : List Segment) (found : List Marker) : Prop where
  increasing : found.Pairwise fun first second => first.offset < second.offset
  disjoint : found.Pairwise fun first second => first.stop ≤ second.offset
  /-- From its offset to its stop the text spells the marker. -/
  spelled : ∀ marker ∈ found, ∃ before after,
    segments.flatMap Segment.text = before ++ marker.slot.text ++ after ∧
      byteSize before = marker.offset
  /-- No marker reaches into a segment that is no marker. -/
  outside : ∀ before segment after, segments = before ++ segment :: after →
    segment.slot? = none → ∀ marker ∈ found,
      marker.stop ≤ extent before ∨ extent before + segment.size ≤ marker.offset

section Markers

variable {offset : Nat} {segments : List Segment} {marker : Marker}

theorem mem_markersFrom (member : marker ∈ markersFrom offset segments) :
    ∃ before segment after, segments = before ++ segment :: after ∧
      segment.slot? = some marker.slot ∧ marker.offset = offset + extent before := by
  induction segments generalizing offset with
  | nil => cases member
  | cons first rest ih =>
      rw [markersFrom, List.mem_append, List.mem_map] at member
      rcases member with ⟨slot, marked, rfl⟩ | further
      · exact ⟨[], first, rest, rfl, Option.mem_toList.mp marked, rfl⟩
      · obtain ⟨before, segment, after, parts, marked, place⟩ := ih further
        refine ⟨first :: before, segment, after, by rw [parts, List.cons_append], marked, ?_⟩
        rw [place, extent_cons, Nat.add_assoc]

theorem stop_eq {segment : Segment} (marked : segment.slot? = some marker.slot) :
    marker.stop = marker.offset + segment.size := by
  rw [Marker.stop, Segment.size, Segment.text_eq_of_slot? marked]

theorem markersFrom_within (member : marker ∈ markersFrom offset segments) :
    offset ≤ marker.offset ∧ marker.offset < marker.stop ∧
      marker.stop ≤ offset + extent segments := by
  obtain ⟨before, segment, after, rfl, marked, place⟩ := mem_markersFrom member
  have positive := segment.size_pos
  rw [stop_eq marked, place, extent_append, extent_cons]
  omega

theorem markersFrom_disjoint (offset : Nat) (segments : List Segment) :
    (markersFrom offset segments).Pairwise fun first second => first.stop ≤ second.offset := by
  induction segments generalizing offset with
  | nil => exact .nil
  | cons segment rest ih =>
      rw [markersFrom]
      cases marked : segment.slot? with
      | none => exact ih _
      | some slot =>
          have stop : Marker.stop ⟨slot, offset⟩ = offset + segment.size := stop_eq marked
          refine .cons (fun second member => ?_) (ih _)
          rw [stop]
          exact (markersFrom_within member).1

theorem markersFrom_increasing (offset : Nat) (segments : List Segment) :
    (markersFrom offset segments).Pairwise fun first second => first.offset < second.offset :=
  (markersFrom_disjoint offset segments).imp_of_mem fun member _ disjoint =>
    Nat.lt_of_lt_of_le (markersFrom_within member).2.1 disjoint

theorem markersFrom_spelled (member : marker ∈ markersFrom 0 segments) :
    ∃ before after, segments.flatMap Segment.text = before ++ marker.slot.text ++ after ∧
      byteSize before = marker.offset := by
  obtain ⟨before, segment, after, rfl, marked, place⟩ := mem_markersFrom member
  refine ⟨before.flatMap Segment.text, after.flatMap Segment.text, ?_, ?_⟩
  · rw [List.flatMap_append, List.flatMap_cons, Segment.text_eq_of_slot? marked, List.append_assoc]
  · rw [place, Nat.zero_add]
    rfl

theorem markersFrom_outside {before after : List Segment} {segment : Segment}
    (parts : segments = before ++ segment :: after) (unmarked : segment.slot? = none)
    (member : marker ∈ markersFrom 0 segments) :
    marker.stop ≤ extent before ∨ extent before + segment.size ≤ marker.offset := by
  subst parts
  rw [markersFrom_append, markersFrom, unmarked, List.mem_append] at member
  rcases member with earlier | later
  · have within := markersFrom_within earlier
    exact .inl (by omega)
  · have within := markersFrom_within (List.mem_append.mp later |>.resolve_left (by simp))
    refine .inr ?_
    rw [Nat.zero_add] at within
    exact within.1

theorem spread_markersFrom (segments : List Segment) : Spread segments (markersFrom 0 segments) :=
  ⟨markersFrom_increasing 0 segments, markersFrom_disjoint 0 segments,
    fun _ member => markersFrom_spelled member,
    fun _ _ _ parts unmarked _ member => markersFrom_outside parts unmarked member⟩

theorem Spread.sublist {found fewer : List Marker} (spread : Spread segments found)
    (sub : fewer.Sublist found) : Spread segments fewer :=
  ⟨spread.increasing.sublist sub, spread.disjoint.sublist sub,
    fun _ member => spread.spelled _ (sub.subset member),
    fun _ _ _ parts unmarked _ member => spread.outside _ _ _ parts unmarked _ (sub.subset member)⟩

theorem Scanned.spread {found : List Marker} {fault : Option Fault}
    (scanned : Scanned 0 segments found fault) : Spread segments found := by
  cases scanned with
  | whole => exact spread_markersFrom segments
  | @broken before after segment _ parts =>
      subst parts
      refine (spread_markersFrom _).sublist ?_
      rw [markersFrom_append]
      exact List.sublist_append_left _ _

end Markers

section Readings

variable {offset : Nat} {segments rest : List Segment} {segment : Segment}

theorem isDigit_of_isQuote {quote : Char} (isQuoted : isQuote quote = true) :
    quote.isDigit = false := by
  simp only [isQuote, Bool.or_eq_true, beq_iff_eq] at isQuoted
  rcases isQuoted with (rfl | rfl) | rfl <;> rfl

/-- Only a digit by itself is a segment that starts with a digit. -/
theorem breaks_colon (segmented : Segmented rest) :
    Breaks .colon (rest.flatMap Segment.text) (colonFault rest) := by
  cases segmented with
  | nil => exact .nameless fun next head => by cases head
  | @cons first further legal stops segmented =>
      have headed : ∀ char, first.text.head? = some char →
          ((first :: further).flatMap Segment.text).head? = some char := by
        intro char head
        rw [List.flatMap_cons, List.head?_append, head]
        rfl
      have nameless : ∀ char, first.text.head? = some char → char.isDigit = false →
          Breaks .colon ((first :: further).flatMap Segment.text) .missingName := by
        intro char head other
        refine .nameless fun next found => ?_
        rw [headed char head] at found
        cases found
        exact other
      cases first with
      | other next =>
          cases isDigit : next.isDigit with
          | true =>
              simp only [colonFault, isDigit, if_true]
              exact .digit (headed next rfl) isDigit
          | false =>
              simp only [colonFault, isDigit]
              exact nameless next rfl isDigit
      | literal quote body =>
          obtain ⟨rfl | rfl, _⟩ := legal <;> exact nameless _ rfl rfl
      | unclosed quote body => exact nameless quote rfl (isDigit_of_isQuote legal.1)
      | _ => exact nameless _ rfl rfl

theorem breaks_of_fault? {cause : MarkerFault} (segmented : Segmented rest)
    (faulty : segment.fault? rest = some cause) :
    Breaks segment (rest.flatMap Segment.text) cause := by
  cases segment with
  | colon =>
      cases faulty
      exact breaks_colon segmented
  | unclosed quote body =>
      cases faulty
      exact .unclosed quote body _
  | _ => cases faulty

theorem Scanned.cons {found : List Marker} {fault : Option Fault} (readable : segment.Readable)
    (scanned : Scanned (offset + segment.size) rest found fault) :
    Scanned offset (segment :: rest)
      (segment.slot?.toList.map (⟨·, offset⟩) ++ found) fault := by
  cases scanned with
  | whole further => exact .whole (List.forall_mem_cons.mpr ⟨readable, further⟩)
  | @broken before after _ _ parts further breaks =>
      rw [Nat.add_assoc, ← extent_cons]
      exact .broken (by rw [parts, List.cons_append]) (List.forall_mem_cons.mpr ⟨readable, further⟩) breaks

theorem readings_scanned (offset : Nat) (segmented : Segmented segments) :
    ∃ found fault, Scanned offset segments found fault ∧
      readings offset segments = found.map .ok ++ fault.toList.map .error := by
  induction segmented generalizing offset with
  | nil => exact ⟨[], none, .whole (List.forall_mem_nil _), rfl⟩
  | @cons segment rest _ _ segmented ih =>
      rw [readings]
      cases faulty : segment.fault? rest with
      | some cause =>
          exact ⟨[], some _, .broken rfl (List.forall_mem_nil _) (breaks_of_fault? segmented faulty),
            rfl⟩
      | none =>
          have readable := (Segment.fault?_eq_none_iff rest).mp faulty
          obtain ⟨found, fault, scanned, read⟩ := ih (offset + segment.size)
          refine ⟨_, fault, scanned.cons readable, ?_⟩
          cases segment.slot? <;> simp [read]

end Readings

namespace Cursor

/-- What a cursor yields after so many calls. Where it yields nothing it stays. -/
def call (cursor : Cursor) : Nat → Option Reading
  | 0 => cursor.next.map Prod.fst
  | count + 1 =>
      match cursor.next with
      | none => cursor.call count
      | some (_, after) => after.call count

theorem call_eq (cursor : Cursor) (count : Nat) :
    cursor.call count = (readings cursor.offset cursor.ahead)[count]? := by
  induction count generalizing cursor with
  | zero =>
      cases found : cursor.next with
      | none => rw [call, found, readings_of_nextFrom_none found]; rfl
      | some step => rw [call, found, readings_of_nextFrom_some found]; rfl
  | succ count ih =>
      cases found : cursor.next with
      | none =>
          have ended := readings_of_nextFrom_none found
          simp only [call, found, ih, ended, List.getElem?_nil]
      | some step =>
          simp only [call, found, ih, readings_of_nextFrom_some found, List.getElem?_cons_succ]

end Cursor

/-- A cursor over a text yields, call after call, the markers of its one segmentation up
to the first segment that cannot be read, then the fault of that segment, and then
nothing. -/
theorem scan_segmentation (text : String) :
    ∃ segments, Segmentation text segments ∧
      (∀ other, Segmentation text other → other = segments) ∧
      ∃ found fault, Scanned 0 segments found fault ∧ Spread segments found ∧
        ∀ count, (Cursor.ofText text).call count =
          (found.map .ok ++ fault.toList.map .error : List Reading)[count]? := by
  refine ⟨split text.toList, segmentation_split text, fun _ => Segmentation.eq_split, ?_⟩
  obtain ⟨found, fault, scanned, read⟩ := readings_scanned 0 (segmented_split text.toList)
  refine ⟨found, fault, scanned, scanned.spread, fun count => ?_⟩
  rw [Cursor.call_eq, ← read]
  rfl

end CheckedSql.Sql

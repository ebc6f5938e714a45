import CheckedSql.Proofs.Indexed.Scanning
import CheckedSql.Proofs.Sql.Expansion

namespace CheckedSql.Sql.Indexed

open Text

/-- The text from an offset on, with question marks in the place of its markers. -/
def expandAt? (text : List Char) (arity : String → Nat) (offset : Nat) :
    List Marker → Option (List Char)
  | [] => slice? Char.utf8Size text offset (total Char.utf8Size text)
  | marker :: markers => do
      let between ← slice? Char.utf8Size text offset marker.offset
      let further ← expandAt? text arity marker.stop markers
      return between ++ Template.questionMarks (Template.slotArity arity marker.slot) ++ further

theorem slice?_between (before between after : List Char) :
    slice? Char.utf8Size (before ++ between ++ after) (byteSize before)
      (byteSize (before ++ between)) = some between := by
  refine (slice?_eq_some_iff Char.utf8Size_pos).mpr ⟨before, after, rfl, ?_, ?_⟩
  · exact total_utf8Size before
  · rw [total_utf8Size, byteSize_append]

/-- The markers ahead cut the text behind an offset, of which a part is passed. -/
theorem expandAt?_segments {text : List Char} (arity : String → Nat) (before between : List Char)
    (segments : List Segment)
    (whole : text = before ++ between ++ segments.flatMap Segment.text) :
    expandAt? text arity (byteSize before) (markersFrom (byteSize (before ++ between)) segments) =
      some (between ++ segments.flatMap (Template.expandSegment arity)) := by
  induction segments generalizing before between with
  | nil =>
      rw [markersFrom, expandAt?, total_utf8Size, whole]
      simpa using slice?_between before between []
  | cons segment rest ih =>
      have size : byteSize (before ++ between ++ segment.text) =
          byteSize (before ++ between) + segment.size := byteSize_append _ _
      rw [List.flatMap_cons, ← List.append_assoc] at whole
      cases marked : segment.slot? with
      | none =>
          have further := ih before (between ++ segment.text)
            (by rw [whole, List.append_assoc before])
          rw [← List.append_assoc, size] at further
          rw [markersFrom, marked]
          simpa [Template.expandSegment, marked] using further
      | some slot =>
          have stop : Marker.stop ⟨slot, byteSize (before ++ between)⟩ =
              byteSize (before ++ between ++ segment.text) := by
            rw [Marker.stop, size, Segment.size, Segment.text_eq_of_slot? marked]
          have further := ih (before ++ between ++ segment.text) [] (by rw [whole, List.append_nil])
          rw [List.append_nil, ← stop] at further
          have here : slice? Char.utf8Size text (byteSize before) (byteSize (before ++ between)) =
              some between := by
            rw [whole, List.append_assoc (before ++ between)]
            exact slice?_between before between _
          rw [markersFrom, marked, ← size, ← stop]
          simp [expandAt?, here, further, Template.expandSegment, marked]

/-- The markers of a text cut it without a miss. -/
theorem expandAt?_eq {text : String} {markers : List Marker} (scanned : markers? text = .ok markers)
    (arity : String → Nat) :
    (expandAt? text.toList arity 0 markers).map String.ofList =
      some ((Template.ofText text).expand arity) := by
  have placed : markers = markersFrom 0 (split text.toList) := (markers?_eq_ok_iff.mp scanned).2
  have cut := expandAt?_segments arity [] [] (split text.toList)
    (split_flatMap_text text.toList).symm
  rw [placed]
  exact congrArg (Option.map String.ofList) cut

end CheckedSql.Sql.Indexed

import CheckedSql.Sql.Segment
import CheckedSql.Fault

namespace CheckedSql.Sql

open Text

structure Marker where
  slot : Slot
  offset : Nat
deriving Repr, DecidableEq

/-- The offset just past a marker. -/
def Marker.stop (marker : Marker) : Nat :=
  marker.offset + byteSize marker.slot.text

/-- A colon that starts nothing is a fault; it is named for what follows it. -/
def colonFault : List Segment → MarkerFault
  | .other next :: _ => if next.isDigit then .nameStartsWithDigit else .missingName
  | _ => .missingName

/-- The fault of a segment that cannot be read, given the segments after it. -/
def Segment.fault? (rest : List Segment) : Segment → Option MarkerFault
  | .colon => some (colonFault rest)
  | .unclosed _ _ => some .unclosedQuote
  | _ => none

abbrev Reading := Except Fault Marker

/-- The markers in order, up to the first fault. -/
def readings (offset : Nat) : List Segment → List Reading
  | [] => []
  | segment :: rest =>
      match segment.fault? rest with
      | some fault => [.error (.malformedQuery offset fault)]
      | none =>
          match segment.slot? with
          | some slot => .ok ⟨slot, offset⟩ :: readings (offset + segment.size) rest
          | none => readings (offset + segment.size) rest

/-- A place in a text: the offset reached and the segments ahead. -/
structure Cursor where
  offset : Nat
  ahead : List Segment
deriving Repr, DecidableEq

namespace Cursor

def ofText (text : String) : Cursor :=
  ⟨0, split text.toList⟩

def nextFrom (offset : Nat) : List Segment → Option (Reading × Cursor)
  | [] => none
  | segment :: rest =>
      match segment.fault? rest with
      | some fault => some (.error (.malformedQuery offset fault), ⟨offset, []⟩)
      | none =>
          match segment.slot? with
          | some slot => some (.ok ⟨slot, offset⟩, ⟨offset + segment.size, rest⟩)
          | none => nextFrom (offset + segment.size) rest

/-- The next reading. A fault exhausts the cursor. -/
def next (cursor : Cursor) : Option (Reading × Cursor) :=
  nextFrom cursor.offset cursor.ahead

theorem nextFrom_shorter {offset : Nat} {segments : List Segment} {reading : Reading}
    {after : Cursor} (found : nextFrom offset segments = some (reading, after)) :
    after.ahead.length < segments.length := by
  fun_induction nextFrom offset segments with
  | case1 => cases found
  | case2 => cases found; exact Nat.succ_pos _
  | case3 => cases found; exact Nat.lt_succ_self _
  | case4 offset segment rest _ _ ih => exact Nat.lt_succ_of_lt (ih found)

/-- All readings ahead, and the cursor after the last of them. -/
def drain (cursor : Cursor) : List Reading × Cursor :=
  match _found : cursor.next with
  | none => ([], cursor)
  | some (reading, after) => (reading :: after.drain.1, after.drain.2)
termination_by cursor.ahead.length
decreasing_by all_goals exact nextFrom_shorter _found

theorem readings_of_nextFrom_none {offset : Nat} {segments : List Segment}
    (ended : nextFrom offset segments = none) : readings offset segments = [] := by
  fun_induction nextFrom offset segments with
  | case1 => rfl
  | case2 => cases ended
  | case3 => cases ended
  | case4 offset segment rest sound unmarked ih =>
      simp only [readings, sound, unmarked]
      exact ih ended

theorem readings_of_nextFrom_some {offset : Nat} {segments : List Segment} {reading : Reading}
    {after : Cursor} (found : nextFrom offset segments = some (reading, after)) :
    readings offset segments = reading :: readings after.offset after.ahead := by
  fun_induction nextFrom offset segments with
  | case1 => cases found
  | case2 offset segment rest fault faulty => cases found; simp only [readings, faulty]
  | case3 offset segment rest sound slot marked =>
      cases found
      simp only [readings, sound, marked]
  | case4 offset segment rest sound unmarked ih =>
      simp only [readings, sound, unmarked]
      exact ih found

theorem drain_readings (cursor : Cursor) :
    cursor.drain.1 = readings cursor.offset cursor.ahead := by
  fun_induction drain cursor with
  | case1 cursor ended => exact (readings_of_nextFrom_none ended).symm
  | case2 cursor reading after found ih => rw [readings_of_nextFrom_some found, ← ih]

theorem next_drain (cursor : Cursor) : cursor.drain.2.next = none := by
  fun_induction drain cursor with
  | case1 cursor ended => exact ended
  | case2 cursor reading after found ih => exact ih

end Cursor

def scan (text : String) : List Reading :=
  readings 0 (split text.toList)

/-- The markers of a text whose scan reports no fault, or that fault. -/
def markers? (text : String) : Except Fault (List Marker) :=
  (scan text).mapM id

end CheckedSql.Sql

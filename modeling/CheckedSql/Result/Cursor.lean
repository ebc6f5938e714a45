import CheckedSql.Result.Reader

namespace CheckedSql

/-- Rows that are still to be read. Where there are none, no strategy is needed. -/
structure RowCursor where
  strategy : Option RowStrategy
  ahead : List (List Value)
deriving Repr, DecidableEq

namespace RowCursor

def next (cursor : RowCursor) : Option (Except Fault Mapped) × RowCursor :=
  match cursor.ahead with
  | [] => (none, cursor)
  | row :: rest => (cursor.strategy.map (·.readRow row), { cursor with ahead := rest })

/-- How many readings are ahead: at least, and at most if that is known. -/
def bounds (cursor : RowCursor) : Nat × Option Nat :=
  (cursor.ahead.length, some cursor.ahead.length)

theorem next_shorter {cursor after : RowCursor} {reading : Except Fault Mapped}
    (asked : cursor.next = (some reading, after)) : after.ahead.length < cursor.ahead.length := by
  unfold next at asked
  split at asked
  · cases asked
  · rename_i row rest ahead
    obtain ⟨_, rfl⟩ := Prod.mk.inj asked
    rw [ahead]
    exact Nat.lt_succ_self _

/-- The readings ahead, up to the first call that yields none. -/
def drain (cursor : RowCursor) : List (Except Fault Mapped) :=
  match _asked : cursor.next with
  | (none, _) => []
  | (some reading, after) => reading :: after.drain
termination_by cursor.ahead.length
decreasing_by exact next_shorter _asked

theorem drain_nil (strategy : Option RowStrategy) : (RowCursor.mk strategy []).drain = [] := by
  rw [drain]
  rfl

theorem drain_eq (strategy : RowStrategy) (rows : List (List Value)) :
    (RowCursor.mk (some strategy) rows).drain = rows.map strategy.readRow := by
  induction rows with
  | nil => exact drain_nil _
  | cons row rest ih =>
      rw [drain, List.map_cons, ← ih]
      rfl

end RowCursor

namespace RowReader

/-- A cursor over the rows of a result. The header is looked at first, unless there is no
row to read. -/
def rows (reader : RowReader) (result : RowSet) : Except Fault RowCursor :=
  if result.rows.isEmpty then .ok ⟨none, result.rows⟩
  else (reader.strategy result.columns).map fun strategy => ⟨some strategy, result.rows⟩

theorem readRows_eq_drain (reader : RowReader) (result : RowSet) :
    reader.readRows result = (reader.rows result).map RowCursor.drain := by
  unfold readRows rows
  split
  · rename_i empty
    rw [List.isEmpty_iff.mp empty]
    exact congrArg Except.ok (RowCursor.drain_nil none).symm
  · cases reader.strategy result.columns with
    | error fault => rfl
    | ok strategy => exact congrArg Except.ok (RowCursor.drain_eq strategy result.rows).symm

end RowReader

end CheckedSql

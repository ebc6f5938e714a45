import CheckedSql.Text.Basic
import CheckedSql.Text.NameSet

namespace CheckedSql

open Text

/-! Watchers of tables, and who is told when tables change.

Watchers are kept in the order in which they came. Each has a handle of its own,
below `next`, so removing one touches no other.
-/

structure Watcher (Target : Type) where
  handle : Nat
  tables : NameSet
  target : Target

structure Tracker (Target : Type) where
  next : Nat
  watchers : List (Watcher Target)

/-- Whether two sets of tables share a name ignoring case. -/
def sharesTable (watched changed : NameSet) : Bool :=
  watched.names.any fun table => changed.names.any fun other => decide (SameName other table)

theorem sharesTable_iff {watched changed : NameSet} :
    sharesTable watched changed = true ↔
      ∃ table ∈ watched, ∃ other ∈ changed, SameName other table := by
  simp [sharesTable, NameSet.mem_iff]

namespace Tracker

variable {Target : Type}

def empty : Tracker Target := ⟨0, []⟩

instance : Inhabited (Tracker Target) := ⟨empty⟩

/-- Adds a watcher under a handle that was never given before. -/
def subscribe (tracker : Tracker Target) (tables : NameSet) (target : Target) :
    Nat × Tracker Target :=
  (tracker.next, ⟨tracker.next + 1, tracker.watchers ++ [⟨tracker.next, tables, target⟩]⟩)

def unsubscribe (tracker : Tracker Target) (handle : Nat) : Tracker Target :=
  { tracker with watchers := tracker.watchers.filter (·.handle ≠ handle) }

def count (tracker : Tracker Target) : Nat :=
  tracker.watchers.length

/-- Those who are told of a change, here in the order in which they came. -/
def signalled (tracker : Tracker Target) (changed : NameSet) : List Target :=
  (tracker.watchers.filter (sharesTable ·.tables changed)).map Watcher.target

/-- Calls those who are told of a change with the changed tables, and counts them. No caller
relies on the order of the calls. -/
def notify (tracker : Tracker Target) (changed : List String) : List (Target × NameSet) × Nat :=
  let told := tracker.signalled (.ofList changed)
  (told.map (·, .ofList changed), told.length)

def debugText (tracker : Tracker Target) : String :=
  "InvalidationTracker \x7b observers: " ++ toString tracker.count ++ " \x7d"

theorem signalled_length_le (tracker : Tracker Target) (changed : NameSet) :
    (tracker.signalled changed).length ≤ tracker.count := by
  unfold signalled count
  rw [List.length_map]
  exact List.length_filter_le _ _

theorem count_unsubscribe_le (tracker : Tracker Target) (handle : Nat) :
    (tracker.unsubscribe handle).count ≤ tracker.count :=
  List.length_filter_le _ _

/-- Every handle in use was given, and no two watchers share one. -/
def WellFormed (tracker : Tracker Target) : Prop :=
  (∀ watcher ∈ tracker.watchers, watcher.handle < tracker.next) ∧
    tracker.watchers.Pairwise (·.handle ≠ ·.handle)

theorem wellFormed_empty : (empty : Tracker Target).WellFormed :=
  ⟨List.forall_mem_nil _, List.Pairwise.nil⟩

theorem wellFormed_subscribe {tracker : Tracker Target} (wellFormed : tracker.WellFormed)
    (tables : NameSet) (target : Target) : (tracker.subscribe tables target).2.WellFormed := by
  refine ⟨fun watcher member => ?_, List.pairwise_append.mpr
    ⟨wellFormed.2, List.pairwise_singleton _ _, fun watcher member added new => ?_⟩⟩
  · rcases List.mem_append.mp member with old | new
    · exact Nat.lt_succ_of_lt (wellFormed.1 watcher old)
    · cases List.mem_singleton.mp new
      exact Nat.lt_succ_self _
  · cases List.mem_singleton.mp new
    exact Nat.ne_of_lt (wellFormed.1 watcher member)

theorem wellFormed_unsubscribe {tracker : Tracker Target} (wellFormed : tracker.WellFormed)
    (handle : Nat) : (tracker.unsubscribe handle).WellFormed :=
  ⟨fun watcher member => wellFormed.1 watcher (List.mem_filter.mp member).1,
    wellFormed.2.sublist List.filter_sublist⟩

end Tracker

end CheckedSql

import CheckedSql.Sql.Marker

namespace CheckedSql.Sql

open Text

structure Template where
  segments : List Segment
deriving Repr, DecidableEq

namespace Template

def ofText (text : String) : Template :=
  ⟨split text.toList⟩

def slots (template : Template) : List Slot :=
  template.segments.filterMap Segment.slot?

/-- So many question marks, separated by commas. -/
def questionMarks : Nat → List Char
  | 0 => []
  | 1 => ['?']
  | count + 2 => '?' :: ',' :: ' ' :: questionMarks (count + 1)

/-- The number of values that a slot takes. -/
def slotArity (arity : String → Nat) : Slot → Nat
  | .named name => arity name
  | .positional => 1

def expandSegment (arity : String → Nat) (segment : Segment) : List Char :=
  match segment.slot? with
  | some slot => questionMarks (slotArity arity slot)
  | none => segment.text

/-- Writes as many question marks for each named slot as it is to take values, and leaves
everything else as it stands. -/
def expand (template : Template) (arity : String → Nat) : String :=
  String.ofList (template.segments.flatMap (expandSegment arity))

end Template

/-- The slots of a text are those of its markers, in order. -/
theorem slots_of_readings {offset : Nat} {segments : List Segment} {markers : List Marker}
    (sound : (readings offset segments).mapM id = Except.ok markers) :
    segments.filterMap Segment.slot? = markers.map Marker.slot := by
  fun_induction readings offset segments generalizing markers with
  | case1 => cases sound; rfl
  | case2 => cases sound
  | case3 offset segment rest _ slot marked ih =>
      simp only [List.mapM_cons, id, bind, Except.bind, pure, Except.pure] at sound
      split at sound
      · cases sound
      · rename_i found tail
        cases sound
        simp only [List.filterMap_cons, marked, List.map_cons, ih tail]
  | case4 offset segment rest _ unmarked ih =>
      simp only [List.filterMap_cons, unmarked, ih sound]

theorem slots_of_markers? {text : String} {markers : List Marker}
    (sound : markers? text = .ok markers) :
    (Template.ofText text).slots = markers.map Marker.slot :=
  slots_of_readings sound

end CheckedSql.Sql

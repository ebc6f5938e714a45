import CheckedSql.Proofs.Except
import CheckedSql.Query.Prepared

namespace CheckedSql

open Sql Text

/-! The faults of a definition are permanent.

Each check that `compile` makes, from the scan of the text to the plan of the reader,
fails only in ways that no call can mend, and so does `compile` (`compile_fails`).
-/

/-- A fault of the definition, which every call would meet again. -/
def Fault.Permanent (fault : Fault) : Prop :=
  fault.atDefinition = true

namespace Sql

theorem MethodText.of?_fails {method text : String} :
    FailsOnly Fault.Permanent (MethodText.of? method text) := by
  intro fault failed
  obtain ⟨_, rfl⟩ := MethodText.of?_eq_error_iff.mp failed
  rfl

theorem readings_fail {offset : Nat} {segments : List Segment} {reading : Reading}
    (member : reading ∈ readings offset segments) : FailsOnly Fault.Permanent reading := by
  fun_induction readings offset segments with
  | case1 => cases member
  | case2 =>
      cases List.mem_singleton.mp member
      exact .error rfl
  | case3 offset segment rest _ slot _ ih =>
      rcases List.mem_cons.mp member with rfl | further
      · exact .ok _
      · exact ih further
  | case4 offset segment rest _ _ ih => exact ih member

theorem markers?_fails {text : String} : FailsOnly Fault.Permanent (markers? text) :=
  .mapM fun _ member => readings_fail member

theorem StatementKind.ofText_fails {text : String} :
    FailsOnly Fault.Permanent (StatementKind.ofText text) := by
  unfold StatementKind.ofText
  split
  · exact .error rfl
  · simp only
    split
    · exact .error rfl
    · exact .ok _

theorem maskFrom_fails {offset : Nat} {segments : List Segment} :
    FailsOnly Fault.Permanent (maskFrom offset segments) := by
  fun_induction maskFrom offset segments with
  | case1 => exact .ok _
  | case2 => exact .error rfl
  | case3 offset segment rest _ ih => exact ih.map

theorem Token.ofText_fails {text : String} : FailsOnly Fault.Permanent (Token.ofText text) :=
  maskFrom_fails.map

end Sql

namespace Parameter

variable {policy : UnusedPolicy} {names : List String} {parameters : List Parameter}

theorem checkDistinct_fails : FailsOnly Fault.Permanent (checkDistinct parameters) := by
  unfold checkDistinct
  split
  · exact .ok ()
  · exact .error rfl

theorem select_fails {name : String} : FailsOnly Fault.Permanent (select parameters name) := by
  unfold select
  split
  · exact .ok _
  · exact .error rfl

theorem checkUsed_fails : FailsOnly Fault.Permanent (checkUsed policy names parameters) := by
  unfold checkUsed
  split
  · exact .error rfl
  · exact .ok ()

theorem resolve_fails : FailsOnly Fault.Permanent (resolve policy names parameters) :=
  checkDistinct_fails.bind fun _ _ =>
    (FailsOnly.mapM fun _ _ => select_fails).bind fun _ _ =>
      checkUsed_fails.bind fun _ _ => .ok _

end Parameter

theorem Fault.checkReturn_fails {kind : StatementKind} {shape : ReturnShape} :
    FailsOnly Fault.Permanent (Fault.checkReturn kind shape) := by
  unfold Fault.checkReturn
  split
  · exact .ok ()
  · exact .error rfl

namespace Analysis

variable {schema : Schema} {common : List String} {sources : List Source}

theorem resolveTable_fails {name : String} :
    FailsOnly Fault.Permanent (resolveTable schema common name) := by
  unfold resolveTable
  split
  · exact .ok none
  · split
    · exact .ok _
    · exact .error rfl

theorem checkColumn_fails {tables : List String} {column : String} :
    FailsOnly Fault.Permanent (checkColumn schema tables column) := by
  unfold checkColumn
  split
  · exact .ok ()
  · exact .error rfl

theorem checkTarget_fails {target : String × String} :
    FailsOnly Fault.Permanent (checkTarget schema common target) := by
  unfold checkTarget
  split
  · rename_i fault unresolved
    exact .error (resolveTable_fails fault unresolved)
  · exact .ok ()
  · exact checkColumn_fails

theorem itemColumns_fails {item : SelectItem} :
    FailsOnly Fault.Permanent (itemColumns schema sources item) := by
  unfold itemColumns
  split
  · exact .ok _
  · exact .ok _
  · split
    · exact .ok _
    · exact checkColumn_fails.map
  · split
    · exact .ok _
    · exact checkColumn_fails.map
  · exact .ok _
  · exact .ok _

theorem header_fails {items : List SelectItem} :
    FailsOnly Fault.Permanent (header schema sources items) :=
  (FailsOnly.mapM fun _ _ => itemColumns_fails).map

theorem ofTokens_fails {kind : StatementKind} {tokens : List Token} :
    FailsOnly Fault.Permanent (ofTokens schema kind tokens) := by
  unfold ofTokens
  refine .bind (.mapM fun _ _ => resolveTable_fails.map) fun _ _ => ?_
  refine .bind (.forM fun _ _ => checkTarget_fails) fun _ _ => ?_
  dsimp only
  split
  · exact header_fails.bind fun _ _ => .ok _
  · exact .ok _

theorem ofText_fails {kind : StatementKind} {text : String} :
    FailsOnly Fault.Permanent (ofText schema kind text) :=
  Token.ofText_fails.bind fun _ _ => ofTokens_fails

end Analysis

namespace Mapping

variable {record : String} {columns : List String}

theorem ofField_fails {field : Field} :
    FailsOnly Fault.Permanent (Feed.ofField record columns field) := by
  unfold Feed.ofField
  split
  · split
    · exact .ok _
    · exact .error rfl
  · exact .ok _
  · exact .ok _

theorem assign_fails {claimed : List (Nat × String)} {fields : List Field} :
    FailsOnly Fault.Permanent (assign record columns claimed fields) := by
  fun_induction assign record columns claimed fields with
  | case1 => exact .ok _
  | case2 claimed field rest fault failed => exact .error (ofField_fails fault failed)
  | case3 claimed field rest _ ih => exact ih.map
  | case4 => exact .error rfl
  | case5 claimed field rest feed _ _ ih => exact ih.map

theorem ofRecord_fails {target : Record} : FailsOnly Fault.Permanent (ofRecord target columns) := by
  unfold ofRecord
  split
  · rename_i fault failed
    exact .error (assign_fails fault failed)
  · split
    · exact .ok _
    · exact .error rfl

end Mapping

theorem RowReader.plan_fails {shape : ReturnShape} {header : Option (List String)} :
    FailsOnly Fault.Permanent (RowReader.plan shape header) := by
  unfold RowReader.plan
  simp only
  split
  · split
    · exact .ok _
    · exact .error rfl
  · split
    · exact .ok _
    · exact .error rfl
  · exact Mapping.ofRecord_fails.map
  · exact Mapping.ofRecord_fails.map
  · exact .ok _

namespace PreparedQuery

theorem checkFixedCount_fails {limit : Nat} {slots : List Slot} {parameters : List Parameter} :
    FailsOnly Fault.Permanent (checkFixedCount limit slots parameters) := by
  unfold checkFixedCount Binding.checkCeiling
  split
  · exact .ok ()
  · split
    · exact .error rfl
    · exact .ok ()

theorem planReader_fails {kind : StatementKind} {returns : ReturnShape}
    {header : Option (List String)} :
    FailsOnly Fault.Permanent (planReader kind returns header) := by
  unfold planReader
  split
  · exact RowReader.plan_fails.map
  · exact .ok none

theorem compile_fails {schema : Schema} {settings : Settings} {definition : Definition} :
    FailsOnly Fault.Permanent (compile schema settings definition) := by
  unfold compile
  refine .bind MethodText.of?_fails fun _ _ => ?_
  refine .bind markers?_fails fun _ _ => ?_
  refine .bind Parameter.resolve_fails fun _ _ => ?_
  refine .bind StatementKind.ofText_fails fun _ _ => ?_
  refine .bind Fault.checkReturn_fails fun _ _ => ?_
  refine .bind Analysis.ofText_fails fun _ _ => ?_
  refine .bind checkFixedCount_fails fun _ _ => ?_
  exact .bind planReader_fails fun _ _ => .ok _

end PreparedQuery

end CheckedSql

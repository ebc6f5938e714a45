import CheckedSql.Proofs.Binding.Alignment
import CheckedSql.Proofs.Sql.Fusion

namespace CheckedSql.Binding

open Sql Text

section Omission

variable {text : String} {parameters : List Parameter} {arguments : Arguments} {limit : Nat}
  {binding : Binding}

/-- A bound statement is read with the question marks of its values, whatever is left
out of its template, if that is guarded. -/
theorem bind_guarded {markers : List Marker} (scanned : markers? text = .ok markers)
    (bound : bind (.ofText text) parameters arguments limit = .ok binding)
    (guarded : Guarded (arity parameters arguments) (split text.toList)) :
    ∃ places, Aligned (supplied? parameters arguments) 0 0 arguments.positional markers
        text.toList binding.text.toList places ∧
      binding.values = places.map Prod.snd ∧
      markers? binding.text = .ok (places.map fun place => ⟨.positional, place.1⟩) := by
  obtain ⟨readable, rfl⟩ := markers?_eq_ok_iff.mp scanned
  obtain ⟨enough, values, expansion⟩ := bound_of_bind bound
  obtain ⟨places, aligned, valuesEq, markersEq⟩ := aligned_expanded 0 0
    (fun _ _ => arity_of_supplied) values enough
  obtain ⟨read, fused⟩ := exists_fused (segmented_split text.toList) readable guarded
  have produced : binding.text.toList =
      (split text.toList).flatMap (Template.expandSegment (arity parameters arguments)) := by
    rw [expansion, Template.expand, String.toList_ofList]
    rfl
  have resplit : split binding.text.toList = read := by
    rw [produced, ← Segment.flatMap_expanded_text, ← fused.text,
      split_of_segmented fused.segmented]
  refine ⟨places, ?_, valuesEq, markers?_eq_ok_iff.mpr ?_⟩
  · rw [produced]
    simpa only [Template.ofText, split_flatMap_text] using aligned
  · rw [resplit]
    exact ⟨fused.readable, ((fused.markers 0).trans markersEq).symm⟩

end Omission

/-- Two literals, two names in backticks and a dash before a comment come together. -/
theorem bind_guarded_fused :
    let text := "'a':ids'b' `c`:ids`d` -:ids-- ?\n = :n"
    let markers : List Marker := [⟨.named "ids", 3⟩, ⟨.named "ids", 14⟩, ⟨.named "ids", 23⟩,
      ⟨.named "n", 35⟩]
    let parameters : List Parameter := [⟨"ids", .integer, true⟩, ⟨"n", .integer, false⟩]
    let arguments : Arguments := ⟨[("ids", .list []), ("n", .single (.integer 1))], []⟩
    let binding : Binding := ⟨"'a''b' `c``d` --- ?\n = ?", [.integer 1]⟩
    markers? text = .ok markers ∧
      bind (.ofText text) parameters arguments 999 = .ok binding ∧
      Guarded (arity parameters arguments) (split text.toList) ∧
      ∃ places, Aligned (supplied? parameters arguments) 0 0 arguments.positional markers
          text.toList binding.text.toList places ∧
        binding.values = places.map Prod.snd ∧
        markers? binding.text = .ok (places.map fun place => ⟨.positional, place.1⟩) := by
  intro text markers parameters arguments binding
  have scanned : markers? text = .ok markers := by decide +kernel
  have bound : bind (.ofText text) parameters arguments 999 = .ok binding := by decide +kernel
  have guarded : Guarded (arity parameters arguments) (split text.toList) :=
    guarded_of_lone (by decide +kernel) (by decide +kernel)
  exact ⟨scanned, bound, guarded, bind_guarded scanned bound guarded⟩

/-- Without the values of a list the dashes before and after its name open a comment,
and the marker behind them is not read. -/
theorem marker_hidden :
    let text := "SELECT 5-:ids-:n FROM t"
    let parameters : List Parameter := [⟨"ids", .integer, true⟩, ⟨"n", .integer, false⟩]
    let arguments : Arguments := ⟨[("ids", .list []), ("n", .single (.integer 1))], []⟩
    markers? text = .ok [⟨.named "ids", 9⟩, ⟨.named "n", 14⟩] ∧
      bind (.ofText text) parameters arguments 999 = .ok ⟨"SELECT 5--? FROM t", [.integer 1]⟩ ∧
      markers? "SELECT 5--? FROM t" = .ok [] := by
  decide +kernel

end CheckedSql.Binding

import CheckedSql.Analysis.Statement
import CheckedSql.Proofs.Sql.Likeness

namespace CheckedSql

open Sql

/-- Other literals in the same quotes, and other comments or blanks in the places of
comments, change neither the slots of a text nor what its analysis finds. -/
theorem contents_inert {text other : String} {markers : List Marker}
    {pieces : List (List Segment)} (scanned : markers? text = .ok markers)
    (rewording : Rewording text pieces other) (apart : ¬ DashedComment pieces.flatten) :
    (∃ others, markers? other = .ok others ∧
      others.map Marker.slot = markers.map Marker.slot) ∧
    ∀ schema kind, Analysis.ofText schema kind other = Analysis.ofText schema kind text := by
  refine ⟨rewording.slots apart scanned, fun schema kind => ?_⟩
  rw [Analysis.ofText, Analysis.ofText, ofText_reworded rewording apart scanned]

/-- A literal that quotes a table, a marker and a comment, and a question mark in a
comment. -/
theorem contents_inert_quoted :
    let before := "SELECT id FROM song WHERE name = ".toList.map Segment.other
    let after := " AND year > ".toList.map Segment.other ++ [.named "low".toList]
    let body := "it''s \\' FROM album /* :name".toList
    let text := "SELECT id FROM song WHERE name = 'x' /* c */ AND year > :low"
    let other :=
      "SELECT id FROM song WHERE name = 'it''s \\' FROM album /* :name' -- ?\n AND year > :low"
    let pieces := before.map ([·]) ++ [.literal '\'' body] :: [.other ' '] ::
      [.lineComment " ?".toList true] :: after.map ([·])
    markers? text = .ok [⟨.named "low", 56⟩] ∧ Rewording text pieces other ∧
      ¬ DashedComment pieces.flatten ∧ markers? other = .ok [⟨.named "low", 81⟩] ∧
      ∀ schema kind, Analysis.ofText schema kind other = Analysis.ofText schema kind text := by
  intro before after body text other pieces
  have scanned : markers? text = .ok [⟨.named "low", 56⟩] := by decide +kernel
  have cut : split text.toList = before ++ .literal '\'' "x".toList :: .other ' ' ::
      .blockComment " c ".toList true :: after := by decide +kernel
  have enclosed : Enclosed '\'' body :=
    (enclosed_of_quotedBody
      (show quotedBody '\'' (body ++ ['\'']) = some (body, []) by decide +kernel)).1
  have gap : (Segment.lineComment " ?".toList true).Gap := show '\n' ∉ " ?".toList by decide
  have rewording : Rewording text pieces other := by
    refine ⟨?_, by decide +kernel, by decide +kernel⟩
    rw [cut]
    refine replaced_kept before (.cons (.literal enclosed) (.cons (.same _) (.cons ?_ ?_)))
    · exact .comment trivial (by simp) (List.forall_mem_singleton.mpr gap)
    · simpa using replaced_kept after .nil
  have apart : ¬ DashedComment pieces.flatten :=
    rewording.split_eq_iff.mp (by decide +kernel)
  exact ⟨scanned, rewording, apart, by decide +kernel, (contents_inert scanned rewording apart).2⟩

/-- A comment of two dashes put in the place of another one, after a minus sign, makes an
alias of the name that was subtracted. -/
theorem dash_swallowed :
    let schema := Schema.ofTables [⟨"song", ["id", "year"]⟩]
    let before := "SELECT id -".toList.map Segment.other
    let after := " year FROM song".toList.map Segment.other
    let text := "SELECT id -/**/ year FROM song"
    let other := "SELECT id ---\n year FROM song"
    let pieces := before.map ([·]) ++ [.lineComment [] true] :: after.map ([·])
    Rewording text pieces other ∧ markers? text = .ok [] ∧ markers? other = .ok [] ∧
      (Analysis.ofText schema .read text).map Analysis.columns = .ok none ∧
      (Analysis.ofText schema .read other).map Analysis.columns = .ok (some ["year"]) := by
  intro schema before after text other pieces
  have cut : split text.toList = before ++ .blockComment [] true :: after := by decide +kernel
  have gap : (Segment.lineComment [] true).Gap := List.not_mem_nil
  refine ⟨⟨?_, by decide +kernel, by decide +kernel⟩, by decide +kernel⟩
  rw [cut]
  refine replaced_kept before (.cons ?_ ?_)
  · exact .comment trivial (by simp) (List.forall_mem_singleton.mpr gap)
  · simpa using replaced_kept after .nil

end CheckedSql

import CheckedSql.Parameter
import CheckedSql.Proofs.Except
import Mathlib.Data.List.Nodup

namespace CheckedSql.Parameter

open Text

variable {policy : UnusedPolicy} {names : List String} {declared used : List Parameter}
  {parameter : Parameter}

/-- Induction along the removal of repeated names. -/
theorem eraseDups_induct {motive : List String → Prop} (nil : motive [])
    (cons : ∀ name rest, motive (rest.filter fun other => !other == name) → motive (name :: rest)) :
    (names : List String) → motive names
  | [] => nil
  | name :: rest => cons name rest (eraseDups_induct nil cons _)
termination_by names => names.length
decreasing_by exact Nat.lt_succ_of_le (List.length_filter_le _ rest)

theorem nodup_eraseDups (names : List String) : names.eraseDups.Nodup := by
  induction names using eraseDups_induct with
  | nil => simp
  | cons name rest ih =>
      rw [List.eraseDups_cons, List.nodup_cons, List.mem_eraseDups]
      exact ⟨by simp, ih⟩

theorem select_eq_ok_iff {name : String} :
    select declared name = .ok parameter ↔ named? name declared = some parameter := by
  unfold select
  cases named? name declared <;> simp

theorem used_of_resolve (resolved : resolve policy names declared = .ok used) :
    names.eraseDups.mapM (select declared) = .ok used := by
  unfold resolve at resolved
  obtain ⟨_, _, resolved⟩ := bind_eq_ok_iff.mp resolved
  obtain ⟨selected, read, resolved⟩ := bind_eq_ok_iff.mp resolved
  obtain ⟨_, _, same⟩ := bind_eq_ok_iff.mp resolved
  cases same
  exact read

theorem selected_of_resolve (resolved : resolve policy names declared = .ok used) :
    List.Forall₂ (fun name parameter => parameter ∈ declared ∧ parameter.name = name)
      names.eraseDups used :=
  (forall₂_of_mapM (used_of_resolve resolved)).imp fun _ _ selected =>
    named?_some (select_eq_ok_iff.mp selected)

theorem names_of_resolve (resolved : resolve policy names declared = .ok used) :
    used.map Parameter.name = names.eraseDups := by
  have selected := selected_of_resolve resolved
  clear resolved
  generalize names.eraseDups = distinct at selected ⊢
  induction selected with
  | nil => rfl
  | cons first _ ih => rw [List.map_cons, first.2, ih]

theorem declared_of_resolve (resolved : resolve policy names declared = .ok used)
    (member : parameter ∈ used) : parameter ∈ declared := by
  obtain ⟨_, _, isDeclared, _⟩ := exists_of_mem_forall₂ (selected_of_resolve resolved) member
  exact isDeclared

/-- Among parameters of distinct names, one stands alone under its name. -/
theorem filter_eq_singleton (distinct : (used.map Parameter.name).Nodup)
    (member : parameter ∈ used) :
    used.filter (fun other => other.name = parameter.name) = [parameter] := by
  obtain ⟨before, after, rfl⟩ := List.append_of_mem member
  rw [List.map_append, List.map_cons, List.nodup_middle, List.nodup_cons, ← List.map_append]
    at distinct
  have others : ∀ other ∈ before ++ after, ¬ other.name = parameter.name := by
    intro other inside same
    exact distinct.1 (List.mem_map.mpr ⟨other, inside, same⟩)
  have none : (before ++ after).filter (fun other => other.name = parameter.name) = [] :=
    List.filter_eq_nil_iff.mpr fun other inside => by simpa using others other inside
  rw [List.filter_append, List.append_eq_nil_iff] at none
  rw [List.filter_append, List.filter_cons_of_pos (by simp), none.1, none.2, List.nil_append]

/-- Each name of the statement has exactly one parameter, and that a declared one. -/
theorem selected_once (resolved : resolve policy names declared = .ok used) {name : String}
    (named : name ∈ names) :
    ∃ parameter ∈ declared, used.filter (fun other => other.name = name) = [parameter] := by
  have listed := names_of_resolve resolved
  have selected : name ∈ used.map Parameter.name := by
    rw [listed]
    exact List.mem_eraseDups.mpr named
  obtain ⟨parameter, member, rfl⟩ := List.mem_map.mp selected
  refine ⟨parameter, declared_of_resolve resolved member, filter_eq_singleton ?_ member⟩
  rw [listed]
  exact nodup_eraseDups names

end CheckedSql.Parameter

import CheckedSql.Binding
import CheckedSql.Proofs.Except

namespace CheckedSql.Binding

open Sql

/-- The faults of the arguments of a call. -/
inductive Refusal (parameters : List Parameter) : Fault → Prop where
  | missing (name : String) : Refusal parameters (.missingArgument name)
  | missingPositional (index : Nat) : Refusal parameters (.missingPositional index)
  | mismatch (name : String) (misfit : Misfit) : Refusal parameters (.argumentMismatch name misfit)
  | extraPositional (supplied markers : Nat) :
      Refusal parameters (.extraPositional supplied markers)
  | ceiling (required limit : Nat) (collects : hasCollection parameters = true) :
      Refusal parameters (.tooManyParameters required limit true)

theorem Refusal.atDefinition_eq_false {parameters : List Parameter} {fault : Fault}
    (refused : Refusal parameters fault) : fault.atDefinition = false := by
  cases refused <;> rfl

/-- Every name in the slots is that of a parameter. -/
def Covers (parameters : List Parameter) (slots : List Slot) : Prop :=
  ∀ name, .named name ∈ slots → ∃ parameter ∈ parameters, parameter.name = name

variable {parameters : List Parameter} {arguments : Arguments} {slots : List Slot} {limit : Nat}

section Arguments

variable {parameter : Parameter}

theorem checkArgument_refuses :
    FailsOnly (Refusal parameters) (parameter.checkArgument arguments) := by
  unfold Parameter.checkArgument
  split
  · exact .error (.missing _)
  · split
    · exact .error (.mismatch _ _)
    · exact .ok ()

theorem checkPositional_refuses :
    FailsOnly (Refusal parameters) (checkPositional slots arguments) := by
  unfold checkPositional
  simp only
  split
  · exact .error (.missingPositional _)
  · split
    · exact .error (.extraPositional _ _)
    · exact .ok ()

/-- An argument that passes is there, and is single where no collection is declared. -/
theorem supplied_of_checkArgument (checked : parameter.checkArgument arguments = .ok ()) :
    ∃ argument, arguments.get? parameter.name = some argument ∧
      (parameter.collection = false → ∃ value, argument = .single value) := by
  unfold Parameter.checkArgument at checked
  split at checked
  · cases checked
  · rename_i argument supplied
    refine ⟨argument, supplied, fun single => ?_⟩
    cases argument with
    | single value => exact ⟨value, rfl⟩
    | list values =>
        simp only [Parameter.misfit?, single] at checked
        cases checked

end Arguments

theorem supplied?_isSome (covered : Covers parameters slots)
    (checked : ∀ parameter ∈ parameters, parameter.checkArgument arguments = .ok ())
    {name : String} (member : .named name ∈ slots) :
    ∃ argument, supplied? parameters arguments name = some argument := by
  obtain ⟨parameter, declared, rfl⟩ := covered name member
  obtain ⟨argument, given, _⟩ := supplied_of_checkArgument (checked parameter declared)
  have known : parameters.any (·.name = parameter.name) = true :=
    List.any_eq_true.mpr ⟨parameter, declared, decide_eq_true rfl⟩
  exact ⟨argument, by rw [supplied?, if_pos known, given]⟩

theorem slotValues_exists {supplied? : String → Option Argument}
    (given : ∀ name, .named name ∈ slots → ∃ argument, supplied? name = some argument)
    (positional : List Value) : ∃ values, slotValues supplied? positional slots = .ok values := by
  induction slots generalizing positional with
  | nil => exact ⟨[], rfl⟩
  | cons slot rest ih =>
      have givenRest : ∀ name, .named name ∈ rest → ∃ argument, supplied? name = some argument :=
        fun name member => given name (List.mem_cons_of_mem slot member)
      cases slot with
      | named name =>
          obtain ⟨argument, found⟩ := given name List.mem_cons_self
          obtain ⟨values, further⟩ := ih givenRest positional
          exact ⟨argument.values ++ values, by rw [slotValues, found, further]; rfl⟩
      | positional =>
          obtain ⟨values, further⟩ := ih givenRest positional.tail
          exact ⟨positional.head?.toList ++ values, by rw [slotValues, further]; rfl⟩

/-- Without collections every name takes one value. -/
theorem arity_eq_one (single : hasCollection parameters = false)
    (checked : ∀ parameter ∈ parameters, parameter.checkArgument arguments = .ok ())
    (name : String) : arity parameters arguments name = 1 := by
  unfold arity supplied?
  split
  · rename_i argument given
    split at given
    · rename_i known
      obtain ⟨parameter, declared, same⟩ := List.any_eq_true.mp known
      obtain ⟨found, supplied, alone⟩ := supplied_of_checkArgument (checked parameter declared)
      rw [of_decide_eq_true same, given] at supplied
      cases supplied
      have plain : parameter.collection = false := by
        have all := List.any_eq_false.mp single parameter declared
        simpa using all
      obtain ⟨value, rfl⟩ := alone plain
      rfl
    · cases given
  · rfl

theorem requiredCount_eq_length {arity : String → Nat} (single : ∀ name, arity name = 1) :
    requiredCount arity slots = slots.length := by
  unfold requiredCount
  induction slots with
  | nil => rfl
  | cons slot rest ih =>
      have one : Template.slotArity arity slot = 1 := by
        cases slot with
        | named name => exact single name
        | positional => rfl
      rw [total_cons, ih, one, List.length_cons, Nat.add_comm]

/-- The ceiling is exceeded only by collections. -/
theorem checkCeiling_refuses
    (checked : ∀ parameter ∈ parameters, parameter.checkArgument arguments = .ok ())
    (within : hasCollection parameters = false → slots.length ≤ limit) :
    FailsOnly (Refusal parameters)
      (checkCeiling limit (requiredCount (arity parameters arguments) slots)
        (hasCollection parameters)) := by
  unfold checkCeiling
  split
  · rename_i exceeded
    cases collects : hasCollection parameters with
    | true => exact .error (.ceiling _ _ collects)
    | false =>
        have bounded := within collects
        rw [requiredCount_eq_length (arity_eq_one collects checked)] at exceeded
        omega
  · exact .ok ()

theorem bind_refuses {template : Template} (covered : Covers parameters template.slots)
    (within : hasCollection parameters = false → template.slots.length ≤ limit) :
    FailsOnly (Refusal parameters) (bind template parameters arguments limit) := by
  unfold bind
  refine .bind (.forM fun _ _ => checkArgument_refuses) fun _ passed => ?_
  have checked := forM_eq_ok_iff.mp passed
  refine .bind checkPositional_refuses fun _ _ => ?_
  refine .bind (checkCeiling_refuses checked within) fun _ _ => ?_
  obtain ⟨values, read⟩ := slotValues_exists
    (fun _ member => supplied?_isSome covered checked member) arguments.positional
  rw [read]
  exact .ok _

end CheckedSql.Binding

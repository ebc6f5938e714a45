import CheckedSql.Proofs.Binding.Alignment
import CheckedSql.Proofs.Binding.Refusal

namespace CheckedSql

open Sql

/-! The ceiling on the values of one call.

`Binding.leastCount` is the number of values that a statement takes with every
collection left empty. Arguments that `Fits` are bound where they are within the
ceiling and exceed it otherwise (`bound_of_fits`, `exceeded_iff`); some arguments
always fit (`fits_sample`). Emptied collections still fit, and the values that are
left are the least (`requiredCount_emptied`).
-/

/-- The argument with a collection emptied. -/
def Argument.emptied : Argument → Argument
  | .single value => .single value
  | .list _ => .list []

def Arguments.emptied (arguments : Arguments) : Arguments :=
  ⟨arguments.named.map fun (name, argument) => (name, argument.emptied), arguments.positional⟩

theorem Arguments.get?_emptied (arguments : Arguments) (name : String) :
    arguments.emptied.get? name = (arguments.get? name).map Argument.emptied := by
  obtain ⟨named, positional⟩ := arguments
  simp only [Arguments.get?, Arguments.emptied]
  induction named with
  | nil => rfl
  | cons first rest ih =>
      obtain ⟨other, argument⟩ := first
      cases same : name == other <;> simp [List.lookup_cons, same, ih]

namespace Binding

/-- Whether a name takes a collection. -/
def collects (parameters : List Parameter) (name : String) : Bool :=
  parameters.any fun parameter => parameter.name = name && parameter.collection

/-- Whether a slot takes one value in every call. -/
def isFixed (parameters : List Parameter) : Slot → Bool
  | .positional => true
  | .named name => !collects parameters name

/-- The number of values in a call whose collections are all empty. -/
def leastCount (parameters : List Parameter) (slots : List Slot) : Nat :=
  slots.countP (isFixed parameters)

/-- Arguments that pass every check but that of the ceiling. -/
structure Fits (parameters : List Parameter) (slots : List Slot) (arguments : Arguments) : Prop where
  named : ∀ parameter ∈ parameters, parameter.checkArgument arguments = .ok ()
  positional : arguments.positional.length = positionalCount slots

variable {parameters : List Parameter} {arguments : Arguments} {slots : List Slot}
  {template : Template} {limit required : Nat} {binding : Binding}

section Checks

variable {parameter : Parameter}

theorem checkArgument_eq_ok_iff :
    parameter.checkArgument arguments = .ok () ↔
      ∃ argument, arguments.get? parameter.name = some argument ∧
        parameter.misfit? argument = none := by
  unfold Parameter.checkArgument
  cases supplied : arguments.get? parameter.name with
  | none => simp
  | some argument => cases misfit : parameter.misfit? argument <;> simp [misfit]

theorem misfit?_single_iff {value : Value} :
    parameter.misfit? (.single value) = none ↔
      parameter.collection = false ∧ Parameter.valueMisfit? parameter.type value = none := by
  cases declared : parameter.collection <;> simp [Parameter.misfit?, declared, Argument.values]

theorem collection_of_list {values : List Value} (fits : parameter.misfit? (.list values) = none) :
    parameter.collection = true := by
  cases declared : parameter.collection with
  | true => rfl
  | false => simp [Parameter.misfit?, declared] at fits

theorem misfit?_empty (declared : parameter.collection = true) :
    parameter.misfit? (.list []) = none := by
  simp [Parameter.misfit?, declared, Argument.values]

theorem checkArgument_emptied (checked : parameter.checkArgument arguments = .ok ()) :
    parameter.checkArgument arguments.emptied = .ok () := by
  obtain ⟨argument, supplied, fits⟩ := checkArgument_eq_ok_iff.mp checked
  refine checkArgument_eq_ok_iff.mpr ⟨argument.emptied, ?_, ?_⟩
  · rw [Arguments.get?_emptied, supplied, Option.map_some]
  · cases argument with
    | single value => exact fits
    | list values => exact misfit?_empty (collection_of_list fits)

theorem Fits.emptied (fits : Fits parameters slots arguments) :
    Fits parameters slots arguments.emptied :=
  ⟨fun parameter declared => checkArgument_emptied (fits.named parameter declared),
    fits.positional⟩

end Checks

section Count

variable {name : String}

theorem collects_iff :
    collects parameters name = true ↔
      ∃ parameter ∈ parameters, parameter.name = name ∧ parameter.collection = true := by
  simp [collects]

theorem collects_eq_false (single : hasCollection parameters = false) :
    collects parameters name = false := by
  refine Bool.eq_false_iff.mpr fun collected => ?_
  obtain ⟨parameter, declared, _, collection⟩ := collects_iff.mp collected
  exact List.any_eq_false.mp single parameter declared collection

/-- A name that takes no collection takes one value. -/
theorem arity_of_fixed (fits : Fits parameters slots arguments)
    (fixed : collects parameters name = false) : arity parameters arguments name = 1 := by
  unfold arity supplied?
  split
  · rename_i argument given
    split at given
    · rename_i known
      obtain ⟨parameter, declared, same⟩ := List.any_eq_true.mp known
      obtain ⟨found, supplied, fitting⟩ :=
        checkArgument_eq_ok_iff.mp (fits.named parameter declared)
      rw [of_decide_eq_true same, given] at supplied
      cases supplied
      cases argument with
      | single value => rfl
      | list values =>
          have collected := collects_iff.mpr
            ⟨parameter, declared, of_decide_eq_true same, collection_of_list fitting⟩
          rw [fixed] at collected
          cases collected
    · cases given
  · rfl

/-- A name that takes a collection takes nothing of an empty one. -/
theorem arity_of_emptied (fits : Fits parameters slots arguments)
    (collected : collects parameters name = true) :
    arity parameters arguments.emptied name = 0 := by
  obtain ⟨parameter, declared, rfl, collection⟩ := collects_iff.mp collected
  obtain ⟨argument, supplied, fitting⟩ := checkArgument_eq_ok_iff.mp (fits.named parameter declared)
  have known : parameters.any (·.name = parameter.name) = true :=
    List.any_eq_true.mpr ⟨parameter, declared, decide_eq_true rfl⟩
  cases argument with
  | single value =>
      rw [(misfit?_single_iff.mp fitting).1] at collection
      cases collection
  | list values =>
      rw [arity, supplied?, if_pos known, Arguments.get?_emptied, supplied]
      rfl

theorem leastCount_cons (slot : Slot) :
    leastCount parameters (slot :: slots) =
      leastCount parameters slots + if isFixed parameters slot then 1 else 0 :=
  List.countP_cons

theorem leastCount_eq_length (single : hasCollection parameters = false) :
    leastCount parameters slots = slots.length := by
  refine List.countP_eq_length.mpr fun slot _ => ?_
  cases slot with
  | positional => rfl
  | named name => simp [isFixed, collects_eq_false single]

/-- No call takes fewer values. -/
theorem leastCount_le_requiredCount (fits : Fits parameters slots arguments) (others : List Slot) :
    leastCount parameters others ≤ requiredCount (arity parameters arguments) others := by
  unfold requiredCount
  induction others with
  | nil => exact Nat.le_refl _
  | cons slot rest ih =>
      rw [leastCount_cons, total_cons]
      have one : (if isFixed parameters slot then 1 else 0) ≤
          Template.slotArity (arity parameters arguments) slot := by
        cases slot with
        | positional => exact Nat.le_refl 1
        | named name =>
            cases collected : collects parameters name with
            | true => simp [isFixed, collected]
            | false => simp [isFixed, collected, Template.slotArity, arity_of_fixed fits collected]
      omega

theorem requiredCount_emptied (fits : Fits parameters slots arguments) (others : List Slot) :
    requiredCount (arity parameters arguments.emptied) others = leastCount parameters others := by
  unfold requiredCount
  induction others with
  | nil => rfl
  | cons slot rest ih =>
      have one : Template.slotArity (arity parameters arguments.emptied) slot =
          if isFixed parameters slot then 1 else 0 := by
        cases slot with
        | positional => rfl
        | named name =>
            cases collected : collects parameters name with
            | true => simp [isFixed, collected, Template.slotArity, arity_of_emptied fits collected]
            | false =>
                simp [isFixed, collected, Template.slotArity, arity_of_fixed fits.emptied collected]
      rw [leastCount_cons, total_cons, ih, one, Nat.add_comm]

end Count

section Bind

/-- The fault of a ceiling that is exceeded. -/
def Exceeds (fault : Fault) : Prop :=
  ∃ required limit fromCollection, fault = .tooManyParameters required limit fromCollection

theorem checkArgument_fails {parameter : Parameter} :
    FailsOnly (fun fault => ¬ Exceeds fault) (parameter.checkArgument arguments) := by
  unfold Parameter.checkArgument
  split
  · exact .error (by simp [Exceeds])
  · split
    · exact .error (by simp [Exceeds])
    · exact .ok ()

theorem checkPositional_fails :
    FailsOnly (fun fault => ¬ Exceeds fault) (checkPositional slots arguments) := by
  unfold checkPositional
  simp only
  split
  · exact .error (by simp [Exceeds])
  · split
    · exact .error (by simp [Exceeds])
    · exact .ok ()

theorem slotValues_fails {given? : String → Option Argument} {positional : List Value} :
    FailsOnly (fun fault => ¬ Exceeds fault) (slotValues given? positional slots) := by
  fun_induction slotValues given? positional slots with
  | case1 => exact .ok []
  | case2 => exact .error (by simp [Exceeds])
  | case3 _ _ _ _ _ ih => exact ih.map
  | case4 _ _ ih => exact ih.map

theorem checkCeiling_eq_error_iff {fromCollection : Bool} {fault : Fault} :
    checkCeiling limit required fromCollection = .error fault ↔
      limit < required ∧ fault = .tooManyParameters required limit fromCollection := by
  unfold checkCeiling
  split
  · simp [*, eq_comm]
  · simp [*]

theorem fits_of_bind (bound : bind template parameters arguments limit = .ok binding) :
    Fits parameters template.slots arguments ∧
      requiredCount (arity parameters arguments) template.slots ≤ limit := by
  unfold bind at bound
  obtain ⟨_, named, bound⟩ := bind_eq_ok_iff.mp bound
  obtain ⟨_, positional, bound⟩ := bind_eq_ok_iff.mp bound
  obtain ⟨_, within, _⟩ := bind_eq_ok_iff.mp bound
  refine ⟨⟨forM_eq_ok_iff.mp named, checkPositional_eq_ok_iff.mp positional⟩, ?_⟩
  unfold checkCeiling at within
  split at within
  · cases within
  · exact Nat.le_of_not_lt ‹_›

theorem bound_of_fits (covered : Covers parameters template.slots)
    (fits : Fits parameters template.slots arguments)
    (within : requiredCount (arity parameters arguments) template.slots ≤ limit) :
    ∃ binding, bind template parameters arguments limit = .ok binding := by
  obtain ⟨values, read⟩ := slotValues_exists
    (fun _ member => supplied?_isSome covered fits.named member) arguments.positional
  have ceiling : checkCeiling limit (requiredCount (arity parameters arguments) template.slots)
      (hasCollection parameters) = .ok () :=
    if_neg (Nat.not_lt.mpr within)
  refine ⟨⟨template.expand (arity parameters arguments), values⟩, ?_⟩
  simp only [bind, bind_eq_ok_iff]
  exact ⟨(), forM_eq_ok_iff.mpr fits.named, (), checkPositional_eq_ok_iff.mpr fits.positional, (),
    ceiling, values, read, rfl⟩

/-- A call exceeds the ceiling where its arguments fit and bring too many values. -/
theorem exceeded_iff {fault : Fault} :
    (bind template parameters arguments limit = .error fault ∧ Exceeds fault) ↔
      Fits parameters template.slots arguments ∧
        limit < requiredCount (arity parameters arguments) template.slots ∧
        fault = .tooManyParameters (requiredCount (arity parameters arguments) template.slots) limit
          (hasCollection parameters) := by
  have passes : FailsOnly (fun fault => ¬ Exceeds fault)
      (parameters.forM (Parameter.checkArgument arguments)) :=
    .forM fun _ _ => checkArgument_fails
  unfold bind
  simp only
  constructor
  · intro failed
    obtain ⟨_, named, failed⟩ := (FailsOnly.bind_error_later_iff passes).mp failed
    obtain ⟨_, positional, failed⟩ :=
      (FailsOnly.bind_error_later_iff checkPositional_fails).mp failed
    obtain ⟨failed, _⟩ := (FailsOnly.bind_error_iff fun _ _ =>
      slotValues_fails.bind fun _ _ => .ok _).mp failed
    exact ⟨⟨forM_eq_ok_iff.mp named, checkPositional_eq_ok_iff.mp positional⟩,
      checkCeiling_eq_error_iff.mp failed⟩
  · rintro ⟨fits, exceeded, rfl⟩
    refine (FailsOnly.bind_error_later_iff passes).mpr ⟨(), forM_eq_ok_iff.mpr fits.named, ?_⟩
    refine (FailsOnly.bind_error_later_iff checkPositional_fails).mpr
      ⟨(), checkPositional_eq_ok_iff.mpr fits.positional, ?_⟩
    refine (FailsOnly.bind_error_iff fun _ _ => slotValues_fails.bind fun _ _ => .ok _).mpr ?_
    exact ⟨checkCeiling_eq_error_iff.mpr ⟨exceeded, rfl⟩, _, _, _, rfl⟩

end Bind

section Sample

/-- Arguments that suit every call: nothing in each collection, and no value is given. -/
def sample (parameters : List Parameter) (slots : List Slot) : Arguments :=
  ⟨parameters.map fun parameter =>
      (parameter.name, if parameter.collection then .list [] else .single .null),
    List.replicate (positionalCount slots) .null⟩

theorem lookup_of_nodup {given : Parameter → Argument} {parameter : Parameter}
    (distinct : (parameters.map Parameter.name).Nodup) (member : parameter ∈ parameters) :
    (parameters.map fun other => (other.name, given other)).lookup parameter.name =
      some (given parameter) := by
  induction parameters with
  | nil => cases member
  | cons first rest ih =>
      rw [List.map_cons, List.nodup_cons] at distinct
      rw [List.map_cons, List.lookup_cons]
      rcases List.mem_cons.mp member with rfl | further
      · simp
      · have apart : (parameter.name == first.name) = false := by
          refine beq_eq_false_iff_ne.mpr fun same => distinct.1 ?_
          exact same ▸ List.mem_map_of_mem further
        simp only [apart, ih distinct.2 further]

theorem fits_sample (distinct : (parameters.map Parameter.name).Nodup) (slots : List Slot) :
    Fits parameters slots (sample parameters slots) := by
  refine ⟨fun parameter declared => checkArgument_eq_ok_iff.mpr
    ⟨_, lookup_of_nodup distinct declared, ?_⟩, List.length_replicate⟩
  cases collection : parameter.collection with
  | true => exact misfit?_empty collection
  | false => exact misfit?_single_iff.mpr ⟨collection, rfl⟩

end Sample

end Binding

end CheckedSql

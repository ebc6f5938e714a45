import CheckedSql.Proofs.Binding.Ceiling

namespace CheckedSql

open Sql

def Argument.isList : Argument → Bool
  | .single _ => false
  | .list _ => true

namespace Binding

/-- Whether a value may stand where a type is declared: an integer may for a real, and
a value without a type anywhere. -/
def StandsFor (declared : ValueType) (value : Value) : Prop :=
  ∀ found, value.type? = some found → found = declared ∨ declared = .real ∧ found = .integer

structure Suits (parameter : Parameter) (argument : Argument) : Prop where
  shaped : argument.isList = parameter.collection
  typed : ∀ value ∈ argument.values, StandsFor parameter.type value

/-- Why an argument does not suit: its shape, or else its first value of another type. -/
inductive Unsuited (parameter : Parameter) : Argument → Misfit → Prop
  | single (value : Value) (collects : parameter.collection = true) :
      Unsuited parameter (.single value) .singleForCollection
  | list (values : List Value) (collectsNot : parameter.collection = false) :
      Unsuited parameter (.list values) .collectionForSingle
  | value {argument : Argument} {before after : List Value} {value : Value} {found : ValueType}
      (shaped : argument.isList = parameter.collection)
      (parts : argument.values = before ++ value :: after)
      (earlier : ∀ other ∈ before, StandsFor parameter.type other)
      (isTyped : value.type? = some found) (unlike : ¬ StandsFor parameter.type value) :
      Unsuited parameter argument (.wrongType parameter.type found)

/-- Whether a parameter has an argument that suits it. -/
def Supplied (arguments : Arguments) (parameter : Parameter) : Prop :=
  ∃ argument, arguments.get? parameter.name = some argument ∧ Suits parameter argument

inductive Rejected (arguments : Arguments) (parameter : Parameter) : Fault → Prop
  | missing (absent : arguments.get? parameter.name = none) :
      Rejected arguments parameter (.missingArgument parameter.name)
  | mismatch {argument : Argument} {misfit : Misfit}
      (given : arguments.get? parameter.name = some argument)
      (unsuited : Unsuited parameter argument misfit) :
      Rejected arguments parameter (.argumentMismatch parameter.name misfit)

/-- The number of values that a slot takes of these arguments. -/
def valueCount (arguments : Arguments) : Slot → Nat
  | .positional => 1
  | .named name =>
      match arguments.get? name with
      | some (.list values) => values.length
      | _ => 1

structure Accepted (parameters : List Parameter) (slots : List Slot) (arguments : Arguments)
    (limit : Nat) : Prop where
  supplied : ∀ parameter ∈ parameters, Supplied arguments parameter
  positional : arguments.positional.length = slots.count .positional
  within : total (valueCount arguments) slots ≤ limit

/-- The fault of the first condition that fails: of a parameter, of the positional
values, of the ceiling. -/
inductive FirstFault (parameters : List Parameter) (slots : List Slot) (arguments : Arguments)
    (limit : Nat) : Fault → Prop
  | parameter {before after : List Parameter} {parameter : Parameter} {fault : Fault}
      (parts : parameters = before ++ parameter :: after)
      (earlier : ∀ other ∈ before, Supplied arguments other)
      (rejected : Rejected arguments parameter fault) :
      FirstFault parameters slots arguments limit fault
  | missingPositional (supplied : ∀ parameter ∈ parameters, Supplied arguments parameter)
      (fewer : arguments.positional.length < slots.count .positional) :
      FirstFault parameters slots arguments limit
        (.missingPositional (arguments.positional.length + 1))
  | extraPositional (supplied : ∀ parameter ∈ parameters, Supplied arguments parameter)
      (more : slots.count .positional < arguments.positional.length) :
      FirstFault parameters slots arguments limit
        (.extraPositional arguments.positional.length (slots.count .positional))
  | ceiling (supplied : ∀ parameter ∈ parameters, Supplied arguments parameter)
      (positional : arguments.positional.length = slots.count .positional)
      (exceeded : limit < total (valueCount arguments) slots) :
      FirstFault parameters slots arguments limit
        (.tooManyParameters (total (valueCount arguments) slots) limit (hasCollection parameters))

/-- Values drawn for slots in order, until no positional value is left. -/
inductive Drawn (arguments : Arguments) : List Slot → List Value → List Value → Prop
  | nil : Drawn arguments [] [] []
  | cons {slot : Slot} {slots : List Slot} {positional taken left values : List Value}
      (takes : Takes arguments.get? slot positional taken left)
      (further : Drawn arguments slots left values) :
      Drawn arguments (slot :: slots) positional (taken ++ values)

variable {parameters : List Parameter} {parameter : Parameter} {arguments other : Arguments}
  {slots : List Slot} {template : Template} {limit : Nat} {fault : Fault} {binding : Binding}

section Arguments

variable {declared : ValueType} {value : Value} {argument : Argument} {misfit : Misfit}

theorem accepts_iff : declared.accepts value = true ↔ StandsFor declared value := by
  unfold ValueType.accepts StandsFor
  cases value.type? with
  | none => simp
  | some found => simp

theorem valueMisfit?_eq_none_iff :
    Parameter.valueMisfit? declared value = none ↔ StandsFor declared value := by
  rw [← accepts_iff, Parameter.valueMisfit?]
  cases accepted : declared.accepts value with
  | true => simp
  | false =>
      cases typed : value.type? with
      | none => simp [ValueType.accepts, typed] at accepted
      | some found => simp

theorem valueMisfit?_eq_some_iff :
    Parameter.valueMisfit? declared value = some misfit ↔
      ¬ StandsFor declared value ∧ ∃ found, value.type? = some found ∧
        misfit = .wrongType declared found := by
  rw [← accepts_iff, Parameter.valueMisfit?]
  cases declared.accepts value with
  | true => simp
  | false => cases value.type? <;> simp [eq_comm]

theorem misfit?_shaped (shaped : argument.isList = parameter.collection) :
    parameter.misfit? argument =
      argument.values.findSome? (Parameter.valueMisfit? parameter.type) := by
  cases argument with
  | single value =>
      have collectsNot : parameter.collection = false := shaped.symm
      simp only [Parameter.misfit?, collectsNot]
  | list values =>
      have collects : parameter.collection = true := shaped.symm
      unfold Parameter.misfit?
      rw [collects]

theorem misfit?_unshaped (unlike : argument.isList ≠ parameter.collection) :
    ∃ misfit, parameter.misfit? argument = some misfit ∧ Unsuited parameter argument misfit := by
  cases argument with
  | single value =>
      have collects : parameter.collection = true := eq_true_of_ne_false unlike.symm
      exact ⟨_, by simp only [Parameter.misfit?, collects], .single value collects⟩
  | list values =>
      have collectsNot : parameter.collection = false := eq_false_of_ne_true unlike.symm
      exact ⟨_, by simp only [Parameter.misfit?, collectsNot], .list values collectsNot⟩

theorem misfit?_eq_none_iff : parameter.misfit? argument = none ↔ Suits parameter argument := by
  by_cases shaped : argument.isList = parameter.collection
  · rw [misfit?_shaped shaped, List.findSome?_eq_none_iff]
    simp only [valueMisfit?_eq_none_iff]
    exact ⟨fun typed => ⟨shaped, typed⟩, Suits.typed⟩
  · obtain ⟨misfit, found, _⟩ := misfit?_unshaped shaped
    rw [found]
    exact iff_of_false (Option.some_ne_none misfit) fun suits => shaped suits.shaped

theorem misfit?_eq_some_iff :
    parameter.misfit? argument = some misfit ↔ Unsuited parameter argument misfit := by
  constructor
  · intro found
    by_cases shaped : argument.isList = parameter.collection
    · rw [misfit?_shaped shaped, List.findSome?_eq_some_iff] at found
      obtain ⟨before, value, after, parts, here, earlier⟩ := found
      obtain ⟨unlike, found, isTyped, rfl⟩ := valueMisfit?_eq_some_iff.mp here
      exact .value shaped parts
        (fun other member => valueMisfit?_eq_none_iff.mp (earlier other member)) isTyped unlike
    · obtain ⟨other, same, unsuited⟩ := misfit?_unshaped shaped
      cases found.symm.trans same
      exact unsuited
  · intro unsuited
    cases unsuited with
    | single value collects => simp only [Parameter.misfit?, collects]
    | list values collectsNot => simp only [Parameter.misfit?, collectsNot]
    | @value argument before after value found shaped parts earlier isTyped unlike =>
        rw [misfit?_shaped shaped, List.findSome?_eq_some_iff]
        exact ⟨before, value, after, parts,
          valueMisfit?_eq_some_iff.mpr ⟨unlike, found, isTyped, rfl⟩,
          fun other member => valueMisfit?_eq_none_iff.mpr (earlier other member)⟩

theorem checkArgument_passes_iff :
    parameter.checkArgument arguments = .ok () ↔ Supplied arguments parameter := by
  simp only [checkArgument_eq_ok_iff, misfit?_eq_none_iff, Supplied]

theorem checkArgument_eq_error_iff :
    parameter.checkArgument arguments = .error fault ↔ Rejected arguments parameter fault := by
  unfold Parameter.checkArgument
  constructor
  · intro failed
    split at failed
    · rename_i absent
      cases failed
      exact .missing absent
    · rename_i argument given
      split at failed
      · rename_i misfit found
        cases failed
        exact .mismatch given (misfit?_eq_some_iff.mp found)
      · cases failed
  · intro rejected
    cases rejected with
    | missing absent => simp only [absent]
    | mismatch given unsuited => simp only [given, misfit?_eq_some_iff.mpr unsuited]

theorem forM_checkArgument_passes_iff :
    parameters.forM (Parameter.checkArgument arguments) = .ok () ↔
      ∀ parameter ∈ parameters, Supplied arguments parameter := by
  simp only [forM_eq_ok_iff, checkArgument_passes_iff]

end Arguments

section Counts

theorem positionalCount_eq_count : positionalCount slots = slots.count .positional :=
  List.countP_congr fun slot _ => by cases slot <;> simp [isPositional]

theorem checkPositional_eq_error_iff :
    checkPositional slots arguments = .error fault ↔
      (arguments.positional.length < slots.count .positional ∧
          fault = .missingPositional (arguments.positional.length + 1)) ∨
        (slots.count .positional < arguments.positional.length ∧
          fault = .extraPositional arguments.positional.length (slots.count .positional)) := by
  simp only [checkPositional, positionalCount_eq_count]
  split
  · rename_i fewer
    simp [fewer, Nat.not_lt_of_lt fewer, eq_comm]
  · rename_i notFewer
    split <;> simp [*, eq_comm]

/-- What binding looks up for a slot is its argument. -/
theorem supplied?_eq_get? (covered : Covers parameters slots) {name : String}
    (member : .named name ∈ slots) :
    supplied? parameters arguments name = arguments.get? name := by
  obtain ⟨parameter, declared, same⟩ := covered name member
  exact if_pos (List.any_eq_true.mpr ⟨parameter, declared, decide_eq_true same⟩)

theorem requiredCount_eq_total (covered : Covers parameters slots) :
    requiredCount (arity parameters arguments) slots = total (valueCount arguments) slots := by
  refine total_congr fun slot member => ?_
  cases slot with
  | positional => rfl
  | named name =>
      rw [Template.slotArity, arity, supplied?_eq_get? covered member, valueCount]
      cases arguments.get? name with
      | none => rfl
      | some argument => cases argument <;> rfl

theorem drawn_of_slotValues {given? : String → Option Argument} {positional values : List Value}
    (looks : ∀ name, .named name ∈ slots → given? name = arguments.get? name)
    (read : slotValues given? positional slots = .ok values)
    (enough : positional.length = positionalCount slots) :
    Drawn arguments slots positional values := by
  induction slots generalizing positional values with
  | nil =>
      cases read
      cases List.length_eq_zero_iff.mp enough
      exact .nil
  | cons slot rest ih =>
      obtain ⟨taken, left, further, takes, readRest, rfl, enoughRest⟩ :=
        takes_of_slotValues read enough
      refine .cons ?_ (ih (fun name member => looks name (List.mem_cons_of_mem slot member))
        readRest enoughRest)
      cases takes with
      | named supplied => exact .named (looks _ List.mem_cons_self ▸ supplied)
      | positional => exact .positional

end Counts

section Bind

theorem bound_iff_accepted (covered : Covers parameters template.slots) :
    (∃ binding, bind template parameters arguments limit = .ok binding) ↔
      Accepted parameters template.slots arguments limit := by
  constructor
  · rintro ⟨binding, bound⟩
    obtain ⟨fits, within⟩ := fits_of_bind bound
    exact ⟨fun parameter declared => checkArgument_passes_iff.mp (fits.named parameter declared),
      positionalCount_eq_count ▸ fits.positional, requiredCount_eq_total covered ▸ within⟩
  · intro accepted
    refine bound_of_fits covered ⟨fun parameter declared =>
      checkArgument_passes_iff.mpr (accepted.supplied parameter declared), ?_⟩ ?_
    · exact positionalCount_eq_count ▸ accepted.positional
    · exact requiredCount_eq_total covered ▸ accepted.within

theorem bind_eq_error_iff_first (covered : Covers parameters template.slots) :
    bind template parameters arguments limit = .error fault ↔
      FirstFault parameters template.slots arguments limit fault := by
  simp only [bind, bind_eq_error_iff]
  constructor
  · rintro (failed | ⟨_, passed, failed | ⟨_, counted, failed | ⟨_, _, failed | ⟨_, _, failed⟩⟩⟩⟩)
    · obtain ⟨before, parameter, after, parts, earlier, failed⟩ := forM_eq_error_iff.mp failed
      exact .parameter parts
        (fun other member => checkArgument_passes_iff.mp (earlier other member))
        (checkArgument_eq_error_iff.mp failed)
    · have supplied := forM_checkArgument_passes_iff.mp passed
      rcases checkPositional_eq_error_iff.mp failed with ⟨fewer, rfl⟩ | ⟨more, rfl⟩
      · exact .missingPositional supplied fewer
      · exact .extraPositional supplied more
    · have positional := positionalCount_eq_count ▸ checkPositional_eq_ok_iff.mp counted
      obtain ⟨exceeded, rfl⟩ := checkCeiling_eq_error_iff.mp failed
      rw [requiredCount_eq_total covered] at exceeded ⊢
      exact .ceiling (forM_checkArgument_passes_iff.mp passed) positional exceeded
    · -- Every slot has its argument, so the values are always found.
      obtain ⟨values, read⟩ := slotValues_exists
        (fun _ member => supplied?_isSome covered (forM_eq_ok_iff.mp passed) member)
        arguments.positional
      cases read.symm.trans failed
    · cases failed
  · intro first
    cases first with
    | parameter parts earlier rejected =>
        exact .inl (forM_eq_error_iff.mpr ⟨_, _, _, parts,
          fun other member => checkArgument_passes_iff.mpr (earlier other member),
          checkArgument_eq_error_iff.mpr rejected⟩)
    | missingPositional supplied fewer =>
        exact .inr ⟨(), forM_checkArgument_passes_iff.mpr supplied,
          .inl (checkPositional_eq_error_iff.mpr (.inl ⟨fewer, rfl⟩))⟩
    | extraPositional supplied more =>
        exact .inr ⟨(), forM_checkArgument_passes_iff.mpr supplied,
          .inl (checkPositional_eq_error_iff.mpr (.inr ⟨more, rfl⟩))⟩
    | ceiling supplied positional exceeded =>
        rw [← requiredCount_eq_total covered] at exceeded ⊢
        exact .inr ⟨(), forM_checkArgument_passes_iff.mpr supplied, .inr ⟨(),
          checkPositional_eq_ok_iff.mpr (positionalCount_eq_count ▸ positional),
          .inl (checkCeiling_eq_error_iff.mpr ⟨exceeded, rfl⟩)⟩⟩

/-- Binding looks at the arguments of its parameters and at the positional values, and
at no others. -/
theorem bind_congr (positional : other.positional = arguments.positional)
    (named : ∀ parameter ∈ parameters,
      other.get? parameter.name = arguments.get? parameter.name) :
    bind template parameters other limit = bind template parameters arguments limit := by
  have looks : supplied? parameters other = supplied? parameters arguments := by
    funext name
    unfold supplied?
    split
    · rename_i known
      obtain ⟨parameter, declared, same⟩ := List.any_eq_true.mp known
      exact of_decide_eq_true same ▸ named parameter declared
    · rfl
  have counts : arity parameters other = arity parameters arguments := by
    funext name
    rw [arity, arity, looks]
  have checks : parameters.forM (Parameter.checkArgument other) =
      parameters.forM (Parameter.checkArgument arguments) :=
    forM_congr fun parameter declared => by
      rw [Parameter.checkArgument, Parameter.checkArgument, named parameter declared]
  have places : checkPositional template.slots other = checkPositional template.slots arguments := by
    rw [checkPositional, checkPositional, positional]
  simp only [bind, looks, counts, checks, places, positional]

end Bind

/-- A call is bound exactly if it is accepted; then every value is drawn. Otherwise it
fails for the first condition that it violates. Arguments that bear the name of no
parameter make no difference. -/
theorem accepted_iff (covered : Covers parameters template.slots) :
    ((∃ binding, bind template parameters arguments limit = .ok binding) ↔
        Accepted parameters template.slots arguments limit) ∧
      (∀ binding, bind template parameters arguments limit = .ok binding →
        Drawn arguments template.slots arguments.positional binding.values) ∧
      (∀ fault, bind template parameters arguments limit = .error fault ↔
        FirstFault parameters template.slots arguments limit fault) ∧
      ∀ other : Arguments, other.positional = arguments.positional →
        (∀ parameter ∈ parameters,
          other.get? parameter.name = arguments.get? parameter.name) →
        bind template parameters other limit = bind template parameters arguments limit := by
  refine ⟨bound_iff_accepted covered, fun binding bound => ?_, fun fault =>
    bind_eq_error_iff_first covered, fun other positional named => bind_congr positional named⟩
  obtain ⟨enough, read, _⟩ := bound_of_bind bound
  exact drawn_of_slotValues (fun _ member => supplied?_eq_get? covered member) read enough

/-- A collection named twice: five values, which a ceiling of five admits and one of
four does not. -/
theorem accepted_iff_twice :
    let template := Template.ofText "a = ? AND b IN (:ids) AND c IN (:ids)"
    let parameters : List Parameter := [⟨"ids", .real, true⟩]
    let arguments : Arguments :=
      ⟨[("ids", .list [.integer 1, .null]), ("other", .list [])], [.text "x"]⟩
    let values : List Value := [.text "x", .integer 1, .null, .integer 1, .null]
    let narrowed : Arguments := ⟨[("ids", .list [.integer 1, .null])], [.text "x"]⟩
    Covers parameters template.slots ∧ Accepted parameters template.slots arguments 5 ∧
      Drawn arguments template.slots [.text "x"] values ∧
      FirstFault parameters template.slots arguments 4 (.tooManyParameters 5 4 true) ∧
      bind template parameters narrowed 5 = bind template parameters arguments 5 := by
  intro template parameters arguments values narrowed
  have slots : template.slots = [.positional, .named "ids", .named "ids"] := by decide +kernel
  have covered : Covers parameters template.slots := by
    intro name member
    refine ⟨⟨"ids", .real, true⟩, List.mem_singleton_self _, ?_⟩
    simpa [slots, eq_comm] using member
  have bound : bind template parameters arguments 5 =
      .ok ⟨"a = ? AND b IN (?, ?) AND c IN (?, ?)", values⟩ := by decide +kernel
  have failed : bind template parameters arguments 4 = .error (.tooManyParameters 5 4 true) := by
    decide +kernel
  obtain ⟨accepts, draws, _, ignores⟩ := @accepted_iff _ arguments _ 5 covered
  obtain ⟨_, _, refuses, _⟩ := @accepted_iff _ arguments _ 4 covered
  exact ⟨covered, accepts.mp ⟨_, bound⟩, draws _ bound, (refuses _).mp failed,
    ignores narrowed rfl (by decide)⟩

end Binding

end CheckedSql

import CheckedSql.Proofs.Binding.Resolution

namespace CheckedSql.Parameter

open Text

/-- Parameters of different names, also if case is ignored. -/
def Apart (left right : Parameter) : Prop :=
  ¬ SameName left.name right.name

theorem Apart.symm {left right : Parameter} (apart : Apart left right) : Apart right left :=
  fun same => apart (SameName.symm same)

def Distinct (declared : List Parameter) : Prop :=
  declared.Pairwise Apart

def Declares (declared : List Parameter) (name : String) : Prop :=
  ∃ parameter ∈ declared, parameter.name = name

structure Resolvable (policy : UnusedPolicy) (names : List String) (declared : List Parameter) :
    Prop where
  distinct : Distinct declared
  declares : ∀ name ∈ names, Declares declared name
  uses : policy = .fail → ∀ parameter ∈ declared, parameter.name ∈ names

/-- The names of a list, each once, in the order of first use. -/
structure FirstUses (names distinct : List String) : Prop where
  mem_iff : ∀ name, name ∈ distinct ↔ name ∈ names
  ordered : distinct.Pairwise fun earlier later => names.idxOf earlier < names.idxOf later

/-- The parameters that names select: for each name the only one that bears it. -/
structure Selects (names : List String) (declared used : List Parameter) : Prop where
  once : FirstUses names (used.map Parameter.name)
  alone : ∀ parameter ∈ used,
    declared.filter (fun other => SameName other.name parameter.name) = [parameter]

/-- Why names are not resolved. A name that parameters share counts before a name that
none of them bears, and that before a parameter that is not used; of each the first. -/
inductive Unresolvable (policy : UnusedPolicy) (names : List String) (declared : List Parameter) :
    Fault → Prop where
  | ambiguous {before after : List Parameter} {parameter : Parameter}
      (parts : declared = before ++ parameter :: after) (distinct : Distinct before)
      (earlier : ∀ other ∈ before, ∀ rival ∈ parameter :: after, Apart other rival)
      (rivals : ∃ rival ∈ after, SameName rival.name parameter.name) :
      Unresolvable policy names declared (.ambiguousParameter parameter.name
        ((after.filter fun rival => SameName rival.name parameter.name).map Parameter.name))
  | unresolved {before after : List String} {name : String} (distinct : Distinct declared)
      (parts : names = before ++ name :: after) (earlier : ∀ other ∈ before, Declares declared other)
      (absent : ¬ Declares declared name) :
      Unresolvable policy names declared (.unresolvedParameter name)
  | unused {before after : List Parameter} {parameter : Parameter} (strict : policy = .fail)
      (distinct : Distinct declared) (declares : ∀ name ∈ names, Declares declared name)
      (parts : declared = before ++ parameter :: after)
      (earlier : ∀ other ∈ before, other.name ∈ names) (idle : parameter.name ∉ names) :
      Unresolvable policy names declared (.unusedParameter parameter.name)

section FirstUses

variable {names distinct other : List String}

theorem idxOf_lt_cons {name earlier later : String} (first : name ≠ earlier) (second : name ≠ later) :
    (name :: names).idxOf earlier < (name :: names).idxOf later ↔
      names.idxOf earlier < names.idxOf later := by
  rw [List.idxOf_cons_ne names first, List.idxOf_cons_ne names second]
  exact Nat.succ_lt_succ_iff

/-- What a filter keeps, it keeps in order. -/
theorem idxOf_lt_of_filter {keep : String → Bool} {earlier later : String}
    (keepsEarlier : keep earlier = true) (keepsLater : keep later = true)
    (before : (names.filter keep).idxOf earlier < (names.filter keep).idxOf later) :
    names.idxOf earlier < names.idxOf later := by
  induction names with
  | nil => simp at before
  | cons name rest ih =>
      by_cases second : name = later
      · -- The later name is not first in a list that it is kept in.
        subst second
        rw [List.filter_cons_of_pos keepsLater, List.idxOf_cons_self] at before
        exact absurd before (Nat.not_lt_zero _)
      · by_cases first : name = earlier
        · subst first
          rw [List.idxOf_cons_self, List.idxOf_cons_ne rest second]
          exact Nat.succ_pos _
        · refine (idxOf_lt_cons first second).mpr (ih ?_)
          cases kept : keep name with
          | true =>
              rw [List.filter_cons_of_pos kept] at before
              exact (idxOf_lt_cons first second).mp before
          | false => rwa [List.filter_cons_of_neg (by simp [kept])] at before

theorem ordered_eraseDups (names : List String) : names.eraseDups.Pairwise fun earlier later =>
    names.idxOf earlier < names.idxOf later := by
  induction names using eraseDups_induct with
  | nil => simp
  | cons name rest ih =>
      have others : ∀ later ∈ (rest.filter fun other => !other == name).eraseDups,
          later ≠ name := by
        intro later member
        have kept := List.mem_filter.mp (List.mem_eraseDups.mp member)
        simpa using kept.2
      rw [List.eraseDups_cons, List.pairwise_cons]
      refine ⟨fun later member => ?_, ?_⟩
      · rw [List.idxOf_cons_self, List.idxOf_cons_ne rest (others later member).symm]
        exact Nat.succ_pos _
      · refine ih.imp_of_mem fun {earlier later} early late before => ?_
        have first := others earlier early
        have second := others later late
        refine (idxOf_lt_cons first.symm second.symm).mpr ?_
        exact idxOf_lt_of_filter (by simpa using first) (by simpa using second) before

theorem firstUses_eraseDups (names : List String) : FirstUses names names.eraseDups :=
  ⟨fun _ => List.mem_eraseDups, ordered_eraseDups names⟩

theorem FirstUses.nodup (uses : FirstUses names distinct) : distinct.Nodup :=
  uses.ordered.imp fun before same => by rw [same] at before; exact Nat.lt_irrefl _ before

theorem FirstUses.unique (first : FirstUses names distinct) (second : FirstUses names other) :
    distinct = other := by
  have perm : distinct.Perm other :=
    (List.perm_ext_iff_of_nodup first.nodup second.nodup).mpr fun name =>
      (first.mem_iff name).trans (second.mem_iff name).symm
  refine perm.eq_of_pairwise (fun earlier later _ _ before after => ?_) first.ordered
    second.ordered
  exact absurd before (Nat.lt_asymm after)

end FirstUses

section Distinct

variable {declared before after : List Parameter} {parameter : Parameter}

theorem namesakes_split (parts : declared = before ++ parameter :: after) :
    namesakes parameter.name declared =
      namesakes parameter.name before ++ parameter :: namesakes parameter.name after := by
  simp [namesakes, parts, SameName.refl]

theorem namesakes_eq_nil (apart : ∀ other ∈ before, Apart other parameter) :
    namesakes parameter.name before = [] :=
  List.filter_eq_nil_iff.mpr fun other member same => apart other member (of_decide_eq_true same)

/-- A parameter is ambiguous where another one, before or after it, bears its name. -/
theorem isAmbiguous_iff (parts : declared = before ++ parameter :: after) :
    isAmbiguous declared parameter = true ↔
      ∃ rival ∈ before ++ after, SameName rival.name parameter.name := by
  have counted : isAmbiguous declared parameter = true ↔
      namesakes parameter.name (before ++ after) ≠ [] := by
    rw [isAmbiguous, namesakes_split parts, decide_eq_true_iff, namesakes, namesakes, namesakes,
      List.filter_append, ← List.length_pos_iff, List.length_append, List.length_append,
      List.length_cons]
    omega
  rw [counted, namesakes, Ne, List.filter_eq_nil_iff]
  simp

theorem apart_of_sublist {first second : Parameter} (lone : isAmbiguous declared first = false)
    (sub : [first, second].Sublist declared) : Apart first second := by
  intro same
  have both : namesakes first.name [first, second] = [first, second] := by
    simp [namesakes, SameName.refl, same.symm]
  have kept : (namesakes first.name [first, second]).Sublist (namesakes first.name declared) :=
    sub.filter _
  rw [both] at kept
  rw [isAmbiguous, decide_eq_false_iff_not] at lone
  exact lone kept.length_le

theorem Distinct.lone (distinct : Distinct declared)
    (parts : declared = before ++ parameter :: after) :
    ∀ rival ∈ before ++ after, Apart rival parameter := by
  rw [Distinct, parts, List.pairwise_append, List.pairwise_cons] at distinct
  obtain ⟨_, ⟨later, _⟩, earlier⟩ := distinct
  intro rival member
  rcases List.mem_append.mp member with early | late
  · exact earlier rival early parameter List.mem_cons_self
  · exact (later rival late).symm

theorem isAmbiguous_eq_false (parts : declared = before ++ parameter :: after)
    (lone : ∀ rival ∈ before ++ after, Apart rival parameter) :
    isAmbiguous declared parameter = false := by
  rw [Bool.eq_false_iff, Ne, isAmbiguous_iff parts]
  rintro ⟨rival, found, same⟩
  exact lone rival found same

theorem checkDistinct_eq_ok_iff : checkDistinct declared = .ok () ↔ Distinct declared := by
  have found : checkDistinct declared = .ok () ↔
      ∀ parameter ∈ declared, isAmbiguous declared parameter = false := by
    simp only [← Bool.not_eq_true, ← List.find?_eq_none]
    unfold checkDistinct
    split <;> simp [*]
  rw [found]
  constructor
  · intro lone
    exact List.pairwise_iff_forall_sublist.mpr fun sub =>
      apart_of_sublist (lone _ (sub.subset List.mem_cons_self)) sub
  · intro distinct parameter member
    obtain ⟨before, after, parts⟩ := List.append_of_mem member
    exact isAmbiguous_eq_false parts (distinct.lone parts)

/-- The parameter at fault is the first that has rivals, so that all of them follow it. -/
theorem checkDistinct_eq_error_iff {fault : Fault} :
    checkDistinct declared = .error fault ↔
      ∃ before parameter after, declared = before ++ parameter :: after ∧ Distinct before ∧
        (∀ other ∈ before, ∀ rival ∈ parameter :: after, Apart other rival) ∧
        (∃ rival ∈ after, SameName rival.name parameter.name) ∧
        fault = .ambiguousParameter parameter.name
          ((namesakes parameter.name after).map Parameter.name) := by
  constructor
  · intro failed
    unfold checkDistinct at failed
    split at failed
    · cases failed
    · rename_i parameter found
      cases failed
      obtain ⟨ambiguous, before, after, parts, lone⟩ := List.find?_eq_some_iff_append.mp found
      simp only [Bool.not_eq_true'] at lone
      have distinct : Distinct before := List.pairwise_iff_forall_sublist.mpr fun sub =>
        apart_of_sublist (lone _ (sub.subset List.mem_cons_self))
          (parts ▸ sub.trans (List.sublist_append_left before _))
      have earlier : ∀ other ∈ before, ∀ rival ∈ parameter :: after, Apart other rival := by
        intro other early rival late
        have pair : [other, rival].Sublist (before ++ parameter :: after) :=
          (List.singleton_sublist.mpr early).append (List.singleton_sublist.mpr late)
        exact apart_of_sublist (lone other early) (parts ▸ pair)
      have apart : ∀ other ∈ before, Apart other parameter :=
        fun other early => earlier other early parameter List.mem_cons_self
      obtain ⟨rival, member, same⟩ := (isAmbiguous_iff parts).mp ambiguous
      have late : rival ∈ after :=
        (List.mem_append.mp member).resolve_left fun early => apart rival early same
      refine ⟨before, parameter, after, parts, distinct, earlier, ⟨rival, late, same⟩, ?_⟩
      rw [namesakes_split parts, namesakes_eq_nil apart, List.nil_append, List.tail_cons]
  · rintro ⟨before, parameter, after, parts, distinct, earlier, ⟨rival, late, same⟩, rfl⟩
    have apart : ∀ other ∈ before, Apart other parameter :=
      fun other early => earlier other early parameter List.mem_cons_self
    have found : declared.find? (isAmbiguous declared) = some parameter := by
      refine List.find?_eq_some_iff_append.mpr ⟨?_, before, after, parts, fun other early => ?_⟩
      · exact (isAmbiguous_iff parts).mpr ⟨rival, List.mem_append_right before late, same⟩
      · obtain ⟨first, last, split⟩ := List.append_of_mem early
        have around : declared = first ++ other :: (last ++ parameter :: after) := by
          rw [parts, split, List.append_assoc, List.cons_append]
        rw [isAmbiguous_eq_false around fun rival member => ?_, Bool.not_false]
        rw [← List.append_assoc, List.mem_append] at member
        rcases member with inside | outside
        · exact distinct.lone split rival inside
        · exact (earlier other early rival outside).symm
    simp only [checkDistinct, found]
    rw [namesakes_split parts, namesakes_eq_nil apart, List.nil_append, List.tail_cons]

end Distinct

section Names

variable {policy : UnusedPolicy} {names : List String} {declared used : List Parameter}

theorem named?_isSome_iff {name : String} :
    (named? name declared).isSome = true ↔ Declares declared name := by
  simp [named?, Declares, List.find?_isSome]

theorem find?_eraseDups (missing : String → Bool) (names : List String) :
    names.eraseDups.find? missing = names.find? missing := by
  induction names using eraseDups_induct with
  | nil => simp
  | cons name rest ih =>
      rw [List.eraseDups_cons]
      cases first : missing name with
      | true => rw [List.find?_cons_of_pos first, List.find?_cons_of_pos first]
      | false =>
          have found : ¬ missing name = true := by simp [first]
          rw [List.find?_cons_of_neg found, List.find?_cons_of_neg found, ih, List.find?_filter]
          refine congrArg (rest.find? ·) (funext fun other => ?_)
          by_cases same : other = name <;> simp [same, first]

theorem select_eq_error_iff {name : String} {fault : Fault} :
    select declared name = .error fault ↔
      ¬ Declares declared name ∧ fault = .unresolvedParameter name := by
  rw [← named?_isSome_iff]
  unfold select
  cases named? name declared <;> simp [eq_comm]

theorem select_exists_iff {name : String} :
    (∃ parameter, select declared name = .ok parameter) ↔ Declares declared name := by
  simp only [select_eq_ok_iff, ← Option.isSome_iff_exists, named?_isSome_iff]

theorem selected_iff :
    (∃ used, names.eraseDups.mapM (select declared) = .ok used) ↔
      ∀ name ∈ names, Declares declared name := by
  simp only [mapM_exists_iff, select_exists_iff, List.mem_eraseDups]

/-- The first name that no parameter bears is the first also where no name is repeated. -/
theorem unselected_iff {fault : Fault} :
    names.eraseDups.mapM (select declared) = .error fault ↔
      ∃ before name after, names = before ++ name :: after ∧
        (∀ other ∈ before, Declares declared other) ∧ ¬ Declares declared name ∧
        fault = .unresolvedParameter name := by
  have first : ∀ (names : List String) (name : String),
      names.find? (fun name => (named? name declared).isNone) = some name ↔
        ¬ Declares declared name ∧ ∃ before after, names = before ++ name :: after ∧
          ∀ other ∈ before, Declares declared other := by
    intro names name
    simp only [List.find?_eq_some_iff_append, ← named?_isSome_iff, Option.isSome_iff_ne_none,
      Option.isNone_iff_eq_none, ne_eq, not_not, Option.not_isNone]
  simp only [mapM_eq_error_iff, select_exists_iff, select_eq_error_iff]
  constructor
  · rintro ⟨before, name, after, parts, earlier, absent, rfl⟩
    have found := (first _ name).mpr ⟨absent, before, after, parts, earlier⟩
    rw [find?_eraseDups] at found
    obtain ⟨_, before, after, parts, earlier⟩ := (first _ name).mp found
    exact ⟨before, name, after, parts, earlier, absent, rfl⟩
  · rintro ⟨before, name, after, parts, earlier, absent, rfl⟩
    have found := (first _ name).mpr ⟨absent, before, after, parts, earlier⟩
    rw [← find?_eraseDups] at found
    obtain ⟨_, before, after, parts, earlier⟩ := (first _ name).mp found
    exact ⟨before, name, after, parts, earlier, absent, rfl⟩

theorem checkUsed_eq_ok_iff : checkUsed policy names declared = .ok () ↔
    (policy = .fail → ∀ parameter ∈ declared, parameter.name ∈ names) := by
  cases policy with
  | warn => simp [checkUsed]
  | fail =>
      have passed : checkUsed .fail names declared = .ok () ↔
          declared.find? (fun parameter => !names.contains parameter.name) = none := by
        unfold checkUsed
        cases declared.find? (fun parameter => !names.contains parameter.name) <;> simp
      rw [passed]
      simp

theorem checkUsed_eq_error_iff {fault : Fault} : checkUsed policy names declared = .error fault ↔
    policy = .fail ∧ ∃ before parameter after, declared = before ++ parameter :: after ∧
      (∀ other ∈ before, other.name ∈ names) ∧ parameter.name ∉ names ∧
      fault = .unusedParameter parameter.name := by
  cases policy with
  | warn => simp [checkUsed]
  | fail =>
      have failed : checkUsed .fail names declared = .error fault ↔
          ∃ parameter, declared.find? (fun parameter => !names.contains parameter.name) =
            some parameter ∧ fault = .unusedParameter parameter.name := by
        unfold checkUsed
        cases declared.find? (fun parameter => !names.contains parameter.name) <;>
          simp [eq_comm]
      simp only [failed, List.find?_eq_some_iff_append, true_and, Bool.not_not, List.contains_iff_mem,
        Bool.not_eq_true', ← Bool.not_eq_true]
      constructor
      · rintro ⟨parameter, ⟨idle, before, after, parts, earlier⟩, rfl⟩
        exact ⟨before, parameter, after, parts, earlier, idle, rfl⟩
      · rintro ⟨before, parameter, after, parts, earlier, idle, rfl⟩
        exact ⟨parameter, ⟨idle, before, after, parts, earlier⟩, rfl⟩

end Names

section Resolution

variable {policy : UnusedPolicy} {names : List String} {declared used other : List Parameter}
  {fault : Fault}

theorem resolve_exists_iff :
    (∃ used, resolve policy names declared = .ok used) ↔ Resolvable policy names declared := by
  simp only [resolve, bind_eq_ok_iff]
  constructor
  · rintro ⟨_, _, distinct, used, selected, _, checked, _⟩
    exact ⟨checkDistinct_eq_ok_iff.mp distinct, selected_iff.mp ⟨used, selected⟩,
      checkUsed_eq_ok_iff.mp checked⟩
  · intro resolvable
    obtain ⟨used, selected⟩ := selected_iff.mpr resolvable.declares
    exact ⟨used, (), checkDistinct_eq_ok_iff.mpr resolvable.distinct, used, selected, (),
      checkUsed_eq_ok_iff.mpr resolvable.uses, rfl⟩

theorem Distinct.filter_eq (distinct : Distinct declared) {parameter : Parameter}
    (member : parameter ∈ declared) :
    declared.filter (fun other => SameName other.name parameter.name) = [parameter] := by
  obtain ⟨before, after, parts⟩ := List.append_of_mem member
  have lone := distinct.lone parts
  have split := namesakes_split parts
  rwa [namesakes_eq_nil fun other early => lone other (List.mem_append_left after early),
    namesakes_eq_nil fun other late => lone other (List.mem_append_right before late)] at split

theorem selects_of_resolve (resolved : resolve policy names declared = .ok used) :
    Selects names declared used := by
  have resolvable := resolve_exists_iff.mp ⟨used, resolved⟩
  refine ⟨names_of_resolve resolved ▸ firstUses_eraseDups names, fun parameter member => ?_⟩
  exact resolvable.distinct.filter_eq (declared_of_resolve resolved member)

/-- A parameter that stands alone under its name is known by it. -/
theorem Selects.unique (first : Selects names declared used)
    (second : Selects names declared other) : used = other := by
  have listed := first.once.unique second.once
  refine List.ext_getElem (by simpa using congrArg List.length listed) fun index mine theirs => ?_
  have same : used[index].name = other[index].name := by
    have names := congrArg (fun names => names[index]?) listed
    simpa [mine, theirs] using names
  have alone := first.alone _ (List.getElem_mem mine)
  rw [same, second.alone _ (List.getElem_mem theirs)] at alone
  exact (List.cons.inj alone).1.symm

theorem resolve_eq_error_iff :
    resolve policy names declared = .error fault ↔ Unresolvable policy names declared fault := by
  simp only [resolve, bind_eq_error_iff]
  constructor
  · rintro (failed | ⟨_, distinct, failed | ⟨used, selected, failed | ⟨_, _, failed⟩⟩⟩)
    · obtain ⟨before, parameter, after, parts, distinct, earlier, rivals, rfl⟩ :=
        checkDistinct_eq_error_iff.mp failed
      exact .ambiguous parts distinct earlier rivals
    · obtain ⟨before, name, after, parts, earlier, absent, rfl⟩ := unselected_iff.mp failed
      exact .unresolved (checkDistinct_eq_ok_iff.mp distinct) parts earlier absent
    · obtain ⟨strict, before, parameter, after, parts, earlier, idle, rfl⟩ :=
        checkUsed_eq_error_iff.mp failed
      exact .unused strict (checkDistinct_eq_ok_iff.mp distinct) (selected_iff.mp ⟨used, selected⟩)
        parts earlier idle
    · cases failed
  · intro unresolvable
    cases unresolvable with
    | ambiguous parts distinct earlier rivals =>
        exact .inl (checkDistinct_eq_error_iff.mpr
          ⟨_, _, _, parts, distinct, earlier, rivals, rfl⟩)
    | unresolved distinct parts earlier absent =>
        exact .inr ⟨(), checkDistinct_eq_ok_iff.mpr distinct,
          .inl (unselected_iff.mpr ⟨_, _, _, parts, earlier, absent, rfl⟩)⟩
    | unused strict distinct declares parts earlier idle =>
        obtain ⟨used, selected⟩ := selected_iff.mpr declares
        exact .inr ⟨(), checkDistinct_eq_ok_iff.mpr distinct, .inr ⟨used, selected,
          .inl (checkUsed_eq_error_iff.mpr ⟨strict, _, _, _, parts, earlier, idle, rfl⟩)⟩⟩

theorem Resolvable.perm (resolvable : Resolvable policy names declared)
    (same : other.Perm declared) : Resolvable policy names other where
  distinct := (same.pairwise_iff Apart.symm).mpr resolvable.distinct
  declares := fun name named =>
    let ⟨parameter, member, found⟩ := resolvable.declares name named
    ⟨parameter, same.mem_iff.mpr member, found⟩
  uses := fun strict parameter member => resolvable.uses strict parameter (same.mem_iff.mp member)

theorem Selects.perm (selects : Selects names declared used) (same : other.Perm declared) :
    Selects names other used where
  once := selects.once
  alone := fun parameter member =>
    List.perm_singleton.mp (selects.alone parameter member ▸ same.filter _)

theorem resolve_perm (resolved : resolve policy names declared = .ok used)
    (same : other.Perm declared) : resolve policy names other = .ok used := by
  have resolvable := resolve_exists_iff.mp ⟨used, resolved⟩
  obtain ⟨selected, again⟩ := resolve_exists_iff.mpr (resolvable.perm same)
  rw [again, (selects_of_resolve again).unique ((selects_of_resolve resolved).perm same)]

end Resolution

/-- Names are resolved exactly if they can be, into what they select; otherwise the first
fault is reported. The order in which the parameters are declared makes no difference to
what is selected. -/
theorem resolve_exact (policy : UnusedPolicy) (names : List String) (declared : List Parameter) :
    ((∃ used, resolve policy names declared = .ok used) ↔ Resolvable policy names declared) ∧
      (∀ used, resolve policy names declared = .ok used →
        Selects names declared used ∧
          ∀ other : List Parameter, other.Perm declared → resolve policy names other = .ok used) ∧
      ∀ fault, resolve policy names declared = .error fault ↔
        Unresolvable policy names declared fault :=
  ⟨resolve_exists_iff, fun _ resolved =>
    ⟨selects_of_resolve resolved, fun _ same => resolve_perm resolved same⟩,
    fun _ => resolve_eq_error_iff⟩

end CheckedSql.Parameter

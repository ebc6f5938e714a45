import CheckedSql.Proofs.Except
import CheckedSql.Settings.Load

namespace CheckedSql.Settings

open Toml

/-- What a key of a document gives: the standard value if it is missing, and otherwise what
its item reads as. -/
inductive Gives {Kind : Type} (entries : Entries) (key : String) (read? : Item → Option Kind)
    (standard : Kind) : Kind → Prop
  | missing (absent : entries.get? key = none) : Gives entries key read? standard standard
  | written {item : Item} {value : Kind} (present : entries.get? key = some item)
      (reads : read? item = some value) : Gives entries key read? standard value

/-- The settings that a document declares. -/
structure Declares (entries : Entries) (settings : Settings) : Prop where
  ceiling : Gives entries "max_bind_parameters" limit? 999 settings.maxParameters
  policy : Gives entries "unused_parameters" policy? .warn settings.unused

variable {entries : Entries} {settings other : Settings} {text : String}

section Keys

variable {Kind : Type} {key : String} {read? : Item → Option Kind} {standard value : Kind}

theorem valueOf_eq_ok_iff :
    valueOf entries key read? standard = .ok value ↔ Gives entries key read? standard value := by
  constructor
  · intro found
    unfold valueOf at found
    cases present : entries.get? key with
    | none =>
        rw [present] at found
        cases found
        exact .missing present
    | some item =>
        simp only [present] at found
        cases reads : read? item with
        | none =>
            rw [reads] at found
            cases found
        | some written =>
            rw [reads] at found
            cases found
            exact .written present reads
  · intro gives
    cases gives with
    | missing absent => rw [valueOf, absent]
    | written present reads => simp only [valueOf, present, reads]

theorem invalid_of_valueOf {fault : SettingsFault}
    (failed : valueOf entries key read? standard = .error fault) : fault = .invalid := by
  unfold valueOf at failed
  cases present : entries.get? key with
  | none =>
      rw [present] at failed
      cases failed
  | some item =>
      simp only [present] at failed
      cases reads : read? item with
      | none =>
          rw [reads] at failed
          exact (Except.error.inj failed).symm
      | some written =>
          rw [reads] at failed
          cases failed

theorem Gives.unique {another : Kind} (first : Gives entries key read? standard value)
    (second : Gives entries key read? standard another) : value = another :=
  Except.ok.inj ((valueOf_eq_ok_iff.mpr first).symm.trans (valueOf_eq_ok_iff.mpr second))

end Keys

theorem Declares.unique (first : Declares entries settings) (second : Declares entries other) :
    settings = other := by
  obtain ⟨maxParameters, unused⟩ := settings
  obtain ⟨ceiling, policy⟩ := other
  rw [mk.injEq]
  exact ⟨first.ceiling.unique second.ceiling, first.policy.unique second.policy⟩

/-- What is declared is loaded, unless its ceiling is zero. -/
theorem ofEntries_of_declares (declares : Declares entries settings) :
    ofEntries entries =
      if settings.maxParameters = 0 then .error .zeroCeiling else .ok settings := by
  have ceiling := valueOf_eq_ok_iff.mpr declares.ceiling
  have policy := valueOf_eq_ok_iff.mpr declares.policy
  simp only [ofEntries, standard, ceiling, policy]
  rfl

theorem ofEntries_of_undeclared (undeclared : ∀ settings, ¬ Declares entries settings) :
    ofEntries entries = .error .invalid := by
  cases ceiling : valueOf entries "max_bind_parameters" limit? 999 with
  | error fault =>
      cases invalid_of_valueOf ceiling
      simp only [ofEntries, standard, ceiling]
      rfl
  | ok maxParameters =>
      cases policy : valueOf entries "unused_parameters" policy? .warn with
      | error fault =>
          cases invalid_of_valueOf policy
          simp only [ofEntries, standard, ceiling, policy]
          rfl
      | ok unused =>
          exact absurd ⟨valueOf_eq_ok_iff.mp ceiling, valueOf_eq_ok_iff.mp policy⟩
            (undeclared ⟨maxParameters, unused⟩)

theorem declares_or_undeclared (entries : Entries) :
    (∃ settings, Declares entries settings) ∨ ∀ settings, ¬ Declares entries settings := by
  by_cases declared : ∃ settings, Declares entries settings
  · exact .inl declared
  · exact .inr fun settings declares => declared ⟨settings, declares⟩

theorem ofEntries_eq_ok_iff :
    ofEntries entries = .ok settings ↔
      0 < settings.maxParameters ∧ Declares entries settings := by
  rcases declares_or_undeclared entries with ⟨found, declares⟩ | undeclared
  · rw [ofEntries_of_declares declares]
    by_cases zero : found.maxParameters = 0
    · rw [if_pos zero]
      refine iff_of_false nofun ?_
      intro ⟨positive, other⟩
      cases other.unique declares
      omega
    · rw [if_neg zero]
      constructor
      · intro same
        cases same
        exact ⟨Nat.pos_of_ne_zero zero, declares⟩
      · intro ⟨_, other⟩
        exact congrArg Except.ok (declares.unique other)
  · rw [ofEntries_of_undeclared undeclared]
    exact iff_of_false nofun fun declares => undeclared settings declares.2

theorem ofEntries_eq_zeroCeiling_iff :
    ofEntries entries = .error .zeroCeiling ↔
      ∃ settings, Declares entries settings ∧ settings.maxParameters = 0 := by
  rcases declares_or_undeclared entries with ⟨found, declares⟩ | undeclared
  · rw [ofEntries_of_declares declares]
    by_cases zero : found.maxParameters = 0
    · rw [if_pos zero]
      exact iff_of_true rfl ⟨found, declares, zero⟩
    · rw [if_neg zero]
      refine iff_of_false nofun ?_
      intro ⟨other, declared, unlimited⟩
      cases declared.unique declares
      exact zero unlimited
  · rw [ofEntries_of_undeclared undeclared]
    refine iff_of_false nofun ?_
    intro ⟨other, declared, _⟩
    exact undeclared other declared

/-- Settings are loaded from a text exactly if it is a document that declares them, with a
ceiling that is not zero. -/
theorem ofToml_eq_ok_iff :
    ofToml text = .ok settings ↔ 0 < settings.maxParameters ∧
      ∃ entries, document? text = some entries ∧ Declares entries settings := by
  unfold ofToml
  cases document? text with
  | none => simp
  | some entries => simp [ofEntries_eq_ok_iff]

/-- A document is refused for its ceiling exactly if it declares zero. Any other refusal is for
a text that is no document or for a key that does not have its type. -/
theorem ofToml_eq_zeroCeiling_iff :
    ofToml text = .error .zeroCeiling ↔ ∃ entries settings,
      document? text = some entries ∧ Declares entries settings ∧ settings.maxParameters = 0 := by
  unfold ofToml
  cases document? text with
  | none => simp
  | some entries => simp [ofEntries_eq_zeroCeiling_iff]

end CheckedSql.Settings

import CheckedSql.Sql.Token

namespace CheckedSql.Sql

open Text

theorem isOneOf_iff {words : List String} {text : String} :
    isOneOf words text = true ↔ ∃ word ∈ words, SameName word text := by
  simp only [isOneOf, List.any_eq_true, decide_eq_true_eq]

/-- No word of one list is a word of the other. -/
def Apart (words others : List String) : Prop :=
  ∀ word ∈ words, ∀ other ∈ others, ¬ SameName word other

instance (words others : List String) : Decidable (Apart words others) :=
  inferInstanceAs (Decidable (∀ word ∈ words, ∀ other ∈ others, ¬ SameName word other))

/-- Every word is a reserved one. -/
def Reserved (words : List String) : Prop :=
  ∀ word ∈ words, isOneOf reservedWords word = true

instance (words : List String) : Decidable (Reserved words) :=
  inferInstanceAs (Decidable (∀ word ∈ words, isOneOf reservedWords word = true))

namespace Token

variable {token : Token} {words others : List String}

theorem word_of_isWordOf (spelled : token.isWordOf words = true) :
    ∃ text, token = .word text ∧ isOneOf words text = true := by
  cases token with
  | word text => exact ⟨text, rfl, spelled⟩
  | quoted name => cases spelled
  | literal => cases spelled
  | punct char => cases spelled

theorem isWordOf_apart (apart : Apart words others) (spelled : token.isWordOf words = true) :
    token.isWordOf others = false := by
  obtain ⟨text, rfl, isOne⟩ := word_of_isWordOf spelled
  obtain ⟨word, member, same⟩ := isOneOf_iff.mp isOne
  refine Bool.eq_false_iff.mpr fun other => ?_
  obtain ⟨second, found, alike⟩ := isOneOf_iff.mp other
  exact apart word member second found (same.trans alike.symm)

theorem isWordOf_mono (within : ∀ word ∈ words, word ∈ others)
    (spelled : token.isWordOf words = true) : token.isWordOf others = true := by
  obtain ⟨text, rfl, isOne⟩ := word_of_isWordOf spelled
  obtain ⟨word, member, same⟩ := isOneOf_iff.mp isOne
  exact isOneOf_iff.mpr ⟨word, within word member, same⟩

theorem name?_eq_none (reserved : Reserved words) (spelled : token.isWordOf words = true) :
    token.name? = none := by
  obtain ⟨text, rfl, isOne⟩ := word_of_isWordOf spelled
  obtain ⟨word, member, same⟩ := isOneOf_iff.mp isOne
  obtain ⟨other, found, alike⟩ := isOneOf_iff.mp (reserved word member)
  exact if_pos (isOneOf_iff.mpr ⟨other, found, alike.trans same⟩)

theorem spelled?_of_name? {text : String} (names : token.name? = some text) :
    token.spelled? = some text := by
  cases token with
  | word spelled =>
      simp only [name?] at names
      split at names
      · cases names
      · exact names
  | quoted name => exact names
  | literal => cases names
  | punct char => cases names

end Token

/-- A token that spells one of some words. -/
structure Keyword (words : List String) where
  token : Token
  spelled : token.isWordOf words = true

namespace Keyword

variable {words others : List String}

/-- The word itself. -/
def of (word : String) : Keyword [word] :=
  ⟨.word word, isOneOf_iff.mpr ⟨word, List.mem_singleton_self word, SameName.refl word⟩⟩

theorem isWordOf_apart (keyword : Keyword words) (apart : Apart words others) :
    keyword.token.isWordOf others = false :=
  Token.isWordOf_apart apart keyword.spelled

theorem name?_eq_none (keyword : Keyword words) (reserved : Reserved words) :
    keyword.token.name? = none :=
  Token.name?_eq_none reserved keyword.spelled

theorem ne_punct (keyword : Keyword words) (char : Char) : keyword.token ≠ .punct char := by
  intro same
  have spelled := keyword.spelled
  rw [same] at spelled
  cases spelled

end Keyword

/-- A token that can name a table, a column or an alias. -/
structure Name where
  token : Token
  text : String
  names : token.name? = some text

namespace Name

variable {words : List String}

/-- A name as it is written, in backticks if it is a reserved word. -/
def of (text : String) : Name :=
  if reserved : isOneOf reservedWords text then ⟨.quoted text, text, rfl⟩
  else ⟨.word text, text, if_neg reserved⟩

theorem isWordOf_eq_false (name : Name) (reserved : Reserved words) :
    name.token.isWordOf words = false := by
  refine Bool.eq_false_iff.mpr fun spelled => ?_
  have none := Token.name?_eq_none reserved spelled
  rw [name.names] at none
  cases none

theorem ne_punct (name : Name) (char : Char) : name.token ≠ .punct char := by
  intro same
  have names := name.names
  rw [same] at names
  cases names

theorem spelled? (name : Name) : name.token.spelled? = some name.text :=
  Token.spelled?_of_name? name.names

end Name

end CheckedSql.Sql

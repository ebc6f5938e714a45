import CheckedSql.Analysis.Mention
import CheckedSql.Proofs.Analysis.Grammar

namespace CheckedSql.Grammar

open Sql Analysis

def Plain (token : Token) : Prop :=
  token ≠ .punct '(' ∧ token ≠ .punct ')'

theorem plain_keyword {words : List String} (keyword : Keyword words) : Plain keyword.token :=
  ⟨keyword.ne_punct '(', keyword.ne_punct ')'⟩

theorem plain_name (name : Name) : Plain name.token :=
  ⟨name.ne_punct '(', name.ne_punct ')'⟩

theorem plain_punct {char : Char} (opens : char ≠ '(') (closes : char ≠ ')') :
    Plain (.punct char) :=
  ⟨fun same => opens (Token.punct.inj same), fun same => closes (Token.punct.inj same)⟩

/-- Each parenthesis is matched, and outside all parentheses stand allowed tokens. -/
inductive Balanced : (Token → Prop) → List Token → Prop
  | nil {allowed : Token → Prop} : Balanced allowed []
  | token {allowed : Token → Prop} {token : Token} {rest : List Token} (plain : Plain token)
      (may : allowed token) (further : Balanced allowed rest) : Balanced allowed (token :: rest)
  | group {allowed : Token → Prop} {inner rest : List Token}
      (inside : Balanced (fun _ => True) inner) (further : Balanced allowed rest) :
      Balanced allowed (enclosed inner ++ rest)

namespace Balanced

variable {allowed wider : Token → Prop} {left right tokens : List Token}

theorem append (first : Balanced allowed left) (second : Balanced allowed right) :
    Balanced allowed (left ++ right) := by
  induction first with
  | nil => exact second
  | token plain may _ ih => exact .token plain may (ih second)
  | group inside _ _ ih =>
      rw [List.append_assoc]
      exact .group inside (ih second)

theorem mono (balanced : Balanced allowed tokens)
    (within : ∀ token, allowed token → wider token) : Balanced wider tokens := by
  induction balanced with
  | nil => exact .nil
  | token plain may _ ih => exact .token plain (within _ may) (ih within)
  | group inside _ _ ih => exact .group inside (ih within)

theorem any (balanced : Balanced allowed tokens) : Balanced (fun _ => True) tokens :=
  balanced.mono fun _ _ => True.intro

theorem enclosed (inside : Balanced (fun _ => True) tokens) :
    Balanced allowed (enclosed tokens) := by
  rw [← List.append_nil (Grammar.enclosed tokens)]
  exact .group inside .nil

end Balanced

theorem plain_of_admits {region : Region} {token : Token}
    (admitted : region.admits token = true) : Plain token := by
  simp only [Region.admits, Bool.and_eq_true, bne_iff_ne] at admitted
  exact ⟨admitted.1.1.1, admitted.1.1.2⟩

theorem isWordOf_of_admits {region : Region} {token : Token} {words : List String}
    (within : ∀ word ∈ words, word ∈ region.excluded) (admitted : region.admits token = true) :
    token.isWordOf words = false := by
  refine Bool.eq_false_iff.mpr fun spelled => ?_
  have excluded := Token.isWordOf_mono within spelled
  simp [Region.admits, excluded] at admitted

theorem reserved_excluded (region : Region) : Reserved region.excluded := by
  cases region <;> decide

theorem admits_name (region : Region) (name : Name) : region.admits name.token = true := by
  have apart := name.isWordOf_eq_false (reserved_excluded region)
  simp [Region.admits, apart, name.ne_punct]

theorem admits_keyword {words : List String} {region : Region} (keyword : Keyword words)
    (apart : Apart words region.excluded) : region.admits keyword.token = true := by
  have unlike := keyword.isWordOf_apart apart
  simp [Region.admits, unlike, keyword.ne_punct]

theorem admits_operator {operator : Char} (binary : operator ∈ binaryOperators) :
    Region.item.admits (.punct operator) = true := by
  simp only [binaryOperators, List.mem_cons, List.not_mem_nil, or_false] at binary
  rcases binary with rfl | rfl | rfl | rfl | rfl | rfl | rfl | rfl <;> decide

theorem balanced_optional {words : List String} (keyword? : Option (Keyword words))
    {allowed : Token → Prop} (may : ∀ keyword : Keyword words, allowed keyword.token) :
    Balanced allowed (optional keyword?) := by
  cases keyword? with
  | none => exact .nil
  | some keyword => exact .token (plain_keyword keyword) (may keyword) .nil

theorem Alias.balanced (named : Alias) : Balanced (fun _ => True) named.tokens :=
  (balanced_optional _ fun _ => True.intro).append
    (.token (plain_name named.name) True.intro .nil)

/-- What may stand before the first select of a query. -/
def BeforeSelect (token : Token) : Prop :=
  token.isKeyword "SELECT" = false

theorem beforeSelect_name (name : Name) : BeforeSelect name.token :=
  name.isWordOf_eq_false (by decide)

theorem beforeSelect_keyword {words : List String} (keyword : Keyword words)
    (apart : Apart words ["SELECT"]) : BeforeSelect keyword.token :=
  keyword.isWordOf_apart apart

mutual

theorem Query.balanced : (query : Query) → Balanced (fun _ => True) query.tokens
  | .plain body => body.balanced
  | .opened opening recursive? tables body =>
      .token (plain_keyword opening) True.intro
        ((balanced_optional recursive? fun _ => True.intro).append tables.balanced.any
          |>.append body.balanced)

theorem CommonTables.balanced : (tables : CommonTables) → Balanced BeforeSelect tables.tokens
  | .one name introduced query =>
      .token (plain_name name) (beforeSelect_name name)
        (.token (plain_keyword introduced) (beforeSelect_keyword introduced (by decide))
          (.enclosed query.balanced))
  | .more name introduced query rest =>
      .token (plain_name name) (beforeSelect_name name)
        (.token (plain_keyword introduced) (beforeSelect_keyword introduced (by decide))
          (.group query.balanced
            (.token (plain_punct (by decide) (by decide)) rfl rest.balanced)))

theorem Body.balanced : (body : Body) → Balanced (fun _ => True) body.tokens
  | .one select => select.balanced
  | .union select union quantifier? rest => by
      refine (select.balanced.append (.token (plain_keyword union) True.intro ?_)).append
        rest.balanced
      exact balanced_optional quantifier? fun _ => True.intro

theorem Select.balanced : (select : Select) → Balanced (fun _ => True) select.tokens
  | .mk opening quantifier? items sources first tail => by
      refine .append (.append (.append ?_ items.balanced) ?_) tail.balanced
      · exact .token (plain_keyword opening) True.intro
          (balanced_optional quantifier? fun _ => True.intro)
      · exact .token (plain_keyword sources) True.intro first.balanced

theorem Items.balanced : (items : Items) → Balanced (fun _ => True) items.tokens
  | .one item => item.balanced.any
  | .more item rest =>
      item.balanced.any.append
        (.token (plain_punct (by decide) (by decide)) True.intro rest.balanced)

theorem Item.balanced :
    (item : Item) → Balanced (fun token => Region.item.admits token = true) item.tokens
  | .star => .token (plain_punct (by decide) (by decide)) (by decide) .nil
  | .qualifiedStar source =>
      .token (plain_name source) (admits_name _ source)
        (.token (plain_punct (by decide) (by decide)) (by decide)
          (.token (plain_punct (by decide) (by decide)) (by decide) .nil))
  | .column name _ => .token (plain_name name) (admits_name _ name) .nil
  | .qualifiedColumn source name =>
      .token (plain_name source) (admits_name _ source)
        (.token (plain_punct (by decide) (by decide)) (by decide)
          (.token (plain_name name) (admits_name _ name) .nil))
  | .aliased value introduced name =>
      value.balanced.append
        (.token (plain_keyword introduced) (admits_keyword introduced (by decide))
          (.token (plain_name name) (admits_name _ name) .nil))
  | .call function arguments =>
      .token (plain_name function) (admits_name _ function) (.enclosed arguments.balanced.any)
  | .constant => .token ⟨by simp, by simp⟩ (by decide) .nil
  | .operation value operator binary operand admitted =>
      value.balanced.append
        (.token (plain_of_admits (admits_operator binary)) (admits_operator binary)
          (.token (plain_of_admits admitted) admitted .nil))

theorem Source.balanced : (source : Source) → Balanced (fun _ => True) source.tokens
  | .table name alias? => by
      refine .token (plain_name name) True.intro ?_
      cases alias? with
      | none => exact .nil
      | some named => exact named.balanced
  | .derived query named => .group query.balanced named.balanced

theorem Tail.balanced : (tail : Tail) → Balanced (fun _ => True) tail.tokens
  | .done => .nil
  | .clauses word rest => .token (plain_keyword word) True.intro rest.balanced.any
  | .comma source rest =>
      .token (plain_punct (by decide) (by decide)) True.intro
        (source.balanced.append rest.balanced)
  | .join kinds join source on condition rest => by
      refine .append (.append (.append ?_ ?_) ?_) rest.balanced
      · induction kinds with
        | nil => exact .nil
        | cons kind kinds ih => exact .token (plain_keyword kind) True.intro ih
      · exact .token (plain_keyword join) True.intro source.balanced
      · exact .token (plain_keyword on) True.intro condition.balanced.any

theorem Expr.balanced {region : Region} :
    (expr : Expr region) → Balanced (fun token => region.admits token = true) expr.tokens
  | .done => .nil
  | .token _ admitted rest => .token (plain_of_admits admitted) admitted rest.balanced
  | .group inner rest => .group inner.balanced.any rest.balanced
  | .extract function _ admitted separator operand rest =>
      .token (plain_name function) (admits_name _ function)
        (.group
          (.token (plain_of_admits admitted) True.intro
            (.token (plain_keyword separator) True.intro operand.balanced.any))
          rest.balanced)
  | .subquery query rest => .group query.balanced rest.balanced

end

end CheckedSql.Grammar

import CheckedSql.Sql.Token

namespace CheckedSql.Analysis

open Sql

/-- The tokens after the first `SELECT` outside all parentheses. -/
def afterSelect? (depth : Nat) : List Token → Option (List Token)
  | [] => none
  | .punct '(' :: rest => afterSelect? (depth + 1) rest
  | .punct ')' :: rest => afterSelect? (depth - 1) rest
  | token :: rest =>
      if depth = 0 ∧ token.isKeyword "SELECT" then some rest else afterSelect? depth rest

def selectListEnds : List String :=
  ["FROM", "WHERE", "GROUP", "ORDER", "LIMIT", "UNION", "HAVING", "EXCEPT", "INTERSECT"]

/-- Puts a token before the first of several items. -/
def extendFirst (token : Token) : List (List Token) → List (List Token)
  | [] => [[token]]
  | item :: items => (token :: item) :: items

theorem extendFirst_ne_nil (token : Token) (items : List (List Token)) :
    extendFirst token items ≠ [] := by
  cases items <;> simp [extendFirst]

/-- The items of a select list, separated by the commas outside all parentheses. -/
def splitItems (depth : Nat) : List Token → List (List Token)
  | [] => [[]]
  | .punct '(' :: rest => extendFirst (.punct '(') (splitItems (depth + 1) rest)
  | .punct ')' :: rest => extendFirst (.punct ')') (splitItems (depth - 1) rest)
  | token :: rest =>
      if depth ≠ 0 then extendFirst token (splitItems depth rest)
      else if token = .punct ',' then [] :: splitItems depth rest
      else if token.isWordOf selectListEnds then [[]]
      else extendFirst token (splitItems depth rest)

theorem splitItems_ne_nil (depth : Nat) (tokens : List Token) : splitItems depth tokens ≠ [] := by
  fun_induction splitItems depth tokens with
  | case1 => simp
  | case2 => exact extendFirst_ne_nil _ _
  | case3 => exact extendFirst_ne_nil _ _
  | case4 => exact extendFirst_ne_nil _ _
  | case5 => simp
  | case6 => simp
  | case7 => exact extendFirst_ne_nil _ _

/-- What one item names. -/
inductive SelectItem where
  | star
  | qualifiedStar (source : String)
  | column (name : String)
  | qualifiedColumn (source name : String)
  | aliased (name : String)
  | unnamed
deriving Repr, DecidableEq

namespace SelectItem

/-- Whether an item that ends in this token and a name is given that name. -/
def precedesAlias (token : Token) : Bool :=
  token.isKeyword "AS" || token.name?.isSome || token == .punct ')' || token == .literal

def aliasOf (item : List Token) : SelectItem :=
  match item.reverse with
  | last :: before :: _ =>
      if precedesAlias before then (last.name?.map aliased).getD .unnamed else .unnamed
  | _ => .unnamed

def ofTokens : List Token → SelectItem
  | [.punct '*'] => .star
  | [source, .punct '.', .punct '*'] => (source.spelled?.map qualifiedStar).getD .unnamed
  | [token] =>
      if token.isWordOf valueWords then .unnamed else (token.name?.map column).getD .unnamed
  | [source, .punct '.', name] =>
      match source.spelled?, name.spelled? with
      | some source, some name => .qualifiedColumn source name
      | _, _ => .unnamed
  | item => aliasOf item

end SelectItem

/-- The items of the outermost select list, if there is one. -/
def selectItems? (tokens : List Token) : Option (List SelectItem) :=
  (afterSelect? 0 tokens).map fun rest =>
    (splitItems 0 (rest.dropWhile (·.isWordOf ["DISTINCT", "ALL"]))).map SelectItem.ofTokens

end CheckedSql.Analysis

import CheckedSql.Proofs.Sql.Words
import CheckedSql.Analysis.SelectList

namespace CheckedSql.Grammar

open Sql Analysis

/-! A grammar of reading statements, apart from the readers.

A query may open with common tables; its body is one select or a union of several.
Sources are tables or derived tables, after a comma or after `JOIN`. Expressions are
taken as balanced tokens in which subqueries stand; `EXTRACT` is set apart, since its
`FROM` names no source. `tokens` writes a phrase down.
-/

/-- Where an expression stands: between parentheses or in the clauses after the
sources, in the condition of a join, or in a select list. -/
inductive Region where
  | inside
  | condition
  | item
deriving DecidableEq

def structureWords : List String :=
  ["FROM", "JOIN", "INTO", "UPDATE", "SELECT", "WITH", "UNION", "EXCEPT", "INTERSECT"]

def clauseWords : List String :=
  ["WHERE", "GROUP", "HAVING", "ORDER", "LIMIT"]

def quantifierWords : List String :=
  ["DISTINCT", "ALL"]

def joinWords : List String :=
  ["INNER", "CROSS", "LEFT", "RIGHT", "FULL", "OUTER"]

def Region.excluded : Region → List String
  | .inside => structureWords
  | .condition => structureWords ++ clauseWords
  | .item => structureWords ++ clauseWords ++ quantifierWords

/-- Whether a token other than a parenthesis may stand here. -/
def Region.admits (region : Region) (token : Token) : Bool :=
  token != .punct '(' && token != .punct ')' && (region == .inside || token != .punct ',') &&
    !token.isWordOf region.excluded

def binaryOperators : List Char :=
  ['+', '-', '*', '/', '%', '=', '<', '>']

structure Alias where
  introduced? : Option (Keyword ["AS"])
  name : Name

mutual

inductive Query where
  | plain (body : Body)
  | opened (opening : Keyword ["WITH"]) (recursive? : Option (Keyword ["RECURSIVE"]))
      (tables : CommonTables) (body : Body)

inductive CommonTables where
  | one (name : Name) (introduced : Keyword ["AS"]) (query : Query)
  | more (name : Name) (introduced : Keyword ["AS"]) (query : Query) (rest : CommonTables)

inductive Body where
  | one (select : Select)
  | union (select : Select) (union : Keyword ["UNION"])
      (quantifier? : Option (Keyword quantifierWords)) (rest : Body)

inductive Select where
  | mk (opening : Keyword ["SELECT"]) (quantifier? : Option (Keyword quantifierWords))
      (items : Items) (sources : Keyword ["FROM"]) (first : Source) (tail : Tail)

inductive Items where
  | one (item : Item)
  | more (item : Item) (rest : Items)

inductive Item where
  | star
  | qualifiedStar (source : Name)
  | column (name : Name) (bare : name.token.isWordOf valueWords = false)
  | qualifiedColumn (source name : Name)
  | aliased (value : Expr .item) (introduced : Keyword ["AS"]) (name : Name)
  | call (function : Name) (arguments : Expr .inside)
  | constant
  | operation (value : Expr .item) (operator : Char) (binary : operator ∈ binaryOperators)
      (operand : Token) (admitted : Region.item.admits operand = true)

inductive Source where
  | table (name : Name) (alias? : Option Alias)
  | derived (query : Query) (named : Alias)

/-- What follows the first source of a select. -/
inductive Tail where
  | done
  | clauses (word : Keyword clauseWords) (rest : Expr .inside)
  | comma (source : Source) (rest : Tail)
  | join (kinds : List (Keyword joinWords)) (join : Keyword ["JOIN"]) (source : Source)
      (on : Keyword ["ON"]) (condition : Expr .condition) (rest : Tail)

inductive Expr : Region → Type where
  | done {region : Region} : Expr region
  | token {region : Region} (token : Token) (admitted : region.admits token = true)
      (rest : Expr region) : Expr region
  | group {region : Region} (inner : Expr .inside) (rest : Expr region) : Expr region
  | extract {region : Region} (function : Name) (unit : Token)
      (admitted : Region.inside.admits unit = true) (separator : Keyword ["FROM"])
      (operand : Expr .inside) (rest : Expr region) : Expr region
  | subquery {region : Region} (query : Query) (rest : Expr region) : Expr region

end

/-- The tokens of a word that may be left out. -/
def optional {words : List String} (keyword? : Option (Keyword words)) : List Token :=
  (keyword?.map Keyword.token).toList

def Alias.tokens (named : Alias) : List Token :=
  optional named.introduced? ++ [named.name.token]

def enclosed (inner : List Token) : List Token :=
  .punct '(' :: inner ++ [.punct ')']

theorem enclosed_append (inner rest : List Token) :
    enclosed inner ++ rest = .punct '(' :: (inner ++ .punct ')' :: rest) := by
  simp only [enclosed, List.cons_append, List.append_assoc, List.nil_append]

mutual

def Query.tokens : Query → List Token
  | .plain body => body.tokens
  | .opened opening recursive? tables body =>
      opening.token :: optional recursive? ++ tables.tokens ++ body.tokens

def CommonTables.tokens : CommonTables → List Token
  | .one name introduced query => name.token :: introduced.token :: enclosed query.tokens
  | .more name introduced query rest =>
      name.token :: introduced.token :: enclosed query.tokens ++ .punct ',' :: rest.tokens

def Body.tokens : Body → List Token
  | .one select => select.tokens
  | .union select union quantifier? rest =>
      select.tokens ++ union.token :: optional quantifier? ++ rest.tokens

def Select.tokens : Select → List Token
  | .mk opening quantifier? items sources first tail =>
      opening.token :: optional quantifier? ++ items.tokens ++
        sources.token :: first.tokens ++ tail.tokens

def Items.tokens : Items → List Token
  | .one item => item.tokens
  | .more item rest => item.tokens ++ .punct ',' :: rest.tokens

def Item.tokens : Item → List Token
  | .star => [.punct '*']
  | .qualifiedStar source => [source.token, .punct '.', .punct '*']
  | .column name _ => [name.token]
  | .qualifiedColumn source name => [source.token, .punct '.', name.token]
  | .aliased value introduced name => value.tokens ++ [introduced.token, name.token]
  | .call function arguments => function.token :: enclosed arguments.tokens
  | .constant => [.literal]
  | .operation value operator _ operand _ => value.tokens ++ [.punct operator, operand]

def Source.tokens : Source → List Token
  | .table name alias? => name.token :: (alias?.map Alias.tokens).getD []
  | .derived query named => enclosed query.tokens ++ named.tokens

def Tail.tokens : Tail → List Token
  | .done => []
  | .clauses word rest => word.token :: rest.tokens
  | .comma source rest => .punct ',' :: source.tokens ++ rest.tokens
  | .join kinds join source on condition rest =>
      kinds.map Keyword.token ++ join.token :: source.tokens ++
        on.token :: condition.tokens ++ rest.tokens

def Expr.tokens {region : Region} : Expr region → List Token
  | .done => []
  | .token token _ rest => token :: rest.tokens
  | .group inner rest => enclosed inner.tokens ++ rest.tokens
  | .extract function unit _ separator operand rest =>
      function.token :: enclosed (unit :: separator.token :: operand.tokens) ++ rest.tokens
  | .subquery query rest => enclosed query.tokens ++ rest.tokens

end

/-! Phrases in their plain form. -/

def Alias.of (text : String) : Alias :=
  ⟨some (.of "AS"), .of text⟩

def Source.of (table : String) : Source :=
  .table (.of table) none

def Body.select (items : Items) (first : Source) (tail : Tail) : Body :=
  .one (.mk (.of "SELECT") none items (.of "FROM") first tail)

/-! The parts of a query by which its result is named. -/

def Query.body : Query → Body
  | .plain body => body
  | .opened _ _ _ body => body

def Body.first : Body → Select
  | .one select => select
  | .union select _ _ _ => select

def Select.items : Select → Items
  | .mk _ _ items _ _ _ => items

def Items.toList : Items → List Item
  | .one item => [item]
  | .more item rest => item :: rest.toList

def Query.items (query : Query) : List Item :=
  query.body.first.items.toList

/-- What an item names. -/
def Item.named : Item → SelectItem
  | .star => .star
  | .qualifiedStar source => .qualifiedStar source.text
  | .column name _ => .column name.text
  | .qualifiedColumn source name => .qualifiedColumn source.text name.text
  | .aliased _ _ name => .aliased name.text
  | .call _ _ | .constant | .operation _ _ _ _ _ => .unnamed

/-- A body is written as its first select, its items between `SELECT` and `FROM`. -/
theorem Body.written (body : Body) :
    ∃ (opening : Keyword ["SELECT"]) (quantifier? : Option (Keyword quantifierWords))
      (sources : Keyword ["FROM"]) (rest : List Token),
      body.tokens = opening.token ::
        (optional quantifier? ++ (body.first.items.tokens ++ sources.token :: rest)) := by
  cases body with
  | one select =>
      obtain ⟨opening, quantifier?, items, sources, first, tail⟩ := select
      refine ⟨opening, quantifier?, sources, first.tokens ++ tail.tokens, ?_⟩
      simp only [Body.tokens, Select.tokens, Body.first, Select.items, List.cons_append,
        List.append_assoc]
  | union select union otherQuantifier? rest =>
      obtain ⟨opening, quantifier?, items, sources, first, tail⟩ := select
      refine ⟨opening, quantifier?, sources, first.tokens ++ (tail.tokens ++
        union.token :: (optional otherQuantifier? ++ rest.tokens)), ?_⟩
      simp only [Body.tokens, Select.tokens, Body.first, Select.items, List.cons_append,
        List.append_assoc]

end CheckedSql.Grammar

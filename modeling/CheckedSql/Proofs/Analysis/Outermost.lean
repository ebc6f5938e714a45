import CheckedSql.Analysis.Mention
import CheckedSql.Proofs.Analysis.Balance
import CheckedSql.Proofs.Analysis.References

namespace CheckedSql.Grammar

open Sql Analysis

variable {allowed : Token → Prop} {token last : Token} {tokens rest : List Token} {depth : Nat}

section CommonTables

theorem commonTablesFrom_plain (plain : Plain token) :
    commonTablesFrom depth last (token :: rest) =
      if depth ≠ 0 then commonTablesFrom depth token rest
      else if token.isWordOf statementWords then []
      else (commonTable? last token rest).toList ++ commonTablesFrom depth token rest :=
  commonTablesFrom.eq_4 depth last token rest plain.1 plain.2

theorem commonTablesFrom_inside (plain : Plain token) :
    commonTablesFrom (depth + 1) last (token :: rest) = commonTablesFrom (depth + 1) token rest := by
  rw [commonTablesFrom_plain plain, if_pos (Nat.succ_ne_zero depth)]

theorem commonTablesFrom_outside (plain : Plain token)
    (before : token.isWordOf statementWords = false) :
    commonTablesFrom 0 last (token :: rest) =
      (commonTable? last token rest).toList ++ commonTablesFrom 0 token rest := by
  rw [commonTablesFrom_plain plain, if_neg (by simp), if_neg (by simp [before])]

/-- Inside parentheses no common table is named. -/
theorem commonTablesFrom_balanced (balanced : Balanced allowed tokens) (depth : Nat)
    (last : Token) (rest : List Token) :
    ∃ reached, commonTablesFrom (depth + 1) last (tokens ++ rest) =
      commonTablesFrom (depth + 1) reached rest := by
  induction balanced generalizing depth last rest with
  | nil => exact ⟨last, rfl⟩
  | @token _ token _ plain may _ ih =>
      obtain ⟨reached, skipped⟩ := ih depth token rest
      exact ⟨reached, by rw [List.cons_append, commonTablesFrom_inside plain, skipped]⟩
  | @group _ inner further inside _ insideIH furtherIH =>
      obtain ⟨middle, first⟩ := insideIH (depth + 1) (.punct '(')
        (.punct ')' :: (further ++ rest))
      obtain ⟨reached, second⟩ := furtherIH depth (.punct ')') rest
      refine ⟨reached, ?_⟩
      rw [List.append_assoc, enclosed_append, commonTablesFrom, first, commonTablesFrom,
        Nat.add_sub_cancel, second]

theorem commonTablesFrom_enclosed (balanced : Balanced allowed tokens) :
    commonTablesFrom 0 last (enclosed tokens ++ rest) = commonTablesFrom 0 (.punct ')') rest := by
  obtain ⟨reached, skipped⟩ :=
    commonTablesFrom_balanced balanced 0 (.punct '(') (.punct ')' :: rest)
  rw [enclosed_append, commonTablesFrom, skipped, commonTablesFrom]

theorem commonTablesFrom_unnamed (plain : Plain token)
    (before : token.isWordOf statementWords = false) (unnamed : token.name? = none) :
    commonTablesFrom 0 last (token :: rest) = commonTablesFrom 0 token rest := by
  have none : commonTable? last token rest = none := by
    simp only [commonTable?, unnamed, ite_self]
  rw [commonTablesFrom_outside plain before, none, Option.toList_none, List.nil_append]

theorem commonTablesFrom_table (name : Name) (introduced : Keyword ["AS"])
    (balanced : Balanced allowed tokens) (opens : opensCommonTable last = true) :
    commonTablesFrom 0 last (name.token :: introduced.token :: enclosed tokens ++ rest) =
      name.text :: commonTablesFrom 0 (.punct ')') rest := by
  have follows : followsCommonTable introduced.token = true := by
    simp [followsCommonTable, Token.isKeyword, introduced.spelled]
  have named : commonTable? last name.token
      (introduced.token :: (enclosed tokens ++ rest)) = some name.text := by
    simp [commonTable?, opens, follows, name.names]
  rw [List.cons_append, List.cons_append,
    commonTablesFrom_outside (plain_name name) (name.isWordOf_eq_false (by decide)), named,
    commonTablesFrom_unnamed (plain_keyword introduced)
      (introduced.isWordOf_apart (by decide)) (introduced.name?_eq_none (by decide)),
    commonTablesFrom_enclosed balanced]
  rfl

theorem commonTablesFrom_body (body : Body) : commonTablesFrom 0 last body.tokens = [] := by
  obtain ⟨opening, _, _, _, same⟩ := body.written
  have proper : opening.token.isWordOf statementWords = true :=
    Token.isWordOf_mono (by decide) opening.spelled
  rw [same, commonTablesFrom.eq_4 _ _ _ _ (opening.ne_punct '(') (opening.ne_punct ')'),
    if_neg (by simp), if_pos proper]

theorem CommonTables.read (body : Body) :
    (tables : CommonTables) → {last : Token} → opensCommonTable last = true →
      commonTablesFrom 0 last (tables.tokens ++ body.tokens) = tables.names
  | .one name introduced query, last, opens => by
      rw [CommonTables.tokens, commonTablesFrom_table name introduced query.balanced opens,
        commonTablesFrom_body]
      rfl
  | .more name introduced query rest, last, opens => by
      rw [CommonTables.tokens, List.append_assoc,
        commonTablesFrom_table name introduced query.balanced opens, List.cons_append,
        commonTablesFrom_unnamed (plain_punct (by decide) (by decide)) rfl rfl,
        CommonTables.read body rest rfl]
      rfl

theorem commonTables_tokens (query : Query) : commonTables query.tokens = query.commonNames := by
  cases query with
  | plain body =>
      obtain ⟨opening, _, _, _, same⟩ := body.written
      have unlike : opening.token.isWordOf ["WITH"] = false :=
        opening.isWordOf_apart (by decide)
      rw [Query.tokens, same, commonTables]
      exact if_neg (by simp [Token.isKeyword, unlike])
  | opened opening recursive? tables body =>
      have spelled := opening.spelled
      rw [Query.tokens, List.append_assoc, List.cons_append, commonTables, Token.isKeyword,
        if_pos spelled]
      cases recursive? with
      | none =>
          refine CommonTables.read body tables ?_
          rw [opensCommonTable, Token.isWordOf_mono (by decide) spelled]
          rfl
      | some recursive =>
          have opens : opensCommonTable recursive.token = true := by
            rw [opensCommonTable, Token.isWordOf_mono (by decide) recursive.spelled]
            rfl
          refine Eq.trans ?_ (CommonTables.read body tables opens)
          exact commonTablesFrom_unnamed (plain_keyword recursive)
            (recursive.isWordOf_apart (by decide))
            (recursive.name?_eq_none (by decide))

end CommonTables

section SelectItems

theorem afterSelect?_plain (plain : Plain token) :
    afterSelect? depth (token :: rest) =
      if depth = 0 ∧ token.isKeyword "SELECT" then some rest else afterSelect? depth rest :=
  afterSelect?.eq_4 depth token rest plain.1 plain.2

/-- Inside parentheses any tokens are skipped, outside those that precede a select. -/
theorem afterSelect?_balanced (balanced : Balanced allowed tokens)
    (before : depth = 0 → ∀ token, allowed token → BeforeSelect token) :
    afterSelect? depth (tokens ++ rest) = afterSelect? depth rest := by
  induction balanced generalizing depth rest with
  | nil => rfl
  | @token _ token _ plain may _ ih =>
      have passes : ¬ (depth = 0 ∧ token.isKeyword "SELECT" = true) := by
        rintro ⟨outside, selects⟩
        have unlike := before outside token may
        rw [BeforeSelect, selects] at unlike
        cases unlike
      rw [List.cons_append, afterSelect?_plain plain, if_neg passes, ih before]
  | group inside _ insideIH furtherIH =>
      rw [List.append_assoc, enclosed_append, afterSelect?,
        insideIH (fun never => absurd never (Nat.succ_ne_zero depth)), afterSelect?]
      exact furtherIH before

theorem afterSelect?_body (body : Body) :
    ∃ (quantifier? : Option (Keyword quantifierWords)) (sources : Keyword ["FROM"])
      (rest : List Token),
      afterSelect? 0 body.tokens =
        some (optional quantifier? ++ (body.first.items.tokens ++ sources.token :: rest)) := by
  obtain ⟨opening, quantifier?, sources, rest, same⟩ := body.written
  refine ⟨quantifier?, sources, rest, ?_⟩
  rw [same, afterSelect?_plain (plain_keyword opening)]
  exact if_pos ⟨rfl, opening.spelled⟩

theorem afterSelect?_query (query : Query) :
    afterSelect? 0 query.tokens = afterSelect? 0 query.body.tokens := by
  cases query with
  | plain body => rfl
  | opened opening recursive? tables body =>
      have optionals : Balanced BeforeSelect (optional recursive?) :=
        balanced_optional recursive? fun recursive =>
          beforeSelect_keyword recursive (by decide)
      have opened : Balanced BeforeSelect (opening.token :: optional recursive? ++ tables.tokens) :=
        .append (.token (plain_keyword opening)
          (beforeSelect_keyword opening (by decide)) optionals) tables.balanced
      exact afterSelect?_balanced opened fun _ _ before => before

/-- Puts tokens before the first of several items. -/
def extendBy (tokens : List Token) (items : List (List Token)) : List (List Token) :=
  tokens.foldr extendFirst items

theorem extendBy_cons (tokens item : List Token) (items : List (List Token)) :
    extendBy tokens (item :: items) = (tokens ++ item) :: items := by
  induction tokens with
  | nil => rfl
  | cons token tokens ih =>
      rw [extendBy, List.foldr_cons, ← extendBy, ih]
      rfl

theorem splitItems_plain (plain : Plain token) :
    splitItems depth (token :: rest) =
      if depth ≠ 0 then extendFirst token (splitItems depth rest)
      else if token = .punct ',' then [] :: splitItems depth rest
      else if token.isWordOf selectListEnds then [[]]
      else extendFirst token (splitItems depth rest) :=
  splitItems.eq_4 depth token rest plain.1 plain.2

theorem splitItems_admitted (admitted : depth = 0 → Region.item.admits token = true)
    (plain : Plain token) :
    splitItems depth (token :: rest) = extendFirst token (splitItems depth rest) := by
  rw [splitItems_plain plain]
  split
  · rfl
  · rename_i outside
    have admitted := admitted (Decidable.not_not.mp outside)
    have ends : token.isWordOf selectListEnds = false :=
      isWordOf_of_admits (by decide) admitted
    have notComma : token ≠ .punct ',' := by
      rintro rfl
      cases admitted
    rw [if_neg notComma, if_neg (by simp [ends])]

/-- Tokens that may stand in an item do not divide it. -/
theorem splitItems_balanced (balanced : Balanced allowed tokens)
    (within : depth = 0 → ∀ token, allowed token → Region.item.admits token = true) :
    splitItems depth (tokens ++ rest) = extendBy tokens (splitItems depth rest) := by
  induction balanced generalizing depth rest with
  | nil => rfl
  | @token _ token _ plain may _ ih =>
      rw [List.cons_append,
        splitItems_admitted (fun outside => within outside token may) plain, ih within]
      rfl
  | group inside _ insideIH furtherIH =>
      rw [List.append_assoc, enclosed_append, splitItems,
        insideIH (fun never => absurd never (Nat.succ_ne_zero depth)), splitItems,
        Nat.succ_sub_one, furtherIH within, enclosed_append]
      simp only [extendBy, List.foldr_cons, List.foldr_append]

theorem splitItems_items (sources : Keyword ["FROM"]) :
    (items : Items) → (rest : List Token) →
      splitItems 0 (items.tokens ++ sources.token :: rest) = items.toList.map Item.tokens
  | .one item, rest => by
      have ends : sources.token.isWordOf selectListEnds = true :=
        Token.isWordOf_mono (by decide) sources.spelled
      rw [Items.tokens, splitItems_balanced item.balanced fun _ _ admitted => admitted,
        splitItems_plain (plain_keyword sources), if_neg (by simp),
        if_neg (sources.ne_punct ','), if_pos ends, extendBy_cons, List.append_nil]
      rfl
  | .more item further, rest => by
      rw [Items.tokens, List.append_assoc,
        splitItems_balanced item.balanced fun _ _ admitted => admitted, List.cons_append,
        splitItems_plain (plain_punct (by decide) (by decide)), if_neg (by simp), if_pos rfl,
        splitItems_items sources further rest, extendBy_cons, List.append_nil]
      rfl

/-- Whether a select list may start here, all quantifiers being read. -/
def Unquantified (tokens : List Token) : Prop :=
  ∀ token ∈ tokens.head?, token.isWordOf quantifierWords = false

theorem unquantified_cons (unlike : token.isWordOf quantifierWords = false) :
    Unquantified (token :: rest) := by
  rintro other first
  cases Option.some.inj first
  exact unlike

theorem unquantified_item (item : Item) (after : Unquantified rest) :
    Unquantified (item.tokens ++ rest) := by
  cases tokens : item.tokens with
  | nil => exact after
  | cons token tokens =>
      have balanced := item.balanced
      rw [tokens] at balanced
      cases balanced with
      | token plain admitted => exact unquantified_cons (isWordOf_of_admits (by decide) admitted)
      | group => exact unquantified_cons rfl

theorem unquantified_items (items : Items) (after : Unquantified rest) :
    Unquantified (items.tokens ++ rest) := by
  cases items with
  | one item => exact unquantified_item item after
  | more item further =>
      rw [Items.tokens, List.append_assoc]
      exact unquantified_item item (unquantified_cons rfl)

theorem dropWhile_unquantified (unquantified : Unquantified tokens) :
    tokens.dropWhile (·.isWordOf quantifierWords) = tokens := by
  cases tokens with
  | nil => rfl
  | cons token tokens =>
      exact List.dropWhile_cons_of_neg (by simp [unquantified token rfl])

theorem dropWhile_quantifier (quantifier? : Option (Keyword quantifierWords))
    (unquantified : Unquantified tokens) :
    (optional quantifier? ++ tokens).dropWhile (·.isWordOf quantifierWords) = tokens := by
  cases quantifier? with
  | none => exact dropWhile_unquantified unquantified
  | some quantifier =>
      rw [optional, Option.map_some, Option.toList_some, List.singleton_append,
        List.dropWhile_cons_of_pos quantifier.spelled, dropWhile_unquantified unquantified]

end SelectItems

section SelectItem

theorem aliasOf_introduced (front : List Token) (introduced : Keyword ["AS"]) (name : Name) :
    SelectItem.aliasOf (front ++ [introduced.token, name.token]) = .aliased name.text := by
  have precedes : SelectItem.precedesAlias introduced.token = true := by
    simp [SelectItem.precedesAlias, Token.isKeyword, introduced.spelled]
  simp [SelectItem.aliasOf, precedes, name.names]

/-- A name is given only by the last token. -/
theorem aliasOf_unnamed (front : List Token) (unnamed : last.name? = none) :
    SelectItem.aliasOf (front ++ [last]) = .unnamed := by
  rw [SelectItem.aliasOf, List.reverse_append]
  cases front.reverse with
  | nil => rfl
  | cons before rest =>
      simp only [List.reverse_singleton, List.singleton_append, unnamed, Option.map_none,
        Option.getD_none, ite_self]

theorem aliasOf_operand (front : List Token) {operator : Char} (binary : operator ∈ binaryOperators)
    (operand : Token) :
    SelectItem.aliasOf (front ++ [.punct operator, operand]) = .unnamed := by
  have unlike : SelectItem.precedesAlias (.punct operator) = false := by
    simp only [binaryOperators, List.mem_cons, List.not_mem_nil, or_false] at binary
    rcases binary with rfl | rfl | rfl | rfl | rfl | rfl | rfl | rfl <;> decide
  simp [SelectItem.aliasOf, unlike]

/-- An item whose last token but one is no point is looked at from its end. -/
theorem ofTokens_undotted (front : List Token) {before : Token} (undotted : before ≠ .punct '.')
    (last : Token) :
    SelectItem.ofTokens (front ++ [before, last]) =
      SelectItem.aliasOf (front ++ [before, last]) := by
  have backwards {tokens : List Token} (same : front ++ [before, last] = tokens) :
      last :: before :: front.reverse = tokens.reverse := by
    rw [← same, List.reverse_append]
    rfl
  refine SelectItem.ofTokens.eq_5 _ ?_ ?_ ?_ ?_
  · intro same
    cases backwards same
  · intro source same
    exact undotted (List.cons.inj (List.cons.inj (backwards same)).2).1
  · intro token same
    cases backwards same
  · intro source name same
    exact undotted (List.cons.inj (List.cons.inj (backwards same)).2).1

theorem ofTokens_call (function : Name) (arguments : List Token) :
    SelectItem.ofTokens (function.token :: enclosed arguments) = .unnamed := by
  have whole : function.token :: enclosed arguments =
      (function.token :: .punct '(' :: arguments) ++ [.punct ')'] := rfl
  have aliasOf : SelectItem.ofTokens (function.token :: enclosed arguments) =
      SelectItem.aliasOf (function.token :: enclosed arguments) :=
    SelectItem.ofTokens.eq_5 _ (by simp [enclosed]) (by simp [enclosed]) (by simp [enclosed])
      (by simp [enclosed])
  rw [aliasOf, whole]
  exact aliasOf_unnamed _ rfl

theorem ofTokens_item (item : Item) : SelectItem.ofTokens item.tokens = item.named := by
  cases item with
  | star => rfl
  | qualifiedStar source =>
      rw [Item.tokens, SelectItem.ofTokens, source.spelled?]
      rfl
  | column name bare =>
      rw [Item.tokens, SelectItem.ofTokens.eq_3 _ (name.ne_punct '*'), if_neg (by simp [bare]),
        name.names]
      rfl
  | qualifiedColumn source name =>
      rw [Item.tokens, SelectItem.ofTokens.eq_4 _ _ (name.ne_punct '*'), source.spelled?,
        name.spelled?]
      rfl
  | aliased value introduced name =>
      rw [Item.tokens, ofTokens_undotted _ (introduced.ne_punct '.'), aliasOf_introduced]
      rfl
  | call function arguments => exact ofTokens_call function arguments.tokens
  | constant => rfl
  | operation value operator binary operand admitted =>
      have undotted : Token.punct operator ≠ .punct '.' := by
        rintro same
        cases same
        simp [binaryOperators] at binary
      rw [Item.tokens, ofTokens_undotted _ undotted, aliasOf_operand _ binary]
      rfl

end SelectItem

theorem selectItems?_tokens (query : Query) :
    selectItems? query.tokens = some (query.items.map Item.named) := by
  obtain ⟨quantifier?, sources, rest, after⟩ := afterSelect?_body query.body
  have separated : Unquantified (sources.token :: rest) :=
    unquantified_cons (sources.isWordOf_apart (by decide))
  have dropped : List.dropWhile (·.isWordOf ["DISTINCT", "ALL"])
      (optional quantifier? ++ (query.body.first.items.tokens ++ sources.token :: rest)) =
        query.body.first.items.tokens ++ sources.token :: rest :=
    dropWhile_quantifier quantifier? (unquantified_items query.body.first.items separated)
  rw [selectItems?, afterSelect?_query, after, Option.map_some, dropped, splitItems_items,
    List.map_map]
  exact congrArg some (List.map_congr_left fun item _ => ofTokens_item item)

end CheckedSql.Grammar

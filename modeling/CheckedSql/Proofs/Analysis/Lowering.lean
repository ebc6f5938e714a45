import CheckedSql.Proofs.Sql.Lowering
import CheckedSql.Proofs.Analysis.Outermost
import CheckedSql.Proofs.Analysis.Reading

namespace CheckedSql

open Sql Text Analysis Grammar

/-! What is read of a statement in small letters.

Words are compared ignoring case, and a sign is no letter. So each reading of tokens in
small letters is the reading of the tokens, with its names in small letters: the common
tables (`commonTables_lower`), the mentions (`mentions_lower`) and the items of the
select list (`selectItems?_lower`).
-/

namespace Text

variable {left right : String}

theorem foldCase_lowered (name : String) : foldCase (lower name) = foldCase name := by
  rw [foldCase_lower, foldCase, List.map_map]
  exact congrArg (name.toList.map ·) (funext toLower_toLower)

theorem sameName_lower (name : String) : SameName (lower name) name :=
  foldCase_lowered name

theorem sameName_lower_left : SameName (lower left) right ↔ SameName left right := by
  rw [SameName, foldCase_lowered, SameName]

theorem sameName_lower_right : SameName left (lower right) ↔ SameName left right := by
  rw [SameName, foldCase_lowered, SameName]

theorem SameName.lower_eq (same : SameName left right) : lower left = lower right :=
  congrArg String.ofList same

end Text

namespace Sql

variable {token : Token} {char : Char}

@[simp] theorem isOneOf_lower (words : List String) (text : String) :
    isOneOf words (lower text) = isOneOf words text := by
  simp only [isOneOf, sameName_lower_right]

theorem isOneOf_lowered (words : List String) (text : String) :
    isOneOf (words.map lower) (lower text) = isOneOf words text := by
  simp only [isOneOf, List.any_map, Function.comp_def, sameName_lower_left, sameName_lower_right]

namespace Token

@[simp] theorem isWordOf_lower (words : List String) (token : Token) :
    token.lower.isWordOf words = token.isWordOf words := by
  cases token <;> simp [lower, isWordOf]

@[simp] theorem isKeyword_lower (keyword : String) (token : Token) :
    token.lower.isKeyword keyword = token.isKeyword keyword :=
  isWordOf_lower [keyword] token

@[simp] theorem spelled?_lower (token : Token) :
    token.lower.spelled? = token.spelled?.map Text.lower := by
  cases token <;> rfl

@[simp] theorem name?_lower (token : Token) : token.lower.name? = token.name?.map Text.lower := by
  cases token <;> simp [lower, name?, apply_ite (Option.map Text.lower)]

/-- The signs that a reading asks for are no letters. -/
theorem lower_eq_punct (unlettered : char.isAlpha = false) :
    token.lower = .punct char ↔ token = .punct char := by
  cases token <;> simp [lower, toLower_eq_iff unlettered]

theorem head?_lower_punct {tokens : List Token} (unlettered : char.isAlpha = false) :
    (tokens.map lower).head? = some (.punct char) ↔ tokens.head? = some (.punct char) := by
  cases tokens <;> simp [lower_eq_punct unlettered]

theorem beq_punct_lower (unlettered : char.isAlpha = false) (token : Token) :
    (token.lower == .punct char) = (token == .punct char) := by
  rw [Bool.eq_iff_iff, beq_iff_eq, beq_iff_eq, lower_eq_punct unlettered]

@[simp] theorem beq_literal_lower (token : Token) :
    (token.lower == .literal) = (token == .literal) := by
  cases token <;> rfl

theorem plain_lower (plain : Plain token) : Plain token.lower :=
  ⟨mt (lower_eq_punct rfl).mp plain.1, mt (lower_eq_punct rfl).mp plain.2⟩

end Token

end Sql

namespace Analysis

variable {token last : Token} {rest : List Token}

section CommonTables

theorem commonTable?_lower (last token : Token) (rest : List Token) :
    commonTable? last.lower token.lower (rest.map Token.lower) =
      (commonTable? last token rest).map lower := by
  have opens : opensCommonTable last.lower = opensCommonTable last := by
    simp [opensCommonTable, Token.beq_punct_lower]
  have follows : ∀ token : Token, followsCommonTable token.lower = followsCommonTable token := by
    simp [followsCommonTable, Token.beq_punct_lower]
  have next : (rest.map Token.lower).head?.any followsCommonTable =
      rest.head?.any followsCommonTable := by
    cases rest <;> simp [follows]
  rw [commonTable?, commonTable?, opens, next, Token.name?_lower, apply_ite (Option.map lower)]
  rfl

theorem commonTablesFrom_lower (depth : Nat) (last : Token) (tokens : List Token) :
    commonTablesFrom depth last.lower (tokens.map Token.lower) =
      (commonTablesFrom depth last tokens).map lower := by
  fun_induction commonTablesFrom depth last tokens with
  | case1 => rfl
  | case2 depth last rest ih => exact ih
  | case3 depth last rest ih => exact ih
  | case4 depth last token rest opens closes inside ih =>
      rw [List.map_cons, commonTablesFrom_plain (Token.plain_lower ⟨opens, closes⟩), if_pos inside, ih]
  | case5 depth last token rest opens closes outside ends =>
      rw [List.map_cons, commonTablesFrom_plain (Token.plain_lower ⟨opens, closes⟩), if_neg outside,
        Token.isWordOf_lower, if_pos ends, List.map_nil]
  | case6 depth last token rest opens closes outside further ih =>
      rw [List.map_cons, commonTablesFrom_plain (Token.plain_lower ⟨opens, closes⟩), if_neg outside,
        Token.isWordOf_lower, if_neg further, ih, commonTable?_lower, List.map_append]
      cases commonTable? last token rest <;> rfl

theorem commonTables_lower (tokens : List Token) :
    commonTables (tokens.map Token.lower) = (commonTables tokens).map lower := by
  cases tokens with
  | nil => rfl
  | cons token rest =>
      rw [List.map_cons, commonTables, commonTables, Token.isKeyword_lower,
        commonTablesFrom_lower, apply_ite (List.map lower)]
      rfl

end CommonTables

def TableRef.lower (ref : TableRef) : TableRef :=
  ⟨Text.lower ref.name, ref.alias?.map Text.lower, ref.depth⟩

def Mention.lower : Mention → Mention
  | .source ref => .source ref.lower
  | .target table column => .target (Text.lower table) (Text.lower column)

def Place.lower (place : Place) : Place :=
  ⟨place.last.lower, place.ahead.map Token.lower⟩

section Tables

variable {depth : Nat} {place after : Place}

theorem dottedName_lower (name : String) (last : Token) (tokens : List Token) :
    dottedName (lower name) last.lower (tokens.map Token.lower) =
      (lower (dottedName name last tokens).1, (dottedName name last tokens).2.lower) := by
  fun_induction dottedName name last tokens with
  | case1 name last part rest spelled found ih =>
      rw [List.map_cons, List.map_cons, show (Token.punct '.').lower = .punct '.' from rfl, dottedName,
        Token.spelled?_lower, found]
      exact ih
  | case2 name last part rest unnamed =>
      rw [List.map_cons, List.map_cons, show (Token.punct '.').lower = .punct '.' from rfl, dottedName,
        Token.spelled?_lower, unnamed]
      rfl
  | case3 name last tokens undotted =>
      refine dottedName.eq_2 _ _ _ fun part rest same => ?_
      obtain ⟨sign, _, rfl, isPoint, further⟩ := List.map_eq_cons_iff.mp same
      obtain ⟨next, others, rfl, -, -⟩ := List.map_eq_cons_iff.mp further
      exact undotted next others (by rw [(Token.lower_eq_punct rfl).mp isPoint])

theorem aliasAt_lower (last : Token) (tokens : List Token) :
    aliasAt last.lower (tokens.map Token.lower) =
      ((aliasAt last tokens).1.map lower, (aliasAt last tokens).2.lower) := by
  cases tokens with
  | nil => rfl
  | cons token rest =>
      simp only [List.map_cons, aliasAt, Token.isKeyword_lower]
      split
      · cases rest with
        | nil => rfl
        | cons next rest => exact Prod.ext (Token.name?_lower next) rfl
      · rw [Token.name?_lower]
        cases token.name? <;> rfl

theorem tableAt?_lower (depth : Nat) (place : Place) :
    tableAt? depth place.lower =
      (tableAt? depth place).map fun read => (read.1.lower, read.2.lower) := by
  obtain ⟨last, ahead⟩ := place
  cases ahead with
  | nil => rfl
  | cons token rest =>
      rw [Place.lower, List.map_cons, tableAt?, tableAt?]
      simp only [Token.name?_lower]
      cases token.name? with
      | none => rfl
      | some first => simp [dottedName_lower, Place.lower, aliasAt_lower, TableRef.lower]

theorem tablesAt_lower (depth : Nat) (place : Place) :
    tablesAt depth place.lower =
      ((tablesAt depth place).1.map TableRef.lower, (tablesAt depth place).2.lower) := by
  fun_induction tablesAt depth place with
  | case1 place none =>
      exact tablesAt_none (by rw [tableAt?_lower, none, Option.map_none])
  | case2 place ref last rest found further ih =>
      have further : tablesAt depth ⟨.punct ',', rest.map Token.lower⟩ = _ := ih
      rw [tablesAt_comma (by rw [tableAt?_lower, found]; rfl), further]
      rfl
  | case3 place ref after uncomma found =>
      refine tablesAt_last (by rw [tableAt?_lower, found, Option.map_some]) ?_
      rw [Place.lower, ne_eq, Token.head?_lower_punct rfl]
      intro comma
      obtain ⟨rest, ahead⟩ := List.head?_eq_some_iff.mp comma
      exact uncomma after.last rest (by rw [← ahead])

end Tables

section Columns

theorem columnsAt_lower (last : Token) (tokens : List Token) :
    columnsAt last.lower (tokens.map Token.lower) =
      ((columnsAt last tokens).1.map lower, (columnsAt last tokens).2.lower) := by
  fun_induction columnsAt last tokens with
  | case1 => rfl
  | case2 => rfl
  | case3 last rest ih => exact ih
  | case4 last token rest closes comma unnamed =>
      rw [List.map_cons, columnsAt.eq_4 _ _ _ (mt (Token.lower_eq_punct rfl).mp closes)
        (mt (Token.lower_eq_punct rfl).mp comma), Token.name?_lower, unnamed]
      rfl
  | case5 last token rest closes comma column named further ih =>
      rw [List.map_cons, columnsAt.eq_4 _ _ _ (mt (Token.lower_eq_punct rfl).mp closes)
        (mt (Token.lower_eq_punct rfl).mp comma), Token.name?_lower, named]
      simp only [Option.map_some, ih, List.map_cons]
      rfl

theorem insertColumnsAt_lower (place : Place) :
    insertColumnsAt place.lower =
      ((insertColumnsAt place).1.map lower, (insertColumnsAt place).2.lower) := by
  fun_cases insertColumnsAt place with
  | case1 rest opens =>
      rw [insertColumnsAt, Place.lower, opens]
      exact columnsAt_lower (.punct '(') rest
  | case2 unopened =>
      have stays : insertColumnsAt place.lower = ([], place.lower) := by
        unfold insertColumnsAt
        split
        · rename_i rest opens
          obtain ⟨sign, others, ahead, isOpen, -⟩ := List.map_eq_cons_iff.mp opens
          exact absurd ahead fun same => unopened others (by
            rw [same, (Token.lower_eq_punct rfl).mp isOpen])
        · rfl
      exact stays

theorem assignedColumns_open (depth : Nat) (expected : Bool) (rest : List Token) :
    assignedColumns depth expected (.punct '(' :: rest) =
      assignedColumns (depth + 1) expected rest := by
  rw [assignedColumns, if_pos (Nat.succ_ne_zero depth)]

theorem assignedColumns_close (depth : Nat) (expected : Bool) (rest : List Token) :
    assignedColumns depth expected (.punct ')' :: rest) =
      if depth - 1 ≠ 0 then assignedColumns (depth - 1) expected rest
      else assignedColumns (depth - 1) false rest := by
  rw [assignedColumns]
  simp [Token.isKeyword, Token.isWordOf, Token.name?]

theorem assignedColumns_plain (plain : Plain token) (depth : Nat) (expected : Bool)
    (rest : List Token) :
    assignedColumns depth expected (token :: rest) =
      if depth ≠ 0 then assignedColumns depth expected rest
      else if token = .punct ',' then assignedColumns depth true rest
      else if token.isKeyword "WHERE" then []
      else (if expected && rest.head? == some (.punct '=') then token.name? else none).toList ++
        assignedColumns depth false rest := by
  rw [assignedColumns]
  · exact plain.1
  · exact plain.2

theorem assignedColumns_lower (depth : Nat) (expected : Bool) (tokens : List Token) :
    assignedColumns depth expected (tokens.map Token.lower) =
      (assignedColumns depth expected tokens).map lower := by
  induction tokens generalizing depth expected with
  | nil => rfl
  | cons token rest ih =>
      rw [List.map_cons]
      by_cases opens : token = .punct '('
      · rw [opens, show (Token.punct '(').lower = .punct '(' from rfl, assignedColumns_open, ih,
          assignedColumns_open]
      by_cases closes : token = .punct ')'
      · rw [closes, show (Token.punct ')').lower = .punct ')' from rfl, assignedColumns_close, ih, ih,
          assignedColumns_close, apply_ite (List.map lower)]
      have plain : Plain token := ⟨opens, closes⟩
      have equals : ((rest.map Token.lower).head? == some (.punct '=')) =
          (rest.head? == some (.punct '=')) := by
        rw [Bool.eq_iff_iff, beq_iff_eq, beq_iff_eq, Token.head?_lower_punct rfl]
      simp (disch := decide) only [assignedColumns_plain plain,
        assignedColumns_plain (Token.plain_lower plain), ih, Token.lower_eq_punct,
        Token.isKeyword_lower, Token.name?_lower, equals,
        apply_ite (List.map lower), List.map_append, List.map_nil]
      split
      · rfl
      split
      · rfl
      split
      · rfl
      split
      · cases token.name? <;> rfl
      · rfl

theorem updateColumns_lower (tokens : List Token) :
    updateColumns (tokens.map Token.lower) = (updateColumns tokens).map lower := by
  cases tokens with
  | nil => rfl
  | cons token rest =>
      rw [List.map_cons, updateColumns, updateColumns, Token.isKeyword_lower,
        assignedColumns_lower, apply_ite (List.map lower), List.map_nil]

end Columns

section Mentions

theorem afterConflictClause_lower (place : Place) :
    afterConflictClause place.lower = (afterConflictClause place).lower := by
  obtain ⟨last, ahead⟩ := place
  cases ahead with
  | nil => rfl
  | cons token rest =>
      simp only [afterConflictClause, Place.lower, List.map_cons, Token.isKeyword_lower]
      split
      · cases rest <;> rfl
      · rfl

theorem tableClause?_lower (last : Option Token) (token : Token) :
    tableClause? (last.map Token.lower) token.lower = tableClause? last token := by
  cases last <;> simp [tableClause?]

theorem clauseAt_lower (depth : Nat) (place : Place) (clause : TableClause) :
    clauseAt depth place.lower clause =
      ((clauseAt depth place clause).1.map Mention.lower, (clauseAt depth place clause).2.lower) := by
  cases clause with
  | sources =>
      simp only [clauseAt, tablesAt_lower, List.map_map]
      rfl
  | joined =>
      simp only [clauseAt, tableAt?_lower]
      cases tableAt? depth place <;> rfl
  | inserted =>
      simp only [clauseAt, tableAt?_lower]
      cases tableAt? depth place with
      | none => rfl
      | some read => simp [insertColumnsAt_lower, Mention.lower, TableRef.lower]
  | updated =>
      simp only [clauseAt, afterConflictClause_lower, tableAt?_lower]
      cases tableAt? depth (afterConflictClause place) with
      | none => rfl
      | some read =>
          simp [Place.lower, updateColumns_lower, Mention.lower, TableRef.lower]

theorem opensCall_lower (last : Option Token) (rest : List Token) :
    opensCall (last.map Token.lower) (rest.map Token.lower) = opensCall last rest := by
  cases last <;> cases rest <;> simp [opensCall]

theorem mentionsFrom_lower (parens : List Bool) (last : Option Token) (tokens : List Token) :
    mentionsFrom parens (last.map Token.lower) (tokens.map Token.lower) =
      (mentionsFrom parens last tokens).map Mention.lower := by
  fun_induction mentionsFrom parens last tokens with
  | case1 => rw [List.map_nil, mentionsFrom, List.map_nil]
  | case2 parens last rest ih =>
      rw [← ih, List.map_cons, show (Token.punct '(').lower = .punct '(' from rfl, mentionsFrom_open,
        opensCall_lower]
      rfl
  | case3 parens last rest _ ih =>
      rw [← ih, List.map_cons, show (Token.punct ')').lower = .punct ')' from rfl, mentionsFrom_close]
      rfl
  | case4 parens last token rest opens closes called ih =>
      rw [← ih, List.map_cons, mentionsFrom_called (Token.plain_lower ⟨opens, closes⟩) called]
      rfl
  | case5 parens last token rest opens closes uncalled none ih =>
      have plain := Token.plain_lower ⟨opens, closes⟩
      rw [← ih, List.map_cons, mentionsFrom, if_neg plain.1, if_neg plain.2, if_neg uncalled,
        tableClause?_lower, none]
      rfl
  | case6 parens last token rest opens closes uncalled clause found read ih =>
      have clauseRead : clauseAt parens.length ⟨token.lower, rest.map Token.lower⟩ clause =
          (read.1.map Mention.lower, read.2.lower) := clauseAt_lower _ ⟨token, rest⟩ clause
      rw [List.map_cons, mentionsFrom_clause (Token.plain_lower ⟨opens, closes⟩) uncalled
        ((tableClause?_lower last token).trans found), List.map_append, ← ih, clauseRead]
      rfl

theorem mentions_lower (tokens : List Token) :
    mentions (tokens.map Token.lower) = (mentions tokens).map Mention.lower :=
  mentionsFrom_lower [] none tokens

end Mentions

def SelectItem.lower : SelectItem → SelectItem
  | .star => .star
  | .qualifiedStar source => .qualifiedStar (Text.lower source)
  | .column name => .column (Text.lower name)
  | .qualifiedColumn source name => .qualifiedColumn (Text.lower source) (Text.lower name)
  | .aliased name => .aliased (Text.lower name)
  | .unnamed => .unnamed

section SelectItems

theorem afterSelect?_lower (depth : Nat) (tokens : List Token) :
    afterSelect? depth (tokens.map Token.lower) =
      (afterSelect? depth tokens).map (List.map Token.lower) := by
  fun_induction afterSelect? depth tokens with
  | case1 => rfl
  | case2 depth rest ih => exact ih
  | case3 depth rest ih => exact ih
  | case4 depth token rest opens closes selects =>
      rw [List.map_cons, afterSelect?_plain (Token.plain_lower ⟨opens, closes⟩),
        Token.isKeyword_lower, if_pos selects, Option.map_some]
  | case5 depth token rest opens closes passes ih =>
      rw [List.map_cons, afterSelect?_plain (Token.plain_lower ⟨opens, closes⟩),
        Token.isKeyword_lower, if_neg passes, ih]

theorem extendFirst_lower (token : Token) (items : List (List Token)) :
    extendFirst token.lower (items.map (List.map Token.lower)) =
      (extendFirst token items).map (List.map Token.lower) := by
  cases items <;> rfl

theorem splitItems_lower (depth : Nat) (tokens : List Token) :
    splitItems depth (tokens.map Token.lower) =
      (splitItems depth tokens).map (List.map Token.lower) := by
  fun_induction splitItems depth tokens with
  | case1 => rfl
  | case2 depth rest ih => rw [← extendFirst_lower, ← ih]; rfl
  | case3 depth rest ih => rw [← extendFirst_lower, ← ih]; rfl
  | case4 depth token rest opens closes inside ih =>
      rw [List.map_cons, splitItems_plain (Token.plain_lower ⟨opens, closes⟩), if_pos inside, ih,
        extendFirst_lower]
  | case5 depth rest outside opens closes ih =>
      rw [List.map_cons, splitItems_plain (Token.plain_lower ⟨opens, closes⟩), if_neg outside, ih]
      rfl
  | case6 depth token rest opens closes outside uncomma ends =>
      rw [List.map_cons, splitItems_plain (Token.plain_lower ⟨opens, closes⟩), if_neg outside,
        if_neg (mt (Token.lower_eq_punct rfl).mp uncomma), Token.isWordOf_lower, if_pos ends]
      rfl
  | case7 depth token rest opens closes outside uncomma further ih =>
      rw [List.map_cons, splitItems_plain (Token.plain_lower ⟨opens, closes⟩), if_neg outside,
        if_neg (mt (Token.lower_eq_punct rfl).mp uncomma), Token.isWordOf_lower, if_neg further, ih,
        extendFirst_lower]

theorem aliasOf_lower (item : List Token) :
    SelectItem.aliasOf (item.map Token.lower) = (SelectItem.aliasOf item).lower := by
  have precedes : ∀ token : Token,
      SelectItem.precedesAlias token.lower = SelectItem.precedesAlias token := by
    simp [SelectItem.precedesAlias, Token.beq_punct_lower]
  unfold SelectItem.aliasOf
  rw [← List.map_reverse]
  rcases item.reverse with _ | ⟨last, _ | ⟨before, front⟩⟩
  · rfl
  · rfl
  · simp only [List.map_cons, precedes, Token.name?_lower]
    split
    · cases last.name? <;> rfl
    · rfl

theorem ofTokens_lower (item : List Token) :
    SelectItem.ofTokens (item.map Token.lower) = (SelectItem.ofTokens item).lower := by
  fun_cases SelectItem.ofTokens item with
  | case1 => rfl
  | case2 source =>
      simp only [List.map_cons, List.map_nil, show (Token.punct '.').lower = .punct '.' from rfl,
        show (Token.punct '*').lower = .punct '*' from rfl, SelectItem.ofTokens, Token.spelled?_lower]
      cases source.spelled? <;> rfl
  | case3 token notStar value =>
      rw [List.map_singleton, SelectItem.ofTokens.eq_3 _ (mt (Token.lower_eq_punct rfl).mp notStar),
        Token.isWordOf_lower, if_pos value]
      rfl
  | case4 token notStar other =>
      rw [List.map_singleton, SelectItem.ofTokens.eq_3 _ (mt (Token.lower_eq_punct rfl).mp notStar),
        Token.isWordOf_lower, if_neg other, Token.name?_lower]
      cases token.name? <;> rfl
  | case5 source name notStar qualifier column named qualified =>
      refine (SelectItem.ofTokens.eq_4 _ _ (mt (Token.lower_eq_punct rfl).mp notStar)).trans ?_
      rw [Token.spelled?_lower, Token.spelled?_lower, named, qualified]
      rfl
  | case6 source name notStar unspelled =>
      refine (SelectItem.ofTokens.eq_4 _ _ (mt (Token.lower_eq_punct rfl).mp notStar)).trans ?_
      rw [Token.spelled?_lower, Token.spelled?_lower]
      cases first : source.spelled? with
      | none => rfl
      | some qualifier =>
          cases second : name.spelled? with
          | none => rfl
          | some column => exact (unspelled qualifier column first second).elim
  | case7 item notStar notQualifiedStar notSingle notQualified =>
      have single : ∀ token, item.map Token.lower = [token] → False := by
        intro token same
        obtain ⟨only, rfl, -⟩ := List.map_eq_singleton_iff.mp same
        exact notSingle only rfl
      have qualified : ∀ source name, item.map Token.lower = [source, .punct '.', name] → False := by
        intro source name same
        obtain ⟨first, _, rfl, -, same⟩ := List.map_eq_cons_iff.mp same
        obtain ⟨point, _, rfl, isPoint, same⟩ := List.map_eq_cons_iff.mp same
        obtain ⟨last, rfl, -⟩ := List.map_eq_singleton_iff.mp same
        exact notQualified first last (by rw [(Token.lower_eq_punct rfl).mp isPoint])
      rw [SelectItem.ofTokens.eq_5 _ (single _) (fun source => qualified source _) single qualified,
        aliasOf_lower]

theorem dropWhile_isWordOf_lower (words : List String) (tokens : List Token) :
    (tokens.map Token.lower).dropWhile (·.isWordOf words) =
      (tokens.dropWhile (·.isWordOf words)).map Token.lower := by
  rw [List.dropWhile_map]
  simp only [Function.comp_def, Token.isWordOf_lower]

theorem selectItems?_lower (tokens : List Token) :
    selectItems? (tokens.map Token.lower) =
      (selectItems? tokens).map (List.map SelectItem.lower) := by
  rw [selectItems?, selectItems?, afterSelect?_lower, Option.map_map, Option.map_map]
  congr 1
  funext rest
  simp only [Function.comp_apply, dropWhile_isWordOf_lower, splitItems_lower, List.map_map]
  exact List.map_congr_left fun item _ => ofTokens_lower item

end SelectItems

end Analysis

end CheckedSql

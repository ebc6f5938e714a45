import CheckedSql.Analysis.Mention
import CheckedSql.Proofs.Analysis.Outermost
import CheckedSql.Proofs.Indexed.Lookup

namespace CheckedSql.Analysis.Indexed

open Sql

section CommonTables

/-- The common tables named from an index on. -/
def commonTablesAt? (tokens : List Token) (depth index : Nat) : Option (List String) :=
  if _within : index < tokens.length then do
    let token ← tokens[index]?
    if token = .punct '(' then commonTablesAt? tokens (depth + 1) (index + 1)
    else if token = .punct ')' then commonTablesAt? tokens (depth - 1) (index + 1)
    else if depth ≠ 0 then commonTablesAt? tokens depth (index + 1)
    else if token.isWordOf statementWords then return []
    else
      let last ← tokens[← previous? index]?
      let opens := opensCommonTable last && (tokens[index + 1]?).any followsCommonTable
      let further ← commonTablesAt? tokens depth (index + 1)
      return (if opens then token.name? else none).toList ++ further
  else return []
termination_by tokens.length - index

def commonTables? (tokens : List Token) : Option (List String) :=
  if (tokens.head?).any (·.isKeyword "WITH") then commonTablesAt? tokens 0 1 else some []

variable {tokens before rest : List Token} {last : Token}

theorem commonTablesFrom_cons (depth : Nat) (last token : Token) (rest : List Token) :
    commonTablesFrom depth last (token :: rest) =
      if token = .punct '(' then commonTablesFrom (depth + 1) token rest
      else if token = .punct ')' then commonTablesFrom (depth - 1) token rest
      else if depth ≠ 0 then commonTablesFrom depth token rest
      else if token.isWordOf statementWords then []
      else (commonTable? last token rest).toList ++ commonTablesFrom depth token rest := by
  by_cases opens : token = .punct '('
  · subst opens
    rfl
  by_cases closes : token = .punct ')'
  · subst closes
    rfl
  rw [Grammar.commonTablesFrom_plain ⟨opens, closes⟩, if_neg opens, if_neg closes]

theorem commonTablesAt?_eq (depth : Nat) (whole : tokens = before ++ last :: rest) :
    commonTablesAt? tokens depth (before.length + 1) = some (commonTablesFrom depth last rest) := by
  induction rest generalizing depth before last with
  | nil =>
      subst whole
      rw [commonTablesAt?, dif_neg (by simp)]
      rfl
  | cons token rest ih =>
      have ahead : tokens.drop before.length = last :: token :: rest := by rw [whole, List.drop_left]
      have earlier : tokens[before.length]? = some last := getElem?_ahead ahead
      have here : tokens[before.length + 1]? = some token := getElem?_ahead (drop_ahead ahead)
      have next : tokens[before.length + 1 + 1]? = rest.head? :=
        getElem?_ahead (drop_ahead (drop_ahead ahead))
      have goesOn : ∀ depth, commonTablesAt? tokens depth (before.length + 1 + 1) =
          some (commonTablesFrom depth token rest) := by
        intro depth
        have parts : tokens = before ++ [last] ++ token :: rest := by simp [whole]
        have later := ih depth parts
        rw [List.length_append] at later
        exact later
      rw [commonTablesAt?, dif_pos (lt_of_ahead (drop_ahead ahead)), here, commonTablesFrom_cons]
      simp only [previous?, earlier, next, goesOn, Option.bind_eq_bind, Option.bind_some,
        Option.pure_def, ← apply_ite some, commonTable?]

theorem commonTables?_eq (tokens : List Token) :
    commonTables? tokens = some (commonTables tokens) := by
  cases tokens with
  | nil => rfl
  | cons token rest =>
      have begun : commonTablesAt? (token :: rest) 0 1 = some (commonTablesFrom 0 token rest) :=
        commonTablesAt?_eq 0 (List.nil_append _).symm
      simp only [commonTables?, commonTables, List.head?_cons, Option.any_some, begun]
      rw [apply_ite some]

end CommonTables

/-- The token before an index. -/
def lastBefore? (tokens : List Token) (index : Nat) : Option Token := do
  tokens[← previous? index]?

/-- Whether an index stands at a place. -/
structure Reaches (tokens : List Token) (index : Nat) (place : Place) : Prop where
  ahead : tokens.drop index = place.ahead
  last : place.ahead ≠ [] → lastBefore? tokens index = some place.last

/-- Whether a reading by index reads the same and stops at the same place. -/
structure Keeps {Result : Type} (tokens : List Token) (byIndex : Result × Nat)
    (read : Result × Place) : Prop where
  same : byIndex.1 = read.1
  reaches : Reaches tokens byIndex.2 read.2

/-- The further parts of a dotted name. -/
def dottedFrom (tokens : List Token) (name : String) (index : Nat) : String × Nat :=
  if _point : tokens[index]? = some (.punct '.') then
    match (tokens[index + 1]?).bind Token.spelled? with
    | some part => dottedFrom tokens part (index + 2)
    | none => (name, index)
  else (name, index)
termination_by tokens.length - index
decreasing_by
  have within := (List.getElem?_eq_some_iff.mp _point).1
  omega

/-- An alias. The token after `AS` is taken whatever it is, or past the end. -/
def aliasFrom (tokens : List Token) (index : Nat) : Option String × Nat :=
  if (tokens[index]?).any (·.isKeyword "AS") then
    ((tokens[index + 1]?).bind Token.name?, index + 2)
  else
    match (tokens[index]?).bind Token.name? with
    | some name => (some name, index + 1)
    | none => (none, index)

def tableFrom? (tokens : List Token) (depth index : Nat) : Option (TableRef × Nat) :=
  ((tokens[index]?).bind Token.name?).map fun first =>
    let named := dottedFrom tokens first (index + 1)
    let aliased := aliasFrom tokens named.2
    (⟨named.1, aliased.1, depth⟩, aliased.2)

theorem dottedFrom_ge (tokens : List Token) (name : String) (index : Nat) :
    index ≤ (dottedFrom tokens name index).2 := by
  fun_induction dottedFrom tokens name index with
  | case1 name index _ part _ ih => omega
  | case2 => exact Nat.le_refl _
  | case3 => exact Nat.le_refl _

theorem aliasFrom_ge (tokens : List Token) (index : Nat) : index ≤ (aliasFrom tokens index).2 := by
  unfold aliasFrom
  split
  · exact Nat.le_add_right index 2
  · split
    · exact Nat.le_succ index
    · exact Nat.le_refl index

theorem tableFrom?_gt {tokens : List Token} {depth index stop : Nat} {ref : TableRef}
    (found : tableFrom? tokens depth index = some (ref, stop)) :
    index < tokens.length ∧ index < stop := by
  obtain ⟨first, named, same⟩ := Option.map_eq_some_iff.mp found
  obtain ⟨token, here, _⟩ := Option.bind_eq_some_iff.mp named
  have dotted := dottedFrom_ge tokens first (index + 1)
  have aliased := aliasFrom_ge tokens (dottedFrom tokens first (index + 1)).2
  cases same
  exact ⟨(List.getElem?_eq_some_iff.mp here).1, by omega⟩

def tablesFrom (tokens : List Token) (depth index : Nat) : List TableRef × Nat :=
  match _found : tableFrom? tokens depth index with
  | none => ([], index)
  | some (ref, stop) =>
      if tokens[stop]? = some (.punct ',') then
        let further := tablesFrom tokens depth (stop + 1)
        (ref :: further.1, further.2)
      else ([ref], stop)
termination_by tokens.length - index
decreasing_by
  have further := tableFrom?_gt _found
  omega

def columnsFrom (tokens : List Token) (index : Nat) : List String × Nat :=
  if _within : index < tokens.length then
    if tokens[index] = .punct ')' then ([], index + 1)
    else if tokens[index] = .punct ',' then columnsFrom tokens (index + 1)
    else
      match tokens[index].name? with
      | none => ([], index)
      | some column =>
          let further := columnsFrom tokens (index + 1)
          (column :: further.1, further.2)
  else ([], index)
termination_by tokens.length - index

def insertColumnsFrom (tokens : List Token) (index : Nat) : List String × Nat :=
  if tokens[index]? = some (.punct '(') then columnsFrom tokens (index + 1) else ([], index)

/-- The columns that assignments set, from an index on. -/
def assignedFrom (tokens : List Token) (depth : Nat) (expected : Bool) (index : Nat) :
    List String :=
  if _within : index < tokens.length then
    let depth := match tokens[index] with
      | .punct '(' => depth + 1
      | .punct ')' => depth - 1
      | _ => depth
    if depth ≠ 0 then assignedFrom tokens depth expected (index + 1)
    else if tokens[index] = .punct ',' then assignedFrom tokens depth true (index + 1)
    else if tokens[index].isKeyword "WHERE" then []
    else
      let named :=
        if expected && tokens[index + 1]? == some (.punct '=') then tokens[index].name? else none
      named.toList ++ assignedFrom tokens depth false (index + 1)
  else []
termination_by tokens.length - index

def updateColumnsFrom (tokens : List Token) (index : Nat) : List String :=
  if (tokens[index]?).any (·.isKeyword "SET") then assignedFrom tokens 0 true (index + 1) else []

/-- The index past a conflict clause. -/
def conflictStop (tokens : List Token) (index : Nat) : Nat :=
  if (tokens[index]?).any (·.isKeyword "OR") then index + 2 else index

def clauseFrom (tokens : List Token) (depth index : Nat) : TableClause → List Mention × Nat
  | .sources =>
      let read := tablesFrom tokens depth index
      (read.1.map Mention.source, read.2)
  | .joined =>
      match tableFrom? tokens depth index with
      | none => ([], index)
      | some (ref, stop) => ([.source ref], stop)
  | .inserted =>
      match tableFrom? tokens depth index with
      | none => ([], index)
      | some (ref, stop) =>
          let read := insertColumnsFrom tokens stop
          (.source ref :: read.1.map (Mention.target ref.name), read.2)
  | .updated =>
      let index := conflictStop tokens index
      match tableFrom? tokens depth index with
      | none => ([], index)
      | some (ref, stop) =>
          (.source ref :: (updateColumnsFrom tokens stop).map (Mention.target ref.name), stop)

/-- The mentions from an index on. -/
def mentionsAt? (tokens : List Token) (parens : List Bool) (index : Nat) : Option (List Mention) :=
  if _within : index < tokens.length then do
    let token ← tokens[index]?
    let last := lastBefore? tokens index
    if token = .punct '(' then
      let subquery := (tokens[index + 1]?).any (·.isWordOf ["SELECT", "WITH"])
      mentionsAt? tokens ((last.any (·.name?.isSome) && !subquery) :: parens) (index + 1)
    else if token = .punct ')' then mentionsAt? tokens parens.tail (index + 1)
    else if parens.head? = some true then mentionsAt? tokens parens (index + 1)
    else
      match tableClause? last token with
      | none => mentionsAt? tokens parens (index + 1)
      | some clause =>
          let read := clauseFrom tokens parens.length (index + 1) clause
          let ⟨stop, _further⟩ ← past? index read.2
          let further ← mentionsAt? tokens parens stop
          return read.1 ++ further
  else return []
termination_by tokens.length - index

variable {tokens rest : List Token} {place : Place} {index : Nat} {last token : Token}

namespace Reaches

theorem next (reaches : Reaches tokens index ⟨last, token :: rest⟩) :
    Reaches tokens (index + 1) ⟨token, rest⟩ where
  ahead := drop_ahead reaches.ahead
  last := fun _ => getElem?_ahead reaches.ahead

/-- Past the end every index is at the end. -/
theorem ended (reaches : Reaches tokens index ⟨last, []⟩) (token : Token) :
    Reaches tokens (index + 1) ⟨token, []⟩ where
  ahead := by
    have past := List.drop_eq_nil_iff.mp reaches.ahead
    exact List.drop_eq_nil_iff.mpr (Nat.le_succ_of_le past)
  last := fun filled => absurd rfl filled

theorem getElem? (reaches : Reaches tokens index place) : tokens[index]? = place.ahead.head? :=
  getElem?_ahead reaches.ahead

end Reaches

theorem dottedFrom_keeps (name : String) (reaches : Reaches tokens index ⟨last, rest⟩) :
    Keeps tokens (dottedFrom tokens name index) (dottedName name last rest) := by
  fun_induction dottedName name last rest generalizing index with
  | case1 name last part rest spelled found ih =>
      have point : tokens[index]? = some (.punct '.') := reaches.getElem?
      have part : tokens[index + 1]? = some part := reaches.next.getElem?
      rw [dottedFrom, dif_pos point, part]
      simp only [Option.bind_some, found]
      exact ih reaches.next.next
  | case2 name last part rest unnamed =>
      have point : tokens[index]? = some (.punct '.') := reaches.getElem?
      have part : tokens[index + 1]? = some part := reaches.next.getElem?
      rw [dottedFrom, dif_pos point, part]
      simp only [Option.bind_some, unnamed]
      exact ⟨rfl, reaches⟩
  | case3 name last rest other =>
      rw [dottedFrom]
      by_cases point : tokens[index]? = some (.punct '.')
      · obtain ⟨later, rfl⟩ := List.head?_eq_some_iff.mp (reaches.getElem?.symm.trans point)
        have ended : tokens[index + 1]? = none := by
          cases later with
          | nil => exact reaches.next.getElem?
          | cons part later => exact absurd rfl (other part later)
        rw [dif_pos point, ended]
        exact ⟨rfl, reaches⟩
      · rw [dif_neg point]
        exact ⟨rfl, reaches⟩

theorem aliasFrom_keeps (reaches : Reaches tokens index ⟨last, rest⟩) :
    Keeps tokens (aliasFrom tokens index) (aliasAt last rest) := by
  unfold aliasFrom aliasAt
  rw [reaches.getElem?]
  cases rest with
  | nil => exact ⟨rfl, reaches⟩
  | cons token rest =>
      have next : tokens[index + 1]? = rest.head? := reaches.next.getElem?
      simp only [List.head?_cons, Option.any_some, Option.bind_some, next]
      by_cases introduces : token.isKeyword "AS" = true
      · rw [if_pos introduces, if_pos introduces]
        cases rest with
        | nil => exact ⟨rfl, reaches.next.ended token⟩
        | cons part rest => exact ⟨rfl, reaches.next.next⟩
      · rw [if_neg introduces, if_neg introduces]
        cases token.name? with
        | none => exact ⟨rfl, reaches⟩
        | some name => exact ⟨rfl, reaches.next⟩

theorem tableFrom?_keeps (depth : Nat) (reaches : Reaches tokens index place) :
    Option.Rel (Keeps tokens) (tableFrom? tokens depth index) (tableAt? depth place) := by
  obtain ⟨last, ahead⟩ := place
  unfold tableFrom? tableAt?
  rw [reaches.getElem?]
  cases ahead with
  | nil => exact .none
  | cons token rest =>
      simp only [List.head?_cons, Option.bind_some]
      cases token.name? with
      | none => exact .none
      | some first =>
          have named := dottedFrom_keeps first reaches.next
          have aliased := aliasFrom_keeps named.2
          exact .some ⟨by simp only [named.same, aliased.same], aliased.reaches⟩

theorem tablesFrom_none {depth : Nat} (unnamed : tableFrom? tokens depth index = none) :
    tablesFrom tokens depth index = ([], index) := by
  rw [tablesFrom]
  split
  · rfl
  · rename_i found
    cases unnamed.symm.trans found

theorem tablesFrom_some {depth stop : Nat} {ref : TableRef}
    (named : tableFrom? tokens depth index = some (ref, stop)) :
    tablesFrom tokens depth index =
      if tokens[stop]? = some (.punct ',') then
        (ref :: (tablesFrom tokens depth (stop + 1)).1, (tablesFrom tokens depth (stop + 1)).2)
      else ([ref], stop) := by
  rw [tablesFrom]
  split
  · rename_i found
    cases named.symm.trans found
  · rename_i found
    cases named.symm.trans found
    rfl

theorem tableFrom?_none {depth : Nat} (reaches : Reaches tokens index place)
    (unnamed : tableAt? depth place = none) : tableFrom? tokens depth index = none := by
  have read := tableFrom?_keeps depth reaches
  rw [unnamed] at read
  generalize tableFrom? tokens depth index = byIndex at read
  cases read
  rfl

theorem tableFrom?_some {depth : Nat} {ref : TableRef} {after : Place}
    (reaches : Reaches tokens index place) (named : tableAt? depth place = some (ref, after)) :
    ∃ stop, tableFrom? tokens depth index = some (ref, stop) ∧ Reaches tokens stop after := by
  have read := tableFrom?_keeps depth reaches
  rw [named] at read
  generalize tableFrom? tokens depth index = byIndex at read
  cases read with
  | @some found _ keeps => exact ⟨found.2, congrArg some (Prod.ext keeps.same rfl), keeps.reaches⟩

theorem tablesFrom_keeps (depth : Nat) (reaches : Reaches tokens index place) :
    Keeps tokens (tablesFrom tokens depth index) (tablesAt depth place) := by
  fun_induction tablesAt depth place generalizing index with
  | case1 place unnamed =>
      rw [tablesFrom_none (tableFrom?_none reaches unnamed)]
      exact ⟨rfl, reaches⟩
  | case2 place ref last rest named further =>
      rename_i ih
      obtain ⟨stop, found, reached⟩ := tableFrom?_some reaches named
      have comma : tokens[stop]? = some (.punct ',') := reached.getElem?
      have later := ih reached.next
      rw [tablesFrom_some found, if_pos comma]
      exact ⟨congrArg (ref :: ·) later.same, later.reaches⟩
  | case3 place ref after notComma named =>
      obtain ⟨stop, found, reached⟩ := tableFrom?_some reaches named
      have comma : tokens[stop]? ≠ some (.punct ',') := by
        rw [reached.getElem?]
        intro comma
        obtain ⟨rest, ahead⟩ := List.head?_eq_some_iff.mp comma
        exact notComma after.last rest (by rw [← ahead])
      rw [tablesFrom_some found, if_neg comma]
      exact ⟨rfl, reached⟩

theorem columnsFrom_cons (ahead : tokens.drop index = token :: rest) :
    columnsFrom tokens index =
      if token = .punct ')' then ([], index + 1)
      else if token = .punct ',' then columnsFrom tokens (index + 1)
      else
        match token.name? with
        | none => ([], index)
        | some column =>
            (column :: (columnsFrom tokens (index + 1)).1, (columnsFrom tokens (index + 1)).2) := by
  have within := lt_of_ahead ahead
  have here : tokens[index] = token := getElem_ahead ahead
  rw [columnsFrom, dif_pos within]
  simp only [here]

theorem columnsFrom_keeps (reaches : Reaches tokens index ⟨last, rest⟩) :
    Keeps tokens (columnsFrom tokens index) (columnsAt last rest) := by
  fun_induction columnsAt last rest generalizing index with
  | case1 last =>
      rw [columnsFrom, dif_neg (not_lt_of_ahead reaches.ahead)]
      exact ⟨rfl, reaches⟩
  | case2 last rest =>
      rw [columnsFrom_cons reaches.ahead, if_pos rfl]
      exact ⟨rfl, reaches.next⟩
  | case3 last rest ih =>
      rw [columnsFrom_cons reaches.ahead, if_neg (by simp), if_pos rfl]
      exact ih reaches.next
  | case4 last token rest notClose notComma unnamed =>
      rw [columnsFrom_cons reaches.ahead, if_neg notClose, if_neg notComma, unnamed]
      exact ⟨rfl, reaches⟩
  | case5 last token rest notClose notComma column named further =>
      rename_i ih
      have later := ih reaches.next
      rw [columnsFrom_cons reaches.ahead, if_neg notClose, if_neg notComma, named]
      exact ⟨congrArg (column :: ·) later.same, later.reaches⟩

theorem insertColumnsFrom_keeps (reaches : Reaches tokens index place) :
    Keeps tokens (insertColumnsFrom tokens index) (insertColumnsAt place) := by
  obtain ⟨last, ahead⟩ := place
  unfold insertColumnsFrom insertColumnsAt
  rw [reaches.getElem?]
  split
  · rename_i opens
    obtain ⟨rest, rfl⟩ := List.head?_eq_some_iff.mp opens
    exact columnsFrom_keeps reaches.next
  · rename_i other
    split
    · rename_i rest opens
      exact absurd (congrArg List.head? opens) other
    · exact ⟨rfl, reaches⟩

theorem assignedFrom_eq (depth : Nat) (expected : Bool) (ahead : tokens.drop index = rest) :
    assignedFrom tokens depth expected index = assignedColumns depth expected rest := by
  induction rest generalizing index depth expected with
  | nil =>
      rw [assignedFrom, dif_neg (not_lt_of_ahead ahead)]
      rfl
  | cons token rest ih =>
      have within := lt_of_ahead ahead
      have here : tokens[index] = token := getElem_ahead ahead
      have next : tokens[index + 1]? = rest.head? := getElem?_ahead (drop_ahead ahead)
      have later := fun depth expected => ih depth expected (drop_ahead ahead)
      rw [assignedFrom, dif_pos within]
      simp only [here, next, later]
      rfl

theorem updateColumnsFrom_eq (ahead : tokens.drop index = rest) :
    updateColumnsFrom tokens index = updateColumns rest := by
  unfold updateColumnsFrom updateColumns
  rw [getElem?_ahead ahead]
  cases rest with
  | nil => rfl
  | cons token rest =>
      have later := assignedFrom_eq 0 true (drop_ahead ahead)
      simp only [List.head?_cons, Option.any_some, later]

theorem conflictStop_reaches (reaches : Reaches tokens index place) :
    Reaches tokens (conflictStop tokens index) (afterConflictClause place) := by
  obtain ⟨last, ahead⟩ := place
  unfold conflictStop afterConflictClause
  cases ahead with
  | nil =>
      have ended : tokens[index]? = none := reaches.getElem?
      rw [ended]
      exact reaches
  | cons token rest =>
      have here : tokens[index]? = some token := reaches.getElem?
      rw [here, Option.any_some]
      by_cases either : token.isKeyword "OR" = true
      · simp only [if_pos either]
        cases rest with
        | nil => exact reaches.next.ended token
        | cons next rest => exact reaches.next.next
      · simp only [if_neg either]
        exact reaches

theorem clauseFrom_keeps (depth : Nat) (clause : TableClause) (reaches : Reaches tokens index place) :
    Keeps tokens (clauseFrom tokens depth index clause) (clauseAt depth place clause) := by
  cases clause with
  | sources =>
      have read := tablesFrom_keeps depth reaches
      exact ⟨congrArg (List.map Mention.source) read.same, read.reaches⟩
  | joined =>
      unfold clauseFrom clauseAt
      cases named : tableAt? depth place with
      | none =>
          rw [tableFrom?_none reaches named]
          exact ⟨rfl, reaches⟩
      | some read =>
          obtain ⟨stop, found, reached⟩ := tableFrom?_some reaches named
          rw [found]
          exact ⟨rfl, reached⟩
  | inserted =>
      unfold clauseFrom clauseAt
      cases named : tableAt? depth place with
      | none =>
          rw [tableFrom?_none reaches named]
          exact ⟨rfl, reaches⟩
      | some read =>
          obtain ⟨stop, found, reached⟩ := tableFrom?_some reaches named
          have columns := insertColumnsFrom_keeps reached
          rw [found]
          exact ⟨by simp only [columns.same], columns.reaches⟩
  | updated =>
      have skipped := conflictStop_reaches reaches
      unfold clauseFrom clauseAt
      cases named : tableAt? depth (afterConflictClause place) with
      | none =>
          simp only [tableFrom?_none skipped named, named]
          exact ⟨rfl, skipped⟩
      | some read =>
          obtain ⟨stop, found, reached⟩ := tableFrom?_some skipped named
          simp only [found, named]
          exact ⟨by simp only [updateColumnsFrom_eq reached.ahead], reached⟩

theorem mentionsAt?_cons (ahead : tokens.drop index = token :: rest) {last? : Option Token}
    (before : lastBefore? tokens index = last?) (parens : List Bool) :
    mentionsAt? tokens parens index =
      if token = .punct '(' then
        mentionsAt? tokens (opensCall last? rest :: parens) (index + 1)
      else if token = .punct ')' then mentionsAt? tokens parens.tail (index + 1)
      else if parens.head? = some true then mentionsAt? tokens parens (index + 1)
      else
        match tableClause? last? token with
        | none => mentionsAt? tokens parens (index + 1)
        | some clause => do
            let read := clauseFrom tokens parens.length (index + 1) clause
            let ⟨stop, _⟩ ← past? index read.2
            let further ← mentionsAt? tokens parens stop
            return read.1 ++ further := by
  have next : tokens[index + 1]? = rest.head? := getElem?_ahead (drop_ahead ahead)
  rw [mentionsAt?, dif_pos (lt_of_ahead ahead), getElem?_ahead ahead]
  simp only [List.head?_cons, Option.bind_eq_bind, Option.bind_some, before, next, opensCall]

/-- An index with fewer tokens ahead lies further on. -/
theorem Reaches.lt (ahead : tokens.drop index = token :: rest) {stop : Nat} {place : Place}
    (reaches : Reaches tokens stop place) (shorter : place.ahead.length ≤ rest.length) :
    index < stop := by
  have here := congrArg List.length ahead
  have there := congrArg List.length reaches.ahead
  rw [List.length_drop] at here there
  rw [List.length_cons] at here
  omega

theorem mentionsAt?_eq (ahead : tokens.drop index = rest) {last? : Option Token}
    (before : rest ≠ [] → lastBefore? tokens index = last?) (parens : List Bool) :
    mentionsAt? tokens parens index = some (mentionsFrom parens last? rest) := by
  fun_induction mentionsFrom parens last? rest generalizing index with
  | case1 =>
      rw [mentionsAt?, dif_neg (not_lt_of_ahead ahead)]
      rfl
  | case2 parens last? rest ih =>
      rw [mentionsAt?_cons ahead (before (List.cons_ne_nil _ _)), if_pos rfl]
      exact ih (drop_ahead ahead) fun _ => getElem?_ahead ahead
  | case3 parens last? rest notOpen ih =>
      rw [mentionsAt?_cons ahead (before (List.cons_ne_nil _ _)), if_neg notOpen, if_pos rfl]
      exact ih (drop_ahead ahead) fun _ => getElem?_ahead ahead
  | case4 parens last? token rest notOpen notClose called ih =>
      rw [mentionsAt?_cons ahead (before (List.cons_ne_nil _ _)), if_neg notOpen, if_neg notClose,
        if_pos called]
      exact ih (drop_ahead ahead) fun _ => getElem?_ahead ahead
  | case5 parens last? token rest notOpen notClose outside none ih =>
      rw [mentionsAt?_cons ahead (before (List.cons_ne_nil _ _)), if_neg notOpen, if_neg notClose,
        if_neg outside, none]
      exact ih (drop_ahead ahead) fun _ => getElem?_ahead ahead
  | case6 parens last? token rest notOpen notClose outside clause opens read =>
      rename_i ih
      have reaches : Reaches tokens (index + 1) ⟨token, rest⟩ :=
        ⟨drop_ahead ahead, fun _ => getElem?_ahead ahead⟩
      have byIndex := clauseFrom_keeps parens.length clause reaches
      have further := byIndex.reaches.lt ahead (clauseAt_length_le _ _ clause)
      have later := ih byIndex.reaches.ahead fun more => byIndex.reaches.last more
      rw [mentionsAt?_cons ahead (before (List.cons_ne_nil _ _)), if_neg notOpen, if_neg notClose,
        if_neg outside, opens]
      simp only [past?_eq further, Option.bind_eq_bind, Option.bind_some, later, byIndex.same]
      rfl

theorem mentions?_eq (tokens : List Token) : mentionsAt? tokens [] 0 = some (mentions tokens) := by
  cases tokens with
  | nil => exact mentionsAt?_eq rfl (fun filled => absurd rfl filled) []
  | cons token rest => exact mentionsAt?_eq rfl (fun _ => rfl) []

end CheckedSql.Analysis.Indexed

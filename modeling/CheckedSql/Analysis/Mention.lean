import CheckedSql.Sql.Token

namespace CheckedSql.Analysis

open Sql

/-! The tables that a statement mentions and the columns that it writes.

`mentions` reads the tokens from left to right. `FROM`, `JOIN`, `INTO` and
`UPDATE` are followed by tables; inside the parentheses of a function call, as in
`EXTRACT(YEAR FROM day)`, they are not.
-/

def statementWords : List String :=
  ["SELECT", "INSERT", "REPLACE", "UPDATE", "DELETE"]

/-- Whether a common table may be named after this token. -/
def opensCommonTable (token : Token) : Bool :=
  token.isWordOf ["WITH", "RECURSIVE"] || token == .punct ','

/-- Whether this token may follow the name of a common table. -/
def followsCommonTable (token : Token) : Bool :=
  token.isKeyword "AS" || token == .punct '('

def commonTable? (last token : Token) (rest : List Token) : Option String :=
  if opensCommonTable last && rest.head?.any followsCommonTable then token.name? else none

def commonTablesFrom (depth : Nat) (last : Token) : List Token → List String
  | [] => []
  | .punct '(' :: rest => commonTablesFrom (depth + 1) (.punct '(') rest
  | .punct ')' :: rest => commonTablesFrom (depth - 1) (.punct ')') rest
  | token :: rest =>
      if depth ≠ 0 then commonTablesFrom depth token rest
      else if token.isWordOf statementWords then []
      else (commonTable? last token rest).toList ++ commonTablesFrom depth token rest

/-- The common tables that a statement opens with. Only names outside all parentheses count,
and only before the statement proper. -/
def commonTables : List Token → List String
  | [] => []
  | token :: rest => if token.isKeyword "WITH" then commonTablesFrom 0 token rest else []

structure TableRef where
  name : String
  alias? : Option String
  /-- The number of parentheses that are open around the reference. -/
  depth : Nat
deriving Repr, DecidableEq, Inhabited

inductive Mention where
  | source (ref : TableRef)
  | target (table column : String)
deriving Repr, DecidableEq

namespace Mention

def ref? : Mention → Option TableRef
  | .source ref => some ref
  | .target _ _ => none

def target? : Mention → Option (String × String)
  | .source _ => none
  | .target table column => some (table, column)

end Mention

/-- A place among tokens: the last token read and the tokens ahead. -/
structure Place where
  last : Token
  ahead : List Token
deriving Repr, DecidableEq

/-- Reads the further parts of a dotted name; the last part names the table. -/
def dottedName (name : String) (last : Token) : List Token → String × Place
  | .punct '.' :: part :: rest =>
      match part.spelled? with
      | some spelled => dottedName spelled part rest
      | none => (name, ⟨last, .punct '.' :: part :: rest⟩)
  | rest => (name, ⟨last, rest⟩)

/-- Reads an alias, with or without `AS`. The token after `AS` is read whatever
it is. -/
def aliasAt (last : Token) : List Token → Option String × Place
  | [] => (none, ⟨last, []⟩)
  | token :: rest =>
      if token.isKeyword "AS" then
        match rest with
        | [] => (none, ⟨token, []⟩)
        | next :: rest => (next.name?, ⟨next, rest⟩)
      else
        match token.name? with
        | some name => (some name, ⟨token, rest⟩)
        | none => (none, ⟨last, token :: rest⟩)

/-- Reads one table with its alias. -/
def tableAt? (depth : Nat) (place : Place) : Option (TableRef × Place) :=
  match place.ahead with
  | [] => none
  | token :: rest =>
      match token.name? with
      | none => none
      | some first =>
          let named := dottedName first token rest
          let aliased := aliasAt named.2.last named.2.ahead
          some (⟨named.1, aliased.1, depth⟩, aliased.2)

theorem dottedName_length_le (name : String) (last : Token) (tokens : List Token) :
    (dottedName name last tokens).2.ahead.length ≤ tokens.length := by
  fun_induction dottedName name last tokens with
  | case1 name last part rest spelled _ ih =>
      simp only [List.length_cons]
      omega
  | case2 => exact Nat.le_refl _
  | case3 => exact Nat.le_refl _

theorem aliasAt_length_le (last : Token) (tokens : List Token) :
    (aliasAt last tokens).2.ahead.length ≤ tokens.length := by
  unfold aliasAt
  split
  · exact Nat.le_refl _
  · split
    · split <;> simp only [List.length_nil, List.length_cons] <;> omega
    · split
      · exact Nat.le_succ _
      · exact Nat.le_refl _

theorem tableAt?_shorter {depth : Nat} {place after : Place} {ref : TableRef}
    (found : tableAt? depth place = some (ref, after)) :
    after.ahead.length < place.ahead.length := by
  unfold tableAt? at found
  split at found
  · cases found
  · rename_i token rest ahead
    split at found
    · cases found
    · rename_i first _
      have named := dottedName_length_le first token rest
      have aliased := aliasAt_length_le (dottedName first token rest).2.last
        (dottedName first token rest).2.ahead
      cases found
      rw [ahead, List.length_cons]
      omega

/-- Reads tables separated by commas. -/
def tablesAt (depth : Nat) (place : Place) : List TableRef × Place :=
  match _found : tableAt? depth place with
  | none => ([], place)
  | some (ref, ⟨_, .punct ',' :: rest⟩) =>
      let further := tablesAt depth ⟨.punct ',', rest⟩
      (ref :: further.1, further.2)
  | some (ref, after) => ([ref], after)
termination_by place.ahead.length
decreasing_by
  have shorter := tableAt?_shorter _found
  simp only [List.length_cons] at shorter
  omega

theorem tablesAt_length_le (depth : Nat) (place : Place) :
    (tablesAt depth place).2.ahead.length ≤ place.ahead.length := by
  fun_induction tablesAt depth place with
  | case1 => exact Nat.le_refl _
  | case2 place ref last rest found further ih =>
      have shorter := tableAt?_shorter found
      simp only [List.length_cons] at shorter
      simp only at ih
      exact Nat.le_of_lt (Nat.lt_of_le_of_lt ih (Nat.lt_of_succ_lt shorter))
  | case3 place ref after _ found => exact Nat.le_of_lt (tableAt?_shorter found)

/-- Reads the columns in parentheses after the table of an insertion, up to a
token that names no column. -/
def columnsAt (last : Token) : List Token → List String × Place
  | [] => ([], ⟨last, []⟩)
  | .punct ')' :: rest => ([], ⟨.punct ')', rest⟩)
  | .punct ',' :: rest => columnsAt (.punct ',') rest
  | token :: rest =>
      match token.name? with
      | none => ([], ⟨last, token :: rest⟩)
      | some column =>
          let further := columnsAt token rest
          (column :: further.1, further.2)

theorem columnsAt_length_le (last : Token) (tokens : List Token) :
    (columnsAt last tokens).2.ahead.length ≤ tokens.length := by
  fun_induction columnsAt last tokens with
  | case1 => exact Nat.le_refl _
  | case2 => exact Nat.le_succ _
  | case3 last rest ih => exact Nat.le_succ_of_le ih
  | case4 => exact Nat.le_refl _
  | case5 last token rest _ _ column _ further ih => exact Nat.le_succ_of_le ih

def insertColumnsAt (place : Place) : List String × Place :=
  match place.ahead with
  | .punct '(' :: rest => columnsAt (.punct '(') rest
  | _ => ([], place)

theorem insertColumnsAt_length_le (place : Place) :
    (insertColumnsAt place).2.ahead.length ≤ place.ahead.length := by
  unfold insertColumnsAt
  split
  · rename_i rest ahead
    rw [ahead]
    exact Nat.le_succ_of_le (columnsAt_length_le _ rest)
  · exact Nat.le_refl _

/-- The columns that assignments set: each name before an equals sign, at the
start or after a comma outside all parentheses. -/
def assignedColumns (depth : Nat) (expected : Bool) : List Token → List String
  | [] => []
  | token :: rest =>
      let depth := match token with
        | .punct '(' => depth + 1
        | .punct ')' => depth - 1
        | _ => depth
      if depth ≠ 0 then assignedColumns depth expected rest
      else if token = .punct ',' then assignedColumns depth true rest
      else if token.isKeyword "WHERE" then []
      else
        let named := if expected && rest.head? == some (.punct '=') then token.name? else none
        named.toList ++ assignedColumns depth false rest

/-- The columns set after the table of an update. They are looked at ahead, and
the reading goes on where it stands. -/
def updateColumns : List Token → List String
  | [] => []
  | token :: rest => if token.isKeyword "SET" then assignedColumns 0 true rest else []

/-- Skips the conflict clause of an update, `OR` and one more token. -/
def afterConflictClause (place : Place) : Place :=
  match place.ahead with
  | [] => place
  | token :: rest =>
      if token.isKeyword "OR" then
        match rest with
        | [] => ⟨token, []⟩
        | next :: rest => ⟨next, rest⟩
      else place

theorem afterConflictClause_length_le (place : Place) :
    (afterConflictClause place).ahead.length ≤ place.ahead.length := by
  unfold afterConflictClause
  split
  · exact Nat.le_refl _
  · rename_i token rest ahead
    split
    · rw [ahead]
      split <;> simp only [List.length_nil, List.length_cons] <;> omega
    · exact Nat.le_refl _

/-- The words after which tables are named. -/
inductive TableClause where
  | sources
  | joined
  | inserted
  | updated
deriving Repr, DecidableEq

/-- An `UPDATE` after `KEY` or `FOR` opens no clause of its own. -/
def tableClause? (last : Option Token) (token : Token) : Option TableClause :=
  if token.isKeyword "FROM" then some .sources
  else if token.isKeyword "JOIN" then some .joined
  else if token.isKeyword "INTO" then some .inserted
  else if token.isKeyword "UPDATE" && !last.any (·.isWordOf ["KEY", "FOR"]) then some .updated
  else none

/-- Reads what follows the word of a clause. -/
def clauseAt (depth : Nat) (place : Place) : TableClause → List Mention × Place
  | .sources =>
      let read := tablesAt depth place
      (read.1.map Mention.source, read.2)
  | .joined =>
      match tableAt? depth place with
      | none => ([], place)
      | some (ref, after) => ([.source ref], after)
  | .inserted =>
      match tableAt? depth place with
      | none => ([], place)
      | some (ref, after) =>
          let read := insertColumnsAt after
          (.source ref :: read.1.map (Mention.target ref.name), read.2)
  | .updated =>
      let place := afterConflictClause place
      match tableAt? depth place with
      | none => ([], place)
      | some (ref, after) =>
          (.source ref :: (updateColumns after.ahead).map (Mention.target ref.name), after)

theorem clauseAt_length_le (depth : Nat) (place : Place) (clause : TableClause) :
    (clauseAt depth place clause).2.ahead.length ≤ place.ahead.length := by
  cases clause with
  | sources => exact tablesAt_length_le depth place
  | joined =>
      simp only [clauseAt]
      split
      · exact Nat.le_refl _
      · exact Nat.le_of_lt (tableAt?_shorter ‹_›)
  | inserted =>
      simp only [clauseAt]
      split
      · exact Nat.le_refl _
      · rename_i ref after found
        exact Nat.le_trans (insertColumnsAt_length_le after) (Nat.le_of_lt (tableAt?_shorter found))
  | updated =>
      have skipped := afterConflictClause_length_le place
      simp only [clauseAt]
      split
      · exact skipped
      · rename_i ref after found
        exact Nat.le_trans (Nat.le_of_lt (tableAt?_shorter found)) skipped

/-- Whether an opening parenthesis opens the arguments of a call: a name stands
before it, and no subquery follows. -/
def opensCall (last : Option Token) (rest : List Token) : Bool :=
  last.any (·.name?.isSome) && !rest.head?.any (·.isWordOf ["SELECT", "WITH"])

/-- The mentions ahead. `parens` tells of each open parenthesis, the innermost
first, whether it opened a call. -/
def mentionsFrom (parens : List Bool) (last : Option Token) : List Token → List Mention
  | [] => []
  | token :: rest =>
      if token = .punct '(' then
        mentionsFrom (opensCall last rest :: parens) (some token) rest
      else if token = .punct ')' then mentionsFrom parens.tail (some token) rest
      else if parens.head? = some true then mentionsFrom parens (some token) rest
      else
        match tableClause? last token with
        | none => mentionsFrom parens (some token) rest
        | some clause =>
            let read := clauseAt parens.length ⟨token, rest⟩ clause
            read.1 ++ mentionsFrom parens (some read.2.last) read.2.ahead
termination_by tokens => tokens.length
decreasing_by
  · simp
  · simp
  · simp
  · simp
  · exact Nat.lt_succ_of_le (clauseAt_length_le parens.length ⟨token, rest⟩ clause)

def mentions (tokens : List Token) : List Mention :=
  mentionsFrom [] none tokens

end CheckedSql.Analysis

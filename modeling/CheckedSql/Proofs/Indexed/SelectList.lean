import CheckedSql.Proofs.Analysis.Outermost
import CheckedSql.Proofs.Indexed.Lookup

namespace CheckedSql.Analysis.Indexed

open Sql

/-- The index past the first `SELECT` outside all parentheses. -/
def selectStop? (depth index : Nat) : List Token → Option Nat
  | [] => none
  | .punct '(' :: rest => selectStop? (depth + 1) (index + 1) rest
  | .punct ')' :: rest => selectStop? (depth - 1) (index + 1) rest
  | token :: rest =>
      if depth = 0 ∧ token.isKeyword "SELECT" then some (index + 1)
      else selectStop? depth (index + 1) rest

/-- The index past the words that may stand before the first item. -/
def quantifierStop (tokens : List Token) (index : Nat) : Nat :=
  if quantifies : (tokens[index]?).any (·.isWordOf ["DISTINCT", "ALL"]) then
    quantifierStop tokens (index + 1)
  else index
termination_by tokens.length - index
decreasing_by
  obtain ⟨token, found, _⟩ := (Option.any_eq_true _ _).mp quantifies
  have within := (List.getElem?_eq_some_iff.mp found).1
  omega

/-- The items from an index on, the first of which starts before. -/
def itemsAt? (tokens : List Token) (start depth index : Nat) : Option (List (List Token)) :=
  if _within : index < tokens.length then do
    let token ← tokens[index]?
    if token = .punct '(' then itemsAt? tokens start (depth + 1) (index + 1)
    else if token = .punct ')' then itemsAt? tokens start (depth - 1) (index + 1)
    else if depth ≠ 0 then itemsAt? tokens start depth (index + 1)
    else if token = .punct ',' then
      let item ← range? tokens start index
      let items ← itemsAt? tokens (index + 1) depth (index + 1)
      return item :: items
    else if token.isWordOf selectListEnds then return [← range? tokens start index]
    else itemsAt? tokens start depth (index + 1)
  else return [← range? tokens start index]
termination_by tokens.length - index

def selectItems? (tokens : List Token) : Option (Option (List SelectItem)) :=
  match selectStop? 0 0 tokens with
  | none => some none
  | some index => do
      let start := quantifierStop tokens index
      let items ← itemsAt? tokens start 0 start
      return some (items.map SelectItem.ofTokens)

section Items

variable {tokens before part rest : List Token} {token : Token} {depth index stop : Nat}

theorem selectStop?_le (found : selectStop? depth index rest = some stop) :
    stop ≤ index + rest.length := by
  fun_induction selectStop? depth index rest with
  | case1 => cases found
  | case2 depth index rest ih =>
      have within := ih found
      simp only [List.length_cons]
      omega
  | case3 depth index rest ih =>
      have within := ih found
      simp only [List.length_cons]
      omega
  | case4 =>
      cases found
      simp only [List.length_cons]
      omega
  | case5 depth index token rest _ _ _ ih =>
      have within := ih found
      simp only [List.length_cons]
      omega

theorem afterSelect?_eq (ahead : tokens.drop index = rest) :
    afterSelect? depth rest = (selectStop? depth index rest).map fun stop => tokens.drop stop := by
  fun_induction selectStop? depth index rest with
  | case1 => rfl
  | case2 depth index rest ih => exact ih (drop_ahead ahead)
  | case3 depth index rest ih => exact ih (drop_ahead ahead)
  | case4 depth index token rest notOpen notClose selects =>
      rw [Grammar.afterSelect?_plain ⟨notOpen, notClose⟩, if_pos selects, Option.map_some,
        drop_ahead ahead]
  | case5 depth index token rest notOpen notClose other ih =>
      rw [Grammar.afterSelect?_plain ⟨notOpen, notClose⟩, if_neg other, ih (drop_ahead ahead)]

theorem quantifierStop_le (within : index ≤ tokens.length) :
    quantifierStop tokens index ≤ tokens.length := by
  fun_induction quantifierStop tokens index with
  | case1 index quantifies ih =>
      obtain ⟨token, found, _⟩ := (Option.any_eq_true _ _).mp quantifies
      exact ih (List.getElem?_eq_some_iff.mp found).1
  | case2 => exact within

theorem drop_quantifierStop (tokens : List Token) (index : Nat) :
    tokens.drop (quantifierStop tokens index) =
      (tokens.drop index).dropWhile (·.isWordOf ["DISTINCT", "ALL"]) := by
  fun_induction quantifierStop tokens index with
  | case1 index quantifies ih =>
      obtain ⟨token, found, accepted⟩ := (Option.any_eq_true _ _).mp quantifies
      obtain ⟨within, here⟩ := List.getElem?_eq_some_iff.mp found
      rw [ih, List.drop_eq_getElem_cons within, here, List.dropWhile_cons_of_pos accepted]
  | case2 index other =>
      cases ahead : tokens.drop index with
      | nil => rfl
      | cons token rest =>
          rw [getElem?_ahead ahead] at other
          exact (List.dropWhile_cons_of_neg (by simpa using other)).symm

theorem itemsAt?_next (start depth : Nat) (ahead : tokens.drop index = token :: rest) :
    itemsAt? tokens start depth index =
      if token = .punct '(' then itemsAt? tokens start (depth + 1) (index + 1)
      else if token = .punct ')' then itemsAt? tokens start (depth - 1) (index + 1)
      else if depth ≠ 0 then itemsAt? tokens start depth (index + 1)
      else if token = .punct ',' then do
        let item ← range? tokens start index
        let items ← itemsAt? tokens (index + 1) depth (index + 1)
        return item :: items
      else if token.isWordOf selectListEnds then return [← range? tokens start index]
      else itemsAt? tokens start depth (index + 1) := by
  rw [itemsAt?, dif_pos (lt_of_ahead ahead), getElem?_ahead ahead]
  rfl

/-- An item that goes on with a token goes on as if the token had been read before. -/
theorem modifyHead_extendFirst {items : List (List Token)} (filled : items ≠ [])
    (part : List Token) (token : Token) :
    (extendFirst token items).modifyHead (part ++ ·) =
      items.modifyHead (part ++ [token] ++ ·) := by
  obtain ⟨item, items, rfl⟩ := List.exists_cons_of_ne_nil filled
  simp [extendFirst]

theorem splitItems_cons (depth : Nat) (token : Token) (rest : List Token) :
    splitItems depth (token :: rest) =
      if token = .punct '(' then extendFirst token (splitItems (depth + 1) rest)
      else if token = .punct ')' then extendFirst token (splitItems (depth - 1) rest)
      else if depth ≠ 0 then extendFirst token (splitItems depth rest)
      else if token = .punct ',' then [] :: splitItems depth rest
      else if token.isWordOf selectListEnds then [[]]
      else extendFirst token (splitItems depth rest) := by
  by_cases opens : token = .punct '('
  · subst opens
    rfl
  by_cases closes : token = .punct ')'
  · subst closes
    rfl
  rw [Grammar.splitItems_plain ⟨opens, closes⟩, if_neg opens, if_neg closes]

theorem modifyHead_nil_append (items : List (List Token)) : items.modifyHead ([] ++ ·) = items := by
  cases items <;> rfl

/-- With what has been read of the first item, the items ahead are cut out of the tokens. -/
theorem itemsAt?_eq (depth : Nat) (whole : tokens = before ++ part ++ rest) :
    itemsAt? tokens before.length depth (before.length + part.length) =
      some ((splitItems depth rest).modifyHead (part ++ ·)) := by
  induction rest generalizing depth before part with
  | nil =>
      subst whole
      rw [itemsAt?, dif_neg (by simp), range?_between]
      simp [splitItems]
  | cons token rest ih =>
      have ahead : tokens.drop (before.length + part.length) = token :: rest := by
        rw [whole, ← List.length_append, List.drop_left]
      have reached : range? tokens before.length (before.length + part.length) = some part := by
        rw [whole, range?_between]
      have goesOn : ∀ depth, itemsAt? tokens before.length depth (before.length + part.length + 1) =
          some ((extendFirst token (splitItems depth rest)).modifyHead (part ++ ·)) := by
        intro depth
        have parts : tokens = before ++ (part ++ [token]) ++ rest := by simp [whole]
        have later := ih depth parts
        rw [List.length_append, ← Nat.add_assoc] at later
        rw [modifyHead_extendFirst (splitItems_ne_nil depth rest)]
        exact later
      rw [itemsAt?_next _ _ ahead, splitItems_cons]
      by_cases opens : token = .punct '('
      · rw [if_pos opens, if_pos opens, goesOn]
      rw [if_neg opens, if_neg opens]
      by_cases closes : token = .punct ')'
      · rw [if_pos closes, if_pos closes, goesOn]
      rw [if_neg closes, if_neg closes]
      by_cases nested : depth ≠ 0
      · rw [if_pos nested, if_pos nested, goesOn]
      rw [if_neg nested, if_neg nested]
      by_cases comma : token = .punct ','
      · have parts : tokens = before ++ part ++ [token] ++ [] ++ rest := by simp [whole]
        have later := ih depth parts
        rw [modifyHead_nil_append, List.length_append, List.length_append] at later
        rw [if_pos comma, if_pos comma, reached]
        exact (congrArg (Option.bind · _) later).trans (by simp)
      rw [if_neg comma, if_neg comma]
      by_cases ends : token.isWordOf selectListEnds = true
      · rw [if_pos ends, if_pos ends, reached]
        simp
      rw [if_neg ends, if_neg ends, goesOn]

end Items

/-- The items of a select list are all within the tokens. -/
theorem selectItems?_eq (tokens : List Token) :
    selectItems? tokens = some (Analysis.selectItems? tokens) := by
  have found : afterSelect? 0 tokens = (selectStop? 0 0 tokens).map fun stop => tokens.drop stop :=
    afterSelect?_eq List.drop_zero
  unfold selectItems? Analysis.selectItems?
  rw [found]
  cases stopped : selectStop? 0 0 tokens with
  | none => rfl
  | some index =>
      have within := quantifierStop_le (Nat.zero_add tokens.length ▸ selectStop?_le stopped)
      have parts : tokens = tokens.take (quantifierStop tokens index) ++ [] ++
          tokens.drop (quantifierStop tokens index) := by simp
      have items := itemsAt?_eq 0 parts
      rw [modifyHead_nil_append, List.length_take, Nat.min_eq_left within,
        drop_quantifierStop] at items
      exact congrArg (Option.bind · _) items

end CheckedSql.Analysis.Indexed

import CheckedSql.Toml.Date
import CheckedSql.Toml.Item

namespace CheckedSql.Toml

def nestingLimit : Nat := 79

def isBareKeyPart (char : Char) : Bool :=
  char.isAlphanum || char == '_' || char == '-'

def keyPart : Rule String := do
  gap
  let part ← lineString <|> (do
    let first ← Rule.char isBareKeyPart
    return String.ofList (first :: (← Rule.run isBareKeyPart)))
  gap
  return part

def key : Rule (List String) := do
  let path ← Rule.separated '.' keyPart
  Rule.when (decide (path.length ≤ nestingLimit))
  return path

/-- Drops blanks, line ends and comments, as they stand between the items of an
array. -/
def dropGaps (inComment : Bool) : List Char → List Char
  | [] => []
  | '\n' :: rest => dropGaps false rest
  | '\x0d' :: '\n' :: rest => dropGaps false rest
  | first :: rest =>
      if inComment then if isPlain first then dropGaps true rest else first :: rest
      else if first = '#' then dropGaps true rest
      else if isGap first then dropGaps false rest
      else first :: rest

theorem dropGaps_length_le (inComment : Bool) (text : List Char) :
    (dropGaps inComment text).length ≤ text.length := by
  fun_induction dropGaps inComment text with
  | case1 => exact Nat.le_refl _
  | case2 _ rest ih => exact Nat.le_succ_of_le ih
  | case3 _ rest ih => exact Nat.le_succ_of_le (Nat.le_succ_of_le ih)
  | case4 first rest _ _ _ ih => exact Nat.le_succ_of_le ih
  | case5 => exact Nat.le_refl _
  | case6 _ rest _ _ _ ih => exact Nat.le_succ_of_le ih
  | case7 _ first rest _ _ _ _ _ ih => exact Nat.le_succ_of_le ih
  | case8 => exact Nat.le_refl _

/-- Reads the items of an array through its closing bracket. A comma may stand after
the last item. -/
def readItems (item : Rule Item) (text : List Char) : Option (List Item × List Char) :=
  match _start : dropGaps false text with
  | [] => none
  | first :: tail =>
      if first = ']' then some ([], tail)
      else
        match _read : item.read (first :: tail) with
        | none => none
        | some (value, after) =>
            match _next : dropGaps false after with
            | ']' :: rest => some ([value], rest)
            | ',' :: rest =>
                (readItems item rest).map fun (values, rest) => (value :: values, rest)
            | _ => none
termination_by text.length
decreasing_by
  have started := dropGaps_length_le false text
  have read := item.shrinks _read
  have followed := dropGaps_length_le false after
  rw [_start] at started
  rw [_next] at followed
  exact Nat.lt_of_lt_of_le followed (Nat.le_trans read started)

theorem readItems_shrinks {item : Rule Item} {text rest : List Char} {values : List Item}
    (found : readItems item text = some (values, rest)) : rest.length ≤ text.length := by
  fun_induction readItems item text generalizing values rest with
  | case1 => cases found
  | case2 text tail start =>
      have started := dropGaps_length_le false text
      rw [start] at started
      cases found
      exact Nat.le_of_succ_le started
  | case3 => cases found
  | case4 text first tail start notEnd value after read last next =>
      have started := dropGaps_length_le false text
      have followed := dropGaps_length_le false after
      have reading := item.shrinks read
      rw [start] at started
      rw [next] at followed
      cases found
      exact Nat.le_of_succ_le (Nat.le_trans followed (Nat.le_trans reading started))
  | case5 text first tail start notEnd value after read last next ih =>
      have started := dropGaps_length_le false text
      have followed := dropGaps_length_le false after
      have reading := item.shrinks read
      rw [start] at started
      rw [next] at followed
      obtain ⟨⟨inner, final⟩, further, same⟩ := Option.map_eq_some_iff.mp found
      cases same
      exact Nat.le_trans (ih further)
        (Nat.le_of_succ_le (Nat.le_trans followed (Nat.le_trans reading started)))
  | case6 => cases found

def array (item : Rule Item) : Rule Item := do
  Rule.word ['[']
  return .array (← Rule.mk (readItems item) readItems_shrinks)

def pair (item : Rule Item) : Rule Pair := do
  let path ← key
  Rule.word ['=']
  gap
  return ⟨path, ← item⟩

/-- A table in braces, on one line and without a comma after its last pair. -/
def inlineTable (item : Rule Item) : Rule Item := do
  Rule.word ['\x7b']
  let spaced : Rule Pair := do
    let found ← pair item
    gap
    return found
  let pairs ← Rule.optional (Rule.separated ',' spaced)
  gap
  Rule.word ['\x7d']
  match Entries.ofPairs [] (pairs.getD []) with
  | some entries => return .inline entries
  | none => Rule.fail

def truth : Rule Unit :=
  Rule.word ['t', 'r', 'u', 'e'] <|> Rule.word ['f', 'a', 'l', 's', 'e']

def simpleItem : Rule Item :=
  (do return .string (← string)) <|>
  (do dateTime; return .scalar) <|>
  (do real; return .scalar) <|>
  (do return .integer (← integer)) <|>
  (do truth; return .scalar)

/-- A value in which arrays and inline tables stand inside each other to this
depth. -/
def value : Nat → Rule Item
  | 0 => simpleItem
  | depth + 1 => simpleItem <|> array (value depth) <|> inlineTable (value depth)

def header : Rule Header :=
  (do
    Rule.word ['[', '[']
    let path ← key
    Rule.word [']', ']']
    return ⟨path, true⟩) <|>
  (do
    Rule.word ['[']
    let path ← key
    Rule.word [']']
    return ⟨path, false⟩)

inductive Line where
  | blank
  | pair (pair : Pair)
  | header (header : Header)

def line : Rule Line := do
  gap
  let found ←
    (do return Line.header (← header)) <|>
    (do return Line.pair (← pair (value nestingLimit))) <|>
    Rule.yield .blank
  gap
  let _ ← Rule.optional comment
  return found

def readLines (text : List Char) : Option (List Line) :=
  match _found : line.read text with
  | none => none
  | some (first, []) => some [first]
  | some (first, '\n' :: rest) => (readLines rest).map (first :: ·)
  | some (first, '\x0d' :: '\n' :: rest) => (readLines rest).map (first :: ·)
  | some _ => none
termination_by text.length
decreasing_by
  · exact Nat.lt_of_lt_of_le (Nat.lt_succ_self _) (line.shrinks _found)
  · exact Nat.lt_of_lt_of_le (Nat.lt_succ_of_lt (Nat.lt_succ_self _)) (line.shrinks _found)

def sections : List Line → List Pair × List (Header × List Pair)
  | [] => ([], [])
  | line :: rest =>
      let (pairs, tables) := sections rest
      match line with
      | .blank => (pairs, tables)
      | .pair pair => (pair :: pairs, tables)
      | .header header => ([], (header, pairs) :: tables)

/-- The entries of a document. A byte order mark may stand before it. -/
def document? (text : String) : Option Entries := do
  let chars := match text.toList with
    | '\ufeff' :: rest => rest
    | chars => chars
  let (pairs, tables) := sections (← readLines chars)
  let root ← Entries.ofPairs [] pairs
  tables.foldlM (fun entries table => entries.addTable table.1 table.2) root

end CheckedSql.Toml

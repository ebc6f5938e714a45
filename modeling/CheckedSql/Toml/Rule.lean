namespace CheckedSql.Toml

/-! Rules of a grammar, as functions on the start of a text.

A rule reads a value and says what is left, which is never longer than what it was
given (`shrinks`). A list of items ends for that reason: between two items stands a
separator, which does take a character.
-/

structure Rule (Result : Type) where
  read : List Char → Option (Result × List Char)
  shrinks : ∀ {text rest : List Char} {value : Result},
    read text = some (value, rest) → rest.length ≤ text.length

namespace Rule

variable {First Second : Type}

def fail : Rule First :=
  ⟨fun _ => none, fun found => nomatch found⟩

def yield (value : First) : Rule First :=
  ⟨fun text => some (value, text), fun found => by cases found; exact Nat.le_refl _⟩

def andThen (rule : Rule First) (next : First → Rule Second) : Rule Second where
  read text :=
    match rule.read text with
    | none => none
    | some (value, rest) => (next value).read rest
  shrinks := by
    intro text rest value found
    split at found
    · cases found
    · rename_i first middle read
      exact Nat.le_trans ((next first).shrinks found) (rule.shrinks read)

instance : Monad Rule where
  pure := yield
  bind := andThen

def or (first second : Rule First) : Rule First where
  read text := (first.read text).or (second.read text)
  shrinks := by
    intro text rest value found
    rcases Option.or_eq_some_iff.mp found with read | ⟨_, read⟩
    · exact first.shrinks read
    · exact second.shrinks read

instance : OrElse (Rule First) := ⟨fun first second => first.or (second ())⟩

/-- Succeeds without reading if the condition holds. -/
def when (holds : Bool) : Rule Unit :=
  if holds then yield () else fail

def optional (rule : Rule First) : Rule (Option First) :=
  (rule.andThen fun value => yield (some value)).or (yield none)

def char (accepts : Char → Bool) : Rule Char where
  read
    | [] => none
    | first :: rest => if accepts first then some (first, rest) else none
  shrinks := by
    intro text rest value found
    split at found
    · cases found
    · split at found
      · cases found; exact Nat.le_succ _
      · cases found

def word : List Char → Rule Unit
  | [] => yield ()
  | first :: rest => (char (· == first)).andThen fun _ => word rest

def run (accepts : Char → Bool) : Rule (List Char) where
  read text := some (text.takeWhile accepts, text.dropWhile accepts)
  shrinks := by
    intro text rest value found
    cases found
    exact (List.dropWhile_suffix accepts).length_le

def times (accepts : Char → Bool) : Nat → Rule (List Char)
  | 0 => yield []
  | count + 1 =>
      (char accepts).andThen fun first =>
        (times accepts count).andThen fun rest => yield (first :: rest)

def readSeparated (separator : Char) (item : Rule First) (text : List Char) :
    Option (List First × List Char) :=
  match _found : item.read text with
  | none => none
  | some (value, []) => some ([value], [])
  | some (value, next :: rest) =>
      if next = separator then
        (readSeparated separator item rest).map fun (values, rest) => (value :: values, rest)
      else some ([value], next :: rest)
termination_by text.length
decreasing_by exact Nat.lt_of_lt_of_le (Nat.lt_succ_self _) (item.shrinks _found)

theorem readSeparated_shrinks {separator : Char} {item : Rule First} {text rest : List Char}
    {values : List First} (found : readSeparated separator item text = some (values, rest)) :
    rest.length ≤ text.length := by
  fun_induction readSeparated separator item text generalizing values rest with
  | case1 => cases found
  | case2 text value read => cases found; exact Nat.zero_le _
  | case3 text value after read ih =>
      obtain ⟨⟨inner, last⟩, further, same⟩ := Option.map_eq_some_iff.mp found
      cases same
      exact Nat.le_trans (ih further) (Nat.le_of_lt (item.shrinks read))
  | case4 text value next after read different =>
      cases found
      exact item.shrinks read

/-- Reads one or more items with a separator between each two. -/
def separated (separator : Char) (item : Rule First) : Rule (List First) :=
  ⟨readSeparated separator item, readSeparated_shrinks⟩

section Reading

variable {rule other : Rule First} {next : First → Rule Second} {value : First}
  {text rest : List Char}

theorem read_bind_of_some (found : rule.read text = some (value, rest)) :
    (rule >>= next).read text = (next value).read rest := by
  change (match rule.read text with
    | none => none
    | some (value, rest) => (next value).read rest) = _
  rw [found]

theorem read_bind_of_none (missed : rule.read text = none) : (rule >>= next).read text = none := by
  change (match rule.read text with
    | none => none
    | some (value, rest) => (next value).read rest) = _
  rw [missed]

theorem read_or_of_none (missed : rule.read text = none) :
    (rule <|> other).read text = other.read text := by
  change (rule.read text).or (other.read text) = _
  rw [missed, Option.none_or]

theorem read_or_of_some (found : rule.read text = some (value, rest)) :
    (rule <|> other).read text = some (value, rest) := by
  change (rule.read text).or (other.read text) = _
  rw [found, Option.some_or]

theorem read_char_of {accepts : Char → Bool} {first : Char} (accepted : accepts first = true) :
    (char accepts).read (first :: rest) = some (first, rest) :=
  if_pos accepted

theorem read_word_of_ne {first sign : Char} (unlike : first ≠ sign) (signs : List Char) :
    (word (sign :: signs)).read (first :: rest) = none := by
  have refused : (char (· == sign)).read (first :: rest) = none := if_neg (by simp [unlike])
  exact read_bind_of_none refused

end Reading

end Rule

/-- A tab, or a character that is no control character. -/
def isPlain (char : Char) : Bool :=
  char == '\t' || (' ' ≤ char && char != '\x7f')

def isGap (char : Char) : Bool :=
  char == ' ' || char == '\t'

def gap : Rule Unit := do
  let _ ← Rule.run isGap

def lineBreak : Rule Unit :=
  Rule.word ['\n'] <|> Rule.word ['\x0d', '\n']

def comment : Rule Unit := do
  let _ ← Rule.char (· == '#')
  let _ ← Rule.run isPlain

end CheckedSql.Toml

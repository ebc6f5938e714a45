import CheckedSql.Toml.Quoted

namespace CheckedSql.Toml

/-- Digits of a class; an underscore may stand between two of them. -/
def digitRun (accepts : Char → Bool) : List Char → List Char × List Char
  | [] => ([], [])
  | '_' :: [] => ([], ['_'])
  | '_' :: digit :: rest =>
      if accepts digit then
        let further := digitRun accepts rest
        (digit :: further.1, further.2)
      else ([], '_' :: digit :: rest)
  | digit :: rest =>
      if accepts digit then
        let further := digitRun accepts rest
        (digit :: further.1, further.2)
      else ([], digit :: rest)

theorem digitRun_length_le (accepts : Char → Bool) (text : List Char) :
    (digitRun accepts text).2.length ≤ text.length := by
  fun_induction digitRun accepts text with
  | case1 => exact Nat.le_refl _
  | case2 => exact Nat.le_refl _
  | case3 digit rest _ further ih => exact Nat.le_succ_of_le (Nat.le_succ_of_le ih)
  | case4 => exact Nat.le_refl _
  | case5 digit rest _ _ _ further ih => exact Nat.le_succ_of_le ih
  | case6 => exact Nat.le_refl _

def furtherDigits (accepts : Char → Bool) : Rule (List Char) where
  read text := some (digitRun accepts text)
  shrinks := by
    intro text rest value found
    have shorter := digitRun_length_le accepts text
    rw [Option.some.inj found] at shorter
    exact shorter

def digits (accepts : Char → Bool) : Rule (List Char) := do
  let first ← Rule.char accepts
  return first :: (← furtherDigits accepts)

def numberOf (base : Nat) (digits : List Char) : Nat :=
  digits.foldl (fun value digit => base * value + (hexDigit? digit).getD 0) 0

def sign : Rule Bool :=
  (do Rule.word ['+']; return false) <|> (do Rule.word ['-']; return true) <|> Rule.yield false

def wholeDigits : Rule (List Char) :=
  (do
    let first ← Rule.char fun char => char.isDigit && char != '0'
    return first :: (← furtherDigits Char.isDigit)) <|>
  (do return [← Rule.char Char.isDigit])

def isWord64 (value : Int) : Bool :=
  Int64.minValue.toInt ≤ value && value ≤ Int64.maxValue.toInt

def basedInteger (mark : Char) (base : Nat) (accepts : Char → Bool) : Rule Int := do
  Rule.word ['0', mark]
  return numberOf base (← digits accepts)

def decimalInteger : Rule Int := do
  let negative ← sign
  let value : Int := numberOf 10 (← wholeDigits)
  return if negative then -value else value

def integer : Rule Int := do
  let value ←
    basedInteger 'x' 16 (fun char => (hexDigit? char).isSome) <|>
    basedInteger 'o' 8 (fun char => '0' ≤ char && char ≤ '7') <|>
    basedInteger 'b' 2 (fun char => char == '0' || char == '1') <|>
    decimalInteger
  Rule.when (isWord64 value)
  return value

def exponent : Rule Int := do
  let _ ← Rule.char fun char => char == 'e' || char == 'E'
  let negative ← sign
  let value : Int := numberOf 10 (← digits Char.isDigit)
  return if negative then -value else value

/-- The least number that rounds to infinity: half a step above the largest real. -/
def overflowBound : Nat :=
  (1 <<< 1024) - (1 <<< 970)

/-- Whether `significand * 10 ^ exponent` rounds to infinity. Numbers far from the
bound are told by their count of digits. -/
def overflows (significand : Nat) (exponent : Int) : Bool :=
  let places := (Nat.toDigits 10 significand).length + exponent
  if significand = 0 ∨ places < 300 then false
  else if 320 < places then true
  else if 0 ≤ exponent then overflowBound ≤ significand * Nat.pow 10 exponent.toNat
  else overflowBound * Nat.pow 10 (-exponent).toNat ≤ significand

/-- A real in decimal digits, with a fraction, an exponent or both. Only a positive
one is refused for its size. -/
def decimalReal : Rule Unit := do
  let negative ← sign
  let whole ← wholeDigits
  let (fraction, power) ←
    (do return (([] : List Char), ← exponent)) <|>
    (do
      Rule.word ['.']
      let fraction ← digits Char.isDigit
      return (fraction, (← Rule.optional exponent).getD 0))
  let significand := numberOf 10 (whole ++ fraction)
  Rule.when (negative || !overflows significand (power - fraction.length))

def specialReal : Rule Unit := do
  let _ ← sign
  Rule.word ['i', 'n', 'f'] <|> Rule.word ['n', 'a', 'n']

def real : Rule Unit :=
  decimalReal <|> specialReal

end CheckedSql.Toml

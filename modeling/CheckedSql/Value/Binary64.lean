namespace CheckedSql

structure Binary64 where
  bits : UInt64
deriving Repr, DecidableEq, Inhabited

namespace Binary64

/-- A quotient rounded to the nearest integer, a tie to the even one. -/
def roundQuotient (value divisor : Nat) : Nat :=
  let quotient := value / divisor
  let twice := 2 * (value % divisor)
  if twice < divisor then quotient
  else if twice = divisor then quotient + quotient % 2
  else quotient + 1

theorem roundQuotient_error (value : Nat) {divisor : Nat} (positive : 0 < divisor) :
    2 * value ≤ 2 * (roundQuotient value divisor * divisor) + divisor ∧
      2 * (roundQuotient value divisor * divisor) ≤ 2 * value + divisor := by
  have split : divisor * (value / divisor) + value % divisor = value :=
    Nat.div_add_mod value divisor
  have below : value % divisor < divisor := Nat.mod_lt _ positive
  have commuted := Nat.mul_comm (value / divisor) divisor
  have next : (value / divisor + 1) * divisor = value / divisor * divisor + divisor := by
    rw [Nat.add_mul, Nat.one_mul]
  unfold roundQuotient
  simp only
  split
  · omega
  · split
    · rcases Nat.mod_two_eq_zero_or_one (value / divisor) with even | odd
      · rw [even, Nat.add_zero]; omega
      · rw [odd]; omega
    · omega

/-- The bits of a positive integer. The leading bit of the significand is counted
in the exponent field, so a significand that rounds up to the next power of two
carries into the exponent by itself. -/
def magnitudeBits (value : Nat) : Nat :=
  let exponent := value.log2
  let significand :=
    if exponent ≤ 52 then value <<< (52 - exponent)
    else roundQuotient value (1 <<< (exponent - 52))
  ((exponent + 1022) <<< 52) + significand

def ofInteger (value : Int64) : Binary64 :=
  let integer := value.toInt
  if integer = 0 then ⟨0⟩
  else
    let magnitude := UInt64.ofNat (magnitudeBits integer.natAbs)
    ⟨if integer < 0 then magnitude ||| 0x8000000000000000 else magnitude⟩

end Binary64

end CheckedSql

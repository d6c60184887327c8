import SchemaCheck.Decimal.Rounding

/-! Powers of ten in binary64 arithmetic. Every step is rounded, so a product is not always the
number nearest to the decimal that it stands for. -/
namespace SchemaCheck.Binary64

/-- The nearest number to a product, with the sign of `x`; `none` beyond the largest. -/
def times? (x y : Binary64) : Option Binary64 :=
  ofRatio? x.negative (x.magnitude * y.magnitude) (1 <<< (2 * unitBits))

/-- The nearest number to a quotient, with the sign of `x`; `none` beyond the largest. -/
def dividedBy? (x y : Binary64) : Option Binary64 := ofRatio? x.negative x.magnitude y.magnitude

/-- The greatest power of ten below the largest number. -/
def powerLimit : Nat := 308

/-- The nearest number to a power of ten up to the limit. -/
def powerOfTen (power : Nat) : Binary64 := ofInt (Nat.pow 10 power)

/-- Divides by the greatest power of ten as often as told, until nothing is left. -/
def lowered? (x : Binary64) : Nat → Option Binary64
  | 0 => some x
  | steps + 1 =>
    if x.isZero then some x
    else (x.dividedBy? (powerOfTen powerLimit)).bind fun x => lowered? x steps

/-- `x * 10 ^ power`, with one product or as many quotients as it takes; `none` beyond the
largest. -/
def scaled? (x : Binary64) (power : Int) : Option Binary64 :=
  if x.isZero then some x
  else if powerLimit < power then none
  else if 0 ≤ power then x.times? (powerOfTen power.natAbs)
  else
    let steps := (power.natAbs - 1) / powerLimit
    (x.lowered? steps).bind (·.dividedBy? (powerOfTen (power.natAbs - powerLimit * steps)))

end SchemaCheck.Binary64

/-
# The shortest decimal of a binary number

A double is an integer times a power of two, and the reals that round to it form
an interval. The shortest decimal of the double is the multiple of the largest
power of ten that lies in the interval; of two such multiples it is the one
nearer to the double, of two equally near ones the even one. Everything here is
integer arithmetic on the parts of the double.
-/

namespace SourceLines

namespace Decimal

/-- The interval of reals that round to one double. The double is
`value * 2 ^ exponent`, and the ends of the interval are given on the same scale. -/
structure Interval where
  lower : Nat
  value : Nat
  upper : Nat
  exponent : Int
  /-- The ends themselves round to the double. -/
  includesEnds : Bool

/-- The interval of a positive finite double with these fields. -/
def Interval.ofFields (biased fraction : Nat) : Interval :=
  let mantissa := if biased = 0 then fraction else Nat.pow 2 52 + fraction
  let exponent : Int := if biased = 0 then -1074 else biased - 1075
  { lower := 4 * mantissa - (if fraction = 0 ∧ 1 < biased then 1 else 2)
    value := 4 * mantissa
    upper := 4 * mantissa + 2
    exponent := exponent - 2
    includesEnds := mantissa % 2 = 0 }

/-- A decimal: some digits times a power of ten. -/
structure Digits where
  digits : Nat
  exponent : Int

/-- The factor of a power that is an integer. -/
def upScale (base : Nat) (exponent : Int) : Nat :=
  base.pow exponent.toNat

/-- The factor of a power that is the denominator of a fraction. -/
def downScale (base : Nat) (exponent : Int) : Nat :=
  base.pow (-exponent).toNat

/-- The multiple of a power of ten in the interval that is nearest to its value. -/
def Interval.multiple? (interval : Interval) (power : Int) : Option Nat :=
  let numerator := upScale 2 interval.exponent * downScale 10 power
  let denominator := downScale 2 interval.exponent * upScale 10 power
  let value := interval.value * numerator
  let holds (count : Nat) : Bool :=
    let point := count * denominator
    if interval.includesEnds then
      interval.lower * numerator ≤ point && point ≤ interval.upper * numerator
    else
      interval.lower * numerator < point && point < interval.upper * numerator
  let below := value / denominator
  let remainder := 2 * (value % denominator)
  let nearer :=
    if remainder < denominator ∨ (remainder = denominator ∧ below % 2 = 0) then below
    else below + 1
  let farther := if nearer = below then below + 1 else below
  if 0 < nearer && holds nearer then some nearer
  else if 0 < farther && holds farther then some farther
  else none

/-- Look for a multiple among falling powers of ten. -/
def Interval.search (interval : Interval) (power : Int) : Nat → Digits
  | 0 => ⟨0, power⟩
  | steps + 1 =>
      match interval.multiple? power with
      | some digits => ⟨digits, power⟩
      | none => interval.search (power - 1) steps

/-- The shortest decimal of a positive finite double. No double reaches
`10 ^ 309`, and every double is within half a unit of a multiple of `10 ^ -324`. -/
def shortest (value : Float) : Digits :=
  let bits := value.toBits.toNat
  (Interval.ofFields (bits / Nat.pow 2 52 % Nat.pow 2 11) (bits % Nat.pow 2 52)).search 309 700

end Decimal

end SourceLines

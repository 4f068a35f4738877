/-!
Binary floating point numbers of double precision, kept exactly: a sign, a significand below `2 ^ 53` and a
power of two. Every operation works on the exact value and rounds once, to the nearest number and to the
even significand between two equally near ones.
-/
namespace TableFerry.Number

-- Powers are those of whole numbers, also where there are powers in a monoid.
local instance wholePow : Pow Nat Nat := instPowNat

inductive Double where
  | finite (negative : Bool) (significand : Nat) (exponent : Int)
  | infinite (negative : Bool)
  | nan
  deriving DecidableEq, Repr, Inhabited

namespace Double

/-- The exponent of the numbers nearest to zero. -/
def leastExponent : Int := -1074

def greatestExponent : Int := 971

def zero (negative : Bool) : Double := .finite negative 0 leastExponent

/-- The whole number nearest to `num / den`, the even one of two. -/
def nearestEven (num den : Nat) : Nat :=
  let quotient := num / den
  let twice := 2 * (num % den)
  if twice < den then quotient
  else if den < twice then quotient + 1
  else if quotient % 2 = 0 then quotient else quotient + 1

/-- `num / den` divided by `2 ^ exponent`, as a fraction. -/
def scaled (num den : Nat) (exponent : Int) : Nat × Nat :=
  if exponent < 0 then (num * 2 ^ exponent.natAbs, den) else (num, den * 2 ^ exponent.natAbs)

/-- The power of two for which the significand of `num / den` has 53 bits, or the least one. -/
def exponentFor (num den : Nat) : Int :=
  let guess : Int := (num.log2 : Int) - (den.log2 : Int) - 53
  let (p, q) := scaled num den guess
  max (if p < 2 ^ (53 : Nat) * q then guess else guess + 1) leastExponent

/-- The double nearest to `num / den`. -/
def ofRatio (negative : Bool) (num den : Nat) : Double :=
  if num = 0 then zero negative
  else
    let exponent := exponentFor num den
    let (p, q) := scaled num den exponent
    let rounded := nearestEven p q
    let (significand, exponent) :=
      if rounded = 2 ^ (53 : Nat) then (2 ^ (52 : Nat), exponent + 1) else (rounded, exponent)
    if significand = 0 then zero negative
    else if greatestExponent < exponent then .infinite negative
    else .finite negative significand exponent

def ofInt (n : Int) : Double := ofRatio (decide (n < 0)) n.natAbs 1

/-- The double nearest to a decimal numeral `digits * 10 ^ power`. Numerals far outside the range are settled
by their size, so that no enormous power is computed. -/
def ofDecimal (negative : Bool) (digits : Nat) (power : Int) : Double :=
  let size : Int := (digits.log2 : Int) + 3 * power
  if digits = 0 then zero negative
  else if 1100 < size && 0 < power then .infinite negative
  else if size < -1100 then zero negative
  else if power < 0 then ofRatio negative digits (10 ^ power.natAbs)
  else ofRatio negative (digits * 10 ^ power.natAbs) 1

/-- The exact magnitude of `significand * 2 ^ exponent` as a fraction. -/
def magnitude (significand : Nat) (exponent : Int) : Nat × Nat :=
  if exponent < 0 then (significand, 2 ^ exponent.natAbs) else (significand * 2 ^ exponent.natAbs, 1)

def negate : Double → Double
  | .finite negative significand exponent => .finite (!negative) significand exponent
  | .infinite negative => .infinite (!negative)
  | .nan => .nan

def signed (negative : Bool) (n : Nat) : Int := if negative then -(n : Int) else n

/-- The sum, rounded once. A sum of zero is positive unless both terms are negative zeros. -/
def add : Double → Double → Double
  | .nan, _ => .nan
  | _, .nan => .nan
  | .infinite a, .infinite b => if a = b then .infinite a else .nan
  | .infinite a, .finite .. => .infinite a
  | .finite .., .infinite b => .infinite b
  | .finite a m e, .finite b n f =>
    let low := min e f
    let total := signed a (m * 2 ^ (e - low).natAbs) + signed b (n * 2 ^ (f - low).natAbs)
    if total = 0 then zero (a && b)
    else
      let (num, den) := magnitude total.natAbs low
      ofRatio (decide (total < 0)) num den

def sub (a b : Double) : Double := add a b.negate

def isZero : Double → Bool
  | .finite _ significand _ => significand == 0
  | _ => false

/-- Comparison as numbers: the two zeros are equal and a number that is none differs from itself. -/
def same (a b : Double) : Bool :=
  match a, b with
  | .nan, _ => false
  | _, .nan => false
  | a, b => a == b || (a.isZero && b.isZero)

/-- The whole part; there is none for an infinite number or none at all. -/
def truncate? : Double → Option Int
  | .finite negative significand exponent =>
    let (num, den) := magnitude significand exponent
    some (signed negative (num / den))
  | _ => none

/-- Whether the number has no part behind the point. -/
def isWhole : Double → Bool
  | .finite _ significand exponent =>
    let (num, den) := magnitude significand exponent
    num % den == 0
  | _ => false

/-- The least whole number that is not below; there is none for an infinite number or none at all. -/
def ceiling? : Double → Option Int
  | .finite negative significand exponent =>
    let (num, den) := magnitude significand exponent
    some (if negative then -((num / den : Nat) : Int) else ((num + den - 1) / den : Nat))
  | _ => none

/-- The quotient of two whole numbers, rounded once. -/
def ofQuotient (num den : Int) : Double :=
  ofRatio (decide (num < 0) != decide (den < 0)) num.natAbs den.natAbs

end Double

end TableFerry.Number

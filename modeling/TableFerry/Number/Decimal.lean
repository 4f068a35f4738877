import TableFerry.Number.Double
/-!
Decimal forms of double precision numbers: the shortest one that reads back, and those with a fixed number
of places, both taken from the exact value.
-/
namespace TableFerry.Number.Double

attribute [local instance] wholePow

/-- The greatest power of ten that is not above `num / den`, a positive fraction; `fuel` bounds the steps up
or down from `guess`. -/
def decimalExponent (num den : Nat) : Nat → Int → Int
  | 0, guess => guess
  | fuel + 1, guess =>
    let above (k : Int) : Bool :=
      if k < 0 then num * 10 ^ k.natAbs < den else num < den * 10 ^ k.natAbs
    if above guess then decimalExponent num den fuel (guess - 1)
    else if above (guess + 1) then guess
    else decimalExponent num den fuel (guess + 1)

/-- The two neighbours of `num / den` among the multiples of `10 ^ power`, the nearer first and the even one
first when both are equally near. -/
def gridNeighbours (num den : Nat) (power : Int) : List Nat :=
  let (p, q) := if power < 0 then (num * 10 ^ power.natAbs, den) else (num, den * 10 ^ power.natAbs)
  let below := p / q
  let twice := 2 * (p % q)
  if twice < q || (twice == q && below % 2 == 0) then [below, below + 1] else [below + 1, below]

/-- A numeral of the coarsest grid from `count` digits on that reads back as `target`. -/
def shortestFrom (target : Double) (num den : Nat) (leading : Int) : Nat → Nat → Nat × Int
  | 0, count => ((gridNeighbours num den (leading - count)).headD 0, leading - count)
  | fuel + 1, count =>
    let power := leading - (count : Int) + 1
    match (gridNeighbours num den power).find? (fun digits => ofDecimal false digits power == target) with
    | some digits => (digits, power)
    | none => shortestFrom target num den leading fuel (count + 1)

/-- Removes the zeros at the end of a numeral and raises its power for each. -/
def dropZeros : Nat → Nat → Int → Nat × Int
  | 0, digits, power => (digits, power)
  | fuel + 1, digits, power =>
    if digits != 0 && digits % 10 == 0 then dropZeros fuel (digits / 10) (power + 1) else (digits, power)

/-- The fewest digits that read back as the number `significand * 2 ^ exponent`, with their power of ten. -/
def shortestDigits (significand : Nat) (exponent : Int) : Nat × Int :=
  let (num, den) := magnitude significand exponent
  let guess : Int := ((num.log2 : Int) - (den.log2 : Int)) * 30103 / 100000
  let leading := decimalExponent num den 10 guess
  let (digits, power) := shortestFrom (.finite false significand exponent) num den leading 17 1
  dropZeros 20 digits power

def zeros (n : Nat) : String := String.ofList (List.replicate n '0')

/-- Shortest decimal text: positional from `1e-4` up to below `1e16` with at least one place, and with an
exponent of at least two digits elsewhere. -/
def shortest : Double → String
  | .nan => "nan"
  | .infinite negative => if negative then "-inf" else "inf"
  | .finite negative significand exponent =>
    let sign := if negative then "-" else ""
    if significand = 0 then sign ++ "0.0"
    else
      let (digits, power) := shortestDigits significand exponent
      let text := toString digits
      let point : Int := text.length + power
      let body :=
        if -4 < point && point ≤ 16 then
          if point ≤ 0 then "0." ++ zeros point.natAbs ++ text
          else if (text.length : Int) ≤ point then text ++ zeros (point - text.length).natAbs ++ ".0"
          else
            String.ofList (text.toList.take point.natAbs) ++ "." ++
              String.ofList (text.toList.drop point.natAbs)
        else
          let first := String.ofList (text.toList.take 1)
          let rest := String.ofList (text.toList.drop 1)
          let power := point - 1
          let amount := toString power.natAbs
          first ++ (if rest = "" then "" else "." ++ rest) ++ (if power < 0 then "e-" else "e+") ++
            (if amount.length < 2 then "0" ++ amount else amount)
      sign ++ body

/-- The multiple of `10 ^ -places` nearest to the exact value, in units of that grid. -/
def unitsAt (places : Nat) (significand : Nat) (exponent : Int) : Nat :=
  let (num, den) := magnitude significand exponent
  nearestEven (num * 10 ^ places) den

/-- Text with a fixed number of places. -/
def fixed (places : Nat) : Double → String
  | .nan => "nan"
  | .infinite negative => if negative then "-inf" else "inf"
  | .finite negative significand exponent =>
    let text := toString (unitsAt places significand exponent)
    let padded := zeros (places + 1 - text.length) ++ text
    let cut := padded.length - places
    (if negative then "-" else "") ++ String.ofList (padded.toList.take cut) ++
      (if places = 0 then "" else "." ++ String.ofList (padded.toList.drop cut))

/-- The double nearest to the number rounded to a fixed number of places. -/
def roundTo (places : Nat) : Double → Double
  | .finite negative significand exponent =>
    ofRatio negative (unitsAt places significand exponent) (10 ^ places)
  | d => d

end TableFerry.Number.Double

import Gallery.Decimal.Fixed

/-!
# The shortest decimal of a double

Of all decimals that a double is nearest to, the one with the fewest digits is
written, and of those the nearest.  A decimal belongs to a double when it lies
between the midpoints to the neighbouring doubles; a midpoint itself belongs to
the double with the even mantissa.
-/

namespace Gallery

/-- Whether `units * 10 ^ power` lies between the midpoints to the neighbours.
Below the least normal mantissa the neighbour is half as far, except where
doubles are as close as they come. -/
def BinaryFraction.accepts (x : BinaryFraction) (units : Nat) (power : Int) : Bool :=
  -- in quarters of the last binary place
  let lower := if x.mantissa = hiddenBit ∧ -1074 < x.exponent then
    4 * x.mantissa - 1 else 4 * x.mantissa - 2
  let upper := 4 * x.mantissa + 2
  let twos := x.exponent - 2
  let left := units * Nat.pow 10 power.toNat * Nat.pow 2 (-twos).toNat
  let right := Nat.pow 10 (-power).toNat * Nat.pow 2 twos.toNat
  if x.mantissa % 2 = 0 then lower * right ≤ left && left ≤ upper * right
  else lower * right < left && left < upper * right

/-- The number of digits of the whole part, or minus the zeros after the point. -/
def BinaryFraction.magnitude (x : BinaryFraction) : Int :=
  let whole := x.mantissa * Nat.pow 2 x.exponent.toNat / Nat.pow 2 (-x.exponent).toNat
  if whole = 0 then
    -- the first of the powers of ten whose multiple reaches one
    let zeros := (List.range 330).find? fun n =>
      Nat.pow 2 (-x.exponent).toNat ≤ x.mantissa * Nat.pow 10 (n + 1)
    Int.neg (zeros.getD 0)
  else ((decimalDigits whole).length : Int)

/-- The digits and the power of ten of the shortest decimal with at most the
given number of digits more than `count`. -/
def BinaryFraction.shortestFrom (x : BinaryFraction) (count : Nat) : Nat → Nat × Int
  | 0 => (x.roundedUnits ((count : Int) - x.magnitude), x.magnitude - count)
  | more + 1 =>
    let power := x.magnitude - count
    let units := x.roundedUnits (-power)
    if x.accepts units power then (units, power) else x.shortestFrom (count + 1) more

/-- The digits without zeros at the end, and the power of ten that they count. -/
def dropTrailingZeros (digits : List Char) (power : Int) : List Char × Int :=
  let kept := (digits.reverse.dropWhile (· == '0')).reverse
  (kept, power + ((digits.length - kept.length : Nat) : Int))

/-- Positional where the point falls within sixteen digits or after at most four
zeros, otherwise with an exponent. -/
def placePoint (digits : List Char) (power : Int) : List Char :=
  let point := (digits.length : Int) + power
  if 0 ≤ power ∧ point ≤ 16 then
    digits ++ List.replicate power.toNat '0' ++ ['.', '0']
  else if 0 < point ∧ point ≤ 16 then
    digits.take point.toNat ++ '.' :: digits.drop point.toNat
  else if -5 < point ∧ point ≤ 0 then
    ['0', '.'] ++ List.replicate (-point).toNat '0' ++ digits
  else
    match digits with
    | [] => []
    | [d] => d :: 'e' :: (toString (point - 1)).toList
    | d :: rest => d :: '.' :: rest ++ 'e' :: (toString (point - 1)).toList

def BinaryFraction.shortest (x : BinaryFraction) : String :=
  let sign := if x.negative then ['-'] else []
  if x.mantissa = 0 then String.ofList (sign ++ ['0', '.', '0'])
  else
    let (units, power) := x.shortestFrom 1 16
    let (digits, power) := dropTrailingZeros (decimalDigits units) power
    String.ofList (sign ++ placePoint digits power)

end Gallery

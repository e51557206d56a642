/-!
# Binary fractions

A finite double is a whole number times a power of two.  Rounding such a number
to a multiple of a power of ten is exact arithmetic on natural numbers; a half
goes to the even neighbour.
-/

namespace Gallery

/-- The number `mantissa * 2 ^ exponent`, with its sign. -/
structure BinaryFraction where
  negative : Bool
  mantissa : Nat
  exponent : Int
  deriving DecidableEq

/-- A double is a number, an infinity or no number at all. -/
inductive Double
  | finite (value : BinaryFraction)
  | infinite (negative : Bool)
  | nan

/-- The least mantissa of a normal double, of which only the rest is stored. -/
def hiddenBit : Nat :=
  Nat.pow 2 52

/-- The largest value of the exponent's field stands for no finite number. -/
def largestField : Nat :=
  2047

/-- A sign bit, eleven bits for the exponent, and the fraction. -/
def Double.ofBits (bits : Nat) : Double :=
  let fraction := bits % hiddenBit
  let field := bits / hiddenBit % (largestField + 1)
  let negative := bits / hiddenBit / (largestField + 1) % 2 == 1
  if field = largestField then
    if fraction = 0 then .infinite negative else .nan
  else if field = 0 then .finite ⟨negative, fraction, -1074⟩
  else .finite ⟨negative, fraction + hiddenBit, (field : Int) - 1075⟩

def Double.ofFloat (x : Float) : Double :=
  .ofBits x.toBits.toNat

/-- The whole number nearest to a quotient, a half going to the even one. -/
def roundDiv (numerator denominator : Nat) : Nat :=
  let whole := numerator / denominator
  let twice := 2 * (numerator % denominator)
  if twice < denominator then whole
  else if denominator < twice then whole + 1
  else if whole % 2 = 0 then whole
  else whole + 1

/-- Numerator and denominator of `mantissa * 2 ^ exponent * 10 ^ places`. -/
def BinaryFraction.scaled (x : BinaryFraction) (places : Int) : Nat × Nat :=
  (x.mantissa * Nat.pow 2 x.exponent.toNat * Nat.pow 10 places.toNat,
    Nat.pow 2 (-x.exponent).toNat * Nat.pow 10 (-places).toNat)

/-- The number in units of `10 ^ (-places)`, to the nearest unit. -/
def BinaryFraction.roundedUnits (x : BinaryFraction) (places : Int) : Nat :=
  let (numerator, denominator) := x.scaled places
  roundDiv numerator denominator

end Gallery

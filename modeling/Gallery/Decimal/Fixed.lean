import Gallery.Decimal.Binary

/-!
# Decimals with a fixed number of places

The nearest decimal with the given number of places, all of them written.  The
sign of the number is kept when nothing but zeros is left of it.
-/

namespace Gallery

def decimalDigits (n : Nat) : List Char :=
  Nat.toDigits 10 n

/-- The digits of a whole number, padded with zeros on the left. -/
def paddedDigits (width n : Nat) : List Char :=
  let digits := decimalDigits n
  List.replicate (width - digits.length) '0' ++ digits

def BinaryFraction.fixed (x : BinaryFraction) (places : Nat) : String :=
  let units := x.roundedUnits places
  let unit := Nat.pow 10 places
  let sign := if x.negative then ['-'] else []
  String.ofList (sign ++ decimalDigits (units / unit) ++
    '.' :: paddedDigits places (units % unit))

def Double.fixed (places : Nat) : Double → String
  | .finite x => x.fixed places
  | .infinite negative => if negative then "-inf" else "inf"
  | .nan => "NaN"

end Gallery

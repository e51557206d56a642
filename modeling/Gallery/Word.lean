/-!
# Words of the machine

Positions, limits and counters are words of 64 bits, facets of items are signed
words, and the sides of a picture are words of 32 bits.  Each constant is the
first number that no longer fits.
-/

namespace Gallery

def wordBound : Nat :=
  Nat.pow 2 64

def signedWordBound : Nat :=
  Nat.pow 2 63

def halfWordBound : Nat :=
  Nat.pow 2 32

end Gallery

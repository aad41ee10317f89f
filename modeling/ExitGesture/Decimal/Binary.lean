/-!
# What the bits of a floating-point number say

A finite floating-point number is an integer times a power of two.  This module reads the integer
and the power off the bits, for single and for double precision alike, and goes the other way for
single precision.

**Rounding.**  `nearestSingle` turns an exact value `m * 2 ^ q` into the single nearest to it.  It
hands core an exact decimal, so there is one rounding and no intermediate one; `narrow` is the same
conversion for a double.
-/

namespace ExitGesture
namespace Decimal

/-- What a floating-point number stands for. -/
inductive Value
  | nan
  | infinity (negative : Bool)
  /-- The number `± significand * 2 ^ exponent`. -/
  | finite (negative : Bool) (significand : Nat) (exponent : Int)
  deriving DecidableEq, Repr

/-- Widths of the two fields below the sign bit. -/
structure Fields where
  fractionBits : Nat
  exponentBits : Nat
  deriving DecidableEq, Repr

namespace Fields

def single : Fields := ⟨23, 8⟩

def double : Fields := ⟨52, 11⟩

/-- Exponent of the last fraction bit of the smallest numbers. -/
def leastExponent (f : Fields) : Int :=
  2 - (1 <<< (f.exponentBits - 1) : Nat) - f.fractionBits

/-- The fraction field of a bit pattern. -/
def fraction (f : Fields) (bits : Nat) : Nat :=
  bits % (1 <<< f.fractionBits)

/-- The exponent field of a bit pattern. -/
def biased (f : Fields) (bits : Nat) : Nat :=
  (bits >>> f.fractionBits) % (1 <<< f.exponentBits)

/-- The sign bit of a bit pattern. -/
def negative (f : Fields) (bits : Nat) : Bool :=
  (bits >>> (f.fractionBits + f.exponentBits)) % 2 = 1

/-- The number that a bit pattern stands for.  The all-ones exponent is kept for infinity and
for what is not a number; exponent zero drops the implicit leading bit. -/
def read (f : Fields) (bits : Nat) : Value :=
  if f.biased bits = (1 <<< f.exponentBits) - 1 then
    if f.fraction bits = 0 then .infinity (f.negative bits) else .nan
  else if f.biased bits = 0 then
    .finite (f.negative bits) (f.fraction bits) f.leastExponent
  else
    .finite (f.negative bits) (f.fraction bits + (1 <<< f.fractionBits))
      (f.leastExponent + (f.biased bits - 1 : Nat))

end Fields

/-- What a single-precision number stands for. -/
def ofSingle (x : Float32) : Value :=
  Fields.single.read x.toBits.toNat

/-- What a double-precision number stands for. -/
def ofDouble (x : Float) : Value :=
  Fields.double.read x.toBits.toNat

/-- The single nearest to `m * 2 ^ q`, a tie going to the even one.  A negative power of two is
written as a decimal: `m * 2 ^ (-k) = (m * 5 ^ k) * 10 ^ (-k)`. -/
def nearestSingle (m : Nat) (q : Int) : Float32 :=
  if 0 ≤ q then Float32.ofScientific (m <<< q.toNat) false 0
  else Float32.ofScientific (m * Nat.pow 5 (-q).toNat) true (-q).toNat

/-- Put a sign on a magnitude. -/
def signed (negative : Bool) (x : Float32) : Float32 :=
  if negative then -x else x

/-- The single with a given value, or nearest to it. -/
def Value.toSingle : Value → Float32
  | .nan => Float32.ofBits 0x7fc00000
  | .infinity negative => signed negative (Float32.ofBits 0x7f800000)
  | .finite negative m q => signed negative (nearestSingle m q)

/-- The single nearest to a double. -/
def narrow (x : Float) : Float32 :=
  (ofDouble x).toSingle

/-- The single nearest to an integer. -/
def ofInteger (n : Int) : Float32 :=
  signed (n < 0) (nearestSingle n.natAbs 0)

end Decimal
end ExitGesture

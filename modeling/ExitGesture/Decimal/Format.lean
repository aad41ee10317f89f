import ExitGesture.Decimal.Shortest

/-!
# Writing numbers

Where the decimal point goes, when an exponent is used and what the special values are called is
one record, `Format`.  The digits are always the fewest that read back.

**Formats.**
* `Format.plain`: positional at every size, whole numbers without a point.
* `Format.pointed`: always with a point or an exponent; positional from `1e-4` up to, and not
  including, `1e16`.
-/

namespace ExitGesture
namespace Decimal

/-- How a number is laid out. -/
structure Format where
  /-- Whether a number with its decimal point at this place is written without an exponent. -/
  positional : Int → Bool
  /-- Whether a whole number ends in a point and a zero. -/
  keepsPoint : Bool

namespace Format

/-- Never an exponent, never an idle point. -/
def plain : Format := ⟨fun _ => true, false⟩

/-- Visibly fractional: a point or an exponent in every number. -/
def pointed : Format := ⟨fun point => -3 ≤ point && point ≤ 16, true⟩

def zeros (n : Int) : List Char :=
  List.replicate n.toNat '0'

/-- Digits with the point at its place. -/
def layOut (f : Format) (d : Digits) : List Char :=
  if d.point ≤ 0 then
    '0' :: '.' :: zeros (-d.point) ++ d.digits
  else if d.digits.length ≤ d.point then
    d.digits ++ zeros (d.point - d.digits.length) ++ (if f.keepsPoint then ['.', '0'] else [])
  else
    d.digits.take d.point.toNat ++ '.' :: d.digits.drop d.point.toNat

/-- Digits with one before the point, and the power of ten after them. -/
def scientific (d : Digits) : List Char :=
  d.digits.take 1 ++ (if d.digits.length ≤ 1 then [] else '.' :: d.digits.drop 1) ++
    'e' :: (d.point - 1).repr.toList

/-- The text of a magnitude. -/
def magnitude (f : Format) (d : Digits) : List Char :=
  if f.positional d.point then f.layOut d else scientific d

/-- The text of a single-precision number. -/
def write (f : Format) (x : Float32) : String :=
  match Decimal.ofSingle x with
  | .nan => "NaN"
  | .infinity negative => if negative then "-inf" else "inf"
  | .finite negative m q =>
      String.ofList ((if negative then ['-'] else []) ++ f.magnitude (Digits.ofSingle m q))

end Format
end Decimal
end ExitGesture

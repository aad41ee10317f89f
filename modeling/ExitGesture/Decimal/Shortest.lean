import ExitGesture.Decimal.Binary

/-!
# The fewest decimal digits that read back

A number `m * 2 ^ q` is read back from every real between the two midpoints to its neighbours.
Among the decimals in that window this module finds one with the fewest digits, and of those the
one nearest to the number; an exact tie goes up.

**Scale.**  Four times the number, and its window with it, is a whole multiple of a power of ten,
because `2 ^ (-k) = 5 ^ k * 10 ^ (-k)`.  All comparisons are between natural numbers.

**Search.**  A decimal grid of step `10 ^ p` has two points next to the number.  Steps are tried
from coarse to fine; the number itself lies on the grid of step one, so the search always ends.
-/

namespace ExitGesture
namespace Decimal

/-- The decimals that read back as one number, counted in units of `10 ^ (-scale)`. -/
structure Window where
  value : Nat
  below : Nat
  above : Nat
  /-- Whether the two ends read back too. -/
  closed : Bool
  scale : Nat
  deriving DecidableEq, Repr

namespace Window

/-- The window of `m * 2 ^ q`.  The lower neighbour of a power of two is half as far away, which
`narrowBelow` tells; a tie is read as the even significand. -/
def around (m : Nat) (q : Int) (narrowBelow : Bool) : Window :=
  let unit := if 2 ≤ q then 1 <<< (q - 2).toNat else Nat.pow 5 (2 - q).toNat
  { value := 4 * m * unit
    below := (4 * m - if narrowBelow then 1 else 2) * unit
    above := (4 * m + 2) * unit
    closed := m % 2 = 0
    scale := (2 - q).toNat }

/-- Whether a decimal lies in the window. -/
def holds (w : Window) (x : Nat) : Bool :=
  if w.closed then w.below ≤ x && x ≤ w.above else w.below < x && x < w.above

/-- The multiple of `step` that lies in the window and is nearest to the number. -/
def pick (w : Window) (step : Nat) : Option Nat :=
  let low := w.value / step
  match w.holds (low * step), w.holds ((low + 1) * step) with
  | true, true => some (if 2 * (w.value % step) < step then low else low + 1)
  | true, false => some low
  | false, true => some (low + 1)
  | false, false => none

/-- The first hit on the grids of step `10 ^ p`, `10 ^ (p - 1)`, …, with its power of ten. -/
def search (w : Window) : Nat → Nat × Nat
  | 0 => (w.value, 0)
  | p + 1 =>
      match w.pick (Nat.pow 10 (p + 1)) with
      | some d => (d, p + 1)
      | none => search w p

end Window

/-- A positive decimal `0.d₁d₂d₃… * 10 ^ point`. -/
structure Digits where
  digits : List Char
  point : Int
  deriving DecidableEq, Repr

namespace Digits

def zero : Digits := ⟨['0'], 1⟩

/-- The decimal `coefficient * 10 ^ exponent`, without trailing zeros. -/
def ofScaled (coefficient : Nat) (exponent : Int) : Digits :=
  let all := Nat.toDigits 10 coefficient
  ⟨(all.reverse.dropWhile (· = '0')).reverse, all.length + exponent⟩

/-- The shortest digits of `m * 2 ^ q`. -/
def shortest (m : Nat) (q : Int) (narrowBelow : Bool) : Digits :=
  if m = 0 then zero
  else
    let w := Window.around m q narrowBelow
    let found := w.search ((Nat.toDigits 10 w.value).length - 1)
    ofScaled found.1 (found.2 - w.scale)

/-- The shortest digits of a single-precision magnitude. -/
def ofSingle (significand : Nat) (exponent : Int) : Digits :=
  shortest significand exponent
    (significand = 1 <<< Fields.single.fractionBits ∧ Fields.single.leastExponent < exponent)

end Digits
end Decimal
end ExitGesture

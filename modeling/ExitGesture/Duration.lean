/-!
# Durations

A duration is a number of nanoseconds.  The recognizer counts in whole milliseconds, so `millis`
drops what is below one and stops at the largest 64-bit count; whether a duration is zero is asked
of the full value.
-/

namespace ExitGesture

/-- The last millisecond that a clock reading can hold. -/
def clockMax : Nat := UInt64.size - 1

/-- A length of time. -/
structure Duration where
  nanoseconds : Nat
  deriving DecidableEq, Repr, Inhabited

namespace Duration

def perMilli : Nat := 1000000

def perSecond : Nat := 1000000000

def ofMillis (ms : Nat) : Duration := ⟨ms * perMilli⟩

/-- Seconds and the nanoseconds beyond them. -/
def ofParts (seconds nanoseconds : Nat) : Duration :=
  ⟨seconds * perSecond + nanoseconds⟩

def seconds (d : Duration) : Nat := d.nanoseconds / perSecond

/-- Nanoseconds beyond the whole seconds. -/
def subsecond (d : Duration) : Nat := d.nanoseconds % perSecond

def isZero (d : Duration) : Bool := d.nanoseconds = 0

/-- Whole milliseconds, at most `clockMax`. -/
def millis (d : Duration) : Nat := min (d.nanoseconds / perMilli) clockMax

/-- The text of `amount / unit`, where `unit` is `10 ^ places`, without idle zeros. -/
def decimalText (amount places : Nat) : String :=
  let unit := Nat.pow 10 places
  let part := (amount % unit).repr.toList
  let digits := (List.replicate (places - part.length) '0' ++ part).reverse.dropWhile (· = '0')
  (amount / unit).repr ++
    (if digits = [] then "" else "." ++ String.ofList digits.reverse)

/-- The text of a duration in the largest unit that it reaches. -/
def text (d : Duration) : String :=
  if perSecond ≤ d.nanoseconds then decimalText d.nanoseconds 9 ++ "s"
  else if perMilli ≤ d.nanoseconds then decimalText d.nanoseconds 6 ++ "ms"
  else if 1000 ≤ d.nanoseconds then decimalText d.nanoseconds 3 ++ "µs"
  else d.nanoseconds.repr ++ "ns"

end Duration
end ExitGesture

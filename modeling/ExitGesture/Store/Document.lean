import ExitGesture.Decimal.Binary
import ExitGesture.Store.Basic

/-!
# Documents

One store that a host may have: structured text.  Whole numbers, single and double precision are
kept apart, because a field that counts takes no fraction and a field that measures takes all three.
Text has no form for a number that is not finite.

**Names.**  Of several fields with one name the last counts.
-/

namespace ExitGesture

/-- A stored value. -/
inductive Document
  | null
  | bool (value : Bool)
  | integer (value : Int)
  | single (value : Float32)
  | double (value : Float)
  | text (value : String)
  | array (items : List Document)
  | object (fields : List (String × Document))

namespace Document

def asBool : Document → Option Bool
  | .bool b => some b
  | _ => none

/-- A whole number of 32 bits without sign. -/
def asWord : Document → Option UInt32
  | .integer n => if 0 ≤ n ∧ n < UInt32.size then some (UInt32.ofNat n.toNat) else none
  | _ => none

/-- A whole number of 32 bits with sign. -/
def asCode : Document → Option Int32
  | .integer n =>
      if Int32.minValue.toInt ≤ n ∧ n ≤ Int32.maxValue.toInt then some (Int32.ofInt n) else none
  | _ => none

/-- A number, rounded to single precision. -/
def asNumber : Document → Option Float32
  | .integer n => some (Decimal.ofInteger n)
  | .single x => some x
  | .double x => some (Decimal.narrow x)
  | _ => none

def write : (k : Kind) → k.Carrier → Document
  | .code, n => .integer (Int32.toInt n)
  | .word, n => .integer (UInt32.toNat n)
  | .number, x => if Float32.isFinite x then .single x else .null
  | .flag, b => .bool b

def read : (k : Kind) → Document → Option k.Carrier
  | .code => asCode
  | .word => asWord
  | .number => asNumber
  | .flag => asBool

/-- The field of a name. -/
def field? (fields : List (String × Document)) (name : String) : Option Document :=
  fields.reverse.lookup name

/-- The record whose fields are found, if all of them are. -/
def collect {l : Layout} (value? : (f : l.Field) → Option (l.kind f).Carrier) : Option l.Record :=
  if found : ∀ f ∈ l.fields, (value? f).isSome = true then
    some fun f => (value? f).get (found f (l.mem_fields f))
  else none

/-- A record from a document. -/
def decode (l : Layout) (fallback : Option l.Record) : Document → Option l.Record
  | .object fields => collect fun f =>
      (field? fields (l.name f)).elim (fallback.map (· f)) (read (l.kind f))
  | .array items =>
      if items.length ≤ l.fields.length then
        collect fun f => items[l.index f]?.elim (fallback.map (· f)) (read (l.kind f))
      else none
  | _ => none

def store : Store where
  Value := Document
  null := .null
  array := .array
  object := .object
  write := write
  read := read
  encode l r := .object (l.fields.map fun f => (l.name f, write (l.kind f) (r f)))
  decode := decode

end Document
end ExitGesture

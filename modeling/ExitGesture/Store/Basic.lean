/-!
# Stores

A host keeps records in a store of its own.  A record is declared by its `Layout`: the fields in
order, each with a name and a kind.  The `Store` makes the readers and writers of a record from that
declaration, and only what they are relied on for is said of them here.

**Readers.**  A record is read from an object by the names of its fields, or from an array by their
places.  A field that is not there takes the value of a fallback record, if there is one.
-/

namespace ExitGesture

/-- What a field holds: a whole number of 32 bits, with or without sign, a number or a truth
value. -/
inductive Kind
  | code
  | word
  | number
  | flag
  deriving DecidableEq, Repr

namespace Kind

/-- The values of a kind. -/
def Carrier : Kind → Type
  | .code => Int32
  | .word => UInt32
  | .number => Float32
  | .flag => Bool

/-- A number is neither infinite nor undefined. -/
def Finite : (k : Kind) → k.Carrier → Prop
  | .number, x => Float32.isFinite x = true
  | .code, _ | .word, _ | .flag, _ => True

end Kind

/-- What is declared of a type of records. -/
structure Layout where
  Field : Type
  [decidableEq : DecidableEq Field]
  /-- The fields in order. -/
  fields : List Field
  name : Field → String
  kind : Field → Kind
  mem_fields : ∀ f, f ∈ fields
  nodup_fields : fields.Nodup
  name_inj : ∀ {f g}, name f = name g → f = g

attribute [instance] Layout.decidableEq

namespace Layout

variable (l : Layout)

/-- A value for each field. -/
abbrev Record : Type := (f : l.Field) → (l.kind f).Carrier

def names : List String := l.fields.map l.name

def index (f : l.Field) : Nat := l.fields.idxOf f

end Layout

/-- A store, with what it makes of the declaration of a record.  `decode` takes the fallback record
for fields that are not there. -/
structure Store where
  Value : Type
  null : Value
  array : List Value → Value
  object : List (String × Value) → Value
  write : (k : Kind) → k.Carrier → Value
  read : (k : Kind) → Value → Option k.Carrier
  encode : (l : Layout) → l.Record → Value
  decode : (l : Layout) → Option l.Record → Value → Option l.Record

namespace Store

variable (S : Store)

/-- The fields of a record as they are written. -/
def written {l : Layout} (r : l.Record) : List (String × S.Value) :=
  l.fields.map fun f => (l.name f, S.write (l.kind f) (r f))

/-- What every store is relied on for. -/
structure Lawful : Prop where
  /-- A record is written as an object. -/
  encode_eq : ∀ (l : Layout) (r : l.Record), S.encode l r = S.object (S.written r)
  /-- An object is read by the names of the fields, if none of them stands twice.  Other names are
  passed over. -/
  decode_object : ∀ (l : Layout) (fallback : Option l.Record) (fields : List (String × S.Value)),
    (∀ f, (fields.map Prod.fst).count (l.name f) ≤ 1) → ∀ r : l.Record,
      S.decode l fallback (S.object fields) = some r ↔
        ∀ f, (fields.lookup (l.name f)).elim (fallback.map (· f)) (S.read (l.kind f)) = some (r f)
  /-- An array is read by the places of the fields. -/
  decode_array : ∀ (l : Layout) (fallback : Option l.Record) (values : List S.Value),
    values.length ≤ l.fields.length → ∀ r : l.Record,
      S.decode l fallback (S.array values) = some r ↔
        ∀ f, values[l.index f]?.elim (fallback.map (· f)) (S.read (l.kind f)) = some (r f)
  /-- Values are carried exactly, numbers at least if they are finite. -/
  read_write : ∀ (k : Kind) (x : k.Carrier), k.Finite x → S.read k (S.write k x) = some x

/-- A store of text: it has no form for a number that is not finite, and puts a null in its place,
which is no value of any kind. -/
structure NullsNonFinite : Prop where
  write_number : ∀ x : Float32, x.isFinite = false → S.write .number x = S.null
  read_null : ∀ k, S.read k S.null = none

end Store
end ExitGesture

/-!
# A keystream

Reproducible noise comes from the ChaCha keystream with eight rounds, a 64-bit block counter and a
nonce of zero.  The key is stretched from a 64-bit seed by a permuted congruential generator.  The
stream is a function of the position, so a draw needs no memory of the draws before it.
-/

namespace ExitGesture
namespace Keystream

/-- The sixteen words of a block. -/
abbrev Block := Vector UInt32 16

/-- The eight words of a key. -/
abbrev Key := Vector UInt32 8

def rotateLeft (x : UInt32) (k : UInt32) : UInt32 := x <<< k ||| x >>> (32 - k)

def rotateRight (x : UInt32) (k : UInt32) : UInt32 := x >>> k ||| x <<< (32 - k)

/-- Mix four words of a block. -/
def mix (s : Block) (a b c d : Fin 16) : Block :=
  let s := s.set a (s[a] + s[b])
  let s := s.set d (rotateLeft (s[d] ^^^ s[a]) 16)
  let s := s.set c (s[c] + s[d])
  let s := s.set b (rotateLeft (s[b] ^^^ s[c]) 12)
  let s := s.set a (s[a] + s[b])
  let s := s.set d (rotateLeft (s[d] ^^^ s[a]) 8)
  let s := s.set c (s[c] + s[d])
  s.set b (rotateLeft (s[b] ^^^ s[c]) 7)

/-- Mix the columns and then the diagonals. -/
def doubleRound (s : Block) : Block :=
  let s := mix s 0 4 8 12
  let s := mix s 1 5 9 13
  let s := mix s 2 6 10 14
  let s := mix s 3 7 11 15
  let s := mix s 0 5 10 15
  let s := mix s 1 6 11 12
  let s := mix s 2 7 8 13
  mix s 3 4 9 14

/-- The block before mixing: constants, key, counter, nonce. -/
def seedBlock (key : Key) (counter : Nat) : Block :=
  #v[0x61707865, 0x3320646e, 0x79622d32, 0x6b206574,
    key[0], key[1], key[2], key[3], key[4], key[5], key[6], key[7],
    UInt32.ofNat counter, UInt32.ofNat (counter / UInt32.size), 0, 0]

/-- A block of the stream: four double rounds, added to where they began. -/
def block (key : Key) (counter : Nat) : Block :=
  let s := seedBlock key counter
  (doubleRound (doubleRound (doubleRound (doubleRound s)))).zipWith (· + ·) s

/-- A word of the stream. -/
def word (key : Key) (position : Nat) : UInt32 :=
  (block key (position / 16))[position % 16]

/-- The state of the key generator after one step. -/
def stretch (state : UInt64) : UInt64 :=
  state * 6364136223846793005 + 11634580027462260723

/-- The word that a state of the key generator gives. -/
def keyWord (state : UInt64) : UInt32 :=
  let x := (((state >>> 18) ^^^ state) >>> 27).toUInt32
  rotateRight x (state >>> 59).toUInt32

/-- The state of the key generator after some steps. -/
def stretched (seed : UInt64) : Nat → UInt64
  | 0 => seed
  | n + 1 => stretch (stretched seed n)

/-- The key of a seed. -/
def keyOf (seed : UInt64) : Key :=
  Vector.ofFn fun i => keyWord (stretched seed (i + 1))

end Keystream
end ExitGesture

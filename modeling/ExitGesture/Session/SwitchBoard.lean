/-!
# Touch exploration switches

A switch is handed out to several parties, who all see and set the same position.  A board keeps
the positions of all switches and knows which switch each party holds.
-/

namespace ExitGesture

/-- Parties and the switches that they hold. -/
structure SwitchBoard where
  /-- The switch of each party. -/
  holders : List Nat
  /-- The position of each switch. -/
  positions : List Bool
  deriving DecidableEq, Repr

namespace SwitchBoard

/-- One party with a switch of its own. -/
def single (position : Bool) : SwitchBoard := ⟨[0], [position]⟩

/-- A further party with a switch of its own. -/
def fresh (b : SwitchBoard) (position : Bool) : SwitchBoard :=
  ⟨b.holders ++ [b.positions.length], b.positions ++ [position]⟩

/-- A further party that shares the switch of another. -/
def share (b : SwitchBoard) (party : Nat) : SwitchBoard :=
  match b.holders[party]? with
  | some switch => { b with holders := b.holders ++ [switch] }
  | none => b

/-- A party sets its switch. -/
def set (b : SwitchBoard) (party : Nat) (position : Bool) : SwitchBoard :=
  match b.holders[party]? with
  | some switch => { b with positions := b.positions.set switch position }
  | none => b

def value (b : SwitchBoard) (party : Nat) : Option Bool :=
  b.holders[party]?.bind fun switch => b.positions[switch]?

def values (b : SwitchBoard) : List Bool :=
  b.holders.filterMap fun switch => b.positions[switch]?

end SwitchBoard
end ExitGesture

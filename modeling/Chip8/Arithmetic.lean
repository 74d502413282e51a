set_option autoImplicit false

namespace Chip8

structure Outcome where
  value : UInt8
  flag : Option Bool
deriving DecidableEq

inductive Combination
  | copy
  | or
  | and
  | xor
  | add
  | sub
  | subFrom
deriving DecidableEq

inductive Shift
  | right
  | left
deriving DecidableEq

def Combination.apply (vx vy : UInt8) : Combination → Outcome
  | .copy => ⟨vy, none⟩
  | .or => ⟨vx ||| vy, none⟩
  | .and => ⟨vx &&& vy, none⟩
  | .xor => ⟨vx ^^^ vy, none⟩
  | .add => ⟨vx + vy, some (decide (255 < vx.toNat + vy.toNat))⟩
  | .sub => ⟨vx - vy, some (decide (vy ≤ vx))⟩
  | .subFrom => ⟨vy - vx, some (decide (vx ≤ vy))⟩

def Shift.apply (vx : UInt8) : Shift → Outcome
  | .right => ⟨vx >>> 1, some (vx &&& 1 == 1)⟩
  | .left => ⟨vx <<< 1, some (vx >>> 7 == 1)⟩

end Chip8

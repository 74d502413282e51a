set_option autoImplicit false

namespace Chip8

abbrev Word := UInt16

abbrev Nibble := Fin 16

abbrev Reg := Nibble

-- Every numeral of a register and every reduction to a nibble rests on this one instance.
@[instance]
theorem sixteen_ne_zero : @NeZero Nat Zero.ofOfNat0 16 := ⟨by decide⟩

namespace Word

def nibble (w : Word) (k : Nat) : Nibble := Fin.ofNat 16 (w.toNat >>> (4 * k))

def x (w : Word) : Nibble := nibble w 2

def y (w : Word) : Nibble := nibble w 1

def n (w : Word) : Nibble := nibble w 0

def kk (w : Word) : UInt8 := w.toUInt8

def nnn (w : Word) : Word := w &&& 0x0FFF

def ofBytes (high low : UInt8) : Word := (high.toUInt16 <<< 8) ||| low.toUInt16

end Word

def FitsSigned (bits : Nat) (n : Int) : Prop :=
  -((1 <<< (bits - 1) : Nat) : Int) ≤ n ∧ n < ((1 <<< (bits - 1) : Nat) : Int)

instance (bits : Nat) (n : Int) : Decidable (FitsSigned bits n) := by
  unfold FitsSigned
  infer_instance

namespace Word

def low (n : Int) : Word := UInt16.ofInt n

def ofInt? (n : Int) : Option Word := if 0 ≤ n ∧ n < 0x10000 then some (low n) else none

def ofSigned? (n : Int) : Option Word := if FitsSigned 32 n then some (low n) else none

end Word

def budget? (n : Int) : Option Nat := if FitsSigned 32 n then some n.toNat else none

end Chip8

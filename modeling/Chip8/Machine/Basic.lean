import Chip8.Display.Sprite
import Chip8.Fault
import Chip8.Memory
import Chip8.Random
import Chip8.Stack

set_option autoImplicit false

namespace Chip8

abbrev Registers := Vector UInt8 16

abbrev Keypad := Vector Bool 16

structure Machine where
  memory : Memory
  registers : Registers
  index : Word
  pc : Word
  stack : Stack
  display : Display
  edges : Edges
  delay : UInt8
  sound : UInt8
  keypad : Keypad
  waiting : Bool
  waitRegister : UInt8
  -- The key delivered to the open latch; negative when there is none.
  lastKey : Int8
  redraw : Bool
  fault : UInt8
  random : WordPair
deriving DecidableEq

namespace Machine

def v (m : Machine) (x : Reg) : UInt8 := m.registers[x]

def setV (m : Machine) (x : Reg) (value : UInt8) : Machine :=
  { m with registers := m.registers.set x.val value x.isLt }

theorem v_set_v (m : Machine) (x y : Reg) (value : UInt8) :
    (m.setV x value).v y = if x = y then value else m.v y := by
  simp [v, setV, Vector.getElem_set, Fin.ext_iff]

theorem v_set_same (m : Machine) (x : Reg) (value : UInt8) : (m.setV x value).v x = value := by
  rw [v_set_v, if_pos rfl]

theorem v_set_other (m : Machine) (x : Reg) (value : UInt8) (k : Reg) (other : k ≠ x) :
    (m.setV x value).v k = m.v k := by
  rw [v_set_v, if_neg (Ne.symm other)]

def advance (m : Machine) : Machine := { m with pc := m.pc + 2 }

def fetch (m : Machine) : Word :=
  Word.ofBytes (m.memory.read m.pc.toNat) (m.memory.read (m.pc.toNat + 1))

def CanFetch (m : Machine) : Prop := m.pc.toNat + 1 < m.memory.size

instance (m : Machine) : Decidable m.CanFetch := by
  unfold CanFetch
  infer_instance

def sounding (m : Machine) : Bool := decide (0 < m.sound)

def ticked (timer : UInt8) : UInt8 := if 0 < timer then timer - 1 else timer

def tick (m : Machine) : Machine := { m with delay := ticked m.delay, sound := ticked m.sound }

def awaitsKey (m : Machine) : Bool := m.waiting && decide (m.lastKey < 0)

def press (m : Machine) (k : Nibble) : Machine :=
  { m with
    keypad := m.keypad.set k.val true k.isLt
    lastKey := if m.waiting then Int8.ofNat k.val else m.lastKey }

def release (m : Machine) (k : Nibble) : Machine :=
  { m with keypad := m.keypad.set k.val false k.isLt }

-- The registers with `value` in number `x`; a number above 15 names none of them.
def putRegister (registers : Registers) (x : UInt8) (value : UInt8) : Registers :=
  registers.setIfInBounds x.toNat value

def deliverKey (m : Machine) : Machine :=
  if m.waiting && decide (0 ≤ m.lastKey) then
    { m with
      registers := putRegister m.registers m.waitRegister m.lastKey.toUInt8
      waiting := false
      lastKey := -1 }
  else m

def clearFault (m : Machine) : Machine := { m with fault := 0 }

end Machine

structure NoSuchKey where
  number : Int
deriving DecidableEq

def NoSuchKey.message (e : NoSuchKey) : String :=
  "key must be between 0 and 15, got " ++ toString e.number

def keyOfInt (n : Int) : Except NoSuchKey Nibble :=
  if 0 ≤ n ∧ n < 16 then .ok (Fin.ofNat 16 n.toNat) else .error ⟨n⟩

end Chip8

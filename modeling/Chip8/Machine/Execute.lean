import Chip8.Instruction
import Chip8.Machine.Create

set_option autoImplicit false

namespace Chip8

def flagReg : Reg := 15

def flagByte (flag : Bool) : UInt8 := if flag then 1 else 0

def decimalDigits (b : UInt8) : List UInt8 := [b / 100, b / 10 % 10, b % 10]

namespace Machine

-- The flag goes over the result when `Vx` is the flag register.
def put (m : Machine) (x : Reg) (o : Outcome) : Machine :=
  let n := m.setV x o.value
  match o.flag with
  | some flag => n.setV flagReg (flagByte flag)
  | none => n

def holds (m : Machine) (x : Reg) : Bool := m.keypad[Fin.ofNat 16 (m.v x).toNat]

def satisfies (m : Machine) : Condition → Bool
  | .eqConst x kk => m.v x == kk
  | .neConst x kk => m.v x != kk
  | .eqReg x y => m.v x == m.v y
  | .neReg x y => m.v x != m.v y
  | .key x => m.holds x
  | .noKey x => !m.holds x

def reset (m : Machine) (target : Word) : Machine :=
  { m with
    pc := target
    registers := Vector.replicate 16 0
    index := 0
    delay := 0
    sound := 0
    display := m.display.clear }

def drawSprite (m : Machine) (x y : Reg) (rows : Nibble) : Machine :=
  let drawn := m.display.draw m.edges (Sprite.ofMemory m.memory m.index.toNat rows.val)
    (m.v x).toNat (m.v y).toNat
  { m with display := drawn.1, redraw := true }.setV flagReg (flagByte drawn.2)

-- All sixteen lanes are written: those past `Vx` get back the byte that is read at their own address.
def storedLanes (m : Machine) (x : Reg) : List UInt8 :=
  List.ofFn fun k : Reg => if k ≤ x then m.v k else m.memory.read (m.index.toNat + k.val)

-- All sixteen lanes are read, and those past `Vx` are ignored.
def loadRegisters (m : Machine) (x : Reg) : Registers :=
  Vector.ofFn fun k : Reg => if k ≤ x then m.memory.read (m.index.toNat + k.val) else m.v k

def execute (m : Machine) : Instruction → Machine
  | .unknown _ => m
  | .clear => { m with display := m.display.clear }.advance
  | .ret => { m with stack := m.stack.pop.2, pc := m.stack.pop.1 + 2 }
  | .system target => m.reset target
  | .jump target => { m with pc := target }
  | .call target => { m with stack := m.stack.push m.pc, pc := target }
  | .skip condition => { m with pc := m.pc + (if m.satisfies condition then 4 else 2) }
  | .setConst x kk => (m.setV x kk).advance
  | .addConst x kk => (m.setV x (m.v x + kk)).advance
  | .combine operation x y => (m.put x (operation.apply (m.v x) (m.v y))).advance
  | .shift direction x => (m.put x (direction.apply (m.v x))).advance
  | .setIndex address => { m with index := address }.advance
  | .jumpOffset base => { m with pc := base + (m.v 0).toUInt16 }
  | .random x mask =>
      { m.setV x (Random.byte m.random &&& mask) with random := Random.next m.random }.advance
  | .draw x y rows => (m.drawSprite x y rows).advance
  | .readDelay x => (m.setV x m.delay).advance
  | .awaitKey x => { m with waiting := true, waitRegister := UInt8.ofNat x.val }.advance
  | .setDelay x => { m with delay := m.v x }.advance
  | .setSound x => { m with sound := m.v x }.advance
  | .addIndex x => { m with index := m.index + (m.v x).toUInt16 }.advance
  | .glyph x => { m with index := (m.v x).toUInt16 * UInt16.ofNat glyphSize }.advance
  | .digits x =>
      { m with memory := m.memory.overlay m.index.toNat (decimalDigits (m.v x)) }.advance
  | .store x => { m with memory := m.memory.overlay m.index.toNat (m.storedLanes x) }.advance
  | .load x => { m with registers := m.loadRegisters x }.advance

end Machine

end Chip8

import Chip8.Machine.Step

set_option autoImplicit false

namespace Chip8

namespace Cells

variable {α : Type}

def get? (cells : Array α) (i : Int) : Option α := if 0 ≤ i then cells[i.toNat]? else none

def put? (cells : Array α) (i : Int) (value : α) : Option (Array α) :=
  if 0 ≤ i ∧ i < cells.size then some (cells.setIfInBounds i.toNat value) else none

def window? (cells : Array α) (start : Int) : Nat → Option (List α)
  | 0 => some []
  | count + 1 => do
      let first ← get? cells start
      let rest ← window? cells (start + 1) count
      return first :: rest

def overlay? (cells : Array α) (start : Int) : List α → Option (Array α)
  | [] => some cells
  | value :: rest => do
      let written ← put? cells start value
      overlay? written (start + 1) rest

end Cells

namespace Stack

def push? (s : Stack) (a : Word) : Option Stack := do
  let slots ← Cells.put? s.slots s.pointer.toInt a
  return ⟨slots, s.pointer + 1⟩

def pop? (s : Stack) : Option (Word × Stack) := do
  let below := s.pointer.toInt - 1
  let a ← Cells.get? s.slots below
  let slots ← Cells.put? s.slots below 0
  return (a, ⟨slots, s.pointer - 1⟩)

end Stack

namespace Machine

def fetchStrict? (m : Machine) : Option Word := do
  let high ← Cells.get? m.memory m.pc.toNat
  let low ← Cells.get? m.memory (m.pc.toNat + 1)
  return Word.ofBytes high low

def drawRows (m : Machine) (x y : Reg) (rows : List UInt8) : Machine :=
  let drawn := m.display.draw m.edges ⟨rows.length, fun r => rows.getD r 0⟩ (m.v x).toNat (m.v y).toNat
  { m with display := drawn.1, redraw := true }.setV flagReg (flagByte drawn.2)

def registersUpTo (m : Machine) (x : Reg) : List UInt8 := m.registers.toList.take (x.val + 1)

def withRegisters (m : Machine) (bytes : List UInt8) : Machine :=
  { m with registers := Vector.ofFn fun k : Reg => (bytes[k.val]?).getD (m.v k) }

-- The instruction on the cells that it names and no others: there is no result when one of them is
-- missing. An instruction that names no cell of memory or stack does what it always does.
def executeStrict? (m : Machine) : Instruction → Option Machine
  | .unknown _ => none
  | .ret => do
      let popped ← m.stack.pop?
      return { m with stack := popped.2, pc := popped.1 + 2 }
  | .call target => do
      let pushed ← m.stack.push? m.pc
      return { m with stack := pushed, pc := target }
  | .draw x y rows => do
      let bytes ← Cells.window? m.memory m.index.toNat rows.val
      return (m.drawRows x y bytes).advance
  | .digits x => do
      let memory ← Cells.overlay? m.memory m.index.toNat (decimalDigits (m.v x))
      return { m with memory := memory }.advance
  | .store x => do
      let memory ← Cells.overlay? m.memory m.index.toNat (m.registersUpTo x)
      return { m with memory := memory }.advance
  | .load x => do
      let bytes ← Cells.window? m.memory m.index.toNat (x.val + 1)
      return (m.withRegisters bytes).advance
  | i => some (m.execute i)

def strict? (m : Machine) : Option Machine := do
  let word ← m.fetchStrict?
  m.executeStrict? (Instruction.ofWord word)

end Machine

end Chip8

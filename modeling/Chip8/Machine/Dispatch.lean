import Chip8.Machine.Step

set_option autoImplicit false

namespace Chip8

-- A word with every field it can be read by, whether or not its instruction uses the field.
structure Decoded where
  raw : Word
  opcode : Opcode
  x : Reg
  y : Reg
  n : Nibble
  kk : UInt8
  nnn : Word
deriving DecidableEq

namespace Decoded

def withOpcode (w : Word) (o : Opcode) : Decoded := ⟨w, o, w.x, w.y, w.n, w.kk, w.nnn⟩

def ofWord (w : Word) : Decoded := withOpcode w (Opcode.ofWord w)

end Decoded

namespace Machine

def skipIf (condition : Machine → Decoded → Bool) (m : Machine) (d : Decoded) : Machine :=
  { m with pc := m.pc + (if condition m d then 4 else 2) }

def operate (operation : UInt8 → UInt8 → Outcome) (m : Machine) (d : Decoded) : Machine :=
  (m.put d.x (operation (m.v d.x) (m.v d.y))).advance

def handler : Opcode → Machine → Decoded → Machine
  | .unknown => fun m _ => m
  | .clear => fun m _ => { m with display := m.display.clear }.advance
  | .ret => fun m _ => { m with stack := m.stack.pop.2, pc := m.stack.pop.1 + 2 }
  | .system => fun m d => m.reset d.nnn
  | .jump => fun m d => { m with pc := d.nnn }
  | .call => fun m d => { m with stack := m.stack.push m.pc, pc := d.nnn }
  | .skipEqConst => skipIf fun m d => m.v d.x == d.kk
  | .skipNeConst => skipIf fun m d => m.v d.x != d.kk
  | .skipEqReg => skipIf fun m d => m.v d.x == m.v d.y
  | .setConst => fun m d => (m.setV d.x d.kk).advance
  | .addConst => fun m d => (m.setV d.x (m.v d.x + d.kk)).advance
  | .copy => operate fun vx vy => Combination.copy.apply vx vy
  | .or => operate fun vx vy => Combination.or.apply vx vy
  | .and => operate fun vx vy => Combination.and.apply vx vy
  | .xor => operate fun vx vy => Combination.xor.apply vx vy
  | .add => operate fun vx vy => Combination.add.apply vx vy
  | .sub => operate fun vx vy => Combination.sub.apply vx vy
  | .shiftRight => operate fun vx _ => Shift.right.apply vx
  | .subFrom => operate fun vx vy => Combination.subFrom.apply vx vy
  | .shiftLeft => operate fun vx _ => Shift.left.apply vx
  | .skipNeReg => skipIf fun m d => m.v d.x != m.v d.y
  | .setIndex => fun m d => { m with index := d.nnn }.advance
  | .jumpOffset => fun m d => { m with pc := d.nnn + (m.v 0).toUInt16 }
  | .random => fun m d =>
      { m.setV d.x (Random.byte m.random &&& d.kk) with random := Random.next m.random }.advance
  | .draw => fun m d => (m.drawSprite d.x d.y d.n).advance
  | .skipKey => skipIf fun m d => m.holds d.x
  | .skipNoKey => skipIf fun m d => !m.holds d.x
  | .readDelay => fun m d => (m.setV d.x m.delay).advance
  | .awaitKey => fun m d => { m with waiting := true, waitRegister := UInt8.ofNat d.x.val }.advance
  | .setDelay => fun m d => { m with delay := m.v d.x }.advance
  | .setSound => fun m d => { m with sound := m.v d.x }.advance
  | .addIndex => fun m d => { m with index := m.index + (m.v d.x).toUInt16 }.advance
  | .glyph => fun m d => { m with index := (m.v d.x).toUInt16 * UInt16.ofNat glyphSize }.advance
  | .digits => fun m d =>
      { m with memory := m.memory.overlay m.index.toNat (decimalDigits (m.v d.x)) }.advance
  | .store => fun m d => { m with memory := m.memory.overlay m.index.toNat (m.storedLanes d.x) }.advance
  | .load => fun m d => { m with registers := m.loadRegisters d.x }.advance

def dispatch (m : Machine) (d : Decoded) : Machine := handler d.opcode m d

def checkFault (m : Machine) (d : Decoded) : Option Fault :=
  if ¬ m.CanFetch then some .memory
  else if d.opcode = .unknown then some .unknownOpcode
  else if d.opcode = .ret ∧ m.stack.isEmpty then some .emptyStack
  else if d.opcode = .call ∧ m.stack.isFull then some .fullStack
  else if d.opcode = .draw ∧ 0 < d.n.val ∧ m.memory.size < m.index.toNat + d.n.val ∨
      d.opcode = .digits ∧ m.memory.size < m.index.toNat + 3 ∨
      (d.opcode = .store ∨ d.opcode = .load) ∧ m.memory.size < m.index.toNat + d.x.val + 1 then some .memory
  else none

theorem dispatch_with_opcode (m : Machine) (w : Word) (o : Opcode) :
    m.dispatch (Decoded.withOpcode w o) = m.execute (Instruction.withOperands w o) := by
  cases o <;> rfl

theorem check_fault_with_opcode (m : Machine) (w : Word) (o : Opcode) :
    m.checkFault (Decoded.withOpcode w o) = m.faultOf (Instruction.withOperands w o) := by
  unfold checkFault faultOf
  by_cases fetched : m.CanFetch
  · rw [if_pos fetched, if_neg (not_not_intro fetched)]
    cases o <;> simp [Decoded.withOpcode, Instruction.withOperands, Overreaches]
  · rw [if_neg fetched, if_pos fetched]

theorem dispatch_of_word (m : Machine) (w : Word) :
    m.dispatch (Decoded.ofWord w) = m.execute (Instruction.ofWord w) :=
  m.dispatch_with_opcode w (Opcode.ofWord w)

theorem check_fault_of_word (m : Machine) (w : Word) :
    m.checkFault (Decoded.ofWord w) = m.faultOf (Instruction.ofWord w) :=
  m.check_fault_with_opcode w (Opcode.ofWord w)

end Machine

end Chip8

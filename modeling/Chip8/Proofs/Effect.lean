import Chip8.Machine.Step

set_option autoImplicit false

namespace Chip8.Machine

structure SameShape (m n : Machine) : Prop where
  memory : n.memory.size = m.memory.size
  width : n.display.width = m.display.width
  height : n.display.height = m.display.height
  capacity : n.stack.capacity = m.stack.capacity
  edges : n.edges = m.edges

theorem same_shape_refl (m : Machine) : SameShape m m := ⟨rfl, rfl, rfl, rfl, rfl⟩

theorem same_shape_trans (l m n : Machine) (first : SameShape l m) (second : SameShape m n) : SameShape l n :=
  ⟨second.memory.trans first.memory, second.width.trans first.width, second.height.trans first.height,
    second.capacity.trans first.capacity, second.edges.trans first.edges⟩

def registersAfter (m : Machine) (x : Reg) (o : Outcome) : Registers :=
  match o.flag with
  | some flag => ((m.setV x o.value).setV flagReg (flagByte flag)).registers
  | none => (m.setV x o.value).registers

theorem put_eq (m : Machine) (x : Reg) (o : Outcome) :
    m.put x o = { m with registers := m.registersAfter x o } := by
  unfold put registersAfter
  cases o.flag <;> rfl


theorem execute_stack (m : Machine) (i : Instruction) :
    (m.execute i).stack = match i with
      | .call _ => m.stack.push m.pc
      | .ret => m.stack.pop.2
      | _ => m.stack := by
  cases i <;> simp only [execute, put_eq, advance, setV, reset, drawSprite]

theorem execute_display (m : Machine) (i : Instruction) :
    (m.execute i).display = match i with
      | .clear => m.display.clear
      | .system _ => m.display.clear
      | .draw x y rows => (m.display.draw m.edges (Sprite.ofMemory m.memory m.index.toNat rows.val)
          (m.v x).toNat (m.v y).toNat).1
      | _ => m.display := by
  cases i <;> simp only [execute, put_eq, advance, setV, reset, drawSprite]

theorem execute_memory (m : Machine) (i : Instruction) :
    (m.execute i).memory = match i with
      | .digits x => m.memory.overlay m.index.toNat (decimalDigits (m.v x))
      | .store x => m.memory.overlay m.index.toNat (m.storedLanes x)
      | _ => m.memory := by
  cases i <;> simp only [execute, put_eq, advance, setV, reset, drawSprite]

theorem execute_registers (m : Machine) (i : Instruction) :
    (m.execute i).registers = match i with
      | .system _ => Vector.replicate 16 0
      | .setConst x kk => (m.setV x kk).registers
      | .addConst x kk => (m.setV x (m.v x + kk)).registers
      | .combine operation x y => (m.put x (operation.apply (m.v x) (m.v y))).registers
      | .shift direction x => (m.put x (direction.apply (m.v x))).registers
      | .random x mask => (m.setV x (Random.byte m.random &&& mask)).registers
      | .draw x y rows => (m.drawSprite x y rows).registers
      | .readDelay x => (m.setV x m.delay).registers
      | .load x => m.loadRegisters x
      | _ => m.registers := by
  cases i <;> simp only [execute, put_eq, advance, setV, reset, drawSprite]

theorem execute_index (m : Machine) (i : Instruction) :
    (m.execute i).index = match i with
      | .system _ => 0
      | .setIndex address => address
      | .addIndex x => m.index + (m.v x).toUInt16
      | .glyph x => (m.v x).toUInt16 * UInt16.ofNat glyphSize
      | _ => m.index := by
  cases i <;> simp only [execute, put_eq, advance, setV, reset, drawSprite]

theorem execute_delay (m : Machine) (i : Instruction) :
    (m.execute i).delay = match i with
      | .system _ => 0
      | .setDelay x => m.v x
      | _ => m.delay := by
  cases i <;> simp only [execute, put_eq, advance, setV, reset, drawSprite]

theorem execute_sound (m : Machine) (i : Instruction) :
    (m.execute i).sound = match i with
      | .system _ => 0
      | .setSound x => m.v x
      | _ => m.sound := by
  cases i <;> simp only [execute, put_eq, advance, setV, reset, drawSprite]

theorem execute_random (m : Machine) (i : Instruction) :
    (m.execute i).random = match i with
      | .random _ _ => Random.next m.random
      | _ => m.random := by
  cases i <;> simp only [execute, put_eq, advance, setV, reset, drawSprite]

theorem execute_redraw (m : Machine) (i : Instruction) :
    (m.execute i).redraw = match i with
      | .draw _ _ _ => true
      | _ => m.redraw := by
  cases i <;> simp only [execute, put_eq, advance, setV, reset, drawSprite]

theorem execute_waiting (m : Machine) (i : Instruction) :
    (m.execute i).waiting = match i with
      | .awaitKey _ => true
      | _ => m.waiting := by
  cases i <;> simp only [execute, put_eq, advance, setV, reset, drawSprite]

theorem execute_wait_register (m : Machine) (i : Instruction) :
    (m.execute i).waitRegister = match i with
      | .awaitKey x => UInt8.ofNat x.val
      | _ => m.waitRegister := by
  cases i <;> simp only [execute, put_eq, advance, setV, reset, drawSprite]

theorem execute_pc (m : Machine) (i : Instruction) :
    (m.execute i).pc = match i with
      | .unknown _ => m.pc
      | .ret => m.stack.pop.1 + 2
      | .system target => target
      | .jump target => target
      | .call target => target
      | .skip condition => m.pc + (if m.satisfies condition then 4 else 2)
      | .jumpOffset base => base + (m.v 0).toUInt16
      | _ => m.pc + 2 := by
  cases i <;> simp only [execute, put_eq, advance, setV, reset, drawSprite]

theorem execute_host_fields (m : Machine) (i : Instruction) :
    (m.execute i).keypad = m.keypad ∧ (m.execute i).lastKey = m.lastKey ∧ (m.execute i).fault = m.fault ∧
      (m.execute i).edges = m.edges := by
  cases i <;> simp only [execute, put_eq, advance, setV, reset, drawSprite, and_self]

theorem execute_same_shape (m : Machine) (i : Instruction) : SameShape m (m.execute i) := by
  have memory : (m.execute i).memory.size = m.memory.size := by
    rw [execute_memory]
    cases i <;> simp only [Memory.size_overlay]
  have capacity : (m.execute i).stack.capacity = m.stack.capacity := by
    rw [execute_stack]
    cases i <;> simp only [Stack.capacity_push, Stack.capacity_pop]
  have display : (m.execute i).display.width = m.display.width ∧ (m.execute i).display.height = m.display.height := by
    rw [execute_display]
    cases i <;> simp only [Display.clear, Display.blank, Display.width_draw, Display.height_draw, and_self]
  exact ⟨memory, display.1, display.2, capacity, (execute_host_fields m i).2.2.2⟩

end Chip8.Machine

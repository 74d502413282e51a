import Chip8.Machine.Execute

set_option autoImplicit false

namespace Chip8.Machine

def Overreaches (m : Machine) : Instruction → Prop
  | .draw _ _ rows => 0 < rows.val ∧ m.memory.size < m.index.toNat + rows.val
  | .digits _ => m.memory.size < m.index.toNat + 3
  | .store x => m.memory.size < m.index.toNat + x.val + 1
  | .load x => m.memory.size < m.index.toNat + x.val + 1
  | _ => False

instance (m : Machine) (i : Instruction) : Decidable (m.Overreaches i) := by
  cases i <;> unfold Overreaches <;> infer_instance

def faultOf (m : Machine) (i : Instruction) : Option Fault :=
  if m.CanFetch then
    match i with
    | .unknown _ => some .unknownOpcode
    | .ret => if m.stack.isEmpty then some .emptyStack else none
    | .call _ => if m.stack.isFull then some .fullStack else none
    | i => if m.Overreaches i then some .memory else none
  else some .memory

def instruction (m : Machine) : Instruction := Instruction.ofWord m.fetch

def prepared (m : Machine) : Machine := { m with redraw := false }.deliverKey

def step (m : Machine) : Machine :=
  if m.fault = 0 then
    if m.prepared.waiting then m.prepared.tick
    else match m.prepared.faultOf m.prepared.instruction with
      | some f => { m with fault := f.code }
      | none => (m.prepared.execute m.prepared.instruction).tick
  else m

end Chip8.Machine

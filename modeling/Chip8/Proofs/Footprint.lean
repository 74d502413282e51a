import Chip8.History
import Chip8.Proofs.Access
import Chip8.Proofs.Outcome

set_option autoImplicit false

namespace Chip8

namespace Instruction

def Targets (k : Reg) : Instruction → Prop
  | .setConst x _ | .addConst x _ | .random x _ | .readDelay x => k = x
  | .combine .add x _ | .combine .sub x _ | .combine .subFrom x _ | .shift _ x => k = x ∨ k = flagReg
  | .combine _ x _ => k = x
  | .draw _ _ _ => k = flagReg
  | .load x => k ≤ x
  | .system _ => True
  | _ => False

def bytesWritten : Instruction → Nat
  | .digits _ => 3
  | .store x => x.val + 1
  | _ => 0

end Instruction

theorem Memory.get_overlay_outside (m : Memory) (a : Nat) (bytes : List UInt8) (j : Nat)
    (outside : ¬ (a ≤ j ∧ j < a + bytes.length)) : (m.overlay a bytes)[j]? = m[j]? := by
  by_cases inside : j < m.size
  · rw [get_overlay m a bytes j inside, if_neg outside]
  · have beyond : m.size ≤ j := Nat.le_of_not_lt inside
    rw [Array.getElem?_eq_none beyond, Array.getElem?_eq_none (by rw [size_overlay]; exact beyond)]

namespace Stack

theorem push_keeps (s : Stack) (a : Word) (bounded : s.Bounded) (slot : Nat)
    (other : (slot : Int) ≠ s.pointer.toInt) : (s.push a).slots[slot]? = s.slots[slot]? := by
  obtain ⟨free, place⟩ := Int.eq_ofNat_of_zero_le bounded.1
  have different : free ≠ slot := by omega
  rw [push, place, Cells.write_of_natural, Array.getElem?_setIfInBounds_ne different]

theorem pop_keeps (s : Stack) (some : s.isEmpty = false) (slot : Nat)
    (other : (slot : Int) ≠ s.pointer.toInt - 1) : s.pop.2.slots[slot]? = s.slots[slot]? := by
  obtain ⟨last, pointer, top⟩ := top_of_some s some
  have different : last ≠ slot := by omega
  rw [pop, top, Cells.write_of_natural, Array.getElem?_setIfInBounds_ne different]

end Stack

namespace Machine

def Overwrites (m : Machine) (i : Instruction) (a : Nat) : Prop :=
  m.index.toNat ≤ a ∧ a < m.index.toNat + i.bytesWritten

instance (m : Machine) (i : Instruction) (a : Nat) : Decidable (m.Overwrites i a) := by
  unfold Overwrites
  infer_instance

theorem execute_keeps_memory (m : Machine) (i : Instruction) (a : Nat) (outside : ¬ m.Overwrites i a) :
    (m.execute i).memory[a]? = m.memory[a]? := by
  rw [execute_memory]
  cases i with
  | digits x => exact Memory.get_overlay_outside _ _ _ _ outside
  | store x =>
      apply (congrArg (fun memory : Memory => memory[a]?) (overlay_stored_lanes m x)).trans
      apply Memory.get_overlay_outside
      rwa [length_registers_up_to]
  | _ => rfl

theorem v_put_other (m : Machine) (x : Reg) (o : Outcome) (k : Reg) (other : k ≠ x)
    (unflagged : o.flag = none ∨ k ≠ flagReg) : (m.put x o).v k = m.v k := by
  unfold put
  cases flagged : o.flag with
  | none => exact v_set_other m x o.value k other
  | some flag =>
      have notFlag : k ≠ flagReg := unflagged.resolve_left (by simp [flagged])
      exact (v_set_other _ flagReg (flagByte flag) k notFlag).trans (v_set_other m x o.value k other)

theorem execute_keeps_register (m : Machine) (i : Instruction) (k : Reg) (untouched : ¬ i.Targets k) :
    (m.execute i).v k = m.v k := by
  rw [v, execute_registers]
  cases i with
  | setConst x kk => exact v_set_other m x kk k untouched
  | addConst x kk => exact v_set_other m x _ k untouched
  | random x mask => exact v_set_other m x _ k untouched
  | readDelay x => exact v_set_other m x m.delay k untouched
  | combine operation x y =>
      cases operation with
      | add | sub | subFrom =>
          obtain ⟨other, notFlag⟩ := not_or.mp untouched
          exact v_put_other m x _ k other (.inr notFlag)
      | copy | or | and | xor => exact v_put_other m x _ k untouched (.inl rfl)
  | shift direction x =>
      obtain ⟨other, notFlag⟩ := not_or.mp untouched
      exact v_put_other m x _ k other (.inr notFlag)
  | draw x y rows => exact v_set_other _ flagReg _ k untouched
  | load x =>
      have past : ¬ k ≤ x := untouched
      simp [loadRegisters, past]
  | system target => exact absurd trivial untouched
  | _ => rfl

structure Footprint (m : Machine) (i : Instruction) (n : Machine) : Prop where
  memory : ∀ a, ¬ m.Overwrites i a → n.memory[a]? = m.memory[a]?
  stack : i.opcode ∉ [.call, .ret] → n.stack = m.stack
  called : ∀ target, i = .call target → n.stack.pointer = m.stack.pointer + 1 ∧
    ∀ slot : Nat, (slot : Int) ≠ m.stack.pointer.toInt → n.stack.slots[slot]? = m.stack.slots[slot]?
  returned : i = .ret → n.stack.pointer = m.stack.pointer - 1 ∧
    ∀ slot : Nat, (slot : Int) ≠ m.stack.pointer.toInt - 1 → n.stack.slots[slot]? = m.stack.slots[slot]?
  display : i.opcode ∉ [.clear, .system, .draw] → n.display = m.display
  random : i.opcode ≠ .random → n.random = m.random
  delay : i.opcode ∉ [.setDelay, .system] → n.delay = m.delay
  sound : i.opcode ∉ [.setSound, .system] → n.sound = m.sound
  latch : i.opcode ≠ .awaitKey → n.waiting = m.waiting ∧ n.waitRegister = m.waitRegister
  redraw : i.opcode ≠ .draw → n.redraw = m.redraw
  index : i.opcode ∉ [.setIndex, .addIndex, .glyph, .system] → n.index = m.index
  registers : ∀ k, ¬ i.Targets k → n.v k = m.v k
  host : n.keypad = m.keypad ∧ n.lastKey = m.lastKey ∧ n.fault = m.fault
  shape : SameShape m n

theorem execute_footprint (m : Machine) (i : Instruction) (bounded : m.stack.Bounded)
    (safe : m.faultOf i = none) : Footprint m i (m.execute i) where
  memory := execute_keeps_memory m i
  stack := by
    intro other
    rw [execute_stack]
    cases i with
    | call | ret => simp [Instruction.opcode] at other
    | _ => rfl
  called := by
    rintro target rfl
    rw [execute_stack]
    exact ⟨rfl, Stack.push_keeps m.stack m.pc bounded⟩
  returned := by
    rintro rfl
    rw [execute_stack]
    exact ⟨rfl, Stack.pop_keeps m.stack (not_empty_of_safe m safe)⟩
  display := by
    intro other
    rw [execute_display]
    cases i with
    | clear | system | draw => simp [Instruction.opcode] at other
    | _ => rfl
  random := by
    intro other
    rw [execute_random]
    cases i with
    | random => exact absurd rfl other
    | _ => rfl
  delay := by
    intro other
    rw [execute_delay]
    cases i with
    | setDelay | system => simp [Instruction.opcode] at other
    | _ => rfl
  sound := by
    intro other
    rw [execute_sound]
    cases i with
    | setSound | system => simp [Instruction.opcode] at other
    | _ => rfl
  latch := by
    intro other
    rw [execute_waiting, execute_wait_register]
    cases i with
    | awaitKey => exact absurd rfl other
    | _ => exact ⟨rfl, rfl⟩
  redraw := by
    intro other
    rw [execute_redraw]
    cases i with
    | draw => exact absurd rfl other
    | _ => rfl
  index := by
    intro other
    rw [execute_index]
    cases i with
    | setIndex | addIndex | glyph | system => simp [Instruction.opcode] at other
    | _ => rfl
  registers := execute_keeps_register m i
  host := by
    obtain ⟨keypad, lastKey, fault, _⟩ := execute_host_fields m i
    exact ⟨keypad, lastKey, fault⟩
  shape := execute_same_shape m i

def Spares (m : Machine) (a : Nat) : List Event → Prop
  | [] => True
  | event :: later =>
    (event = .step → m.Executes m.prepared.instruction → ¬ m.prepared.Overwrites m.prepared.instruction a) ∧
      (m.after event).Spares a later

instance decidableSpares (m : Machine) (a : Nat) (events : List Event) : Decidable (m.Spares a events) :=
  match events with
  | [] => isTrue trivial
  | event :: later =>
      have := decidableSpares (m.after event) a later
      inferInstanceAs (Decidable ((event = .step → m.Executes m.prepared.instruction →
        ¬ m.prepared.Overwrites m.prepared.instruction a) ∧ _))

theorem step_keeps_memory (m : Machine) (a : Nat)
    (spared : m.Executes m.prepared.instruction → ¬ m.prepared.Overwrites m.prepared.instruction a) :
    m.step.memory[a]? = m.memory[a]? := by
  have outcome := step_outcome m
  generalize m.step = next at outcome
  cases outcome with
  | halted recorded => rfl
  | stalled stalls => rfl
  | faulted f raises => rfl
  | executed i executes =>
      have shape := executes.2.2.1
      subst shape
      have kept := execute_keeps_memory m.prepared m.prepared.instruction a (spared executes)
      rw [prepared_memory] at kept
      exact kept

-- The windows move with the index, and the run may rewrite its own program: what spares the address is
-- tested at the machine of each step.
theorem follow_keeps_memory (m : Machine) (a : Nat) (events : List Event) (spared : m.Spares a events) :
    (m.follow events).memory[a]? = m.memory[a]? := by
  induction events generalizing m with
  | nil => rfl
  | cons event later ih =>
      have rest := ih (m.after event) spared.2
      rw [follow, rest]
      cases event with
      | step => exact step_keeps_memory m a (spared.1 rfl)
      | press k => rfl
      | release k => rfl
      | clearFault => rfl

theorem instruction_keeps_to_footprint :
    (∀ (m : Machine) (w : Word), m.stack.Bounded → m.faultOf (.ofWord w) = none →
      Footprint m (.ofWord w) (m.execute (.ofWord w))) ∧
      ∀ (m : Machine) (a : Nat) (events : List Event), m.Spares a events →
        (m.follow events).memory[a]? = m.memory[a]? :=
  ⟨fun m w bounded safe => execute_footprint m (.ofWord w) bounded safe, follow_keeps_memory⟩

theorem store_spares_next_byte :
    let m := { fresh ⟨0x205, 1, 1, some 1, .clip⟩ [0xF1, 0x55, 0, 0, 7] ⟨0, 0⟩ with
      index := 0x202, registers := (Vector.replicate 16 0).set 0 0x12 }
    m.stack.Bounded ∧ m.faultOf (.ofWord 0xF155) = none ∧
      Footprint m (.ofWord 0xF155) (m.execute (.ofWord 0xF155)) ∧
      m.Spares 0x204 [.step, .press 3, .step, .step] ∧
      (m.follow [.step, .press 3, .step, .step]).memory[0x204]? = some 7 := by
  intro m
  have bounded : m.stack.Bounded := by decide
  have safe : m.faultOf (.ofWord 0xF155) = none := by decide +kernel
  have spared : m.Spares 0x204 [.step, .press 3, .step, .step] := by decide +kernel
  obtain ⟨executed, runs⟩ := instruction_keeps_to_footprint
  exact ⟨bounded, safe, executed m 0xF155 bounded safe, spared, (runs m 0x204 _ spared).trans (by decide +kernel)⟩

end Machine

end Chip8

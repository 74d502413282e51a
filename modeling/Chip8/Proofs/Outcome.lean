import Chip8.Proofs.Effect

set_option autoImplicit false

namespace Chip8.Machine

def Executes (m : Machine) (i : Instruction) : Prop :=
  m.fault = 0 ∧ m.awaitsKey = false ∧ m.prepared.instruction = i ∧ m.prepared.faultOf i = none

def Stalls (m : Machine) : Prop := m.fault = 0 ∧ m.awaitsKey = true

def Raises (m : Machine) (f : Fault) : Prop :=
  m.fault = 0 ∧ m.awaitsKey = false ∧ m.prepared.faultOf m.prepared.instruction = some f

instance (m : Machine) (i : Instruction) : Decidable (m.Executes i) := by
  unfold Executes
  infer_instance

instance (m : Machine) : Decidable m.Stalls := by
  unfold Stalls
  infer_instance

def Performs (m : Machine) (o : Opcode) : Prop := m.Executes m.prepared.instruction ∧ m.prepared.instruction.opcode = o

instance (m : Machine) (o : Opcode) : Decidable (m.Performs o) := by
  unfold Performs
  infer_instance

theorem prepared_of_awaits (m : Machine) (awaits : m.awaitsKey = true) :
    m.prepared = { m with redraw := false } := by
  simp only [awaitsKey, Bool.and_eq_true, decide_eq_true_eq] at awaits
  have none : ¬ 0 ≤ m.lastKey := Int8.not_le.mpr awaits.2
  simp [prepared, deliverKey, none]

theorem prepared_of_closed (m : Machine) (closed : m.waiting = false) :
    m.prepared = { m with redraw := false } := by
  simp [prepared, deliverKey, closed]

theorem prepared_of_delivered (m : Machine) (isOpen : m.waiting = true) (key : 0 ≤ m.lastKey) :
    m.prepared = { m with
      redraw := false
      registers := putRegister m.registers m.waitRegister m.lastKey.toUInt8
      waiting := false
      lastKey := -1 } := by
  simp [prepared, deliverKey, isOpen, key]

theorem prepared_eq (m : Machine) :
    m.prepared = { m with
      redraw := false
      registers := m.prepared.registers
      waiting := m.prepared.waiting
      lastKey := m.prepared.lastKey } := by
  by_cases delivered : m.waiting = true ∧ 0 ≤ m.lastKey
  · simp only [prepared_of_delivered m delivered.1 delivered.2]
  · have kept : ¬ (m.waiting && decide (0 ≤ m.lastKey)) = true := by simpa using delivered
    simp only [prepared, deliverKey, if_neg kept]

theorem prepared_stack (m : Machine) : m.prepared.stack = m.stack := by
  rw [prepared_eq]

theorem prepared_fault (m : Machine) : m.prepared.fault = m.fault := by
  rw [prepared_eq]

theorem prepared_memory (m : Machine) : m.prepared.memory = m.memory := by
  rw [prepared_eq]

theorem prepared_random (m : Machine) : m.prepared.random = m.random := by
  rw [prepared_eq]

theorem prepared_fetch (m : Machine) : m.prepared.fetch = m.fetch := by
  rw [prepared_eq]
  rfl

theorem prepared_can_fetch (m : Machine) : m.prepared.CanFetch ↔ m.CanFetch := by
  rw [prepared_eq]
  rfl

theorem prepared_redraw (m : Machine) : m.prepared.redraw = false := by
  rw [prepared_eq]

theorem prepared_waiting (m : Machine) : m.prepared.waiting = m.awaitsKey := by
  cases isOpen : m.waiting with
  | false => simp [prepared_of_closed m isOpen, awaitsKey, isOpen]
  | true =>
      by_cases key : 0 ≤ m.lastKey
      · have delivered : ¬ m.lastKey < 0 := Int8.not_lt.mpr key
        simp [prepared_of_delivered m isOpen key, awaitsKey, delivered]
      · have awaits : m.awaitsKey = true := by simp [awaitsKey, isOpen, Int8.not_le.mp key]
        rw [prepared_of_awaits m awaits, awaits]
        exact isOpen

theorem performs_iff (m : Machine) (i : Instruction) (executes : m.Executes i) (o : Opcode) :
    m.Performs o ↔ i.opcode = o := by
  obtain ⟨healthy, closed, rfl, safe⟩ := executes
  exact ⟨fun performs => performs.2, fun shape => ⟨⟨healthy, closed, rfl, safe⟩, shape⟩⟩

theorem word_of_executes (m : Machine) (i : Instruction) (executes : m.Executes i) : Instruction.ofWord m.fetch = i := by
  have word := executes.2.2.1
  rwa [instruction, prepared_fetch] at word

theorem executes_of_performs (m : Machine) (o : Opcode) (performs : m.Performs o) :
    m.Executes (Instruction.withOperands m.fetch o) := by
  obtain ⟨executes, shape⟩ := performs
  rw [instruction, Instruction.opcode_of_word, prepared_fetch] at shape
  rwa [instruction, prepared_fetch, Instruction.ofWord, shape] at executes

theorem can_fetch_of_safe (m : Machine) (i : Instruction) (safe : m.faultOf i = none) : m.CanFetch := by
  by_cases fetched : m.CanFetch
  · exact fetched
  · have raised : m.faultOf i = some .memory := if_neg fetched
    rw [raised] at safe
    cases safe

theorem not_full_of_safe (m : Machine) (target : Word) (safe : m.faultOf (.call target) = none) :
    m.stack.isFull = false := by
  have fetched := can_fetch_of_safe m (.call target) safe
  have check : m.faultOf (.call target) = if m.stack.isFull then some .fullStack else none := if_pos fetched
  cases full : m.stack.isFull with
  | false => rfl
  | true =>
      rw [check, if_pos full] at safe
      cases safe

theorem not_empty_of_safe (m : Machine) (safe : m.faultOf .ret = none) : m.stack.isEmpty = false := by
  have fetched := can_fetch_of_safe m .ret safe
  have check : m.faultOf .ret = if m.stack.isEmpty then some .emptyStack else none := if_pos fetched
  cases empty : m.stack.isEmpty with
  | false => rfl
  | true =>
      rw [check, if_pos empty] at safe
      cases safe

theorem step_of_halted (m : Machine) (recorded : m.fault ≠ 0) : m.step = m := if_neg recorded

theorem step_of_stalls (m : Machine) (stalls : m.Stalls) : m.step = { m with redraw := false }.tick := by
  rw [step, if_pos stalls.1, prepared_waiting, if_pos stalls.2, prepared_of_awaits m stalls.2]

theorem step_of_raises (m : Machine) (f : Fault) (raises : m.Raises f) : m.step = { m with fault := f.code } := by
  obtain ⟨healthy, closed, raised⟩ := raises
  simp [step, healthy, prepared_waiting, closed, raised]

theorem step_of_executes (m : Machine) (i : Instruction) (executes : m.Executes i) :
    m.step = (m.prepared.execute i).tick := by
  obtain ⟨healthy, closed, rfl, safe⟩ := executes
  simp [step, healthy, prepared_waiting, closed, safe]

inductive StepOutcome (m : Machine) : Machine → Prop
  | halted (recorded : m.fault ≠ 0) : StepOutcome m m
  | stalled (stalls : m.Stalls) : StepOutcome m { m with redraw := false }.tick
  | faulted (f : Fault) (raises : m.Raises f) : StepOutcome m { m with fault := f.code }
  | executed (i : Instruction) (executes : m.Executes i) : StepOutcome m (m.prepared.execute i).tick

theorem step_outcome (m : Machine) : StepOutcome m m.step := by
  by_cases healthy : m.fault = 0
  · cases awaits : m.awaitsKey with
    | true =>
        have stalls : m.Stalls := ⟨healthy, awaits⟩
        rw [step_of_stalls m stalls]
        exact .stalled stalls
    | false =>
        cases raised : m.prepared.faultOf m.prepared.instruction with
        | some f =>
            have raises : m.Raises f := ⟨healthy, awaits, raised⟩
            rw [step_of_raises m f raises]
            exact .faulted f raises
        | none =>
            have executes : m.Executes m.prepared.instruction := ⟨healthy, awaits, rfl, raised⟩
            rw [step_of_executes m _ executes]
            exact .executed _ executes
  · rw [step_of_halted m healthy]
    exact .halted healthy

end Chip8.Machine

import Chip8.Machine.Run
import Chip8.Proofs.Effect
import Chip8.Proofs.Outcome
import Mathlib.Logic.Function.Iterate

set_option autoImplicit false

namespace Chip8.Machine

-- The two machines do not differ in anything that the check for a fault looks at.
structure SameReach (m n : Machine) : Prop where
  memory : n.memory = m.memory
  pc : n.pc = m.pc
  index : n.index = m.index
  pointer : n.stack.pointer = m.stack.pointer
  capacity : n.stack.capacity = m.stack.capacity

theorem same_reach_prepared (m n : Machine) (same : SameReach m n) : SameReach m.prepared n.prepared := by
  rw [prepared_eq m, prepared_eq n]
  exact ⟨same.memory, same.pc, same.index, same.pointer, same.capacity⟩

theorem instruction_of_same_reach (m n : Machine) (same : SameReach m n) : n.instruction = m.instruction := by
  have word : n.fetch = m.fetch := by rw [fetch, fetch, same.memory, same.pc]
  rw [instruction, instruction, word]

theorem fault_of_same_reach (m n : Machine) (same : SameReach m n) (i : Instruction) :
    n.faultOf i = m.faultOf i := by
  have fetched : n.CanFetch ↔ m.CanFetch := by rw [CanFetch, CanFetch, same.memory, same.pc]
  have empty : n.stack.isEmpty = m.stack.isEmpty := by rw [Stack.isEmpty, Stack.isEmpty, same.pointer]
  have full : n.stack.isFull = m.stack.isFull := by
    rw [Stack.isFull, Stack.isFull, same.pointer, same.capacity]
  have past : n.Overreaches i ↔ m.Overreaches i := by
    cases i <;> simp only [Overreaches, same.memory, same.index]
  unfold faultOf
  cases i <;> simp only [fetched, empty, full, past]

theorem fault_of_executed (m : Machine) (i : Instruction) (executes : m.Executes i) : m.step.fault = 0 := by
  rw [step_of_executes m i executes]
  change (m.prepared.execute i).fault = 0
  rw [(execute_host_fields m.prepared i).2.2.1, prepared_fault]
  exact executes.1

theorem stalls_iff (m : Machine) (healthy : m.fault = 0) : m.Stalls ↔ m.awaitsKey = true :=
  ⟨fun stalls => stalls.2, fun awaits => ⟨healthy, awaits⟩⟩

theorem recorded_fault (m : Machine) (healthy : m.fault = 0) (runs : ¬ m.Stalls) :
    m.step.fault = ((m.prepared.faultOf m.prepared.instruction).map Fault.code).getD 0 := by
  rw [stalls_iff m healthy, Bool.not_eq_true] at runs
  cases raised : m.prepared.faultOf m.prepared.instruction with
  | some f => rw [step_of_raises m f ⟨healthy, runs, raised⟩]; rfl
  | none => exact fault_of_executed m _ ⟨healthy, runs, rfl, raised⟩

theorem raises_of_faulted (m : Machine) (healthy : m.fault = 0) (faulted : m.step.fault ≠ 0) :
    ∃ f, m.Raises f ∧ m.step.fault = f.code := by
  have outcome := step_outcome m
  generalize stepped : m.step = next at outcome faulted ⊢
  cases outcome with
  | halted recorded => exact absurd healthy recorded
  | stalled stalls => exact absurd healthy faulted
  | faulted f raises => exact ⟨f, raises, rfl⟩
  | executed i executes =>
      rw [← stepped] at faulted
      exact absurd (fault_of_executed m i executes) faulted

theorem rolled_back (m : Machine) (healthy : m.fault = 0) (faulted : m.step.fault ≠ 0) :
    m.step = { m with fault := m.step.fault } := by
  obtain ⟨f, raises, code⟩ := raises_of_faulted m healthy faulted
  rw [code, step_of_raises m f raises]

theorem faulting_step_is_atomic (m : Machine) (healthy : m.fault = 0) :
    (m.step.fault ≠ 0 →
      m.step = { m with fault := m.step.fault } ∧ m.step.clearFault = m ∧
        (∀ count : Nat, step^[count] m.step = m.step) ∧
        ∀ budget : Nat, m.step.run budget = ⟨m.step, 0, false⟩) ∧
      ∀ n : Machine, n.fault = 0 → ¬ m.Stalls → ¬ n.Stalls → SameReach m n → n.step.fault = m.step.fault := by
  constructor
  · intro faulted
    have kept := rolled_back m healthy faulted
    have cleared : m.step.clearFault = m := by
      rw [kept, clearFault, ← healthy]
    have idle (budget : Nat) : m.step.run budget = Run.start m.step :=
      Run.extend_of_not_ready budget (Run.start m.step) fun ready => faulted ready.1
    exact ⟨kept, cleared, Function.iterate_fixed (step_of_halted m.step faulted), idle⟩
  · intro n otherHealthy runs otherRuns same
    have prepared := same_reach_prepared m n same
    rw [recorded_fault m healthy runs, recorded_fault n otherHealthy otherRuns,
      instruction_of_same_reach _ _ prepared, fault_of_same_reach _ _ prepared]

theorem pending_key_survives_fault :
    let m := { fresh ⟨0x202, 1, 1, some 1, .clip⟩ [0x00, 0xEE] ⟨0, 0⟩ with
      waiting := true, waitRegister := 2, lastKey := 3, redraw := true, delay := 9 }
    let n := { m with waiting := false, lastKey := -1, registers := Vector.replicate 16 7 }
    m.fault = 0 ∧ m.step.fault = Fault.emptyStack.code ∧ m.step.clearFault = m ∧ step^[3] m.step = m.step ∧
      m.step.run 5 = ⟨m.step, 0, false⟩ ∧ ¬ m.Stalls ∧ ¬ n.Stalls ∧ SameReach m n ∧
      n.step.fault = Fault.emptyStack.code := by
  intro m n
  have faulted : m.step.fault = Fault.emptyStack.code := by decide +kernel
  have runs : ¬ m.Stalls := by rw [stalls_iff m rfl]; decide +kernel
  have otherRuns : ¬ n.Stalls := by rw [stalls_iff n rfl]; decide +kernel
  have elsewhere (l : Machine) :
      SameReach l { l with waiting := false, lastKey := -1, registers := Vector.replicate 16 7 } :=
    ⟨rfl, rfl, rfl, rfl, rfl⟩
  obtain ⟨atomic, agree⟩ := faulting_step_is_atomic m rfl
  obtain ⟨_, cleared, stays, idle⟩ := atomic (by rw [faulted]; exact Fault.code_ne_zero .emptyStack)
  exact ⟨rfl, faulted, cleared, stays 3, idle 5, runs, otherRuns, elsewhere m,
    (agree n rfl runs otherRuns (elsewhere m)).trans faulted⟩

end Chip8.Machine

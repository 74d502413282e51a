import Chip8.History
import Chip8.Proofs.Decode
import Chip8.Proofs.Listing
import Chip8.Proofs.Rollback

set_option autoImplicit false

namespace Chip8

theorem Stack.pop_address (s : Stack) (bounded : s.Bounded) (some : s.isEmpty = false) :
    ∃ slot : Nat, (slot : Int) < s.pointer.toInt ∧ s.slots[slot]? = Option.some s.pop.1 := by
  obtain ⟨slot, pointer, top⟩ := top_of_some s some
  have inside : slot < s.slots.size := by
    have high := bounded.2
    rw [capacity] at high
    omega
  refine ⟨slot, by omega, ?_⟩
  rw [pop, top, Cells.read_of_lt s.slots slot inside, Array.getElem?_eq_getElem inside]

theorem Instruction.jump_offset_lt (w base : Word) (jumps : ofWord w = .jumpOffset base) : base.toNat < 0x1000 := by
  rw [ofWord] at jumps
  cases shape : Opcode.ofWord w <;> rw [shape] at jumps <;> simp only [withOperands, reduceCtorEq] at jumps
  cases jumps
  exact w.nnn_lt

namespace Machine

def onward (m : Machine) : Instruction → Nat
  | .unknown _ => m.pc.toNat
  | .ret => m.stack.pop.1.toNat + 2
  | .system target => target.toNat
  | .jump target => target.toNat
  | .call target => target.toNat
  | .skip condition => m.pc.toNat + if m.satisfies condition then 4 else 2
  | .jumpOffset base => base.toNat + (m.v 0).toNat
  | _ => m.pc.toNat + 2

def ReturnsInside (m : Machine) : Prop :=
  ∀ (slot : Nat) (a : Word), (slot : Int) < m.stack.pointer.toInt → m.stack.slots[slot]? = some a →
    a.toNat + 1 < m.memory.size

def FaultsAtFetch (m : Machine) : Prop :=
  ∀ later, m.EachStep Stalls later → ¬ (m.follow later).Stalls →
    (m.follow later).step = { m.follow later with fault := Fault.memory.code }

theorem execute_pc_to_nat (m : Machine) (i : Instruction) : (m.execute i).pc.toNat = m.onward i % 0x10000 := by
  rw [execute_pc]
  cases i with
  | unknown word => exact (Nat.mod_eq_of_lt m.pc.toNat_lt).symm
  | system target | jump target | call target => exact (Nat.mod_eq_of_lt target.toNat_lt).symm
  | ret => exact UInt16.toNat_add m.stack.pop.1 2
  | skip condition =>
      dsimp only [onward]
      cases m.satisfies condition <;> exact UInt16.toNat_add m.pc _
  | jumpOffset base => exact UInt16.toNat_add base (m.v 0).toUInt16
  | _ => exact UInt16.toNat_add m.pc 2

theorem step_pc (m : Machine) (i : Instruction) (executes : m.Executes i) :
    m.step.pc.toNat = m.prepared.onward i % 0x10000 := by
  rw [step_of_executes m i executes]
  exact execute_pc_to_nat m.prepared i

theorem step_memory_size (m : Machine) (i : Instruction) (executes : m.Executes i) :
    m.step.memory.size = m.memory.size := by
  rw [step_of_executes m i executes]
  change (m.prepared.execute i).memory.size = m.memory.size
  rw [(execute_same_shape m.prepared i).memory, prepared_memory]

theorem raises_at_fetch (m : Machine) (healthy : m.fault = 0) (closed : m.awaitsKey = false)
    (beyond : m.memory.size ≤ m.pc.toNat + 1) : m.Raises .memory := by
  have missing : ¬ m.prepared.CanFetch := by
    rw [prepared_can_fetch]
    exact Nat.not_lt_of_le beyond
  exact ⟨healthy, closed, if_neg missing⟩

theorem raises_unknown (m : Machine) (healthy : m.fault = 0) (closed : m.awaitsKey = false) (fetched : m.CanFetch)
    (shape : Opcode.ofWord m.fetch = .unknown) : m.Raises .unknownOpcode := by
  refine ⟨healthy, closed, ?_⟩
  rw [instruction, prepared_fetch, Instruction.ofWord, shape]
  exact if_pos ((prepared_can_fetch m).mpr fetched)

theorem faults_at_fetch (m : Machine) (healthy : m.fault = 0) (beyond : m.memory.size ≤ m.pc.toNat + 1) :
    m.FaultsAtFetch := by
  intro later
  induction later generalizing m with
  | nil =>
      intro _ runs
      rw [follow, stalls_iff m healthy, Bool.not_eq_true] at runs
      exact step_of_raises m .memory (raises_at_fetch m healthy runs beyond)
  | cons event later ih =>
      rintro ⟨stalls, rest⟩
      cases event with
      | step =>
          have stepped := step_of_stalls m (stalls rfl)
          refine ih m.step ?_ ?_ rest
          · rw [stepped]
            exact healthy
          · rw [stepped]
            exact beyond
      | press k => exact ih (m.press k) healthy beyond rest
      | release k => exact ih (m.release k) healthy beyond rest
      | clearFault => exact ih m.clearFault rfl beyond rest

theorem onward_bounds (m : Machine) (i : Instruction) (executes : m.Executes i) (bounded : m.stack.Bounded)
    (saved : m.ReturnsInside) (overflow : 0x10000 ≤ m.prepared.onward i) :
    m.prepared.onward i ≤ m.memory.size + 2 ∧
      ((∀ condition, i ≠ .skip condition) → m.prepared.onward i ≤ m.memory.size) := by
  obtain ⟨_, _, shape, safe⟩ := executes
  have fetched : m.prepared.pc.toNat + 1 < m.memory.size := by
    have fetched := can_fetch_of_safe m.prepared i safe
    rwa [CanFetch, prepared_memory] at fetched
  cases i with
  | unknown word =>
      have low := m.prepared.pc.toNat_lt
      dsimp only [onward] at overflow
      omega
  | system target | jump target | call target =>
      have low := target.toNat_lt
      dsimp only [onward] at overflow
      omega
  | jumpOffset base =>
      have low := Instruction.jump_offset_lt _ base shape
      have byte := (m.prepared.v 0).toNat_lt
      dsimp only [onward] at overflow
      omega
  | ret =>
      have some := not_empty_of_safe m.prepared safe
      rw [prepared_stack] at some
      obtain ⟨slot, live, held⟩ := Stack.pop_address m.stack bounded some
      have inside := saved slot _ live held
      dsimp only [onward]
      rw [prepared_stack]
      omega
  | skip condition =>
      refine ⟨?_, fun other => absurd rfl (other condition)⟩
      dsimp only [onward]
      split <;> omega
  | _ =>
      dsimp only [onward]
      omega

theorem leaving_memory_faults (m : Machine) (i : Instruction) (executes : m.Executes i)
    (size : m.memory.size ≤ maxMemorySize) (bounded : m.stack.Bounded) (saved : m.ReturnsInside) :
    let next := m.prepared.onward i
    m.step.pc.toNat = next % 0x10000 ∧
      (next < 0x10000 → m.memory.size ≤ next + 1 → m.step.FaultsAtFetch) ∧
      (0x10000 ≤ next → 0xFFFE ≤ m.memory.size ∧ m.step.pc.toNat ≤ 2 ∧ m.step.CanFetch ∧
        ((∀ condition, i ≠ .skip condition) → m.memory.size = 0x10000)) := by
  intro next
  have limit : maxMemorySize = 0x10000 := rfl
  have pc : m.step.pc.toNat = next % 0x10000 := step_pc m i executes
  have memory := step_memory_size m i executes
  refine ⟨pc, ?_, ?_⟩
  · intro fits beyond
    rw [Nat.mod_eq_of_lt fits] at pc
    apply faults_at_fetch m.step (fault_of_executed m i executes)
    rw [memory, pc]
    exact beyond
  · intro overflow
    obtain ⟨far, near⟩ := onward_bounds m i executes bounded saved overflow
    change next ≤ m.memory.size + 2 at far
    have fetched : m.step.CanFetch := by
      rw [CanFetch, memory]
      omega
    refine ⟨by omega, by omega, fetched, ?_⟩
    intro plain
    have within : next ≤ m.memory.size := near plain
    omega

theorem key_after_last_word_faults :
    let m := fresh ⟨0x202, 1, 1, some 1, .clip⟩ [0xF0, 0x0A] ⟨0, 0⟩
    let now := m.step.follow [.step, .press 5]
    m.Executes (.awaitKey 0) ∧ m.memory.size ≤ maxMemorySize ∧ m.stack.Bounded ∧ m.ReturnsInside ∧
      m.step.pc.toNat = 0x202 ∧ m.step.EachStep Stalls [.step, .press 5] ∧ ¬ now.Stalls ∧
      now.step = { now with fault := Fault.memory.code } := by
  intro m now
  have executes : m.Executes (.awaitKey 0) := by decide +kernel
  have size : m.memory.size ≤ maxMemorySize := by decide +kernel
  have saved : m.ReturnsInside := fun slot a live => by
    have none : m.stack.pointer.toInt = 0 := rfl
    omega
  have waits : m.step.EachStep Stalls [.step, .press 5] ∧ ¬ now.Stalls := by decide +kernel
  have next : m.prepared.onward (.awaitKey 0) = 0x202 := by decide +kernel
  have beyond : m.memory.size ≤ 0x202 + 1 := by decide +kernel
  obtain ⟨pc, faults, _⟩ := leaving_memory_faults m (.awaitKey 0) executes size (by decide) saved
  rw [next] at pc faults
  exact ⟨executes, size, by decide, saved, pc, waits.1, waits.2, faults (by decide) beyond _ waits.1 waits.2⟩

theorem last_word_leads_to_first :
    let memory := (loaded 0x10000 []).overlay 0xFFFE [0x60, 0x60]
    let m := { fresh ⟨0x10000, 1, 1, some 1, .clip⟩ [] ⟨0, 0⟩ with pc := 0xFFFE, memory := memory }
    m.memory.size ≤ maxMemorySize ∧ m.stack.Bounded ∧ m.ReturnsInside ∧ m.Executes (.setConst 0 0x60) ∧
      m.prepared.onward (.setConst 0 0x60) = 0x10000 ∧ m.step.pc = 0 ∧ ¬ m.step.Stalls ∧
      m.step.step.fault = Fault.unknownOpcode.code := by
  intro memory m
  have size : memory.size = 0x10000 := by rw [Memory.size_overlay, size_loaded]
  have read (j : Nat) (inside : j < 0x10000) : memory.read j =
      if 0xFFFE ≤ j ∧ j < 0xFFFE + 2 then (([0x60, 0x60] : List UInt8)[j - 0xFFFE]?).getD 0
      else (loaded 0x10000 []).read j :=
    Memory.read_overlay (loaded 0x10000 []) 0xFFFE [0x60, 0x60] j (by rw [size_loaded]; exact inside)
  have last : Word.ofBytes (memory.read 0xFFFE) (memory.read 0xFFFF) = 0x6060 := by
    rw [read 0xFFFE (by decide), read 0xFFFF (by decide)]
    decide
  have first : Word.ofBytes (memory.read 0) (memory.read 1) = 0xF090 := by
    rw [read 0 (by decide), read 1 (by decide), if_neg (by decide), if_neg (by decide),
      read_loaded _ _ _ (by decide), read_loaded _ _ _ (by decide)]
    decide
  -- Of the memory no more than these two words counts.
  clear_value memory
  have prepared : m.prepared = { m with redraw := false } := prepared_of_closed m rfl
  have executes : m.Executes (.setConst 0 0x60) := by
    have fetched : m.CanFetch := by
      change 0xFFFE + 1 < memory.size
      omega
    have word : m.fetch = 0x6060 := last
    refine ⟨rfl, rfl, ?_, if_pos ((prepared_can_fetch m).mpr fetched)⟩
    rw [instruction, prepared_fetch, word]
    decide
  have stepped := step_of_executes m _ executes
  rw [prepared] at stepped
  have pc : m.step.pc = 0 := by
    have sum : (0xFFFE : Word) + 2 = 0 := by decide
    rw [← sum, stepped]
    rfl
  have kept : m.step.memory = memory ∧ m.step.fault = 0 ∧ m.step.awaitsKey = false := by
    rw [stepped]
    exact ⟨rfl, rfl, rfl⟩
  have raises : m.step.Raises .unknownOpcode := by
    have fetched : m.step.CanFetch := by
      rw [CanFetch, pc, kept.1, size]
      decide
    have word : m.step.fetch = 0xF090 := by
      rw [fetch, pc, kept.1]
      exact first
    exact raises_unknown m.step kept.2.1 kept.2.2 fetched (by rw [word]; decide)
  have bounded : (Stack.zeroed 1).Bounded := by decide
  have saved : m.ReturnsInside := fun slot a live => by
    have none : m.stack.pointer.toInt = 0 := rfl
    omega
  have stays : ¬ m.step.Stalls := fun stalls => Bool.noConfusion (kept.2.2.symm.trans stalls.2)
  have onward : m.prepared.onward (.setConst 0 0x60) = 0x10000 := by
    rw [prepared]
    rfl
  exact ⟨Nat.le_of_eq size, bounded, saved, executes, onward, pc, stays,
    congrArg fault (step_of_raises m.step .unknownOpcode raises)⟩

end Machine

end Chip8

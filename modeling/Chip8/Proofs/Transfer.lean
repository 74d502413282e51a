import Chip8.Proofs.Decode
import Chip8.Proofs.Footprint

set_option autoImplicit false

namespace Chip8

theorem Memory.overlay_same (m : Memory) (a : Nat) (bytes : List UInt8)
    (same : ∀ k < bytes.length, a + k < m.size → bytes[k]? = m[a + k]?) : m.overlay a bytes = m := by
  apply Array.ext_getElem?
  intro j
  by_cases covered : a ≤ j ∧ j < a + bytes.length
  · obtain ⟨k, rfl⟩ := Nat.exists_eq_add_of_le covered.1
    by_cases inside : a + k < m.size
    · rw [get_overlay m a bytes _ inside, if_pos covered, Nat.add_sub_cancel_left, same k (by omega) inside]
    · have beyond : m.size ≤ a + k := Nat.le_of_not_lt inside
      rw [Array.getElem?_eq_none beyond, Array.getElem?_eq_none (by rw [size_overlay]; exact beyond)]
  · exact get_overlay_outside m a bytes j covered

namespace Machine

theorem memory_store (m : Machine) (x : Reg) :
    (m.execute (.store x)).memory = m.memory.overlay m.index.toNat (m.registersUpTo x) :=
  (execute_memory m (.store x)).trans (overlay_stored_lanes m x)

theorem index_store (m : Machine) (x : Reg) : (m.execute (.store x)).index = m.index := execute_index m (.store x)

theorem memory_load (m : Machine) (x : Reg) : (m.execute (.load x)).memory = m.memory := execute_memory m (.load x)

theorem index_load (m : Machine) (x : Reg) : (m.execute (.load x)).index = m.index := execute_index m (.load x)

theorem v_load (m : Machine) (x k : Reg) :
    (m.execute (.load x)).v k = if k ≤ x then m.memory.read (m.index.toNat + k.val) else m.v k := by
  rw [v, execute_registers]
  simp [loadRegisters]

theorem read_stored (m : Machine) (x k : Reg) (fits : m.index.toNat + x.val < m.memory.size) (named : k ≤ x) :
    (m.execute (.store x)).memory.read (m.index.toNat + k.val) = m.v k := by
  have inside : m.index.toNat + k.val < m.memory.size :=
    Nat.lt_of_le_of_lt (Nat.add_le_add_left named m.index.toNat) fits
  have covered : m.index.toNat ≤ m.index.toNat + k.val ∧
      m.index.toNat + k.val < m.index.toNat + (m.registersUpTo x).length := by
    rw [length_registers_up_to]
    exact ⟨Nat.le_add_right _ _, Nat.add_lt_add_left (Nat.lt_succ_of_le named) _⟩
  rw [memory_store, Memory.read_overlay _ _ _ _ inside, if_pos covered, Nat.add_sub_cancel_left,
    get_registers_up_to m x k named, Option.getD_some]

-- A register that was read past the end of memory falls outside again when it is written there.
theorem store_after_load (m : Machine) (x : Reg) : ((m.execute (.load x)).execute (.store x)).memory = m.memory := by
  rw [memory_store, memory_load, index_load]
  apply Memory.overlay_same
  intro k listed inside
  rw [length_registers_up_to] at listed
  have named : (⟨k, by omega⟩ : Reg) ≤ x := Nat.le_of_lt_succ listed
  have loaded := get_registers_up_to (m.execute (.load x)) x _ named
  rw [v_load, if_pos named] at loaded
  rw [Memory.get_eq_read m.memory _ inside]
  exact loaded

theorem stored_registers_load_back (m : Machine) (dump load : Word) (dumps : dump &&& 0xF0FF = 0xF055)
    (loads : load &&& 0xF0FF = 0xF065) (same : load.x = dump.x) :
    (m.index.toNat + dump.x.val < m.memory.size → ∀ others : Registers,
      let dumped := m.execute (.ofWord dump)
      let back := { dumped with registers := others }.execute (.ofWord load)
      (∀ k, k ≤ dump.x → back.v k = m.v k) ∧ (∀ k, dump.x < k → back.v k = others[k]) ∧ back.index = m.index ∧
        back.memory = dumped.memory ∧ dumped.memory.size = m.memory.size ∧
        ∀ a, a < m.index.toNat ∨ m.index.toNat + dump.x.val < a → dumped.memory[a]? = m.memory[a]?) ∧
      ((m.execute (.ofWord load)).execute (.ofWord dump)).memory = m.memory := by
  rw [Instruction.of_word_of_bits dump 0xF0FF 0xF055 .store dumps (by decide) (by decide),
    Instruction.of_word_of_bits load 0xF0FF 0xF065 .load loads (by decide) (by decide)]
  dsimp only [Instruction.withOperands]
  rw [same]
  refine ⟨?_, store_after_load m dump.x⟩
  intro fits others
  refine ⟨?_, ?_, ?_, ?_, (execute_same_shape m (.store dump.x)).memory, ?_⟩
  · intro k named
    rw [v_load, if_pos named]
    dsimp only
    rw [index_store]
    exact read_stored m dump.x k fits named
  · intro k past
    rw [v_load, if_neg (Fin.not_le.mpr past)]
    rfl
  · rw [index_load]
    exact index_store m dump.x
  · rw [memory_load]
  · intro a outside
    apply execute_keeps_memory
    unfold Overwrites
    dsimp only [Instruction.bytesWritten]
    omega

theorem last_bytes_load_back :
    let sevens := { fresh ⟨0x204, 1, 1, some 1, .clip⟩ [] ⟨0, 0⟩ with
      index := 0x202, registers := Vector.replicate 16 7 }
    let m := (sevens.setV 0 0x12).setV 1 0x34
    let dumped := m.execute (.ofWord 0xF155)
    let back := { dumped with registers := Vector.replicate 16 9 }.execute (.ofWord 0xF165)
    m.index.toNat + (Word.x 0xF155).val < m.memory.size ∧ back.v 0 = 0x12 ∧ back.v 1 = 0x34 ∧ back.v 2 = 9 ∧
      back.memory = dumped.memory ∧ dumped.memory[0x201]? = some 0 ∧
      ((m.execute (.ofWord 0xF165)).execute (.ofWord 0xF155)).memory = m.memory := by
  intro sevens m dumped back
  have fits : m.index.toNat + (Word.x 0xF155).val < m.memory.size := by decide +kernel
  obtain ⟨roundTrip, inverse⟩ := stored_registers_load_back m 0xF155 0xF165 (by decide) (by decide) (by decide)
  obtain ⟨named, past, _, memory, _, outside⟩ := roundTrip fits (Vector.replicate 16 9)
  exact ⟨fits, named 0 (by decide), named 1 (by decide), past 2 (by decide), memory,
    (outside 0x201 (.inl (by decide))).trans (by decide +kernel), inverse⟩

end Machine

end Chip8

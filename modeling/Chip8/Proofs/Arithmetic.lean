import Chip8.Proofs.Decode
import Chip8.Proofs.Footprint

set_option autoImplicit false

namespace Chip8

structure Exact where
  result : Int
  flag : Option Bool
deriving DecidableEq

def Exact.of? (a b : Nat) : Nibble → Option Exact
  | 0x0 => some ⟨b, none⟩
  | 0x1 => some ⟨((a ||| b : Nat) : Int), none⟩
  | 0x2 => some ⟨((a &&& b : Nat) : Int), none⟩
  | 0x3 => some ⟨((a ^^^ b : Nat) : Int), none⟩
  | 0x4 => some ⟨((a : Int) + b) % 256, some (decide (255 < a + b))⟩
  | 0x5 => some ⟨((a : Int) - b) % 256, some (decide (b ≤ a))⟩
  | 0x6 => some ⟨(a : Int) / 2, some (decide (a % 2 = 1))⟩
  | 0x7 => some ⟨((b : Int) - a) % 256, some (decide (a ≤ b))⟩
  | 0xE => some ⟨(2 * (a : Int)) % 256, some (decide (128 ≤ a))⟩
  | _ => none

namespace Opcode

def operation : Nibble → Opcode
  | 0x0 => copy
  | 0x1 => or
  | 0x2 => and
  | 0x3 => xor
  | 0x4 => add
  | 0x5 => sub
  | 0x6 => shiftRight
  | 0x7 => subFrom
  | 0xE => shiftLeft
  | _ => unknown

def operationBits (n : Nibble) : Word := 0x8000 ||| UInt16.ofNat n.val

theorem bits_of_operation (w : Word) (group : w &&& 0xF000 = 0x8000) : w &&& 0xF00F = operationBits w.n := by
  have bits : ∀ n, operationBits n &&& 0xF000 = 0x8000 ∧ (operationBits n).n = n ∧
      operationBits n &&& 0xF00F = operationBits n := by
    decide
  obtain ⟨first, last, both⟩ := bits w.n
  rw [← both]
  exact Word.agree_on_both w _ 0xF000 0x000F (group.trans first.symm) ((Word.n_eq_iff w _).mp last.symm)

theorem of_word_operation (w : Word) (group : w &&& 0xF000 = 0x8000) (known : operation w.n ≠ unknown) :
    ofWord w = operation w.n := by
  have listed : ∀ n, operation n ≠ unknown → ∃ p ∈ patterns, p.mask = 0xF00F ∧ p.value = operationBits n := by
    decide +kernel
  have only : ∀ n, ∀ p ∈ patterns, p.value &&& 0xF00F = operationBits n &&& p.mask → p.opcode = operation n := by
    decide +kernel
  exact of_word_of_bits w 0xF00F _ _ (bits_of_operation w group) (listed w.n known) (only w.n)

end Opcode

namespace Outcome

structure Meets (o : Outcome) (e : Exact) : Prop where
  value : (o.value.toNat : Int) = e.result
  flag : o.flag = e.flag

theorem sum_exact (a b : UInt8) : ((a + b).toNat : Int) = ((a.toNat : Int) + b.toNat) % 256 := by
  rw [UInt8.toNat_add]
  omega

theorem difference_exact (a b : UInt8) : ((a - b).toNat : Int) = ((a.toNat : Int) - b.toNat) % 256 := by
  have below := b.toNat_lt
  rw [UInt8.toNat_sub]
  omega

theorem half_exact (a : UInt8) : ((a >>> 1).toNat : Int) = (a.toNat : Int) / 2 := by
  have half : (a >>> 1).toNat = a.toNat / 2 ^ 1 :=
    (UInt8.toNat_shiftRight a 1).trans (Nat.shiftRight_eq_div_pow a.toNat 1)
  rw [half]
  rfl

theorem double_exact (a : UInt8) : ((a <<< 1).toNat : Int) = (2 * (a.toNat : Int)) % 256 := by
  have double : (a <<< 1).toNat = a.toNat * 2 ^ 1 % 2 ^ 8 :=
    (UInt8.toNat_shiftLeft a 1).trans (congrArg (· % 2 ^ 8) (Nat.shiftLeft_eq a.toNat 1))
  rw [double]
  omega

theorem no_borrow (a b : UInt8) : decide (b ≤ a) = decide (b.toNat ≤ a.toNat) :=
  decide_eq_decide.mpr UInt8.le_iff_toNat_le

theorem low_bit (a : UInt8) : (a &&& 1 == 1) = decide (a.toNat % 2 = 1) := by
  have low : (a &&& 1).toNat = a.toNat % 2 := (UInt8.toNat_and a 1).trans (Nat.and_one_is_mod a.toNat)
  rw [Bool.eq_iff_iff, beq_iff_eq, decide_eq_true_eq, ← UInt8.toNat_inj, low]
  rfl

theorem high_bit (a : UInt8) : (a >>> 7 == 1) = decide (128 ≤ a.toNat) := by
  have below := a.toNat_lt
  have high : (a >>> 7).toNat = a.toNat / 2 ^ 7 :=
    (UInt8.toNat_shiftRight a 7).trans (Nat.shiftRight_eq_div_pow a.toNat 7)
  rw [Bool.eq_iff_iff, beq_iff_eq, decide_eq_true_eq, ← UInt8.toNat_inj, high, UInt8.toNat_one]
  omega

end Outcome

namespace Machine

-- `n` is `m` after an operation on `Vx` that comes to `e`. A flag goes over the result if `Vx` is its register.
structure Computed (m : Machine) (x : Reg) (e : Exact) (n : Machine) : Prop where
  result : e.flag = none ∨ x ≠ flagReg → ((n.v x).toNat : Int) = e.result
  flag : ∀ flag, e.flag = some flag → n.v flagReg = if flag then 1 else 0
  others : ∀ k, k ≠ x → e.flag = none ∨ k ≠ flagReg → n.v k = m.v k
  pc : n.pc.toNat = (m.pc.toNat + 2) % 0x10000
  rest : n = { m with registers := n.registers, pc := n.pc }

theorem v_put_flag (m : Machine) (x : Reg) (o : Outcome) (flag : Bool) (flagged : o.flag = some flag) :
    (m.put x o).v flagReg = flagByte flag := by
  rw [put, flagged]
  exact v_set_same _ flagReg _

theorem v_put_result (m : Machine) (x : Reg) (o : Outcome) (stays : o.flag = none ∨ x ≠ flagReg) :
    (m.put x o).v x = o.value := by
  rw [put]
  cases flagged : o.flag with
  | none => exact v_set_same m x o.value
  | some flag =>
      have other : x ≠ flagReg := stays.resolve_left (by simp [flagged])
      exact (v_set_other _ flagReg _ x other).trans (v_set_same m x o.value)

theorem computed_of_put (m : Machine) (x : Reg) (o : Outcome) (e : Exact) (meets : o.Meets e) :
    Computed m x e (m.put x o).advance where
  result := fun stays => by
    rw [← meets.flag] at stays
    rw [← meets.value, ← v_put_result m x o stays]
    rfl
  flag := fun flag flagged => v_put_flag m x o flag (meets.flag.trans flagged)
  others := fun k other unflagged => by
    rw [← meets.flag] at unflagged
    exact v_put_other m x o k other unflagged
  pc := by
    rw [put_eq]
    exact UInt16.toNat_add m.pc 2
  rest := by
    rw [put_eq]
    rfl

-- One case for each operation: what it does to bytes is what its line of the table does to numbers.
theorem executes_operation (m : Machine) (w : Word) (operation : w.n ∈ [0, 1, 2, 3, 4, 5, 6, 7, 0xE]) :
    ∃ o e, m.execute (.withOperands w (.operation w.n)) = (m.put w.x o).advance ∧
      Exact.of? (m.v w.x).toNat (m.v w.y).toNat w.n = some e ∧ o.Meets e := by
  let a := m.v w.x
  let b := m.v w.y
  simp only [List.mem_cons, List.not_mem_nil, or_false] at operation
  rcases operation with n | n | n | n | n | n | n | n | n <;> rw [n]
  · exact ⟨Combination.copy.apply a b, _, rfl, rfl, rfl, rfl⟩
  · exact ⟨Combination.or.apply a b, _, rfl, rfl, congrArg Int.ofNat (UInt8.toNat_or a b), rfl⟩
  · exact ⟨Combination.and.apply a b, _, rfl, rfl, congrArg Int.ofNat (UInt8.toNat_and a b), rfl⟩
  · exact ⟨Combination.xor.apply a b, _, rfl, rfl, congrArg Int.ofNat (UInt8.toNat_xor a b), rfl⟩
  · exact ⟨Combination.add.apply a b, _, rfl, rfl, Outcome.sum_exact a b, rfl⟩
  · exact ⟨Combination.sub.apply a b, _, rfl, rfl, Outcome.difference_exact a b,
      congrArg some (Outcome.no_borrow a b)⟩
  · exact ⟨Shift.right.apply a, _, rfl, rfl, Outcome.half_exact a, congrArg some (Outcome.low_bit a)⟩
  · exact ⟨Combination.subFrom.apply a b, _, rfl, rfl, Outcome.difference_exact b a,
      congrArg some (Outcome.no_borrow b a)⟩
  · exact ⟨Shift.left.apply a, _, rfl, rfl, Outcome.double_exact a, congrArg some (Outcome.high_bit a)⟩

theorem register_arithmetic_exact (m : Machine) (w : Word) (group : w &&& 0xF000 = 0x8000)
    (operation : w.n ∈ [0, 1, 2, 3, 4, 5, 6, 7, 0xE]) :
    ∃ e, Exact.of? (m.v w.x).toNat (m.v w.y).toNat w.n = some e ∧ Computed m w.x e (m.execute (.ofWord w)) := by
  have known : ∀ n ∈ [0, 1, 2, 3, 4, 5, 6, 7, 0xE], Opcode.operation n ≠ .unknown := by decide
  obtain ⟨o, e, executed, result, meets⟩ := executes_operation m w operation
  rw [Instruction.ofWord, Opcode.of_word_operation w group (known w.n operation), executed]
  exact ⟨e, result, computed_of_put m w.x o e meets⟩

theorem flag_register_as_operand :
    let m := ({ fresh ⟨0x202, 1, 1, some 1, .clip⟩ [0, 0] ⟨0, 0⟩ with pc := 0xFFFF }.setV 3 100).setV flagReg 200
    let sum := m.execute (.ofWord 0x8F34)
    let difference := m.execute (.ofWord 0x83F5)
    Computed m 0xF ⟨44, some true⟩ sum ∧ sum.v 0xF = 1 ∧ sum.v 3 = 100 ∧ sum.pc.toNat = 1 ∧
      Computed m 3 ⟨156, some false⟩ difference ∧ (difference.v 3).toNat = 156 ∧ difference.v 0xF = 0 := by
  intro m sum difference
  obtain ⟨total, result, added⟩ := register_arithmetic_exact m 0x8F34 (by decide) (by decide)
  obtain rfl : total = ⟨44, some true⟩ := Option.some.inj (result.symm.trans (by decide +kernel))
  obtain ⟨remainder, result, subtracted⟩ := register_arithmetic_exact m 0x83F5 (by decide) (by decide)
  obtain rfl : remainder = ⟨156, some false⟩ := Option.some.inj (result.symm.trans (by decide +kernel))
  have kept : sum.v 3 = 100 := added.others 3 (by decide) (.inr (by decide))
  have borrowed : (difference.v 3).toNat = 156 := Int.ofNat.inj (subtracted.result (.inr (by decide)))
  exact ⟨added, added.flag true rfl, kept, added.pc.trans (by decide), subtracted, borrowed,
    subtracted.flag false rfl⟩

end Machine

end Chip8

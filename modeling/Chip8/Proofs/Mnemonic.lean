import Chip8.Machine.Dispatch
import Chip8.Mnemonic
import Chip8.Proofs.Decode

set_option autoImplicit false

namespace Chip8

namespace Mnemonic

open Text.Hex (fixed)

-- The text without the digits of its operands. They follow the mark of an operand up to the next comma.
def isMark (c : Char) : Bool := c == 'V' || c == '#' || c == '$'

def outline : Bool → List Char → List Char
  | _, [] => []
  | inDigits, c :: rest =>
    if c = ',' then c :: outline false rest
    else if inDigits then outline true rest
    else c :: outline (isMark c) rest

theorem outline_text (text rest : List Char) (plain : text.any isMark = false) :
    outline false (text ++ rest) = text ++ outline false rest := by
  induction text with
  | nil => rfl
  | cons c text ih =>
      obtain ⟨unmarked, later⟩ := Bool.or_eq_false_iff.mp plain
      simp [outline, unmarked, ih later]

theorem outline_tail (text rest : List Char) (comma : text.head? = some ',') (plain : text.any isMark = false) :
    outline true (text ++ rest) = text ++ outline false rest := by
  cases text with
  | nil => cases comma
  | cons c text =>
      have first : c = ',' := Option.some.inj comma
      have later := outline_text text rest (Bool.or_eq_false_iff.mp plain).2
      simp [outline, first, later]

theorem digit_ne_comma : ∀ d : Fin 16, Text.Hex.digit d ≠ ',' := by
  decide

theorem outline_fixed (width n : Nat) (rest : List Char) :
    outline true (fixed width n ++ rest) = outline true rest := by
  induction width generalizing n rest with
  | zero => rfl
  | succ width ih =>
      rw [fixed, List.append_assoc, ih, List.singleton_append, outline, if_neg (digit_ne_comma _), if_pos rfl]

theorem outline_operand (mark : Char) (width n : Nat) (rest : List Char) (marked : isMark mark = true)
    (noComma : mark ≠ ',') : outline false (mark :: (fixed width n ++ rest)) = mark :: outline true rest := by
  rw [outline, if_neg noComma, if_neg Bool.false_ne_true, marked, outline_fixed]

theorem outline_same_opcode (v w : Word) (o : Opcode) (rest : List Char) :
    outline false (chars (Instruction.withOperands v o) ++ rest) =
      outline false (chars (Instruction.withOperands w o) ++ rest) := by
  -- These two texts hold a mark of their own.
  have unknown : "UNKNOWN $".toList = "UNKNOWN ".toList ++ ['$'] := rfl
  have offset : "JP V0, ".toList = "JP ".toList ++ 'V' :: (fixed 1 0 ++ ", ".toList) := rfl
  cases o <;>
    simp (disch := decide) only [Instruction.withOperands, chars.eq_def, condition.eq_def, combination.eq_def,
      shift.eq_def, reg, const, address, unknown, offset, List.append_assoc, List.cons_append, List.nil_append,
      outline_text, outline_tail, outline_operand]

def outlineOf (o : Opcode) : List Char := outline false (chars (Instruction.withOperands 0 o))

theorem outline_of_number_injective :
    ∀ j k : Fin 36, outlineOf (Opcode.ofNat j) = outlineOf (Opcode.ofNat k) → j = k := by
  decide +kernel

theorem number_lt (o : Opcode) : o.ctorIdx < 36 := by
  cases o <;> decide

theorem outline_of_injective (o p : Opcode) (same : outlineOf o = outlineOf p) : o = p := by
  have numbers := outline_of_number_injective ⟨o.ctorIdx, number_lt o⟩ ⟨p.ctorIdx, number_lt p⟩
  rw [Opcode.ofNat_ctorIdx, Opcode.ofNat_ctorIdx] at numbers
  have number : o.ctorIdx = p.ctorIdx := congrArg Fin.val (numbers same)
  rw [← Opcode.ofNat_ctorIdx o, number, Opcode.ofNat_ctorIdx]

theorem outline_of_word (w : Word) :
    outline false (chars (Instruction.ofWord w)) = outlineOf (Opcode.ofWord w) := by
  have same := outline_same_opcode w 0 (Opcode.ofWord w) []
  rwa [List.append_nil, List.append_nil] at same

theorem fixed_append_iff (width a b : Nat) (r s : List Char) (aFits : a < Nat.pow 16 width) (bFits : b < Nat.pow 16 width) :
    fixed width a ++ r = fixed width b ++ s ↔ a = b ∧ r = s := by
  constructor
  · intro same
    have lengths : (fixed width a).length = (fixed width b).length := by
      rw [Text.Hex.length_fixed, Text.Hex.length_fixed]
    obtain ⟨digits, rest⟩ := List.append_inj same lengths
    have low := Text.Hex.fixed_injective width a b digits
    rw [Nat.mod_eq_of_lt aFits, Nat.mod_eq_of_lt bFits] at low
    exact ⟨low, rest⟩
  · rintro ⟨rfl, rfl⟩
    rfl

theorem nibble_append (x y : Nibble) (r s : List Char) :
    fixed 1 x.val ++ r = fixed 1 y.val ++ s ↔ x = y ∧ r = s := by
  rw [fixed_append_iff 1 _ _ r s x.isLt y.isLt, Fin.val_inj]

theorem reg_append (x y : Reg) (r s : List Char) : reg x ++ r = reg y ++ s ↔ x = y ∧ r = s := by
  rw [← nibble_append]
  exact List.cons_inj_right 'V'

theorem const_append (a b : UInt8) (r s : List Char) : const a ++ r = const b ++ s ↔ a = b ∧ r = s := by
  rw [← UInt8.toNat_inj, ← fixed_append_iff 2 _ _ r s a.toNat_lt b.toNat_lt]
  exact List.cons_inj_right '#'

theorem address_append (v w : Word) (r s : List Char) :
    address v.nnn ++ r = address w.nnn ++ s ↔ v.nnn = w.nnn ∧ r = s := by
  rw [← UInt16.toNat_inj, ← fixed_append_iff 3 _ _ r s v.nnn_lt w.nnn_lt]
  exact List.cons_inj_right '$'

theorem word_append (v w : Word) (r s : List Char) :
    fixed 4 v.toNat ++ r = fixed 4 w.toNat ++ s ↔ v = w ∧ r = s := by
  rw [fixed_append_iff 4 _ _ r s v.toNat_lt w.toNat_lt, UInt16.toNat_inj]

theorem operands_of_text (v w : Word) (o : Opcode) (rest : List Char)
    (same : chars (Instruction.withOperands v o) ++ rest = chars (Instruction.withOperands w o) ++ rest) :
    Instruction.withOperands v o = Instruction.withOperands w o := by
  cases o <;>
    simp_all only [Instruction.withOperands, chars.eq_def, condition.eq_def, List.append_assoc, List.cons_append,
      List.append_cancel_left_eq, List.cons.injEq, nibble_append, reg_append, const_append, address_append,
      word_append, and_true, true_and]

theorem instruction_of_text (v w : Word) (same : v.mnemonic = w.mnemonic) :
    Instruction.ofWord v = Instruction.ofWord w := by
  have text : chars (Instruction.ofWord v) = chars (Instruction.ofWord w) := String.ofList_injective same
  have shape : Opcode.ofWord v = Opcode.ofWord w := by
    apply outline_of_injective
    rw [← outline_of_word, ← outline_of_word, text]
  have tailed := congrArg (fun chars => chars ++ []) text
  rw [Instruction.ofWord, Instruction.ofWord, ← shape] at tailed ⊢
  exact operands_of_text v w _ [] tailed

end Mnemonic

namespace Word

-- Whatever the machine, the two words do the same to it and raise the same fault in it, as instructions and
-- as decoded words with all their fields.
def RunsAs (v w : Word) : Prop :=
  ∀ m : Machine, m.execute (Instruction.ofWord v) = m.execute (Instruction.ofWord w) ∧
    m.faultOf (Instruction.ofWord v) = m.faultOf (Instruction.ofWord w) ∧
    m.dispatch (Decoded.ofWord v) = m.dispatch (Decoded.ofWord w) ∧
    m.checkFault (Decoded.ofWord v) = m.checkFault (Decoded.ofWord w)

theorem runs_as_of_instruction (v w : Word) (same : Instruction.ofWord v = Instruction.ofWord w) : v.RunsAs w := by
  intro m
  rw [m.dispatch_of_word v, m.dispatch_of_word w, m.check_fault_of_word v, m.check_fault_of_word w, same]
  exact ⟨rfl, rfl, rfl, rfl⟩

theorem mnemonic_determines_execution (v w : Word) :
    (v.mnemonic = w.mnemonic ↔ Instruction.ofWord v = Instruction.ofWord w) ∧
      (v.mnemonic = w.mnemonic ↔ v.SameShown w) ∧
      (v.mnemonic = w.mnemonic → Opcode.ofWord v = Opcode.ofWord w ∧ v.RunsAs w) ∧
      (v.SameShown w → v.RunsAs w) := by
  have text : v.mnemonic = w.mnemonic ↔ Instruction.ofWord v = Instruction.ofWord w :=
    ⟨Mnemonic.instruction_of_text v w, fun same => by rw [mnemonic, mnemonic, same]⟩
  have shown : Instruction.ofWord v = Instruction.ofWord w ↔ v.SameShown w :=
    ⟨same_shown_of_instruction v w, instruction_of_same_shown v w⟩
  refine ⟨text, text.trans shown, ?_, ?_⟩
  · intro sameText
    have same := text.mp sameText
    exact ⟨opcode_of_instruction v w same, runs_as_of_instruction v w same⟩
  · intro sameShown
    exact runs_as_of_instruction v w (shown.mpr sameShown)

theorem hidden_nibbles_run_the_same :
    mnemonic 0x5120 = mnemonic 0x5127 ∧ Decoded.ofWord 0x5120 ≠ Decoded.ofWord 0x5127 ∧ RunsAs 0x5120 0x5127 ∧
      SameShown 0x8126 0x81F6 ∧ Decoded.ofWord 0x8126 ≠ Decoded.ofWord 0x81F6 ∧ RunsAs 0x8126 0x81F6 := by
  have skip : mnemonic 0x5120 = mnemonic 0x5127 := by decide
  have shift : SameShown 0x8126 0x81F6 := by decide
  exact ⟨skip, by decide, ((mnemonic_determines_execution 0x5120 0x5127).2.2.1 skip).2, shift, by decide,
    (mnemonic_determines_execution 0x8126 0x81F6).2.2.2 shift⟩

end Word

end Chip8

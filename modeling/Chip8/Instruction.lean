import Chip8.Arithmetic
import Chip8.Opcode

set_option autoImplicit false

namespace Chip8

inductive Condition
  | eqConst (x : Reg) (kk : UInt8)
  | neConst (x : Reg) (kk : UInt8)
  | eqReg (x y : Reg)
  | neReg (x y : Reg)
  | key (x : Reg)
  | noKey (x : Reg)
deriving DecidableEq

inductive Instruction
  | unknown (word : Word)
  | clear
  | ret
  -- A call of a native routine; there are none, so it resets the machine and jumps.
  | system (target : Word)
  | jump (target : Word)
  | call (target : Word)
  | skip (condition : Condition)
  | setConst (x : Reg) (kk : UInt8)
  | addConst (x : Reg) (kk : UInt8)
  | combine (operation : Combination) (x y : Reg)
  | shift (direction : Shift) (x : Reg)
  | setIndex (address : Word)
  | jumpOffset (base : Word)
  | random (x : Reg) (mask : UInt8)
  | draw (x y : Reg) (rows : Nibble)
  | readDelay (x : Reg)
  | awaitKey (x : Reg)
  | setDelay (x : Reg)
  | setSound (x : Reg)
  | addIndex (x : Reg)
  | glyph (x : Reg)
  | digits (x : Reg)
  | store (x : Reg)
  | load (x : Reg)
deriving DecidableEq

namespace Instruction

def withOperands (w : Word) : Opcode → Instruction
  | .unknown => .unknown w
  | .clear => .clear
  | .ret => .ret
  | .system => .system w.nnn
  | .jump => .jump w.nnn
  | .call => .call w.nnn
  | .skipEqConst => .skip (.eqConst w.x w.kk)
  | .skipNeConst => .skip (.neConst w.x w.kk)
  | .skipEqReg => .skip (.eqReg w.x w.y)
  | .setConst => .setConst w.x w.kk
  | .addConst => .addConst w.x w.kk
  | .copy => .combine .copy w.x w.y
  | .or => .combine .or w.x w.y
  | .and => .combine .and w.x w.y
  | .xor => .combine .xor w.x w.y
  | .add => .combine .add w.x w.y
  | .sub => .combine .sub w.x w.y
  | .shiftRight => .shift .right w.x
  | .subFrom => .combine .subFrom w.x w.y
  | .shiftLeft => .shift .left w.x
  | .skipNeReg => .skip (.neReg w.x w.y)
  | .setIndex => .setIndex w.nnn
  | .jumpOffset => .jumpOffset w.nnn
  | .random => .random w.x w.kk
  | .draw => .draw w.x w.y w.n
  | .skipKey => .skip (.key w.x)
  | .skipNoKey => .skip (.noKey w.x)
  | .readDelay => .readDelay w.x
  | .awaitKey => .awaitKey w.x
  | .setDelay => .setDelay w.x
  | .setSound => .setSound w.x
  | .addIndex => .addIndex w.x
  | .glyph => .glyph w.x
  | .digits => .digits w.x
  | .store => .store w.x
  | .load => .load w.x

def ofWord (w : Word) : Instruction := withOperands w (Opcode.ofWord w)

def opcode : Instruction → Opcode
  | .unknown _ => .unknown
  | .clear => .clear
  | .ret => .ret
  | .system _ => .system
  | .jump _ => .jump
  | .call _ => .call
  | .skip (.eqConst _ _) => .skipEqConst
  | .skip (.neConst _ _) => .skipNeConst
  | .skip (.eqReg _ _) => .skipEqReg
  | .skip (.neReg _ _) => .skipNeReg
  | .skip (.key _) => .skipKey
  | .skip (.noKey _) => .skipNoKey
  | .setConst _ _ => .setConst
  | .addConst _ _ => .addConst
  | .combine .copy _ _ => .copy
  | .combine .or _ _ => .or
  | .combine .and _ _ => .and
  | .combine .xor _ _ => .xor
  | .combine .add _ _ => .add
  | .combine .sub _ _ => .sub
  | .combine .subFrom _ _ => .subFrom
  | .shift .right _ => .shiftRight
  | .shift .left _ => .shiftLeft
  | .setIndex _ => .setIndex
  | .jumpOffset _ => .jumpOffset
  | .random _ _ => .random
  | .draw _ _ _ => .draw
  | .readDelay _ => .readDelay
  | .awaitKey _ => .awaitKey
  | .setDelay _ => .setDelay
  | .setSound _ => .setSound
  | .addIndex _ => .addIndex
  | .glyph _ => .glyph
  | .digits _ => .digits
  | .store _ => .store
  | .load _ => .load

theorem opcode_with_operands (w : Word) (o : Opcode) : (withOperands w o).opcode = o := by
  cases o <;> rfl

theorem opcode_of_word (w : Word) : (ofWord w).opcode = Opcode.ofWord w :=
  opcode_with_operands w (Opcode.ofWord w)

end Instruction

end Chip8

import Chip8.Word

set_option autoImplicit false

namespace Chip8

inductive Opcode
  | unknown
  | clear
  | ret
  | system
  | jump
  | call
  | skipEqConst
  | skipNeConst
  | skipEqReg
  | setConst
  | addConst
  | copy
  | or
  | and
  | xor
  | add
  | sub
  | shiftRight
  | subFrom
  | shiftLeft
  | skipNeReg
  | setIndex
  | jumpOffset
  | random
  | draw
  | skipKey
  | skipNoKey
  | readDelay
  | awaitKey
  | setDelay
  | setSound
  | addIndex
  | glyph
  | digits
  | store
  | load
deriving DecidableEq

namespace Opcode

def number (o : Opcode) : Nat := o.ctorIdx

def name : Opcode → String
  | unknown => "UNKNOWN"
  | clear => "CLEAR_SCREEN"
  | ret => "RETURN"
  | system => "MACHINE_CALL"
  | jump => "JUMP"
  | call => "CALL"
  | skipEqConst => "SKIP_IF_EQUAL_IMMEDIATE"
  | skipNeConst => "SKIP_IF_NOT_EQUAL_IMMEDIATE"
  | skipEqReg => "SKIP_IF_EQUAL_REGISTER"
  | setConst => "SET_IMMEDIATE"
  | addConst => "ADD_IMMEDIATE"
  | copy => "SET_REGISTER"
  | or => "OR"
  | and => "AND"
  | xor => "XOR"
  | add => "ADD_REGISTER"
  | sub => "SUB_XY"
  | shiftRight => "SHIFT_RIGHT"
  | subFrom => "SUB_YX"
  | shiftLeft => "SHIFT_LEFT"
  | skipNeReg => "SKIP_IF_NOT_EQUAL_REGISTER"
  | setIndex => "SET_INDEX"
  | jumpOffset => "JUMP_WITH_OFFSET"
  | random => "RANDOM"
  | draw => "DRAW"
  | skipKey => "SKIP_IF_KEY"
  | skipNoKey => "SKIP_IF_NOT_KEY"
  | readDelay => "GET_DELAY_TIMER"
  | awaitKey => "WAIT_FOR_KEY"
  | setDelay => "SET_DELAY_TIMER"
  | setSound => "SET_SOUND_TIMER"
  | addIndex => "ADD_TO_INDEX"
  | glyph => "FONT_CHARACTER"
  | digits => "STORE_BCD"
  | store => "STORE_REGISTERS"
  | load => "LOAD_REGISTERS"

structure Pattern where
  mask : Word
  value : Word
  opcode : Opcode

def Pattern.Matches (p : Pattern) (w : Word) : Prop := w &&& p.mask = p.value

instance (p : Pattern) (w : Word) : Decidable (p.Matches w) := by
  unfold Pattern.Matches
  infer_instance

def patterns : List Pattern :=
  [⟨0xFFFF, 0x00E0, clear⟩, ⟨0xFFFF, 0x00EE, ret⟩, ⟨0xF000, 0x0000, system⟩,
   ⟨0xF000, 0x1000, jump⟩, ⟨0xF000, 0x2000, call⟩, ⟨0xF000, 0x3000, skipEqConst⟩,
   ⟨0xF000, 0x4000, skipNeConst⟩, ⟨0xF000, 0x5000, skipEqReg⟩, ⟨0xF000, 0x6000, setConst⟩,
   ⟨0xF000, 0x7000, addConst⟩, ⟨0xF00F, 0x8000, copy⟩, ⟨0xF00F, 0x8001, or⟩,
   ⟨0xF00F, 0x8002, and⟩, ⟨0xF00F, 0x8003, xor⟩, ⟨0xF00F, 0x8004, add⟩,
   ⟨0xF00F, 0x8005, sub⟩, ⟨0xF00F, 0x8006, shiftRight⟩, ⟨0xF00F, 0x8007, subFrom⟩,
   ⟨0xF00F, 0x800E, shiftLeft⟩, ⟨0xF00F, 0x9000, skipNeReg⟩, ⟨0xF000, 0xA000, setIndex⟩,
   ⟨0xF000, 0xB000, jumpOffset⟩, ⟨0xF000, 0xC000, random⟩, ⟨0xF000, 0xD000, draw⟩,
   ⟨0xF0FF, 0xE09E, skipKey⟩, ⟨0xF0FF, 0xE0A1, skipNoKey⟩, ⟨0xF0FF, 0xF007, readDelay⟩,
   ⟨0xF0FF, 0xF00A, awaitKey⟩, ⟨0xF0FF, 0xF015, setDelay⟩, ⟨0xF0FF, 0xF018, setSound⟩,
   ⟨0xF0FF, 0xF01E, addIndex⟩, ⟨0xF0FF, 0xF029, glyph⟩, ⟨0xF0FF, 0xF033, digits⟩,
   ⟨0xF0FF, 0xF055, store⟩, ⟨0xF0FF, 0xF065, load⟩]

def ofWord (w : Word) : Opcode :=
  match patterns.find? (fun p => p.Matches w) with
  | some p => p.opcode
  | none => unknown

end Opcode

end Chip8

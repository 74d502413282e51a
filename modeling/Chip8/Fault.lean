import Chip8.Text.Hex

set_option autoImplicit false

namespace Chip8

inductive Fault
  | unknownOpcode
  | emptyStack
  | fullStack
  | memory
deriving DecidableEq

namespace Fault

def code : Fault → UInt8
  | unknownOpcode => 1
  | emptyStack => 2
  | fullStack => 3
  | memory => 4

def ofCode? (c : UInt8) : Option Fault :=
  if c = 1 then some unknownOpcode
  else if c = 2 then some emptyStack
  else if c = 3 then some fullStack
  else if c = 4 then some memory
  else none

theorem of_code_code (f : Fault) : ofCode? f.code = some f := by
  cases f <;> rfl

theorem code_ne_zero (f : Fault) : f.code ≠ 0 := by
  cases f <;> decide

def label : Fault → String
  | unknownOpcode => "UnknownOpcode"
  | emptyStack => "StackUnderflow"
  | fullStack => "StackOverflow"
  | memory => "MemoryFault"

def reason : Fault → String
  | unknownOpcode => "unknown opcode"
  | emptyStack => "return with empty call stack"
  | fullStack => "call stack full"
  | memory => "memory access out of bounds"

end Fault

structure FaultReport where
  cause : Option Fault
  pc : Int
  opcode : Option Int
  detail : String
deriving DecidableEq

namespace FaultReport

def code (r : FaultReport) : UInt8 := (r.cause.map Fault.code).getD 0

def reason (r : FaultReport) : String := (r.cause.map Fault.reason).getD "machine fault"

def opcodeText : Option Int → String
  | some word => " (opcode 0x" ++ Text.Hex.padded 4 word ++ ")"
  | none => ""

def detailText (detail : String) : String := if detail = "" then "" else ": " ++ detail

def message (r : FaultReport) : String :=
  r.reason ++ " at 0x" ++ Text.Hex.padded 3 r.pc ++ opcodeText r.opcode ++ detailText r.detail

end FaultReport

end Chip8

import Chip8.Log.Picture
import Chip8.Mnemonic
import Chip8.Value

set_option autoImplicit false

namespace Chip8.Logger

def startText (settings : List (String × Value)) : String :=
  framed "Starting emulation with configuration:"
    (settings.map fun field => "  " ++ field.1 ++ ": " ++ field.2.display)

def writeStart (log : Logger) (now : Float) (settings : List (String × Value)) : List String :=
  log.write now .info (startText settings)

def statistic : Value → String
  | .real x => Decimal.fixed 4 x
  | value => value.display

def endText (elapsed : Float) (statistics : List (String × Value)) : String :=
  framed ("Emulation finished in " ++ Decimal.fixed 2 elapsed ++ "s")
    (statistics.map fun field => "  " ++ field.1 ++ ": " ++ statistic field.2)

def writeEnd (log : Logger) (now : Float) (statistics : List (String × Value)) : List String :=
  log.write now .info (endText (log.elapsed now) statistics)

def traceText (pc opcode : Int) : String :=
  Text.Hex.padded 4 pc ++ ": " ++ Text.Hex.padded 4 opcode ++ "  " ++ (Word.low opcode).mnemonic

-- Trace the instruction that is about to run. It is counted whether or not it is printed.
def trace (log : Logger) (now : Float) (pc opcode : Int) : Logger × List String :=
  ({ log with traced := log.traced + 1 }, log.write now .debug (traceText pc opcode))

def faultText (message : String) : String := "Machine fault: " ++ message

def writeFault (log : Logger) (now : Float) (message : String) : List String :=
  log.write now .error (faultText message)

def keyWaitText (register pc : Int) : String :=
  "Waiting for key into V" ++ Text.Hex.padded 0 register ++ " (pc=0x" ++ Text.Hex.padded 3 pc ++ ")"

def writeKeyWait (log : Logger) (now : Float) (register pc : Int) : List String :=
  log.write now .warning (keyWaitText register pc)

def writePicture (log : Logger) (now : Float) (p : Picture) (on off : String) : List String :=
  log.write now .info (p.text on off)

end Chip8.Logger

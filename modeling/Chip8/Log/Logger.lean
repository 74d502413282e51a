import Chip8.Decimal.Fixed
import Chip8.Log.Level
import Chip8.Text.Lines
import Chip8.Text.Padding
import Chip8.Text.Quoted

set_option autoImplicit false

namespace Chip8

inductive LogError
  | badThreshold (given : String)
  | unknownLevel
  | noRows
  | unevenColumns
deriving DecidableEq

def LogError.message : LogError → String
  | .badThreshold given =>
      "log level must be one of " ++ String.intercalate ", " (Level.all.map Level.name) ++
        ", got " ++ Text.quoted given
  | .unknownLevel => "tuple.index(x): x not in tuple"
  | .noRows => "tuple index out of range"
  | .unevenColumns => ""

structure Logger where
  name : String
  threshold : Level
  colors : Bool
  timestamps : Bool
  started : Float
  traced : Nat

namespace Logger

def threshold? (given : String) : Except LogError Level :=
  match Level.ofName? given with
  | some level => .ok level
  | none => .error (.badThreshold given)

def create (name level : String) (colors terminal timestamps : Bool) (now : Float) :
    Except LogError Logger :=
  (threshold? level).map fun threshold => ⟨name, threshold, colors && terminal, timestamps, now, 0⟩

def setThreshold (log : Logger) (given : String) : Except LogError Logger :=
  (threshold? given).map fun threshold => { log with threshold := threshold }

def Enabled (log : Logger) (level : Level) : Prop := log.threshold.rank ≤ level.rank

instance (log : Logger) (level : Level) : Decidable (log.Enabled level) := by
  unfold Enabled
  infer_instance

def levelOf (name : String) : Except LogError Level :=
  match Level.ofName? name with
  | some level => .ok level
  | none => .error .unknownLevel

def enabledFor (log : Logger) (name : String) : Except LogError Bool :=
  (levelOf name).map fun level => decide (log.Enabled level)

def elapsed (log : Logger) (now : Float) : Float := now - log.started

def stamp (log : Logger) (now : Float) : String :=
  if log.timestamps then "[" ++ Text.flushRight 8 (Decimal.fixed 2 (log.elapsed now)) ++ "s]" else ""

def tag (log : Logger) (level : Level) : String :=
  let plain := "[" ++ Text.flushRight 7 level.name ++ "]"
  if log.colors then level.color ++ plain ++ "\x1b[0m" else plain

def head (log : Logger) (now : Float) (level : Level) : String :=
  log.stamp now ++ log.tag level ++ "[" ++ log.name ++ "]"

def write (log : Logger) (now : Float) (level : Level) (message : String) : List String :=
  if log.Enabled level then
    (Text.printedLines message).map fun line => log.head now level ++ " " ++ line
  else []

def writeNamed (log : Logger) (now : Float) (name message : String) : Except LogError (List String) :=
  (levelOf name).map fun level => log.write now level message

def rule : String := String.ofList (List.replicate 60 '=')

def joinLines (lines : List String) : String := String.intercalate "\n" lines

def framed (title : String) (lines : List String) : String :=
  joinLines (rule :: title :: (lines ++ [rule]))

end Logger

def printed (lines : List String) : String := String.join (lines.map (· ++ "\n"))

end Chip8

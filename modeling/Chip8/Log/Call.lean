import Chip8.Log.Entry

set_option autoImplicit false

namespace Chip8

inductive LogCall
  | setLevel (given : String)
  | plain (level : Level) (text : String)
  | named (level text : String)
  | titled (level title : String) (lines : List String)
  | start (settings : List (String × Value))
  | finish (statistics : List (String × Value))
  | instruction (pc opcode : Int)
  | keyWait (register pc : Int)
  | fault (reason : String)
  | picture (p : Picture) (on off : String)

namespace Logger

def orNothing (log : Logger) : Except LogError (List String) → Logger × List String
  | .ok lines => (log, lines)
  | .error _ => (log, [])

def perform (log : Logger) (now : Float) : LogCall → Logger × List String
  | .setLevel given => match log.setThreshold given with
      | .ok next => (next, [])
      | .error _ => (log, [])
  | .plain level text => (log, log.write now level text)
  | .named level text => log.orNothing (log.writeNamed now level text)
  | .titled level title lines => log.orNothing (log.writeNamed now level (framed title lines))
  | .start settings => (log, log.writeStart now settings)
  | .finish statistics => (log, log.writeEnd now statistics)
  | .instruction pc opcode => log.trace now pc opcode
  | .keyWait register pc => (log, log.writeKeyWait now register pc)
  | .fault reason => (log, log.writeFault now reason)
  | .picture p on off => (log, log.writePicture now p on off)

def record (log : Logger) : List (Float × LogCall) → List (List String)
  | [] => []
  | (now, call) :: later => (log.perform now call).2 :: (log.perform now call).1.record later

end Logger

end Chip8

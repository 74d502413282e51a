import Chip8.Host.Arguments
import Chip8.Host.Session

/-!
The command line: runs a program without an input device and prints its final display.

    chip8 rom=games/PONG max_cycles=20000 machine.clip_sprites=false
-/

set_option autoImplicit false

namespace Chip8.CommandLine

def clock : IO Float := do
  return (← IO.monoMsNow).toFloat / 1000

def put (lines : List String) : IO Unit := do
  IO.print (printed lines)
  (← IO.getStdout).flush

def fail (text : String) : IO UInt32 := do
  IO.eprintln text
  return 1

def play (host core : Logger) (settings : Settings) (program : List UInt8) : IO UInt32 := do
  match Session.boot settings program with
  | .error cause => fail cause.message
  | .ok (plan, machine) =>
    match Tally.finish plan machine with
    | .ended t why =>
      put (Session.stopLines host core (← clock) t why)
      put (Session.closingLines host (← clock) plan t why)
      return 0
    | .failed cause => fail cause.message
    | .running _ => fail SessionError.noProgress.message

def run (settings : Settings) (rom : String) : IO UInt32 := do
  let terminal ← (← IO.getStdout).isTty
  let started ← clock
  match Session.hostLog settings terminal started with
  | .error cause => fail cause.message
  | .ok host =>
    put (host.writeStart (← clock) settings)
    let program ← IO.FS.readBinFile rom
    play host (Session.coreLog terminal started) settings program.toList

end Chip8.CommandLine

def main (arguments : List String) : IO UInt32 := do
  match Chip8.Settings.ofArguments arguments with
  | .error argument => Chip8.CommandLine.fail ("not of the form name=value: " ++ argument)
  | .ok given =>
    match given.lookup "rom" with
    | some (.text rom) =>
      Chip8.CommandLine.run (Chip8.Settings.layOver (Chip8.Settings.defaults rom) given) rom
    | _ => Chip8.CommandLine.fail "a program is needed: rom=FILE"

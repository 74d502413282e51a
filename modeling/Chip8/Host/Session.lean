import Chip8.Host.Settings
import Chip8.Monitor

set_option autoImplicit false

namespace Chip8

inductive SessionError
  | log (cause : LogError)
  | setting (cause : SettingError)
  | seedBeyond64Bits
  | create (cause : CreateError)
  | budgetBeyond32Bits
  | badFaultCode (code : UInt8)
  | noProgress
deriving DecidableEq

def SessionError.message : SessionError → String
  | .log cause => cause.message
  | .setting cause => cause.message
  | .seedBeyond64Bits => "the seed does not fit 64 bits"
  | .create cause => cause.message
  | .budgetBeyond32Bits => "the cycles of a frame do not fit 32 bits"
  | .badFaultCode code => "no fault has code " ++ toString code
  | .noProgress => "frames of no cycles never end"

inductive Ending
  | budget
  | keyWait
  | fault (report : FaultReport)
deriving DecidableEq

def Ending.text : Ending → String
  | .budget => "cycle budget"
  | .keyWait => "key wait"
  | .fault report => (report.cause.map Fault.label).getD "MachineFault"

structure Tally where
  machine : Machine
  cycles : Nat
  frames : Nat
  redraws : Nat
deriving DecidableEq

inductive FrameResult
  | running (t : Tally)
  | ended (t : Tally) (why : Ending)
  | failed (cause : SessionError)
deriving DecidableEq

namespace Tally

def start (m : Machine) : Tally := ⟨m, 0, 0, 0⟩

def count (t : Tally) (r : Run) : Tally :=
  ⟨r.machine, t.cycles + r.steps, t.frames + 1, t.redraws + if r.redraw then 1 else 0⟩

def allowance (p : Plan) (t : Tally) : Int := min p.perFrame (p.maxCycles - t.cycles)

def judge (t : Tally) : FrameResult :=
  match t.machine.alarm? with
  | some (.fault report) => .ended t (.fault report)
  | some (.badCode code) => .failed (.badFaultCode code)
  | none => if t.machine.awaitsKey then .ended t .keyWait else .running t

def frame (p : Plan) (t : Tally) : FrameResult :=
  match budget? (t.allowance p) with
  | none => .failed .budgetBeyond32Bits
  | some budget => (t.count (t.machine.run budget)).judge

-- Run frames until the session ends. Frames that make progress number at most `limit` when it is the cycle
-- budget, so a session that is still running then never ends.
def drive (p : Plan) : Nat → Tally → FrameResult
  | 0, t => if p.maxCycles ≤ t.cycles then .ended t .budget else .failed .noProgress
  | limit + 1, t =>
    if p.maxCycles ≤ t.cycles then .ended t .budget
    else match t.frame p with
      | .running next => drive p limit next
      | result => result

def finish (p : Plan) (m : Machine) : FrameResult := drive p p.maxCycles.toNat (start m)

end Tally

namespace Session

def coreLog (colors : Bool) (now : Float) : Logger := ⟨"chip8vm", .warning, colors, true, now, 0⟩

def hostLog (settings : Settings) (terminal : Bool) (now : Float) : Except SessionError Logger :=
  match settings.textAt "log_level" with
  | .error cause => .error (.setting cause)
  | .ok level => (Logger.create "host" level true terminal true now).mapError .log

def boot (settings : Settings) (program : List UInt8) : Except SessionError (Plan × Machine) := do
  let plan ← settings.plan.mapError .setting
  match Random.key? plan.seed with
  | none => .error .seedBeyond64Bits
  | some key =>
    let config ← settings.config.mapError .setting
    let machine ← (Machine.create config (.raw program) key).mapError .create
    return (plan, machine)

def stopLines (host core : Logger) (now : Float) (t : Tally) : Ending → List String
  | .budget => []
  | .keyWait => host.writeKeyWait now t.machine.waitRegister.toNat t.machine.pc.toNat
  | .fault report => core.writeFault now report.message

def statistics (t : Tally) (why : Ending) : List (String × Value) :=
  [("stopped_by", .text why.text), ("cycles", .int t.cycles), ("frames", .int t.frames),
   ("redraws", .int t.redraws), ("pc", .text ("0x" ++ Text.Hex.padded 3 t.machine.pc.toNat)),
   ("sound_playing", .bool t.machine.sounding)]

def closingLines (host : Logger) (now : Float) (p : Plan) (t : Tally) (why : Ending) : List String :=
  (if p.showDisplay then host.writePicture now (.ofDisplay t.machine.display) "#" "." else []) ++
    host.writeEnd now (statistics t why)

end Session

structure Transcript where
  lines : List String
  error : Option SessionError

namespace Session

def perform (host core : Logger) (now : Float) (settings : Settings) (program : List UInt8) : Transcript :=
  match boot settings program with
  | .error cause => ⟨[], some cause⟩
  | .ok (plan, machine) =>
    match Tally.finish plan machine with
    | .ended t why => ⟨stopLines host core now t why ++ closingLines host now plan t why, none⟩
    | .failed cause => ⟨[], some cause⟩
    | .running _ => ⟨[], some .noProgress⟩

def transcript (settings : Settings) (program : List UInt8) (now : Float) : Transcript :=
  match hostLog settings false now with
  | .error cause => ⟨[], some cause⟩
  | .ok host =>
    let rest := perform host (coreLog false now) now settings program
    ⟨host.writeStart now settings ++ rest.lines, rest.error⟩

end Session

end Chip8

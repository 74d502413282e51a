import Chip8.Log.Entry
import Chip8.Machine.Run

set_option autoImplicit false

namespace Chip8

inductive Alarm
  | fault (report : FaultReport)
  | badCode (code : UInt8)
deriving DecidableEq

namespace Machine

def fetch? (m : Machine) : Option Word := if m.CanFetch then some m.fetch else none

def faultDetail (m : Machine) (f : Fault) : String :=
  if f = .memory then
    if m.CanFetch then
      "I=0x" ++ Text.Hex.padded 4 m.index.toNat ++ ", memory size " ++ toString m.memory.size
    else "instruction fetch past end of memory (" ++ toString m.memory.size ++ " bytes)"
  else ""

def faultReport (m : Machine) (f : Fault) : FaultReport :=
  ⟨some f, m.pc.toNat, m.fetch?.map fun word => (word.toNat : Int), m.faultDetail f⟩

def alarm? (m : Machine) : Option Alarm :=
  if m.fault = 0 then none
  else match Fault.ofCode? m.fault with
    | some f => some (.fault (m.faultReport f))
    | none => some (.badCode m.fault)

end Machine

def Logger.writeAlarm (log : Logger) (now : Float) : Alarm → List String
  | .fault report => log.writeFault now report.message
  | .badCode _ => []

structure MonitoredStep where
  log : Logger
  lines : List String
  result : Except Alarm Machine

namespace Machine

def traceNext (m : Machine) (log : Logger) (now : Float) : Logger × List String :=
  if log.Enabled .debug ∧ m.CanFetch then log.trace now m.pc.toNat m.fetch.toNat else (log, [])

def monitoredStep (m : Machine) (log : Logger) (now : Float) : MonitoredStep :=
  let traced := m.traceNext log now
  let after := m.step
  match after.alarm? with
  | some alarm => ⟨traced.1, traced.2 ++ traced.1.writeAlarm now alarm, .error alarm⟩
  | none => ⟨traced.1, traced.2, .ok after⟩

end Machine

end Chip8

import Chip8.Machine.Create
import Chip8.Value

set_option autoImplicit false

namespace Chip8

abbrev Settings := List (String × Value)

namespace Settings

def put (merge : Value → Value → Value) (name : String) (value : Value) : Settings → Settings
  | [] => [(name, value)]
  | (n, old) :: rest =>
    if n = name then (n, merge old value) :: rest else (n, old) :: put merge name value rest

def replace (_ given : Value) : Value := given

def overlay : Value → Value → Value
  | .record old, .record given =>
    .record (given.foldl (fun fields field => put replace field.1 field.2 fields) old)
  | _, given => given

def layOver (base given : Settings) : Settings :=
  given.foldl (fun fields field => put overlay field.1 field.2 fields) base

def defaults (rom : String) : Settings :=
  [("rom", .text rom), ("seed", .int 0), ("max_cycles", .int 5000), ("cycles_per_frame", .int 8),
   ("log_level", .text "INFO"), ("show_display", .bool true), ("progress", .bool true),
   ("machine", .record [("memory_size", .int 4096), ("width", .int 64), ("height", .int 32),
     ("stack_size", .null), ("clip_sprites", .bool true)])]

end Settings

inductive SettingError
  | badValue (name : String)
  | unknownMachineSetting (name : String)
deriving DecidableEq

def SettingError.message : SettingError → String
  | .badValue name => "bad value for " ++ name
  | .unknownMachineSetting name => "create_state() got an unexpected keyword argument " ++ Text.quoted name

structure Plan where
  seed : Int
  maxCycles : Int
  perFrame : Int
  showDisplay : Bool
deriving DecidableEq

namespace Settings

def intAt (s : Settings) (name : String) : Except SettingError Int :=
  match (s.lookup name).bind Value.int? with
  | some n => .ok n
  | none => .error (.badValue name)

def textAt (s : Settings) (name : String) : Except SettingError String :=
  match s.lookup name with
  | some (.text t) => .ok t
  | _ => .error (.badValue name)

def flagAt (s : Settings) (name : String) : Bool := ((s.lookup name).map Value.truthy).getD false

def plan (s : Settings) : Except SettingError Plan := do
  let seed ← s.intAt "seed"
  let maxCycles ← s.intAt "max_cycles"
  let perFrame ← s.intAt "cycles_per_frame"
  return ⟨seed, maxCycles, perFrame, s.flagAt "show_display"⟩

def machineNames : List String := ["memory_size", "width", "height", "stack_size", "clip_sprites"]

def configOf (fields : Settings) : Except SettingError Config :=
  match fields.find? fun field => !machineNames.contains field.1 with
  | some field => .error (.unknownMachineSetting field.1)
  | none => do
    let memorySize ← intAt fields "memory_size"
    let width ← intAt fields "width"
    let height ← intAt fields "height"
    let edges := if flagAt fields "clip_sprites" then Edges.clip else Edges.wrap
    match fields.lookup "stack_size" with
    | some .null => return ⟨memorySize, width, height, none, edges⟩
    | _ => return ⟨memorySize, width, height, some (← intAt fields "stack_size"), edges⟩

def config (s : Settings) : Except SettingError Config :=
  match s.lookup "machine" with
  | some (.record fields) => configOf fields
  | _ => .error (.badValue "machine")

end Settings

end Chip8

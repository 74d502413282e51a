import Chip8.Host.Settings

set_option autoImplicit false

namespace Chip8

def Value.ofArgument (s : String) : Value :=
  if s = "null" then .null
  else if s = "true" then .bool true
  else if s = "false" then .bool false
  else match s.toInt? with
    | some n => .int n
    | none => .text s

namespace Settings

def cut? (mark : Char) (text : List Char) : Option (String × String) :=
  match text.dropWhile (· != mark) with
  | [] => none
  | _ :: rest => some (String.ofList (text.takeWhile (· != mark)), String.ofList rest)

def named (name : String) (value : Value) : String × Value :=
  match cut? '.' name.toList with
  | some (group, inner) => (group, .record [(inner, value)])
  | none => (name, value)

def ofArgument? (argument : String) : Option (String × Value) :=
  (cut? '=' argument.toList).map fun parts => named parts.1 (Value.ofArgument parts.2)

def ofArguments : List String → Except String Settings
  | [] => .ok []
  | argument :: rest =>
    match ofArgument? argument with
    | none => .error argument
    | some field => (ofArguments rest).map fun more => layOver [field] more

end Settings

end Chip8

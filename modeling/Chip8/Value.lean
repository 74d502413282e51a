import Chip8.Decimal.Shortest
import Chip8.Text.Quoted

set_option autoImplicit false

namespace Chip8

inductive Value
  | null
  | bool (b : Bool)
  | int (n : Int)
  | real (x : Float)
  | text (s : String)
  | list (items : List Value)
  | record (fields : List (String × Value))

namespace Value

def separated (parts : List String) : String := String.intercalate ", " parts

mutual
def literal : Value → String
  | .null => "None"
  | .bool b => if b then "True" else "False"
  | .int n => toString n
  | .real x => Decimal.shortestText x
  | .text s => Text.quoted s
  | .list items => "[" ++ separated (literals items) ++ "]"
  | .record fields => "\x7b" ++ separated (fieldLiterals fields) ++ "\x7d"
def literals : List Value → List String
  | [] => []
  | item :: rest => item.literal :: literals rest
def fieldLiterals : List (String × Value) → List String
  | [] => []
  | (name, value) :: rest => (Text.quoted name ++ ": " ++ value.literal) :: fieldLiterals rest
end

def display : Value → String
  | .text s => s
  | value => value.literal

def truthy : Value → Bool
  | .null => false
  | .bool b => b
  | .int n => n != 0
  | .real x => x != 0
  | .text s => s != ""
  | .list items => !items.isEmpty
  | .record fields => !fields.isEmpty

def int? : Value → Option Int
  | .int n => some n
  | .bool b => some (if b then 1 else 0)
  | _ => none

end Value

end Chip8

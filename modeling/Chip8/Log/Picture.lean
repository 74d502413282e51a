import Chip8.Display.Basic
import Chip8.Log.Logger

set_option autoImplicit false

namespace Chip8

structure Picture where
  width : Nat
  height : Nat
  lit : Nat → Nat → Bool

namespace Picture

def ofDisplay (d : Display) : Picture := ⟨d.width, d.height, fun x y => d.get x y != 0⟩

def ofColumns (columns : List (List Bool)) : Except LogError Picture :=
  match columns with
  | [] => .error .noRows
  | first :: rest =>
    if rest.all fun column => column.length == first.length then
      .ok ⟨columns.length, first.length, fun x y => (columns.getD x []).getD y false⟩
    else .error .unevenColumns

def cellText (text : String) : String :=
  String.ofList ((text.toList.reverse.dropWhile (· == '\x00')).reverse)

def rowText (p : Picture) (on off : String) (y : Nat) : String :=
  String.join ((List.range p.width).map fun x => cellText (if p.lit x y then on else off))

def text (p : Picture) (on off : String) : String :=
  Logger.joinLines (("Display " ++ toString p.width ++ "x" ++ toString p.height ++ ":") ::
    (List.range p.height).map (p.rowText on off))

end Picture

end Chip8

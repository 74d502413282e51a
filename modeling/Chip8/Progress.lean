import Chip8.Text.Padding

set_option autoImplicit false

namespace Chip8

structure Progress where
  description : String
  total : Int
  done : Int

namespace Progress

def unit : String := "cycle"

def describe (total : Int) : String := "Emulating (" ++ Text.grouped total ++ " cycles)"

def start (total : Int) (description : Option String) (initial : Int) : Progress :=
  ⟨description.getD (describe total), total, initial⟩

def update (p : Progress) (amount : Int) : Progress := { p with done := p.done + amount }

end Progress

end Chip8

set_option autoImplicit false

namespace Chip8

inductive Level
  | debug
  | info
  | warning
  | error
deriving DecidableEq

namespace Level

def all : List Level := [debug, info, warning, error]

def name : Level → String
  | debug => "DEBUG"
  | info => "INFO"
  | warning => "WARNING"
  | error => "ERROR"

def rank : Level → Nat
  | debug => 0
  | info => 1
  | warning => 2
  | error => 3

def color : Level → String
  | debug => "\x1b[36m"
  | info => "\x1b[32m"
  | warning => "\x1b[33m"
  | error => "\x1b[31m"

-- The capital of a letter of a level name. The dotless i has the same capital as i.
def capital (c : Char) : Char := if c = '\u0131' then 'I' else c.toUpper

def ofName? (name : String) : Option Level :=
  all.find? fun level => level.name.toList == name.toList.map capital

end Level

end Chip8

import Chip8.Text.Printed

set_option autoImplicit false

namespace Chip8.Text

def singleQuote : Char := '\x27'

def doubleQuote : Char := '\x22'

def quoteFor (text : List Char) : Char :=
  if text.contains singleQuote && !text.contains doubleQuote then doubleQuote else singleQuote

def smallHex : Nat → Nat → List Char
  | 0, _ => []
  | width + 1, n => smallHex width (n / 16) ++ [Nat.digitChar (n % 16)]

def numberEscape (c : Char) : List Char :=
  if c.toNat < 0x100 then '\\' :: 'x' :: smallHex 2 c.toNat
  else if c.toNat < 0x10000 then '\\' :: 'u' :: smallHex 4 c.toNat
  else '\\' :: 'U' :: smallHex 8 c.toNat

def escape (quote c : Char) : List Char :=
  if c = quote ∨ c = '\\' then ['\\', c]
  else if c = '\n' then ['\\', 'n']
  else if c = '\r' then ['\\', 'r']
  else if c = '\t' then ['\\', 't']
  else if isPrinted c then [c]
  else numberEscape c

def quoted (text : String) : String :=
  let quote := quoteFor text.toList
  String.ofList (quote :: (text.toList.flatMap (escape quote) ++ [quote]))

end Chip8.Text

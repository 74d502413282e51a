import Chip8.Word

set_option autoImplicit false

namespace Chip8

structure WordPair where
  a : UInt32
  b : UInt32
deriving DecidableEq

namespace Random

def rotateLeft (w : UInt32) (r : UInt32) : UInt32 := (w <<< r) ||| (w >>> (32 - r))

def mix (p : WordPair) (r : UInt32) : WordPair :=
  let a := p.a + p.b
  ⟨a, rotateLeft p.b r ^^^ a⟩

def addKey (p : WordPair) (a b : UInt32) : WordPair := ⟨p.a + a, p.b + b⟩

def evenRotations : List UInt32 := [13, 15, 26, 6]

def oddRotations : List UInt32 := [17, 29, 16, 24]

-- Twenty rounds on the counter, keyed anew after every four.
def block (key counter : WordPair) : WordPair :=
  let third := key.a ^^^ key.b ^^^ 0x1BD11BDA
  let p := addKey counter key.a key.b
  let p := addKey (evenRotations.foldl mix p) key.b (third + 1)
  let p := addKey (oddRotations.foldl mix p) third (key.a + 2)
  let p := addKey (evenRotations.foldl mix p) key.a (key.b + 3)
  let p := addKey (oddRotations.foldl mix p) key.b (third + 4)
  addKey (evenRotations.foldl mix p) third (key.a + 5)

def next (key : WordPair) : WordPair := block key ⟨0, 0⟩

def byte (key : WordPair) : UInt8 :=
  let drawn := block (block key ⟨0, 1⟩) ⟨0, 0⟩
  (drawn.a ^^^ drawn.b).toUInt8

def key? (seed : Int) : Option WordPair :=
  if FitsSigned 64 seed then some ⟨0, UInt32.ofInt seed⟩ else none

end Random

end Chip8

set_option autoImplicit false

namespace Chip8.Decimal

structure Binary where
  m : Nat
  q : Int
  -- The gap to the next value below is half the gap to the next one above.
  narrowBelow : Bool
deriving DecidableEq

inductive Double
  | nan
  | infinite (negative : Bool)
  | finite (negative : Bool) (magnitude : Binary)
deriving DecidableEq

namespace Double

def ofBits (bits : UInt64) : Double :=
  let b := bits.toNat
  let negative := b.testBit 63
  let e : Nat := (b >>> 52) % (1 <<< 11)
  let f : Nat := b % (1 <<< 52)
  if e = 0x7FF then if f = 0 then .infinite negative else .nan
  else if e = 0 then .finite negative ⟨f, -1074, false⟩
  else .finite negative ⟨(1 <<< 52) + f, (e : Int) - 1075, decide (f = 0 ∧ 1 < e)⟩

def ofFloat (x : Float) : Double := ofBits x.toBits

def sign (negative : Bool) : String := if negative then "-" else ""

def text (finite : Binary → String) : Double → String
  | .nan => "nan"
  | .infinite negative => sign negative ++ "inf"
  | .finite negative magnitude => sign negative ++ finite magnitude

end Double

def Binary.numerator (x : Binary) : Nat := x.m <<< x.q.toNat

def Binary.denominator (x : Binary) : Nat := 1 <<< (-x.q).toNat

end Chip8.Decimal

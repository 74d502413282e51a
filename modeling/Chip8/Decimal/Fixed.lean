import Chip8.Decimal.Double

set_option autoImplicit false

namespace Chip8.Decimal

def roundDiv (num den : Nat) : Nat :=
  let q := num / den
  let r := num % den
  if 2 * r < den then q
  else if den < 2 * r then q + 1
  else if q % 2 = 0 then q else q + 1

def pointed (places n : Nat) : String :=
  let fraction := (Nat.toDigits 10 (n % Nat.pow 10 places))
  toString (n / Nat.pow 10 places) ++ "." ++
    String.ofList (List.replicate (places - fraction.length) '0' ++ fraction)

def fixed (places : Nat) (x : Float) : String :=
  (Double.ofFloat x).text fun b =>
    pointed places (roundDiv (b.numerator * Nat.pow 10 places) b.denominator)

end Chip8.Decimal

import Chip8.Decimal.Double

set_option autoImplicit false

namespace Chip8.Decimal

structure Scaled where
  digits : Nat
  exponent : Int
deriving DecidableEq

def compareScaled (a : Nat) (i : Int) (n : Nat) (j : Int) : Ordering :=
  compare ((a * Nat.pow 10 i.toNat) <<< (-j).toNat) ((n * Nat.pow 10 (-i).toNat) <<< j.toNat)

-- `d` is among the reals that round to `x`. The ends of their interval belong to it when `m` is even.
def Binary.readsBack (x : Binary) (d : Scaled) : Bool :=
  let low := compareScaled d.digits d.exponent (if x.narrowBelow then 4 * x.m - 1 else 4 * x.m - 2) (x.q - 2)
  let high := compareScaled d.digits d.exponent (4 * x.m + 2) (x.q - 2)
  let ends := x.m % 2 == 0
  (low == .gt || (ends && low == .eq)) && (high == .lt || (ends && high == .eq))

def Binary.scale (x : Binary) : Int :=
  if x.denominator ≤ x.numerator then (Nat.toDigits 10 (x.numerator / x.denominator)).length
  else 1 - ((Nat.toDigits 10 ((x.denominator - 1) / x.numerator)).length : Int)

def Binary.units (x : Binary) (exponent : Int) : Nat :=
  x.numerator * Nat.pow 10 (-exponent).toNat / (x.denominator * Nat.pow 10 exponent.toNat)

def Binary.prefersLower (x : Binary) (lower : Scaled) : Bool :=
  match compareScaled (2 * lower.digits + 1) lower.exponent x.m (x.q + 1) with
  | .gt => true
  | .lt => false
  | .eq => lower.digits % 2 == 0

-- The one of the two neighbours of `x` on a decimal grid that reads back to it, or the nearer if both do.
def Binary.onGrid? (x : Binary) (exponent : Int) : Option Scaled :=
  let lower : Scaled := ⟨x.units exponent, exponent⟩
  let upper : Scaled := ⟨x.units exponent + 1, exponent⟩
  match x.readsBack lower, x.readsBack upper with
  | true, true => some (if x.prefersLower lower then lower else upper)
  | true, false => some lower
  | false, true => some upper
  | false, false => none

def Binary.exact (x : Binary) : Scaled :=
  if 0 ≤ x.q then ⟨x.m <<< x.q.toNat, 0⟩ else ⟨x.m * Nat.pow 5 (-x.q).toNat, x.q⟩

def Binary.shortest (x : Binary) : Scaled :=
  ((List.range 17).findSome? fun (n : Nat) => x.onGrid? (x.scale - (n + 1 : Nat))).getD x.exact

def Scaled.significant (d : Scaled) : List Char :=
  ((Nat.toDigits 10 d.digits).reverse.dropWhile (· == '0')).reverse

def Scaled.leading (d : Scaled) : Int := d.exponent + (Nat.toDigits 10 d.digits).length - 1

def exponentText (e : Int) : List Char :=
  let digits := Nat.toDigits 10 e.natAbs
  'e' :: (if e < 0 then '-' else '+') :: (List.replicate (2 - digits.length) '0' ++ digits)

-- Digits of which the first has exponent `e`. From `10 ^ -4` up to below `10 ^ 16` they are written out,
-- with a point and a digit behind it; else one digit stands before the point, and an exponent follows.
def layout (digits : List Char) (e : Int) : List Char :=
  if -4 ≤ e ∧ e < 16 then
    if e < 0 then '0' :: '.' :: (List.replicate (-e - 1).toNat '0' ++ digits)
    else if digits.length ≤ e.toNat + 1 then
      digits ++ List.replicate (e.toNat + 1 - digits.length) '0' ++ ['.', '0']
    else digits.take (e.toNat + 1) ++ '.' :: digits.drop (e.toNat + 1)
  else if digits.length ≤ 1 then digits ++ exponentText e
  else digits.take 1 ++ '.' :: digits.drop 1 ++ exponentText e

def shortestText (x : Float) : String :=
  (Double.ofFloat x).text fun b =>
    if b.m = 0 then "0.0"
    else String.ofList (layout b.shortest.significant b.shortest.leading)

end Chip8.Decimal

import Chip8.Word

set_option autoImplicit false

namespace Chip8

inductive Numbers
  | one (value : Int)
  | many (items : List Numbers)

mutual
def Numbers.flatten : Numbers → List Int
  | .one value => [value]
  | .many items => Numbers.flattenAll items
def Numbers.flattenAll : List Numbers → List Int
  | [] => []
  | item :: rest => item.flatten ++ Numbers.flattenAll rest
end

mutual
def Numbers.leading : Numbers → List Nat
  | .one _ => []
  | .many items => items.length :: Numbers.leadingOfFirst items
def Numbers.leadingOfFirst : List Numbers → List Nat
  | [] => []
  | first :: _ => first.leading
end

mutual
def Numbers.hasShape : List Nat → Numbers → Bool
  | [], .one _ => true
  | size :: inner, .many items => items.length == size && Numbers.allHaveShape inner items
  | _, _ => false
def Numbers.allHaveShape : List Nat → List Numbers → Bool
  | _, [] => true
  | shape, item :: rest => item.hasShape shape && Numbers.allHaveShape shape rest
end

def maxDimensions : Nat := 64

-- Nested lists make an array when all of them have the shape that the first ones begin.
def Numbers.Regular (values : Numbers) : Prop :=
  values.leading.length ≤ maxDimensions ∧ values.hasShape values.leading = true

instance (values : Numbers) : Decidable values.Regular := by
  unfold Numbers.Regular
  infer_instance

inductive Image
  | raw (bytes : List UInt8)
  | numbers (values : Numbers)

inductive ImageError
  | irregular
  | beyond64Bits
  | noByte
deriving DecidableEq

def ImageError.message : ImageError → String
  | .irregular => "the lists of the image are uneven or nested too deep"
  | .beyond64Bits => "Python int too large to convert to C long"
  | .noByte => "program bytes must be in the range 0-255"

namespace Image

def ofInts (values : List Int) : Except ImageError (List UInt8) :=
  if ∀ v ∈ values, FitsSigned 64 v then
    if ∀ v ∈ values, 0 ≤ v ∧ v < 256 then .ok (values.map UInt8.ofInt) else .error .noByte
  else .error .beyond64Bits

def Regular : Image → Prop
  | .raw _ => True
  | .numbers values => values.Regular

instance : (image : Image) → Decidable image.Regular
  | .raw _ => inferInstanceAs (Decidable True)
  | .numbers values => inferInstanceAs (Decidable values.Regular)

def bytes : Image → Except ImageError (List UInt8)
  | .raw bytes => .ok bytes
  | .numbers values => if values.Regular then ofInts values.flatten else .error .irregular

theorem of_ints_eq_ok_iff (values : List Int) (bs : List UInt8) :
    ofInts values = .ok bs ↔ (∀ v ∈ values, 0 ≤ v ∧ v < 256) ∧ bs = values.map UInt8.ofInt := by
  unfold ofInts
  constructor
  · intro h
    split at h
    · split at h
      · rename_i inRange
        exact ⟨inRange, (Except.ok.inj h).symm⟩
      · cases h
    · cases h
  · rintro ⟨inRange, rfl⟩
    have fits : ∀ v ∈ values, FitsSigned 64 v := by
      intro v member
      have range := inRange v member
      simp only [FitsSigned]
      omega
    rw [if_pos fits, if_pos inRange]

end Image

end Chip8

set_option autoImplicit false

namespace Chip8.Text.Hex

def digit (d : Fin 16) : Char :=
  if d.val < 10 then Char.ofNat (48 + d.val) else Char.ofNat (55 + d.val)

theorem digit_injective : ∀ a b : Fin 16, digit a = digit b → a = b := by
  decide

def fixed : Nat → Nat → List Char
  | 0, _ => []
  | width + 1, n => fixed width (n / 16) ++ [digit (Fin.ofNat 16 n)]

theorem length_fixed (width n : Nat) : (fixed width n).length = width := by
  induction width generalizing n with
  | zero => rfl
  | succ width ih => simp [fixed, ih]

theorem fixed_injective (width a b : Nat) (h : fixed width a = fixed width b) :
    a % Nat.pow 16 width = b % Nat.pow 16 width := by
  induction width generalizing a b with
  | zero => simp [Nat.mod_one]
  | succ width ih =>
      have parts := List.append_inj' h rfl
      have last : Fin.ofNat 16 a = Fin.ofNat 16 b := digit_injective _ _ (by simpa using parts.2)
      have low : a % 16 = b % 16 := by simpa [Fin.ofNat] using congrArg Fin.val last
      have high := ih _ _ parts.1
      rw [Nat.pow_eq] at high ⊢
      rw [Nat.pow_succ, Nat.mul_comm, Nat.mod_mul, Nat.mod_mul, low, high]

def digits (n : Nat) : List Char := (Nat.toDigits 16 n).map Char.toUpper

def padded (width : Nat) (n : Int) : String :=
  let sign := if n < 0 then ['-'] else []
  let ds := digits n.natAbs
  String.ofList (sign ++ List.replicate (width - (sign.length + ds.length)) '0' ++ ds)

end Chip8.Text.Hex

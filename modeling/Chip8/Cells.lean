set_option autoImplicit false

namespace Chip8.Cells

variable {α : Type}

-- A negative address counts once from the end. What is still outside reads as the nearest end, and a write
-- there is dropped.
def place (size : Nat) (i : Int) : Int := if i < 0 then i + size else i

theorem place_of_natural (size i : Nat) : place size i = i := by
  have natural : ¬ (i : Int) < 0 := by omega
  rw [place, if_neg natural]

def read [Inhabited α] (cells : Array α) (i : Int) : α :=
  cells.getD (min (place cells.size i).toNat (cells.size - 1)) default

def write (cells : Array α) (i : Int) (value : α) : Array α :=
  if place cells.size i < 0 then cells
  else cells.setIfInBounds (place cells.size i).toNat value

theorem size_write (cells : Array α) (i : Int) (value : α) :
    (write cells i value).size = cells.size := by
  unfold write
  split <;> simp

theorem read_of_lt [Inhabited α] (cells : Array α) (i : Nat) (h : i < cells.size) :
    read cells i = cells[i] := by
  have held : min i (cells.size - 1) = i := by omega
  rw [read, place_of_natural, Int.toNat_natCast, held]
  simp [h]

theorem write_of_natural (cells : Array α) (i : Nat) (value : α) :
    write cells i value = cells.setIfInBounds i value := by
  have natural : ¬ (i : Int) < 0 := by omega
  rw [write, place_of_natural, if_neg natural, Int.toNat_natCast]

end Chip8.Cells

import Chip8.Cells
import Chip8.Word

set_option autoImplicit false

namespace Chip8

structure Stack where
  slots : Array Word
  pointer : Int32
deriving DecidableEq

namespace Stack

def zeroed (capacity : Int32) : Stack := ⟨Array.replicate capacity.toInt.toNat 0, 0⟩

def capacity (s : Stack) : Nat := s.slots.size

def isEmpty (s : Stack) : Bool := decide (s.pointer.toInt ≤ 0)

def isFull (s : Stack) : Bool := decide ((s.capacity : Int) ≤ s.pointer.toInt)

-- Nothing is checked: a push outside the slots stores nothing and moves the pointer all the same.
def push (s : Stack) (a : Word) : Stack :=
  ⟨Cells.write s.slots s.pointer.toInt a, s.pointer + 1⟩

def top (s : Stack) : Int := max (s.pointer - 1).toInt 0

def pop (s : Stack) : Word × Stack :=
  (Cells.read s.slots s.top, ⟨Cells.write s.slots s.top 0, s.pointer - 1⟩)

def Bounded (s : Stack) : Prop := 0 ≤ s.pointer.toInt ∧ s.pointer.toInt ≤ s.capacity

instance (s : Stack) : Decidable s.Bounded := by
  unfold Bounded
  infer_instance

theorem pointer_succ (p : Int32) (room : p.toInt < 0x7FFFFFFF) : (p + 1).toInt = p.toInt + 1 := by
  have low := p.le_toInt
  rw [Int32.toInt_add, Int32.toInt_one]
  apply Int.bmod_eq_of_le <;> omega

theorem pointer_pred (p : Int32) (room : -0x80000000 < p.toInt) : (p - 1).toInt = p.toInt - 1 := by
  have high := p.toInt_lt
  rw [Int32.toInt_sub, Int32.toInt_one]
  apply Int.bmod_eq_of_le <;> omega

theorem top_of_some (s : Stack) (some : s.isEmpty = false) :
    ∃ slot : Nat, s.pointer.toInt = slot + 1 ∧ s.top = slot := by
  simp only [isEmpty, decide_eq_false_iff_not] at some
  obtain ⟨slot, place⟩ := Int.eq_ofNat_of_zero_le (show 0 ≤ s.pointer.toInt - 1 by omega)
  refine ⟨slot, by omega, ?_⟩
  rw [top, pointer_pred s.pointer (by omega), place]
  omega

theorem capacity_push (s : Stack) (a : Word) : (s.push a).capacity = s.capacity :=
  Cells.size_write s.slots s.pointer.toInt a

theorem capacity_pop (s : Stack) : s.pop.2.capacity = s.capacity :=
  Cells.size_write s.slots s.top 0

end Stack

end Chip8

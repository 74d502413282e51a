import Chip8.Cells

set_option autoImplicit false

namespace Chip8

abbrev Memory := Array UInt8

namespace Memory

def zeroed (size : Nat) : Memory := Array.replicate size 0

def read (m : Memory) (a : Nat) : UInt8 := Cells.read m a

def write (m : Memory) (a : Nat) (b : UInt8) : Memory := Cells.write m a b

def overlay (m : Memory) (a : Nat) : List UInt8 → Memory
  | [] => m
  | b :: bs => overlay (m.write a b) (a + 1) bs

theorem size_write (m : Memory) (a : Nat) (b : UInt8) : (m.write a b).size = m.size :=
  Cells.size_write m a b

theorem size_overlay (m : Memory) (a : Nat) (bs : List UInt8) : (m.overlay a bs).size = m.size := by
  induction bs generalizing m a with
  | nil => rfl
  | cons b bs ih => rw [overlay, ih, size_write]

theorem read_of_lt (m : Memory) (a : Nat) (h : a < m.size) : m.read a = m[a] :=
  Cells.read_of_lt m a h

theorem get_eq_read (m : Memory) (a : Nat) (h : a < m.size) : m[a]? = some (m.read a) := by
  rw [read_of_lt m a h, Array.getElem?_eq_getElem h]

theorem get_write (m : Memory) (a : Nat) (b : UInt8) (j : Nat) (h : j < m.size) :
    (m.write a b)[j]? = if a = j then some b else m[j]? := by
  simp only [write, Cells.write_of_natural, Array.getElem?_setIfInBounds]
  split <;> simp_all

theorem get_overlay (m : Memory) (a : Nat) (bs : List UInt8) (j : Nat) (h : j < m.size) :
    (m.overlay a bs)[j]? = if a ≤ j ∧ j < a + bs.length then bs[j - a]? else m[j]? := by
  induction bs generalizing m a with
  | nil =>
      have outside : ¬ (a ≤ j ∧ j < a + ([] : List UInt8).length) := by simp
      rw [overlay, if_neg outside]
  | cons b bs ih =>
      rw [overlay, ih (m.write a b) (a + 1) (by rw [size_write]; exact h), get_write m a b j h]
      by_cases here : a = j
      · subst here
        have after : ¬ (a + 1 ≤ a ∧ a < a + 1 + bs.length) := by omega
        have within : a ≤ a ∧ a < a + (b :: bs).length := by simp
        rw [if_neg after, if_pos rfl, if_pos within]
        simp
      · by_cases later : a + 1 ≤ j ∧ j < a + 1 + bs.length
        · have within : a ≤ j ∧ j < a + (b :: bs).length := by simp; omega
          rw [if_pos later, if_pos within, show j - a = (j - (a + 1)) + 1 by omega]
          simp
        · have outside : ¬ (a ≤ j ∧ j < a + (b :: bs).length) := by simp; omega
          rw [if_neg later, if_neg here, if_neg outside]

theorem read_overlay (m : Memory) (a : Nat) (bs : List UInt8) (j : Nat) (h : j < m.size) :
    (m.overlay a bs).read j = if a ≤ j ∧ j < a + bs.length then (bs[j - a]?).getD 0 else m.read j := by
  have got := get_overlay m a bs j h
  rw [get_eq_read _ j (by rw [size_overlay]; exact h)] at got
  by_cases covered : a ≤ j ∧ j < a + bs.length
  · rw [if_pos covered] at got ⊢
    rw [← got, Option.getD_some]
  · rw [if_neg covered, get_eq_read m j h] at got
    rw [if_neg covered]
    exact Option.some.inj got

end Memory

end Chip8

import Chip8.Display.Basic
import Chip8.Memory

set_option autoImplicit false

namespace Chip8

inductive Edges
  | clip
  | wrap
deriving DecidableEq

structure Sprite where
  height : Int
  row : Nat → UInt8

namespace Sprite

def ofMemory (m : Memory) (index : Nat) (height : Nat) : Sprite :=
  ⟨height, fun r => m.read (index + r)⟩

def Covers (s : Sprite) (dx dy : Int) : Prop := 0 ≤ dx ∧ dx < 8 ∧ 0 ≤ dy ∧ dy < s.height

instance (s : Sprite) (dx dy : Int) : Decidable (s.Covers dx dy) := by
  unfold Covers
  infer_instance

def lit (s : Sprite) (dx dy : Int) : Bool :=
  -- A row is read for every place; one outside the sprite reads the first row and drops it.
  let row := if s.Covers dx dy then dy else 0
  let column := if s.Covers dx dy then dx else 0
  decide (s.Covers dx dy) && (s.row row.toNat).toNat.testBit (7 - column.toNat)

end Sprite

def Edges.offset (size : Nat) (distance : Int) : Edges → Int
  | .clip => distance
  | .wrap => distance % size

namespace Display

def flip (d : Display) (ink : Nat → Nat → Bool) : Display :=
  ⟨d.width, d.height, Vector.ofFn fun i : Fin (d.width * d.height) =>
    d.cells[i] ^^^ (if ink (i.val / d.height) (i.val % d.height) then 1 else 0)⟩

def meets (d : Display) (ink : Nat → Nat → Bool) : Bool :=
  Nat.any (d.width * d.height) fun i h =>
    d.cells[i] == 1 && ink (i / d.height) (i % d.height)

theorem get_flip (d : Display) (ink : Nat → Nat → Bool) (x y : Nat)
    (hx : x < d.width) (hy : y < d.height) :
    (d.flip ink).get x y = d.get x y ^^^ (if ink x y then 1 else 0) := by
  have inside := place_lt hx hy
  have column := column_of_place x hy
  have row := row_of_place x hy
  rw [get_inside d x y hx hy]
  simp [get, flip, hx, hy, inside, column, row, Vector.get]

theorem binary_flip (d : Display) (ink : Nat → Nat → Bool) (binary : d.Binary) : (d.flip ink).Binary := by
  intro x y
  by_cases inside : x < d.width ∧ y < d.height
  · rw [get_flip d ink x y inside.1 inside.2]
    rcases binary x y with dark | on
    · rw [dark]
      cases ink x y <;> decide
    · rw [on]
      cases ink x y <;> decide
  · exact .inl (get_of_not_inside (d.flip ink) x y inside)

theorem meets_iff (d : Display) (ink : Nat → Nat → Bool) :
    d.meets ink = true ↔
      ∃ x y, x < d.width ∧ y < d.height ∧ d.get x y = 1 ∧ ink x y = true := by
  rw [meets, Nat.any_eq_finRange_any, List.any_eq_true]
  constructor
  · rintro ⟨place, _, holds⟩
    obtain ⟨hx, hy⟩ := inside_of_place place.isLt
    have whole := Nat.div_add_mod' place.val d.height
    refine ⟨place.val / d.height, place.val % d.height, hx, hy, ?_, ?_⟩
    · rw [get_inside d _ _ hx hy]
      simp_all [Vector.get]
    · simp_all
  · rintro ⟨x, y, hx, hy, on, inked⟩
    refine ⟨⟨x * d.height + y, place_lt hx hy⟩, List.mem_finRange _, ?_⟩
    have column := column_of_place x hy
    have row := row_of_place x hy
    rw [get_inside d x y hx hy] at on
    simp_all [Vector.get]

-- Each cell is asked which sprite pixel falls on it, so that none is flipped twice.
def blit (d : Display) (edges : Edges) (s : Sprite) (dx dy : Nat → Int) : Display × Bool :=
  let ink := fun x y => s.lit (edges.offset d.width (dx x)) (edges.offset d.height (dy y))
  (d.flip ink, d.meets ink)

def draw (d : Display) (edges : Edges) (s : Sprite) (x y : Int) : Display × Bool :=
  d.blit edges s (fun column => column - x) (fun row => row - y)

theorem width_draw (d : Display) (edges : Edges) (s : Sprite) (x y : Int) :
    (d.draw edges s x y).1.width = d.width := by
  simp only [draw, blit, flip]

theorem height_draw (d : Display) (edges : Edges) (s : Sprite) (x y : Int) :
    (d.draw edges s x y).1.height = d.height := by
  simp only [draw, blit, flip]

-- Draw rows of memory with index, corner and height given as signed 32-bit numbers, on which differences
-- and sums wrap around.
def drawSigned (d : Display) (edges : Edges) (m : Memory) (index height x y : Int) : Display × Bool :=
  d.blit edges ⟨height, fun r => Cells.read m ((index + r).bmod 0x100000000)⟩
    (fun column => (column - x).bmod 0x100000000) (fun row => (row - y).bmod 0x100000000)

end Display

end Chip8

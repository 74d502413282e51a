import Chip8.Proofs.Access
import Chip8.Proofs.Decode
import Chip8.Proofs.Effect
import Mathlib.Data.List.Nodup
import Mathlib.Data.List.ProdSigma

set_option autoImplicit false

namespace Chip8

-- Along an axis of `size` cells, the cell that takes pixel `k` of a sprite whose first pixel is at `start`.
-- A pixel beyond a clipping edge has none, nor has one that comes after a whole turn around the display.
def Edges.cell? (size start k : Nat) : Edges → Option Nat
  | .clip => if start + k < size then some (start + k) else none
  | .wrap => if k < size then some ((start + k) % size) else none

namespace Sprite

def pixels (rows : Nat) (row : Nat → UInt8) : List (Nat × Nat) :=
  (List.range rows ×ˢ List.range 8).filter fun pixel => (row pixel.1).toNat.testBit (7 - pixel.2)

def cells (edges : Edges) (width height x y rows : Nat) (row : Nat → UInt8) : List (Nat × Nat) :=
  (pixels rows row).filterMap fun pixel =>
    (edges.cell? width x pixel.2).bind fun a => (edges.cell? height y pixel.1).map fun b => (a, b)

def ink (s : Sprite) (edges : Edges) (width height : Nat) (dx dy : Nat → Int) (a b : Nat) : Bool :=
  s.lit (edges.offset width (dx a)) (edges.offset height (dy b))

end Sprite

namespace Display

def flipped (cell : UInt8) : UInt8 := if cell = 0 then 1 else 0

def toggle (d : Display) (x y : Nat) : Display :=
  if inside : x < d.width ∧ y < d.height then
    ⟨d.width, d.height, d.cells.set (x * d.height + y) (flipped (d.get x y)) (place_lt inside.1 inside.2)⟩
  else d

def plot (d : Display) : List (Nat × Nat) → Display
  | [] => d
  | cell :: rest => (d.toggle cell.1 cell.2).plot rest

end Display

namespace Edges

theorem distance_of_turn (size start k : Nat) (shown : k < size) :
    (((start + k) % size : Nat) - (start : Int)) % size = k := by
  have distance : ((start + k : Nat) : Int) - start = k := by omega
  rw [Int.natCast_emod, Int.emod_sub_emod, distance]
  exact Int.emod_eq_of_lt (by omega) (by omega)

theorem turn_of_distance (size start k a : Nat) (inside : a < size) (distance : ((a : Int) - start) % size = k) :
    (start + k) % size = a := by
  have turned : ((start + k : Nat) : Int) % size = a := by
    rw [Int.natCast_add, ← distance, Int.add_emod_emod, Int.add_comm, Int.sub_add_cancel]
    exact Int.emod_eq_of_lt (by omega) (by omega)
  rw [← Int.natCast_emod] at turned
  omega

theorem cell_eq_some_iff (edges : Edges) (size start k a : Nat) (inside : a < size) :
    edges.cell? size start k = some a ↔ edges.offset size ((a : Int) - start) = k := by
  cases edges with
  | clip =>
      simp only [cell?, offset]
      split <;> simp <;> omega
  | wrap =>
      by_cases shown : k < size
      · simp only [cell?, offset, if_pos shown, Option.some.injEq]
        constructor
        · rintro rfl
          exact distance_of_turn size start k shown
        · exact turn_of_distance size start k a inside
      · have short := Int.emod_lt_of_pos ((a : Int) - start) (show (0 : Int) < size by omega)
        simp only [cell?, offset, if_neg shown, reduceCtorEq, false_iff]
        omega

theorem cell_lt (edges : Edges) (size start k a : Nat) (found : edges.cell? size start k = some a) : a < size := by
  cases edges with
  | clip =>
      obtain ⟨inside, ⟨⟩⟩ := Option.ite_none_right_eq_some.mp found
      exact inside
  | wrap =>
      obtain ⟨shown, ⟨⟩⟩ := Option.ite_none_right_eq_some.mp found
      exact Nat.mod_lt _ (by omega)

theorem cell_injective (edges : Edges) (size start j k a : Nat) (first : edges.cell? size start j = some a)
    (second : edges.cell? size start k = some a) : j = k := by
  have inside := edges.cell_lt size start j a first
  rw [edges.cell_eq_some_iff size start _ a inside] at first second
  omega

end Edges

namespace Sprite

theorem mem_pixels_iff (rows : Nat) (row : Nat → UInt8) (r c : Nat) :
    (r, c) ∈ pixels rows row ↔ r < rows ∧ c < 8 ∧ (row r).toNat.testBit (7 - c) = true := by
  rw [pixels, List.mem_filter, List.mem_product, List.mem_range, List.mem_range, and_assoc]

theorem nodup_pixels (rows : Nat) (row : Nat → UInt8) : (pixels rows row).Nodup :=
  (List.nodup_range.product List.nodup_range).filter _

theorem mem_cells_iff (edges : Edges) (width height x y rows : Nat) (row : Nat → UInt8) (a b : Nat) :
    (a, b) ∈ cells edges width height x y rows row ↔
      ∃ r c, (r, c) ∈ pixels rows row ∧ edges.cell? width x c = some a ∧ edges.cell? height y r = some b := by
  simp [cells, List.mem_filterMap, Option.bind_eq_some_iff]

theorem nodup_cells (edges : Edges) (width height x y rows : Nat) (row : Nat → UInt8) :
    (cells edges width height x y rows row).Nodup := by
  apply List.Nodup.filterMap _ (nodup_pixels rows row)
  rintro ⟨r, c⟩ ⟨otherR, otherC⟩ ⟨a, b⟩ first second
  simp only [Option.mem_def, Option.bind_eq_some_iff, Option.map_eq_some_iff, Prod.mk.injEq,
    exists_eq_right_right] at first second
  rw [edges.cell_injective width x c otherC a first.1 second.1,
    edges.cell_injective height y r otherR b first.2 second.2]

theorem lit_pixel_iff (rows : Nat) (row : Nat → UInt8) (r c : Nat) :
    Sprite.lit ⟨rows, row⟩ c r = true ↔ (r, c) ∈ pixels rows row := by
  have covers : Sprite.Covers ⟨rows, row⟩ c r ↔ c < 8 ∧ r < rows := by
    simp only [Covers]
    omega
  rw [mem_pixels_iff]
  by_cases covered : Sprite.Covers ⟨rows, row⟩ c r
  · simp [lit, covered, covers.mp covered]
  · have dark : Sprite.lit ⟨rows, row⟩ c r = false := by simp [lit, covered]
    rw [dark]
    constructor
    · intro impossible
      cases impossible
    · rintro ⟨below, left, _⟩
      exact absurd (covers.mpr ⟨left, below⟩) covered

theorem natural_of_lit (s : Sprite) (dx dy : Int) (lit : s.lit dx dy = true) : 0 ≤ dx ∧ 0 ≤ dy := by
  have covered : s.Covers dx dy := of_decide_eq_true (Bool.and_eq_true_iff.mp lit).1
  exact ⟨covered.1, covered.2.2.1⟩

theorem ink_iff_mem_cells (edges : Edges) (width height x y rows : Nat) (row : Nat → UInt8) (a b : Nat)
    (ha : a < width) (hb : b < height) :
    Sprite.ink ⟨rows, row⟩ edges width height (fun column => column - x) (fun line => line - y) a b = true ↔
      (a, b) ∈ cells edges width height x y rows row := by
  rw [mem_cells_iff, ink]
  constructor
  · intro lit
    obtain ⟨left, top⟩ := natural_of_lit _ _ _ lit
    obtain ⟨c, column⟩ := Int.eq_ofNat_of_zero_le left
    obtain ⟨r, line⟩ := Int.eq_ofNat_of_zero_le top
    rw [column, line, lit_pixel_iff] at lit
    exact ⟨r, c, lit, (edges.cell_eq_some_iff width x c a ha).mpr column,
      (edges.cell_eq_some_iff height y r b hb).mpr line⟩
  · rintro ⟨r, c, pixel, column, line⟩
    rw [(edges.cell_eq_some_iff width x c a ha).mp column, (edges.cell_eq_some_iff height y r b hb).mp line]
    exact (lit_pixel_iff rows row r c).mpr pixel

end Sprite

namespace Display

theorem size_toggle (d : Display) (x y : Nat) :
    (d.toggle x y).width = d.width ∧ (d.toggle x y).height = d.height := by
  unfold toggle
  split <;> exact ⟨rfl, rfl⟩

theorem get_toggle (d : Display) (x y a b : Nat) (ha : a < d.width) (hb : b < d.height) :
    (d.toggle x y).get a b = if (a, b) = (x, y) then flipped (d.get a b) else d.get a b := by
  by_cases inside : x < d.width ∧ y < d.height
  · have place := place_lt ha hb
    have same := place_eq_iff x a inside.2 hb
    rw [toggle, dif_pos inside]
    by_cases here : (a, b) = (x, y)
    · cases here
      simp [get, ha, hb, place]
    · have elsewhere : ¬ (x = a ∧ y = b) := fun equal => here (by rw [equal.1, equal.2])
      simp [get, ha, hb, place, same, elsewhere, here]
  · have other : (a, b) ≠ (x, y) := by
      rintro ⟨⟩
      exact inside ⟨ha, hb⟩
    rw [toggle, dif_neg inside, if_neg other]

theorem size_plot (d : Display) (cells : List (Nat × Nat)) :
    (d.plot cells).width = d.width ∧ (d.plot cells).height = d.height := by
  induction cells generalizing d with
  | nil => exact ⟨rfl, rfl⟩
  | cons cell cells ih =>
      rw [plot, (ih _).1, (ih _).2]
      exact size_toggle d cell.1 cell.2

theorem get_plot (d : Display) (cells : List (Nat × Nat)) (distinct : cells.Nodup) (a b : Nat)
    (ha : a < d.width) (hb : b < d.height) :
    (d.plot cells).get a b = if (a, b) ∈ cells then flipped (d.get a b) else d.get a b := by
  induction cells generalizing d with
  | nil => simp [plot]
  | cons cell cells ih =>
      obtain ⟨fresh, rest⟩ := List.nodup_cons.mp distinct
      have size := size_toggle d cell.1 cell.2
      rw [plot, ih (d.toggle cell.1 cell.2) rest (by rw [size.1]; exact ha) (by rw [size.2]; exact hb),
        get_toggle d cell.1 cell.2 a b ha hb]
      by_cases here : (a, b) = cell
      · rw [here, if_neg fresh, if_pos rfl, if_pos List.mem_cons_self]
      · rw [if_neg here]
        simp only [List.mem_cons, here, false_or]

theorem blit_flips (d : Display) (edges : Edges) (s : Sprite) (dx dy : Nat → Int) :
    (d.blit edges s dx dy).1 = d.flip (s.ink edges d.width d.height dx dy) := rfl

theorem blit_meets (d : Display) (edges : Edges) (s : Sprite) (dx dy : Nat → Int) :
    (d.blit edges s dx dy).2 = d.meets (s.ink edges d.width d.height dx dy) := rfl

theorem flipped_of_binary (cell : UInt8) (binary : cell = 0 ∨ cell = 1) : cell ^^^ 1 = flipped cell := by
  rcases binary with rfl | rfl <;> rfl

theorem draw_eq_plot (d : Display) (binary : d.Binary) (edges : Edges) (x y rows : Nat) (row : Nat → UInt8) :
    (d.draw edges ⟨rows, row⟩ x y).1 = d.plot (Sprite.cells edges d.width d.height x y rows row) := by
  have distinct := Sprite.nodup_cells edges d.width d.height x y rows row
  have size := size_plot d (Sprite.cells edges d.width d.height x y rows row)
  rw [draw, blit_flips]
  apply ext_get (d.flip _) _ size.1.symm size.2.symm
  intro a b ha hb
  have inked := Sprite.ink_iff_mem_cells edges d.width d.height x y rows row a b ha hb
  rw [get_plot d _ distinct a b ha hb, get_flip d _ a b ha hb]
  by_cases member : (a, b) ∈ Sprite.cells edges d.width d.height x y rows row
  · rw [if_pos member, if_pos (inked.mpr member), flipped_of_binary _ (binary a b)]
  · rw [if_neg member, if_neg (fun on => member (inked.mp on)), UInt8.xor_zero]

theorem inked_of_change (d : Display) (ink : Nat → Nat → Bool) (x y : Nat)
    (changed : (d.flip ink).get x y ≠ d.get x y) : x < d.width ∧ y < d.height ∧ ink x y = true := by
  by_cases inside : x < d.width ∧ y < d.height
  · rw [get_flip d ink x y inside.1 inside.2] at changed
    cases inked : ink x y with
    | true => exact ⟨inside.1, inside.2, rfl⟩
    | false => simp [inked] at changed
  · have outside : ¬ (x < (d.flip ink).width ∧ y < (d.flip ink).height) := inside
    rw [get_of_not_inside _ x y outside, get_of_not_inside d x y inside] at changed
    exact absurd rfl changed

theorem meets_iff_goes_out (d : Display) (ink : Nat → Nat → Bool) :
    d.meets ink = true ↔ ∃ x y, d.get x y = 1 ∧ (d.flip ink).get x y = 0 := by
  rw [meets_iff]
  constructor
  · rintro ⟨x, y, hx, hy, on, inked⟩
    refine ⟨x, y, on, ?_⟩
    rw [get_flip d ink x y hx hy, on, if_pos inked, UInt8.xor_self]
  · rintro ⟨x, y, on, off⟩
    obtain ⟨hx, hy, inked⟩ := inked_of_change d ink x y (by rw [on, off]; decide)
    exact ⟨x, y, hx, hy, on, inked⟩

theorem collides_iff (d : Display) (edges : Edges) (s : Sprite) (x y : Int) :
    (d.draw edges s x y).2 = true ↔ ∃ a b, d.get a b = 1 ∧ (d.draw edges s x y).1.get a b = 0 := by
  rw [draw, blit_flips, blit_meets]
  exact meets_iff_goes_out d _

end Display

theorem flag_byte_eq_one_iff (flag : Bool) : flagByte flag = 1 ↔ flag = true := by
  cases flag <;> decide

theorem flag_byte_eq_zero_iff (flag : Bool) : flagByte flag = 0 ↔ ¬ flag = true := by
  cases flag <;> decide

theorem Sprite.row_of_memory (m : Memory) (index rows : Nat) (inside : index + rows ≤ m.size) (r : Nat)
    (shown : r < rows) : (Sprite.ofMemory m index rows).row r = m.getD (index + r) 0 := by
  have held : index + r < m.size := by omega
  simp [Sprite.ofMemory, Memory.read_of_lt m (index + r) held, held]

theorem Display.draw_of_memory (d : Display) (edges : Edges) (m : Memory) (index rows : Nat) (x y : Int)
    (inside : index + rows ≤ m.size) :
    d.draw edges (Sprite.ofMemory m index rows) x y = d.draw edges ⟨rows, fun r => m.getD (index + r) 0⟩ x y :=
  draw_congr d edges _ _ x y rfl fun r shown => Sprite.row_of_memory m index rows inside r (Int.ofNat_lt.mp shown)

namespace Machine

-- The coordinates are read before the flag is written, so that either register may be the flag register.
theorem execute_draw (m : Machine) (x y : Reg) (rows : Nibble) (inside : m.index.toNat + rows.val ≤ m.memory.size) :
    let drawn := m.display.draw m.edges ⟨rows.val, fun r => m.memory.getD (m.index.toNat + r) 0⟩
      (m.v x).toNat (m.v y).toNat
    (m.execute (.draw x y rows)).display = drawn.1 ∧ (m.execute (.draw x y rows)).v flagReg = flagByte drawn.2 := by
  intro drawn
  have same := Display.draw_of_memory m.display m.edges m.memory m.index.toNat rows.val
    (m.v x).toNat (m.v y).toNat inside
  constructor
  · rw [execute_display]
    exact congrArg Prod.fst same
  · exact (v_set_same _ flagReg _).trans (congrArg (fun drawn => flagByte drawn.2) same)

theorem draw_plots_pixels (m : Machine) (w : Word) (shape : w &&& 0xF000 = 0xD000) (binary : m.display.Binary)
    (inside : m.index.toNat + w.n.val ≤ m.memory.size) :
    let cells := Sprite.cells m.edges m.display.width m.display.height (m.v w.x).toNat (m.v w.y).toNat w.n.val
      fun r => m.memory.getD (m.index.toNat + r) 0
    let after := m.execute (.ofWord w)
    after.display = m.display.plot cells ∧ cells.Nodup ∧
      (∀ a b, a < m.display.width → b < m.display.height → after.display.get a b =
        if (a, b) ∈ cells then Display.flipped (m.display.get a b) else m.display.get a b) ∧
      (after.v flagReg = 1 ↔ ∃ a b, m.display.get a b = 1 ∧ after.display.get a b = 0) ∧
      (after.v flagReg = 0 ↔ ¬ ∃ a b, m.display.get a b = 1 ∧ after.display.get a b = 0) := by
  intro cells after
  obtain ⟨drawn, flag⟩ := execute_draw m w.x w.y w.n inside
  have collides := Display.collides_iff m.display m.edges ⟨w.n.val, fun r => m.memory.getD (m.index.toNat + r) 0⟩
    (m.v w.x).toNat (m.v w.y).toNat
  rw [← drawn] at collides
  rw [← Instruction.of_word_draw w shape] at drawn flag collides
  have plotted : after.display = m.display.plot cells :=
    drawn.trans (Display.draw_eq_plot m.display binary m.edges _ _ _ _)
  have distinct : cells.Nodup := Sprite.nodup_cells _ _ _ _ _ _ _
  refine ⟨plotted, distinct, ?_, ?_, ?_⟩
  · intro a b ha hb
    rw [plotted]
    exact Display.get_plot m.display cells distinct a b ha hb
  · rw [flag, flag_byte_eq_one_iff, collides]
  · rw [flag, flag_byte_eq_zero_iff, collides]

theorem narrow_display_plotted :
    let m := { fresh ⟨0x200, 5, 3, some 1, .wrap⟩ [] ⟨0, 0⟩ with
      memory := #[0xC1, 0xFF, 0x80, 0xFF]
      registers := (Vector.replicate 16 0).set 15 254
      display := (Display.blank 5 3).flip fun x y => x == 4 && y == 0 }
    let after := m.execute (.ofWord 0xDF04)
    m.display.Binary ∧ m.index.toNat + (Word.n 0xDF04).val ≤ m.memory.size ∧
      after.display = m.display.plot [(4, 0), (0, 0), (4, 1), (0, 1), (1, 1), (2, 1), (3, 1), (4, 2)] ∧
      after.display.get 4 0 = 0 ∧ after.v flagReg = 1 := by
  intro m after
  have binary : m.display.Binary := by
    change ((Display.blank 5 3).flip fun x y => x == 4 && y == 0).Binary
    exact Display.binary_flip _ _ (Display.binary_blank 5 3)
  have inside : m.index.toNat + (Word.n 0xDF04).val ≤ m.memory.size := by decide +kernel
  have cells : Sprite.cells m.edges m.display.width m.display.height (m.v (Word.x 0xDF04)).toNat
      (m.v (Word.y 0xDF04)).toNat (Word.n 0xDF04).val (fun r => m.memory.getD (m.index.toNat + r) 0) =
      [(4, 0), (0, 0), (4, 1), (0, 1), (1, 1), (2, 1), (3, 1), (4, 2)] := by
    decide +kernel
  have drawn := draw_plots_pixels m 0xDF04 (by decide) binary inside
  dsimp only at drawn
  rw [cells] at drawn
  obtain ⟨plotted, _, flips, collides, _⟩ := drawn
  have out : after.display.get 4 0 = 0 := by
    refine (flips 4 0 (by decide) (by decide)).trans ?_
    decide +kernel
  exact ⟨binary, inside, plotted, out, collides.mpr ⟨4, 0, by decide +kernel, out⟩⟩

end Machine

end Chip8

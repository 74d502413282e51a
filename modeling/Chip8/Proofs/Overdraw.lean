import Chip8.Proofs.Footprint
import Chip8.Proofs.Plotting

set_option autoImplicit false

namespace Chip8

structure Stamp where
  memory : Memory
  index : Int
  height : Int
  x : Int
  y : Int

namespace Display

def stamp (d : Display) (edges : Edges) (s : Stamp) : Display × Bool :=
  d.drawSigned edges s.memory s.index s.height s.x s.y

theorem flip_flip (d : Display) (ink : Nat → Nat → Bool) : (d.flip ink).flip ink = d := by
  apply ext_get ((d.flip ink).flip ink) d rfl rfl
  intro x y hx hy
  rw [get_flip (d.flip ink) ink x y hx hy, get_flip d ink x y hx hy, UInt8.xor_assoc, UInt8.xor_self, UInt8.xor_zero]

theorem flip_comm (d : Display) (ink other : Nat → Nat → Bool) :
    (d.flip ink).flip other = (d.flip other).flip ink := by
  apply ext_get ((d.flip ink).flip other) ((d.flip other).flip ink) rfl rfl
  intro x y hx hy
  rw [get_flip (d.flip ink) other x y hx hy, get_flip d ink x y hx hy, get_flip (d.flip other) ink x y hx hy,
    get_flip d other x y hx hy, UInt8.xor_assoc, UInt8.xor_assoc, UInt8.xor_comm (if ink x y then 1 else 0)]

theorem meets_blank (width height : Nat) (ink : Nat → Nat → Bool) : (blank width height).meets ink = false := by
  rw [← Bool.not_eq_true, meets_iff]
  rintro ⟨x, y, _, _, on, _⟩
  rw [get_blank] at on
  cases on

theorem lights_blank_iff (width height : Nat) (ink : Nat → Nat → Bool) :
    (∃ x y, ((blank width height).flip ink).get x y = 1) ↔ ∃ x y, x < width ∧ y < height ∧ ink x y = true := by
  constructor
  · rintro ⟨x, y, on⟩
    exact ⟨x, y, inked_of_change (blank width height) ink x y (by rw [on, get_blank]; decide)⟩
  · rintro ⟨x, y, hx, hy, inked⟩
    refine ⟨x, y, ?_⟩
    rw [get_flip (blank width height) ink x y hx hy, get_blank, if_pos inked]
    rfl

theorem meets_either_iff (d : Display) (binary : d.Binary) (ink : Nat → Nat → Bool) :
    (d.meets ink = true ∨ (d.flip ink).meets ink = true) ↔
      ∃ x y, x < d.width ∧ y < d.height ∧ ink x y = true := by
  rw [meets_iff, meets_iff]
  constructor
  · rintro (⟨x, y, hx, hy, _, inked⟩ | ⟨x, y, hx, hy, _, inked⟩)
    · exact ⟨x, y, hx, hy, inked⟩
    · exact ⟨x, y, hx, hy, inked⟩
  · rintro ⟨x, y, hx, hy, inked⟩
    rcases binary x y with dark | on
    · refine .inr ⟨x, y, hx, hy, ?_, inked⟩
      rw [get_flip d ink x y hx hy, dark, if_pos inked]
      rfl
    · exact .inl ⟨x, y, hx, hy, on, inked⟩

-- The cells that a sprite inks depend on the size of the display only, which no drawing changes.

variable (d : Display) (edges : Edges) (s t : Sprite) (dx dy ex ey : Nat → Int)

theorem blit_twice : ((d.blit edges s dx dy).1.blit edges s dx dy).1 = d :=
  flip_flip d (s.ink edges d.width d.height dx dy)

theorem blit_comm :
    ((d.blit edges s dx dy).1.blit edges t ex ey).1 = ((d.blit edges t ex ey).1.blit edges s dx dy).1 :=
  flip_comm d (s.ink edges d.width d.height dx dy) (t.ink edges d.width d.height ex ey)

theorem blit_blank (width height : Nat) : ((blank width height).blit edges s dx dy).2 = false :=
  meets_blank width height (s.ink edges width height dx dy)

theorem blit_collides_either (binary : d.Binary) :
    ((d.blit edges s dx dy).2 = true ∨ ((d.blit edges s dx dy).1.blit edges s dx dy).2 = true) ↔
      ∃ x y, ((blank d.width d.height).blit edges s dx dy).1.get x y = 1 := by
  have either := meets_either_iff d binary (s.ink edges d.width d.height dx dy)
  have lights := lights_blank_iff d.width d.height (s.ink edges d.width d.height dx dy)
  exact either.trans lights.symm

end Display

namespace Machine

-- Drawing changes nothing that a second drawing reads, unless the flag register holds a coordinate.
theorem draw_twice (m : Machine) (x y : Reg) (rows : Nibble) (column : x ≠ flagReg) (line : y ≠ flagReg) :
    ((m.execute (.draw x y rows)).execute (.draw x y rows)).display = m.display := by
  have sameX : (m.execute (.draw x y rows)).v x = m.v x := execute_keeps_register m (.draw x y rows) x column
  have sameY : (m.execute (.draw x y rows)).v y = m.v y := execute_keeps_register m (.draw x y rows) y line
  have edges := (execute_host_fields m (.draw x y rows)).2.2.2
  rw [execute_display]
  dsimp only
  rw [sameX, sameY, edges, execute_memory, execute_index, execute_display]
  exact Display.blit_twice m.display m.edges _ _ _

example :
    let m := { fresh ⟨0x200, 2, 1, some 1, .clip⟩ [] ⟨0, 0⟩ with
      memory := #[0x80], display := (Display.blank 2 1).flip fun x _ => x == 0 }
    ((m.execute (.draw 15 0 1)).execute (.draw 15 0 1)).display ≠ m.display := by
  decide +kernel

theorem overdrawing_restores (d : Display) (binary : d.Binary) (edges : Edges) (s t : Stamp) :
    let once := d.stamp edges s
    let twice := once.1.stamp edges s
    let alone := (Display.blank d.width d.height).stamp edges s
    twice.1 = d ∧ (once.1.stamp edges t).1 = ((d.stamp edges t).1.stamp edges s).1 ∧
      ((once.2 = true ∨ twice.2 = true) ↔ ∃ x y, alone.1.get x y = 1) ∧ alone.2 = false ∧
      ∀ (m : Machine) (w : Word), w &&& 0xF000 = 0xD000 → w.x ≠ flagReg → w.y ≠ flagReg →
        ((m.execute (.ofWord w)).execute (.ofWord w)).display = m.display := by
  refine ⟨Display.blit_twice d edges _ _ _, Display.blit_comm d edges _ _ _ _ _ _,
    Display.blit_collides_either d edges _ _ _ binary, Display.blit_blank edges _ _ _ d.width d.height, ?_⟩
  intro m w shape column line
  rw [Instruction.of_word_draw w shape]
  exact draw_twice m w.x w.y w.n column line

theorem wrapped_sprites_cancel :
    let d := (Display.blank 10 4).flip fun x y => x == 9 && y == 3
    let s : Stamp := ⟨#[0xF0, 0x90], 0, 2, 8, 3⟩
    let t : Stamp := ⟨#[0x00, 0xFF], 1, 1, 14, 4⟩
    let m := { fresh ⟨0x202, 10, 4, some 1, .wrap⟩ [0xF0, 0x90] ⟨0, 0⟩ with
      index := 0x200, display := d, registers := (Vector.replicate 16 0).set 3 8 }
    d.Binary ∧ ((d.stamp .wrap s).1.stamp .wrap s).1 = d ∧
      ((d.stamp .wrap s).1.stamp .wrap t).1 = ((d.stamp .wrap t).1.stamp .wrap s).1 ∧
      ((d.stamp .wrap s).2 = true ∨ ((d.stamp .wrap s).1.stamp .wrap s).2 = true) ∧
      ((m.execute (.ofWord 0xD332)).execute (.ofWord 0xD332)).display = m.display := by
  intro d s t m
  have binary : d.Binary := Display.binary_flip _ _ (Display.binary_blank 10 4)
  obtain ⟨restored, commutes, collides, _, drawn⟩ := overdrawing_restores d binary .wrap s t
  have lights : ((Display.blank 10 4).stamp .wrap s).1.get 8 3 = 1 := by decide +kernel
  exact ⟨binary, restored, commutes, collides.mpr ⟨8, 3, lights⟩,
    drawn m 0xD332 (by decide) (by decide) (by decide)⟩

end Machine

end Chip8

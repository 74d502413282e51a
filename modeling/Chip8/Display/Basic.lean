set_option autoImplicit false

namespace Chip8

structure Display where
  width : Nat
  height : Nat
  cells : Vector UInt8 (width * height)
deriving DecidableEq

namespace Display

def blank (width height : Nat) : Display := ⟨width, height, Vector.replicate (width * height) 0⟩

def clear (d : Display) : Display := blank d.width d.height

def get (d : Display) (x y : Nat) : UInt8 :=
  if x < d.width ∧ y < d.height then d.cells.toArray.getD (x * d.height + y) 0 else 0

theorem place_lt {width height x y : Nat} (hx : x < width) (hy : y < height) :
    x * height + y < width * height := by
  have next : (x + 1) * height ≤ width * height := Nat.mul_le_mul_right height hx
  rw [Nat.add_mul] at next
  omega

theorem column_of_place {height y : Nat} (x : Nat) (hy : y < height) :
    (x * height + y) / height = x := by
  rw [Nat.add_comm, Nat.add_mul_div_right _ _ (by omega), Nat.div_eq_of_lt hy, Nat.zero_add]

theorem row_of_place {height y : Nat} (x : Nat) (hy : y < height) :
    (x * height + y) % height = y := by
  rw [Nat.add_comm, Nat.add_mul_mod_self_right, Nat.mod_eq_of_lt hy]

theorem inside_of_place {width height i : Nat} (h : i < width * height) :
    i / height < width ∧ i % height < height := by
  have nonempty : 0 < height := by
    apply Nat.pos_of_ne_zero
    rintro rfl
    exact Nat.not_lt_zero i h
  exact ⟨(Nat.div_lt_iff_lt_mul nonempty).2 h, Nat.mod_lt i nonempty⟩

theorem place_eq_iff {height y b : Nat} (x a : Nat) (hy : y < height) (hb : b < height) :
    x * height + y = a * height + b ↔ x = a ∧ y = b := by
  constructor
  · intro same
    have column := column_of_place x hy
    have row := row_of_place x hy
    rw [same] at column row
    exact ⟨column.symm.trans (column_of_place a hb), row.symm.trans (row_of_place a hb)⟩
  · rintro ⟨rfl, rfl⟩
    rfl

theorem get_of_not_inside (d : Display) (x y : Nat) (outside : ¬ (x < d.width ∧ y < d.height)) :
    d.get x y = 0 := if_neg outside

theorem get_inside (d : Display) (x y : Nat) (hx : x < d.width) (hy : y < d.height) :
    d.get x y = d.cells.get ⟨x * d.height + y, place_lt hx hy⟩ := by
  have inside := place_lt hx hy
  simp [get, hx, hy, inside, Vector.get]

theorem ext_get (d e : Display) (width : d.width = e.width) (height : d.height = e.height)
    (same : ∀ x y, x < d.width → y < d.height → d.get x y = e.get x y) : d = e := by
  obtain ⟨w, h, first⟩ := d
  obtain ⟨_, _, second⟩ := e
  cases width
  cases height
  have cells : first = second := by
    apply Vector.ext
    intro place inside
    obtain ⟨hx, hy⟩ := inside_of_place inside
    have agree := same (place / h) (place % h) hx hy
    rw [get_inside _ _ _ hx hy, get_inside _ _ _ hx hy] at agree
    simp only [Nat.div_add_mod'] at agree
    exact agree
  rw [cells]

theorem get_blank (width height x y : Nat) : (blank width height).get x y = 0 := by
  by_cases inside : x < width ∧ y < height
  · have place := place_lt inside.1 inside.2
    simp [get, blank, inside, place]
  · exact get_of_not_inside (blank width height) x y inside

def Binary (d : Display) : Prop := ∀ x y, d.get x y = 0 ∨ d.get x y = 1

theorem binary_blank (width height : Nat) : (blank width height).Binary :=
  fun x y => .inl (get_blank width height x y)

def rows (d : Display) : List (List UInt8) :=
  (List.range d.height).map fun y => (List.range d.width).map fun x => d.get x y

end Display

end Chip8

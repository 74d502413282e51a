import Chip8.Machine.Strict

set_option autoImplicit false

namespace Chip8

namespace Cells

variable {α : Type}

theorem get_within [Inhabited α] (cells : Array α) (i : Nat) (within : i < cells.size) :
    get? cells i = some (read cells i) := by
  rw [read_of_lt cells i within]
  simp [get?, within]

theorem get_beyond (cells : Array α) (i : Nat) (beyond : cells.size ≤ i) : get? cells i = none := by
  simp [get?, beyond]

theorem put_within (cells : Array α) (i : Nat) (value : α) (within : i < cells.size) :
    put? cells i value = some (write cells i value) := by
  rw [write_of_natural]
  simp [put?, within]

theorem put_beyond (cells : Array α) (i : Nat) (value : α) (beyond : cells.size ≤ i) :
    put? cells i value = none := by
  simp [put?, beyond]

theorem window_within [Inhabited α] (cells : Array α) (start count : Nat)
    (within : 0 < count → start + count ≤ cells.size) :
    window? cells start count = some ((List.range' start count).map fun a => read cells (a : Nat)) := by
  induction count generalizing start with
  | zero => rfl
  | succ count ih =>
      have bound := within (Nat.succ_pos count)
      have rest := ih (start + 1) (by omega)
      rw [Int.natCast_succ] at rest
      simp [window?, get_within cells start (by omega), rest, List.range'_succ]

theorem window_beyond (cells : Array α) (start count : Nat) (some : 0 < count)
    (beyond : cells.size < start + count) : window? cells start count = none := by
  induction count generalizing start with
  | zero => cases some
  | succ count ih =>
      by_cases missing : cells.size ≤ start
      · simp [window?, get_beyond cells start missing]
      · have rest := ih (start + 1) (by omega) (by omega)
        rw [Int.natCast_succ] at rest
        simp [window?, rest]

theorem overlay_beyond (cells : Array α) (start : Nat) (values : List α) (some : 0 < values.length)
    (beyond : cells.size < start + values.length) : overlay? cells start values = none := by
  induction values generalizing cells start with
  | nil => cases some
  | cons value rest ih =>
      by_cases missing : cells.size ≤ start
      · simp [overlay?, put_beyond cells start value missing]
      · have put := put_within cells start value (by omega)
        have later := ih (write cells start value) (start + 1)
        rw [size_write, Int.natCast_succ] at later
        rw [List.length_cons] at beyond
        simp [overlay?, put, later (by omega) (by omega)]

end Cells

theorem Memory.overlay_within (m : Memory) (start : Nat) (bytes : List UInt8)
    (within : start + bytes.length ≤ m.size) :
    Cells.overlay? m start bytes = some (m.overlay start bytes) := by
  induction bytes generalizing m start with
  | nil => rfl
  | cons b bytes ih =>
      rw [List.length_cons] at within
      have put := Cells.put_within m start b (by omega)
      have rest := ih (m.write start b) (start + 1) (by rw [size_write]; omega)
      rw [Int.natCast_succ, write] at rest
      simpa [Cells.overlay?, put, overlay, write] using rest

namespace Sprite

theorem lit_congr (s t : Sprite) (height : s.height = t.height)
    (rows : ∀ r : Nat, (r : Int) < s.height → s.row r = t.row r) (dx dy : Int) :
    s.lit dx dy = t.lit dx dy := by
  have same : t.Covers dx dy ↔ s.Covers dx dy := by simp only [Covers, height]
  by_cases covered : s.Covers dx dy
  · have row : s.row dy.toNat = t.row dy.toNat := by
      apply rows
      have within := covered.2.2
      omega
    simp [lit, same, covered, row]
  · simp [lit, same, covered]

end Sprite

theorem Display.draw_congr (d : Display) (edges : Edges) (s t : Sprite) (x y : Int)
    (height : s.height = t.height) (rows : ∀ r : Nat, (r : Int) < s.height → s.row r = t.row r) :
    d.draw edges s x y = d.draw edges t x y := by
  simp only [draw, blit, Sprite.lit_congr s t height rows]

namespace Stack

theorem push_strict_within (s : Stack) (a : Word) (bounded : s.Bounded) (room : s.isFull = false) :
    s.push? a = some (s.push a) := by
  obtain ⟨slot, place⟩ := Int.eq_ofNat_of_zero_le bounded.1
  have within : slot < s.slots.size := by
    simp only [isFull, capacity, place, decide_eq_false_iff_not] at room
    omega
  simp [push?, push, place, Cells.put_within s.slots slot a within]

theorem push_strict_full (s : Stack) (a : Word) (bounded : s.Bounded) (full : s.isFull = true) :
    s.push? a = none := by
  obtain ⟨slot, place⟩ := Int.eq_ofNat_of_zero_le bounded.1
  have beyond : s.slots.size ≤ slot := by
    simp only [isFull, capacity, place, decide_eq_true_eq] at full
    omega
  simp [push?, place, Cells.put_beyond s.slots slot a beyond]

theorem pop_strict_within (s : Stack) (bounded : s.Bounded) (some : s.isEmpty = false) :
    s.pop? = Option.some s.pop := by
  obtain ⟨slot, pointer, top⟩ := top_of_some s some
  have place : s.pointer.toInt - 1 = slot := by omega
  have within : slot < s.slots.size := by
    have high := bounded.2
    rw [capacity] at high
    omega
  simp [pop?, pop, place, top, Cells.get_within s.slots slot within, Cells.put_within s.slots slot 0 within]

theorem pop_strict_empty (s : Stack) (empty : s.isEmpty = true) : s.pop? = none := by
  simp only [isEmpty, decide_eq_true_eq] at empty
  have missing : Cells.get? s.slots (s.pointer.toInt - 1) = none := if_neg (by omega)
  simp only [pop?, missing]
  rfl

end Stack

namespace Machine

theorem fetch_strict (m : Machine) :
    m.fetchStrict? = if m.CanFetch then some m.fetch else none := by
  by_cases fetched : m.CanFetch
  · have low : m.pc.toNat + 1 < m.memory.size := fetched
    have first := Cells.get_within m.memory m.pc.toNat (by omega)
    have second := Cells.get_within m.memory (m.pc.toNat + 1) low
    rw [Int.natCast_succ] at second
    simp only [fetchStrict?, first, second, if_pos fetched]
    rfl
  · have beyond : m.memory.size ≤ m.pc.toNat + 1 := Nat.le_of_not_lt fetched
    have second := Cells.get_beyond m.memory (m.pc.toNat + 1) beyond
    rw [Int.natCast_succ] at second
    rw [fetchStrict?, second, if_neg fetched]
    cases Cells.get? m.memory m.pc.toNat <;> rfl

theorem length_registers_up_to (m : Machine) (x : Reg) : (m.registersUpTo x).length = x.val + 1 := by
  have count := x.isLt
  simp only [registersUpTo, List.length_take, Vector.length_toList]
  omega

theorem get_registers_up_to (m : Machine) (x k : Reg) (named : k ≤ x) :
    (m.registersUpTo x)[k.val]? = some (m.v k) := by
  have before : k.val < x.val + 1 := Nat.lt_succ_of_le named
  simp [registersUpTo, v, before]

theorem get_stored_lanes (m : Machine) (x k : Reg) :
    (m.storedLanes x)[k.val]? = some (if k ≤ x then m.v k else m.memory.read (m.index.toNat + k.val)) := by
  rw [storedLanes, List.getElem?_ofFn, dif_pos k.isLt]

-- A lane past `Vx` writes back the byte that is there, or falls outside memory and is dropped.
theorem overlay_stored_lanes (m : Machine) (x : Reg) :
    m.memory.overlay m.index.toNat (m.storedLanes x) = m.memory.overlay m.index.toNat (m.registersUpTo x) := by
  apply Array.ext_getElem?
  intro j
  by_cases inside : j < m.memory.size
  · have lanes : (m.storedLanes x).length = 16 := by simp [storedLanes]
    have count := x.isLt
    rw [Memory.get_overlay _ _ _ j inside, Memory.get_overlay _ _ _ j inside, lanes, length_registers_up_to]
    by_cases lane : m.index.toNat ≤ j ∧ j < m.index.toNat + 16
    · obtain ⟨k, rfl⟩ := Nat.exists_eq_add_of_le lane.1
      have stored := get_stored_lanes m x ⟨k, by omega⟩
      rw [if_pos lane, Nat.add_sub_cancel_left, stored]
      by_cases named : (⟨k, by omega⟩ : Reg) ≤ x
      · have within : m.index.toNat ≤ m.index.toNat + k ∧ m.index.toNat + k < m.index.toNat + (x.val + 1) :=
          ⟨Nat.le_add_right _ _, Nat.add_lt_add_left (Nat.lt_succ_of_le named) _⟩
        rw [if_pos named, if_pos within, get_registers_up_to m x ⟨k, by omega⟩ named]
      · have past : ¬ (m.index.toNat ≤ m.index.toNat + k ∧ m.index.toNat + k < m.index.toNat + (x.val + 1)) := by
          intro within
          exact named (Nat.le_of_lt_succ (Nat.lt_of_add_lt_add_left within.2))
        rw [if_neg named, if_neg past, Memory.read_of_lt _ _ inside]
        simp [inside]
    · have outside : ¬ (m.index.toNat ≤ j ∧ j < m.index.toNat + (x.val + 1)) := by omega
      rw [if_neg lane, if_neg outside]
  · rw [Array.getElem?_eq_none, Array.getElem?_eq_none] <;> simp [Memory.size_overlay] <;> omega

theorem with_registers_window (m : Machine) (x : Reg) :
    m.withRegisters ((List.range' m.index.toNat (x.val + 1)).map fun a => m.memory.read a) =
      { m with registers := m.loadRegisters x } := by
  have lanes : (m.withRegisters ((List.range' m.index.toNat (x.val + 1)).map fun a => m.memory.read a)).registers =
      m.loadRegisters x := by
    apply Vector.ext
    intro k inside
    by_cases named : (⟨k, inside⟩ : Reg) ≤ x
    · have within : k < x.val + 1 := Nat.lt_succ_of_le named
      simp [withRegisters, loadRegisters, named, within]
    · have past : ¬ k < x.val + 1 := fun within => named (Nat.le_of_lt_succ within)
      simp [withRegisters, loadRegisters, named, past]
  rw [← lanes]
  rfl

theorem draw_rows_window (m : Machine) (x y : Reg) (rows : Nibble) :
    m.drawRows x y ((List.range' m.index.toNat rows.val).map fun a => m.memory.read a) = m.drawSprite x y rows := by
  have same := Display.draw_congr m.display m.edges
    ⟨((List.range' m.index.toNat rows.val).map fun a => m.memory.read a).length,
      fun r => ((List.range' m.index.toNat rows.val).map fun a => m.memory.read a).getD r 0⟩
    (Sprite.ofMemory m.memory m.index.toNat rows.val) (m.v x).toNat (m.v y).toNat
    (by simp [Sprite.ofMemory])
    (by
      intro r inside
      have within : r < rows.val := by simpa using inside
      simp [Sprite.ofMemory, within])
  simp only [drawRows, drawSprite, same]

theorem execute_strict (m : Machine) (i : Instruction) (fetched : m.CanFetch) (bounded : m.stack.Bounded) :
    m.executeStrict? i = if m.faultOf i = none then some (m.execute i) else none := by
  unfold executeStrict? faultOf
  rw [if_pos fetched]
  cases i with
  | unknown word => simp
  | ret =>
      cases empty : m.stack.isEmpty with
      | false => simp [execute, Stack.pop_strict_within m.stack bounded empty]
      | true => simp [Stack.pop_strict_empty m.stack empty]
  | call target =>
      cases full : m.stack.isFull with
      | false => simp [execute, Stack.push_strict_within m.stack m.pc bounded full]
      | true => simp [Stack.push_strict_full m.stack m.pc bounded full]
  | draw x y rows =>
      by_cases past : m.Overreaches (.draw x y rows)
      · have missing := Cells.window_beyond m.memory m.index.toNat rows.val past.1 past.2
        simp [past, missing]
      · have inside : ¬ (0 < rows.val ∧ m.memory.size < m.index.toNat + rows.val) := past
        have window := Cells.window_within m.memory m.index.toNat rows.val (by omega)
        have drawn := draw_rows_window m x y rows
        simp only [Memory.read] at drawn
        simp [execute, past, window, drawn]
  | digits x =>
      have length : (decimalDigits (m.v x)).length = 3 := rfl
      by_cases past : m.Overreaches (.digits x)
      · have missing := Cells.overlay_beyond m.memory m.index.toNat (decimalDigits (m.v x)) (by omega) past
        simp [past, missing]
      · have inside : ¬ m.memory.size < m.index.toNat + 3 := past
        have written := Memory.overlay_within m.memory m.index.toNat (decimalDigits (m.v x)) (by omega)
        simp [execute, past, written]
  | store x =>
      have length := length_registers_up_to m x
      by_cases past : m.Overreaches (.store x)
      · have beyond : m.memory.size < m.index.toNat + x.val + 1 := past
        have missing := Cells.overlay_beyond m.memory m.index.toNat (m.registersUpTo x) (by omega) (by omega)
        simp [past, missing]
      · have inside : ¬ m.memory.size < m.index.toNat + x.val + 1 := past
        have written := Memory.overlay_within m.memory m.index.toNat (m.registersUpTo x) (by omega)
        simp [execute, past, written, overlay_stored_lanes]
  | load x =>
      by_cases past : m.Overreaches (.load x)
      · have missing := Cells.window_beyond m.memory m.index.toNat (x.val + 1) (Nat.succ_pos _) past
        simp [past, missing]
      · have inside : ¬ m.memory.size < m.index.toNat + x.val + 1 := past
        have window := Cells.window_within m.memory m.index.toNat (x.val + 1) (by omega)
        have loaded := with_registers_window m x
        simp only [Memory.read] at loaded
        simp [execute, past, window, loaded]
  | _ => simp [Overreaches]

theorem strict_eq (m : Machine) (bounded : m.stack.Bounded) :
    m.strict? = if m.faultOf m.instruction = none then some (m.execute m.instruction) else none := by
  by_cases fetched : m.CanFetch
  · rw [strict?, fetch_strict, if_pos fetched]
    exact execute_strict m m.instruction fetched bounded
  · have raised : m.faultOf m.instruction = some .memory := if_neg fetched
    rw [strict?, fetch_strict, if_neg fetched, raised]
    rfl

theorem fault_check_exact (m : Machine) (bounded : m.stack.Bounded) :
    (m.faultOf m.instruction = none ↔ m.strict?.isSome = true) ∧
      (m.faultOf m.instruction = none → m.strict? = some (m.execute m.instruction)) := by
  rw [strict_eq m bounded]
  by_cases safe : m.faultOf m.instruction = none
  · rw [if_pos safe]
    exact ⟨⟨fun _ => rfl, fun _ => safe⟩, fun _ => rfl⟩
  · rw [if_neg safe]
    exact ⟨⟨fun passed => absurd passed safe, fun result => by cases result⟩, fun passed => absurd passed safe⟩

theorem fault_check_exact_at_end :
    let m := { fresh ⟨0x202, 1, 1, some 1, .clip⟩ [0xF1, 0x55] ⟨0, 0⟩ with index := 0x200 }
    let past := { m with index := 0x201 }
    m.stack.Bounded ∧ m.faultOf m.instruction = none ∧ m.strict? = some (m.execute m.instruction) ∧
      past.stack.Bounded ∧ past.faultOf past.instruction = some .memory ∧ past.strict? = none := by
  intro m past
  have bounded : m.stack.Bounded := by decide
  have safe : m.faultOf m.instruction = none := by decide +kernel
  have raised : past.faultOf past.instruction = some .memory := by decide +kernel
  have aborts : past.strict? = none := by
    apply Option.not_isSome_iff_eq_none.mp
    intro result
    have passed := (fault_check_exact past bounded).1.mpr result
    exact absurd (raised.symm.trans passed) nofun
  exact ⟨bounded, safe, (fault_check_exact m bounded).2 safe, bounded, raised, aborts⟩

end Machine

end Chip8

import Chip8.Stack

set_option autoImplicit false

namespace Chip8.Stack

-- The slots below the pointer hold the frames, oldest first, and the others hold zero.
structure Holds (s : Stack) (frames : List Word) : Prop where
  slots : s.slots.toList = frames ++ List.replicate (s.capacity - frames.length) 0
  pointer : s.pointer.toInt = frames.length
  fits : s.capacity < 0x80000000

theorem holds_length (s : Stack) (frames : List Word) (holds : s.Holds frames) : frames.length ≤ s.capacity := by
  have count := congrArg List.length holds.slots
  rw [List.length_append, List.length_replicate, Array.length_toList] at count
  rw [capacity]
  omega

theorem holds_bounded (s : Stack) (frames : List Word) (holds : s.Holds frames) : s.Bounded := by
  have count := holds_length s frames holds
  rw [Bounded, holds.pointer]
  omega

theorem is_empty_iff (s : Stack) (frames : List Word) (holds : s.Holds frames) :
    s.isEmpty = true ↔ frames = [] := by
  rw [isEmpty, decide_eq_true_eq, holds.pointer, ← List.length_eq_zero_iff]
  omega

theorem is_full_iff (s : Stack) (frames : List Word) (holds : s.Holds frames) :
    s.isFull = true ↔ frames.length = s.capacity := by
  have count := holds_length s frames holds
  rw [isFull, decide_eq_true_eq, holds.pointer]
  omega

theorem holds_zeroed (capacity : Int32) (natural : 0 ≤ capacity.toInt) : (zeroed capacity).Holds [] := by
  have high := capacity.toInt_lt
  have size : (zeroed capacity).capacity = capacity.toInt.toNat := by simp [zeroed, Stack.capacity]
  refine ⟨?_, rfl, by omega⟩
  rw [size]
  simp [zeroed]

theorem holds_push (s : Stack) (frames : List Word) (a : Word) (holds : s.Holds frames)
    (room : s.isFull = false) : (s.push a).Holds (frames ++ [a]) := by
  have count := holds_length s frames holds
  have free : frames.length < s.capacity := by
    have notFull : ¬ frames.length = s.capacity := fun full => by
      rw [(is_full_iff s frames holds).mpr full] at room
      cases room
    omega
  have fits := holds.fits
  obtain ⟨rest, split⟩ := Nat.exists_eq_add_of_lt free
  refine ⟨?_, ?_, by rw [capacity_push]; exact fits⟩
  · have before : s.capacity - frames.length = rest + 1 := by omega
    have after : (s.push a).capacity - (frames ++ [a]).length = rest := by
      rw [capacity_push, List.length_append, List.length_singleton]
      omega
    rw [after, push, holds.pointer, Cells.write_of_natural, Array.toList_setIfInBounds, holds.slots, before]
    simp [List.replicate_succ]
  · rw [push, pointer_succ s.pointer (by rw [holds.pointer]; omega), holds.pointer]
    simp

theorem top_of_holds (s : Stack) (frames : List Word) (a : Word) (holds : s.Holds (frames ++ [a])) :
    s.top = frames.length := by
  have pointer := holds.pointer
  rw [List.length_append, List.length_singleton] at pointer
  rw [top, pointer_pred s.pointer (by omega), pointer]
  omega

theorem holds_pop (s : Stack) (frames : List Word) (a : Word) (holds : s.Holds (frames ++ [a])) :
    s.pop.1 = a ∧ s.pop.2.Holds frames := by
  have count := holds_length s (frames ++ [a]) holds
  rw [List.length_append, List.length_singleton] at count
  have pointer := holds.pointer
  rw [List.length_append, List.length_singleton] at pointer
  have top := top_of_holds s frames a holds
  have slots := holds.slots
  rw [List.length_append, List.length_singleton] at slots
  have inside : frames.length < s.slots.size := count
  refine ⟨?_, ?_, ?_, ?_⟩
  · rw [pop, top, Cells.read_of_lt s.slots frames.length inside, ← Array.getElem_toList]
    simp [slots]
  · have before : s.capacity - frames.length = s.capacity - (frames.length + 1) + 1 := by omega
    rw [capacity_pop, before, pop, top, Cells.write_of_natural, Array.toList_setIfInBounds, slots]
    simp [List.replicate_succ]
  · rw [pop, pointer_pred s.pointer (by omega), pointer]
    omega
  · rw [capacity_pop]
    exact holds.fits

theorem holds_unique (s t : Stack) (frames : List Word) (first : s.Holds frames) (second : t.Holds frames)
    (same : s.capacity = t.capacity) : s = t := by
  have slots : s.slots = t.slots := by
    apply Array.toList_inj.mp
    rw [first.slots, second.slots, same]
  have pointer : s.pointer = t.pointer := by
    apply Int32.toInt_inj.mp
    rw [first.pointer, second.pointer]
  cases s
  cases t
  simp_all

theorem slot_of_holds (s : Stack) (frames : List Word) (holds : s.Holds frames) (slot : Nat)
    (live : slot < frames.length) : s.slots[slot]? = frames[slot]? := by
  rw [← Array.getElem?_toList, holds.slots, List.getElem?_append_left live]

theorem free_slot_of_holds (s : Stack) (frames : List Word) (holds : s.Holds frames) (slot : Nat)
    (inside : slot < s.slots.size) (free : frames.length ≤ slot) : s.slots[slot] = 0 := by
  rw [← Array.getElem_toList]
  simp only [holds.slots]
  rw [List.getElem_append_right free]
  exact List.getElem_replicate _

end Chip8.Stack

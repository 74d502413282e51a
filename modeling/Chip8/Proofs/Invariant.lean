import Chip8.History
import Chip8.Proofs.Frames
import Chip8.Proofs.Outcome

set_option autoImplicit false

namespace Chip8.Machine

-- What the parts of a machine owe to each other at every moment. Saved addresses are those of calls
-- that could be fetched, and a key waits for nothing but an open latch.
structure Sound (m : Machine) : Prop where
  display : m.display.Binary
  stack : ∃ frames, m.stack.Holds frames ∧ ∀ a ∈ frames, a.toNat + 1 < m.memory.size
  waitRegister : m.waitRegister.toNat ≤ 15
  key : m.lastKey = -1 ∨ m.waiting = true ∧ 0 ≤ m.lastKey.toInt ∧ m.lastKey.toInt ≤ 15
  fault : m.fault = 0 ∨ ∃ f : Fault, m.fault = f.code

theorem created_sound (c : Config) (image : Image) (random : WordPair) (m : Machine)
    (created : create c image random = .ok m) : m.Sound := by
  obtain ⟨_, _, _, positive, program, _, _, allocatable, rfl⟩ := (create_eq_ok_iff c image random m).mp created
  have kept : (Int32.ofInt c.capacity).toInt = c.capacity :=
    Int32.toInt_ofInt_of_le allocatable.2.2.1 allocatable.2.2.2
  have stack := Stack.holds_zeroed (Int32.ofInt c.capacity) (by omega)
  exact ⟨Display.binary_blank _ _, ⟨[], stack, by simp⟩, by simp [fresh], .inl rfl, .inl rfl⟩

theorem sound_prepared (m : Machine) (sound : m.Sound) : m.prepared.Sound := by
  have key : m.prepared.lastKey = -1 ∨ m.prepared.waiting = true ∧ 0 ≤ m.prepared.lastKey.toInt ∧
      m.prepared.lastKey.toInt ≤ 15 := by
    rcases sound.key with none | ⟨isOpen, low, high⟩
    · have waits : ¬ (m.waiting && decide (0 ≤ m.lastKey)) = true := by simp [none]
      simp only [prepared, deliverKey, if_neg waits]
      exact .inl none
    · rw [prepared_of_delivered m isOpen (Int8.le_iff_toInt_le.mpr low)]
      exact .inl rfl
  rw [prepared_eq]
  exact ⟨sound.display, sound.stack, sound.waitRegister, key, sound.fault⟩

theorem sound_tick (m : Machine) (sound : m.Sound) : m.tick.Sound :=
  ⟨sound.display, sound.stack, sound.waitRegister, sound.key, sound.fault⟩

theorem execute_binary (m : Machine) (i : Instruction) (binary : m.display.Binary) :
    (m.execute i).display.Binary := by
  rw [execute_display]
  cases i with
  | clear => exact Display.binary_blank _ _
  | system target => exact Display.binary_blank _ _
  | draw x y rows => exact Display.binary_flip _ _ binary
  | _ => exact binary

theorem execute_saved (m : Machine) (i : Instruction) (safe : m.faultOf i = none)
    (stack : ∃ frames, m.stack.Holds frames ∧ ∀ a ∈ frames, a.toNat + 1 < m.memory.size) :
    ∃ frames, (m.execute i).stack.Holds frames ∧ ∀ a ∈ frames, a.toNat + 1 < (m.execute i).memory.size := by
  rw [(execute_same_shape m i).memory, execute_stack]
  obtain ⟨frames, holds, saved⟩ := stack
  cases i with
  | call target =>
      refine ⟨frames ++ [m.pc], Stack.holds_push m.stack frames m.pc holds (not_full_of_safe m target safe), ?_⟩
      intro a member
      rcases List.mem_append.mp member with older | newest
      · exact saved a older
      · rw [List.mem_singleton.mp newest]
        exact can_fetch_of_safe m (.call target) safe
  | ret =>
      have some : frames ≠ [] := fun none => by
        have empty := (Stack.is_empty_iff m.stack frames holds).mpr none
        rw [not_empty_of_safe m safe] at empty
        cases empty
      rw [← List.dropLast_concat_getLast some] at holds
      refine ⟨frames.dropLast, (Stack.holds_pop m.stack frames.dropLast (frames.getLast some) holds).2, ?_⟩
      intro a member
      exact saved a (List.dropLast_subset frames member)
  | _ => exact ⟨frames, holds, saved⟩

theorem execute_key (m : Machine) (i : Instruction) (closed : m.waiting = false) (sound : m.Sound) :
    (m.execute i).lastKey = -1 := by
  rw [(execute_host_fields m i).2.1]
  rcases sound.key with none | pending
  · exact none
  · rw [closed] at pending
    cases pending.1

theorem sound_execute (m : Machine) (i : Instruction) (sound : m.Sound) (closed : m.waiting = false)
    (safe : m.faultOf i = none) : (m.execute i).Sound := by
  have waitRegister : (m.execute i).waitRegister.toNat ≤ 15 := by
    rw [execute_wait_register]
    cases i with
    | awaitKey x =>
        have count := x.isLt
        simp only [UInt8.toNat_ofNat']
        omega
    | _ => exact sound.waitRegister
  have fault : (m.execute i).fault = 0 ∨ ∃ f : Fault, (m.execute i).fault = f.code := by
    rw [(execute_host_fields m i).2.2.1]
    exact sound.fault
  exact ⟨execute_binary m i sound.display, execute_saved m i safe sound.stack, waitRegister,
    .inl (execute_key m i closed sound), fault⟩

theorem sound_step (m : Machine) (sound : m.Sound) : m.step.Sound := by
  have outcome := step_outcome m
  generalize m.step = next at outcome
  cases outcome with
  | halted recorded => exact sound
  | stalled stalls =>
      apply sound_tick
      exact ⟨sound.display, sound.stack, sound.waitRegister, sound.key, sound.fault⟩
  | faulted f raises =>
      exact ⟨sound.display, sound.stack, sound.waitRegister, sound.key, .inr ⟨f, rfl⟩⟩
  | executed i executes =>
      obtain ⟨_, closed, _, safe⟩ := executes
      rw [← prepared_waiting] at closed
      exact sound_tick _ (sound_execute m.prepared i (sound_prepared m sound) closed safe)

theorem key_value (k : Nibble) : (Int8.ofNat k.val).toInt = k.val :=
  Int8.toInt_ofNat_of_lt (by have count := k.isLt; omega)

theorem sound_press (m : Machine) (k : Nibble) (sound : m.Sound) : (m.press k).Sound := by
  have key : (m.press k).lastKey = -1 ∨ (m.press k).waiting = true ∧ 0 ≤ (m.press k).lastKey.toInt ∧
      (m.press k).lastKey.toInt ≤ 15 := by
    cases isOpen : m.waiting with
    | false =>
        rcases sound.key with none | pending
        · exact .inl (by simp [press, isOpen, none])
        · rw [isOpen] at pending
          cases pending.1
    | true =>
        have count := k.isLt
        have number : (m.press k).lastKey.toInt = k.val := by
          simp only [press, isOpen, if_true]
          exact key_value k
        exact .inr ⟨isOpen, by omega, by omega⟩
  exact ⟨sound.display, sound.stack, sound.waitRegister, key, sound.fault⟩

theorem sound_after (m : Machine) (event : Event) (sound : m.Sound) : (m.after event).Sound := by
  cases event with
  | step => exact sound_step m sound
  | press k => exact sound_press m k sound
  | release k => exact ⟨sound.display, sound.stack, sound.waitRegister, sound.key, sound.fault⟩
  | clearFault => exact ⟨sound.display, sound.stack, sound.waitRegister, sound.key, .inl rfl⟩

theorem sound_follow (m : Machine) (events : List Event) (sound : m.Sound) : (m.follow events).Sound := by
  induction events generalizing m with
  | nil => exact sound
  | cons event later ih => exact ih (m.after event) (sound_after m event sound)

theorem sound_run (m : Machine) (budget : Nat) (sound : m.Sound) : (m.run budget).machine.Sound := by
  obtain ⟨count, _, reached⟩ := extend_follows budget (Run.start m)
  rw [run, reached]
  exact sound_follow m _ sound

theorem sound_of_reached (m : Machine) (reached : m.Reached) : m.Sound := by
  obtain ⟨c, image, random, made, past, created, rfl⟩ := reached
  exact sound_follow made past (created_sound c image random made created)

theorem step_same_shape (m : Machine) : SameShape m m.step := by
  have outcome := step_outcome m
  generalize m.step = next at outcome
  cases outcome with
  | halted recorded => exact same_shape_refl m
  | stalled stalls => exact ⟨rfl, rfl, rfl, rfl, rfl⟩
  | faulted f raises => exact ⟨rfl, rfl, rfl, rfl, rfl⟩
  | executed i executes =>
      have prepared : SameShape m m.prepared := by
        rw [prepared_eq]
        exact ⟨rfl, rfl, rfl, rfl, rfl⟩
      have shape := same_shape_trans _ _ _ prepared (execute_same_shape m.prepared i)
      exact ⟨shape.memory, shape.width, shape.height, shape.capacity, shape.edges⟩

theorem follow_same_shape (m : Machine) (events : List Event) : SameShape m (m.follow events) := by
  induction events generalizing m with
  | nil => exact same_shape_refl m
  | cons event later ih =>
      have first : SameShape m (m.after event) := by
        cases event with
        | step => exact step_same_shape m
        | press k => exact ⟨rfl, rfl, rfl, rfl, rfl⟩
        | release k => exact ⟨rfl, rfl, rfl, rfl, rfl⟩
        | clearFault => exact ⟨rfl, rfl, rfl, rfl, rfl⟩
      exact same_shape_trans _ _ _ first (ih (m.after event))

structure WellFormed (made m : Machine) : Prop where
  memory : m.memory.size = made.memory.size
  width : m.display.width = made.display.width
  height : m.display.height = made.display.height
  capacity : m.stack.capacity = made.stack.capacity
  cells : ∀ x y, x < m.display.width → y < m.display.height → m.display.get x y = 0 ∨ m.display.get x y = 1
  pointer : 0 ≤ m.stack.pointer.toInt ∧ m.stack.pointer.toInt ≤ m.stack.capacity
  free : ∀ slot (inside : slot < m.stack.slots.size), m.stack.pointer.toInt ≤ slot → m.stack.slots[slot] = 0
  saved : ∀ slot (inside : slot < m.stack.slots.size), slot < m.stack.pointer.toInt →
    m.stack.slots[slot].toNat + 1 < m.memory.size
  waitRegister : m.waitRegister.toNat ≤ 15
  lastKey : -1 ≤ m.lastKey.toInt ∧ m.lastKey.toInt ≤ 15
  pending : 0 ≤ m.lastKey.toInt → m.waiting = true
  fault : m.fault = 0 ∨ ∃ f : Fault, m.fault = f.code

theorem well_formed_of_sound (made m : Machine) (shape : SameShape made m) (sound : m.Sound) :
    WellFormed made m := by
  obtain ⟨frames, holds, saved⟩ := sound.stack
  have pointer := holds.pointer
  have savedSlot : ∀ slot (inside : slot < m.stack.slots.size), slot < m.stack.pointer.toInt →
      m.stack.slots[slot].toNat + 1 < m.memory.size := by
    intro slot inside below
    have live : slot < frames.length := by omega
    have same := Stack.slot_of_holds m.stack frames holds slot live
    rw [Array.getElem?_eq_getElem inside, List.getElem?_eq_getElem live] at same
    rw [Option.some.inj same]
    exact saved _ (List.getElem_mem live)
  have lastKey : -1 ≤ m.lastKey.toInt ∧ m.lastKey.toInt ≤ 15 := by
    rcases sound.key with none | ⟨_, low, high⟩
    · rw [none]
      decide
    · omega
  have pending : 0 ≤ m.lastKey.toInt → m.waiting = true := by
    intro key
    rcases sound.key with none | delivered
    · rw [none] at key
      exact absurd key (by decide)
    · exact delivered.1
  exact ⟨shape.memory, shape.width, shape.height, shape.capacity, fun x y _ _ => sound.display x y,
    Stack.holds_bounded m.stack frames holds,
    fun slot inside free => Stack.free_slot_of_holds m.stack frames holds slot inside (by omega),
    savedSlot, sound.waitRegister, lastKey, pending, sound.fault⟩

theorem reachable_well_formed (c : Config) (image : Image) (random : WordPair) (made : Machine)
    (created : create c image random = .ok made) (calls : List Call) : WellFormed made (made.callAll calls) := by
  obtain ⟨events, reached⟩ := call_all_follows made calls
  rw [reached]
  exact well_formed_of_sound made _ (follow_same_shape made events)
    (sound_follow made events (created_sound c image random made created))

theorem reachable_well_formed_recursion :
    let c : Config := { stackSize := some 2 }
    let made := fresh c [0x22, 0x00] ⟨0, 7⟩
    create c (.raw [0x22, 0x00]) ⟨0, 7⟩ = .ok made ∧
      WellFormed made (made.callAll [.run 5, .press 3, .release 16, .clearFault, .step]) :=
  ⟨rfl, reachable_well_formed { stackSize := some 2 } (.raw [0x22, 0x00]) ⟨0, 7⟩ _ rfl _⟩

end Chip8.Machine

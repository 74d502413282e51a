import Chip8.Proofs.Invariant

set_option autoImplicit false

namespace Chip8.Machine

def StaysOff (m : Machine) (depth : Int32) : List Event → Prop
  | [] => m.stack.pointer ≠ depth
  | event :: later => m.stack.pointer ≠ depth ∧ (m.after event).StaysOff depth later

instance decidableStaysOff (m : Machine) (depth : Int32) (events : List Event) :
    Decidable (m.StaysOff depth events) :=
  match events with
  | [] => inferInstanceAs (Decidable (_ ≠ _))
  | event :: later =>
      have := decidableStaysOff (m.after event) depth later
      inferInstanceAs (Decidable (_ ∧ _))

theorem stays_off_start (m : Machine) (depth : Int32) (events : List Event) (off : m.StaysOff depth events) :
    m.stack.pointer ≠ depth := by
  cases events with
  | nil => exact off
  | cons event later => exact off.1

inductive StackChange (m : Machine) (event : Event) : Stack → Prop
  | kept : StackChange m event m.stack
  | called (target : Word) (taken : event = .step) (executes : m.Executes (.call target)) :
      StackChange m event (m.stack.push m.pc)
  | returned (taken : event = .step) (executes : m.Executes .ret) : StackChange m event m.stack.pop.2

theorem stack_change (m : Machine) (event : Event) : StackChange m event (m.after event).stack := by
  cases event with
  | press k => exact .kept
  | release k => exact .kept
  | clearFault => exact .kept
  | step =>
      have outcome := step_outcome m
      rw [after]
      generalize m.step = next at outcome
      cases outcome with
      | halted recorded => exact .kept
      | stalled stalls => exact .kept
      | faulted f raises => exact .kept
      | executed i executes =>
          have pc : m.prepared.pc = m.pc := by rw [prepared_eq]
          change StackChange m .step (m.prepared.execute i).stack
          rw [execute_stack, prepared_stack, pc]
          cases i with
          | call target => exact .called target rfl executes
          | ret => exact .returned rfl executes
          | _ => exact .kept

-- One event in a subroutine. The frame of the call stays where it is, under whatever deeper calls put
-- on top of it, until an executed return takes it.
theorem inside_after (m : Machine) (event : Event) (base : List Word) (p : Word) (inner : List Word)
    (holds : m.stack.Holds (base ++ p :: inner)) :
    (∃ next, (m.after event).stack.Holds (base ++ p :: next)) ∨
      event = .step ∧ m.Executes .ret ∧ (m.after event).pc = p + 2 ∧ (m.after event).stack.Holds base := by
  have change := stack_change m event
  generalize stacked : (m.after event).stack = stack at change ⊢
  cases change with
  | kept => exact .inl ⟨inner, holds⟩
  | called target taken executes =>
      have room := not_full_of_safe m.prepared target executes.2.2.2
      rw [prepared_stack] at room
      have pushed := Stack.holds_push m.stack _ m.pc holds room
      rw [List.append_assoc, List.cons_append] at pushed
      exact .inl ⟨inner ++ [m.pc], pushed⟩
  | returned taken executes =>
      rcases List.eq_nil_or_concat inner with rfl | ⟨rest, a, rfl⟩
      · obtain ⟨address, popped⟩ := Stack.holds_pop m.stack base p holds
        have pc : m.step.pc = p + 2 := by
          rw [step_of_executes m .ret executes]
          change m.prepared.stack.pop.1 + 2 = p + 2
          rw [prepared_stack, address]
        subst taken
        exact .inr ⟨rfl, executes, pc, popped⟩
      · rw [List.concat_eq_append, ← List.cons_append, ← List.append_assoc] at holds
        exact .inl ⟨rest, (Stack.holds_pop m.stack (base ++ p :: rest) a holds).2⟩

theorem inside_follow (m : Machine) (depth : Int32) (later : List Event) (base : List Word) (p : Word)
    (inner : List Word) (level : depth.toInt = base.length) (holds : m.stack.Holds (base ++ p :: inner))
    (off : m.StaysOff depth later) : ∃ next, (m.follow later).stack.Holds (base ++ p :: next) := by
  induction later generalizing m inner with
  | nil => exact ⟨inner, holds⟩
  | cons event later ih =>
      rcases inside_after m event base p inner holds with ⟨next, still⟩ | ⟨_, _, _, returned⟩
      · exact ih (m.after event) next still off.2
      · have back : (m.after event).stack.pointer = depth := by
          apply Int32.toInt_inj.mp
          rw [returned.pointer, level]
        exact absurd back (stays_off_start (m.after event) depth later off.2)

theorem call_returns_to_caller (m now : Machine) (reached : m.Reached) (target : Word)
    (calls : m.Executes (.call target)) (later : List Event) (off : m.step.StaysOff m.stack.pointer later)
    (follows : now = m.step.follow later) :
    m.stack.pointer.toInt < now.stack.pointer.toInt ∧
      now.stack.slots[m.stack.pointer.toInt.toNat]? = some m.pc ∧
      (∀ slot : Nat, slot ≤ m.stack.pointer.toInt → now.stack.slots[slot]? = m.step.stack.slots[slot]?) ∧
      ∀ event, (now.after event).stack.pointer = m.stack.pointer →
        event = .step ∧ now.Executes .ret ∧ (now.after event).pc = m.pc + 2 ∧
          (now.after event).stack = m.stack := by
  obtain ⟨base, holds, _⟩ := (sound_of_reached m reached).stack
  have room : m.stack.isFull = false := by
    have free := not_full_of_safe m.prepared target calls.2.2.2
    rw [prepared_stack] at free
    exact free
  have entered : m.step.stack.Holds (base ++ [m.pc]) := by
    have pushed := Stack.holds_push m.stack base m.pc holds room
    rw [step_of_executes m (.call target) calls, prepared_eq]
    exact pushed
  have level := holds.pointer
  obtain ⟨inner, inside⟩ := inside_follow m.step m.stack.pointer later base m.pc [] level entered off
  rw [← follows] at inside
  have pointer := inside.pointer
  rw [List.length_append, List.length_cons] at pointer
  have slots : ∀ slot : Nat, slot ≤ m.stack.pointer.toInt →
      now.stack.slots[slot]? = (base ++ [m.pc])[slot]? := by
    intro slot below
    rw [Stack.slot_of_holds _ _ inside slot (by simp; omega), ← List.singleton_append, ← List.append_assoc]
    exact List.getElem?_append_left (by simp; omega)
  refine ⟨by omega, ?_, ?_, ?_⟩
  · rw [slots _ (by omega), level]
    simp
  · intro slot below
    rw [slots slot below, Stack.slot_of_holds _ _ entered slot (by simp; omega)]
  · intro event back
    rcases inside_after now event base m.pc inner inside with ⟨next, still⟩ | ⟨taken, executes, pc, returned⟩
    · have deeper := still.pointer
      rw [back, List.length_append, List.length_cons] at deeper
      omega
    · have shape := (follow_same_shape m (.step :: later ++ [event])).capacity
      rw [List.cons_append, follow, follow_append, after, ← follows] at shape
      exact ⟨taken, executes, pc, Stack.holds_unique _ _ base returned holds shape⟩

theorem nested_call_returns :
    let c : Config := ⟨0x20A, 1, 1, some 2, .clip⟩
    let program : List UInt8 := [0x22, 0x04, 0, 0, 0x22, 0x08, 0, 0xEE, 0, 0xEE]
    let m := fresh c program ⟨0, 0⟩
    let now := m.step.follow [.step, .press 3, .step]
    m.Reached ∧ m.Executes (.call 0x204) ∧ m.step.StaysOff m.stack.pointer [.step, .press 3, .step] ∧
      (now.after .step).stack.pointer = m.stack.pointer ∧ (now.after .step).pc = m.pc + 2 ∧
      (now.after .step).stack = m.stack := by
  intro c program m now
  have reached : m.Reached := ⟨c, .raw program, ⟨0, 0⟩, m, [], rfl, rfl⟩
  have run : m.Executes (.call 0x204) ∧ m.step.StaysOff m.stack.pointer [.step, .press 3, .step] ∧
      (now.after .step).stack.pointer = m.stack.pointer := by
    decide +kernel
  obtain ⟨calls, off, back⟩ := run
  obtain ⟨_, _, _, returns⟩ := call_returns_to_caller m now reached 0x204 calls [.step, .press 3, .step] off rfl
  obtain ⟨_, _, pc, stack⟩ := returns .step back
  exact ⟨reached, calls, off, back, pc, stack⟩

end Chip8.Machine

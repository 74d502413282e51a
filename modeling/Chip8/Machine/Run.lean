import Chip8.Machine.Step

set_option autoImplicit false

namespace Chip8

namespace Machine

def Ready (m : Machine) : Prop := m.fault = 0 ∧ m.awaitsKey = false

instance (m : Machine) : Decidable m.Ready := by
  unfold Ready
  infer_instance

end Machine

structure Run where
  machine : Machine
  steps : Nat
  redraw : Bool
deriving DecidableEq

namespace Run

def start (m : Machine) : Run := ⟨m, 0, false⟩

def next (r : Run) : Run :=
  let m := r.machine.step
  ⟨m, r.steps + 1, r.redraw || m.redraw⟩

def extend : Nat → Run → Run
  | 0, r => r
  | budget + 1, r => if r.machine.Ready then extend budget r.next else r

theorem extend_of_not_ready (budget : Nat) (r : Run) (stopped : ¬ r.machine.Ready) :
    extend budget r = r := by
  cases budget with
  | zero => rfl
  | succ budget => rw [extend, if_neg stopped]

theorem extend_add (a b : Nat) (r : Run) : extend (a + b) r = extend b (extend a r) := by
  induction a generalizing r with
  | zero => rw [Nat.zero_add, extend]
  | succ a ih =>
      rw [Nat.succ_add, extend]
      by_cases ready : r.machine.Ready
      · rw [if_pos ready, ih, extend, if_pos ready]
      · rw [if_neg ready, extend, if_neg ready, extend_of_not_ready b r ready]

end Run

def Machine.run (m : Machine) (budget : Nat) : Run := Run.extend budget (Run.start m)

end Chip8

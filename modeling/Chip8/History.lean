import Chip8.Monitor

set_option autoImplicit false

namespace Chip8

inductive Event
  | step
  | press (key : Nibble)
  | release (key : Nibble)
  | clearFault
deriving DecidableEq

namespace Machine

def after (m : Machine) : Event → Machine
  | .step => m.step
  | .press key => m.press key
  | .release key => m.release key
  | .clearFault => m.clearFault

def follow (m : Machine) : List Event → Machine
  | [] => m
  | event :: later => (m.after event).follow later

def Reached (m : Machine) : Prop :=
  ∃ c image random made past, create c image random = .ok made ∧ m = made.follow past

def EachStep (m : Machine) (P : Machine → Prop) : List Event → Prop
  | [] => True
  | event :: later => (event = .step → P m) ∧ (m.after event).EachStep P later

instance decidableEachStep (m : Machine) (P : Machine → Prop) [DecidablePred P] (events : List Event) :
    Decidable (m.EachStep P events) :=
  match events with
  | [] => isTrue trivial
  | event :: later =>
      have := decidableEachStep (m.after event) P later
      inferInstanceAs (Decidable ((event = .step → P m) ∧ _))

theorem follow_append (m : Machine) (early later : List Event) :
    m.follow (early ++ later) = (m.follow early).follow later := by
  induction early generalizing m with
  | nil => rfl
  | cons event early ih => exact ih (m.after event)

end Machine

inductive Call
  | step
  | monitoredStep (log : Logger) (now : Float)
  | run (budget : Int)
  | press (key : Int)
  | release (key : Int)
  | clearFault

namespace Machine

-- The machine that the host holds after a call. A call that ends in an error leaves it the one it had.
def call (m : Machine) : Call → Machine
  | .step => m.step
  | .monitoredStep log now => match (m.monitoredStep log now).result with
      | .ok next => next
      | .error _ => m
  | .run budget => match budget? budget with
      | some steps => (m.run steps).machine
      | none => m
  | .press key => match keyOfInt key with
      | .ok k => m.press k
      | .error _ => m
  | .release key => match keyOfInt key with
      | .ok k => m.release k
      | .error _ => m
  | .clearFault => m.clearFault

def callAll (m : Machine) : List Call → Machine
  | [] => m
  | c :: later => (m.call c).callAll later

theorem extend_follows (budget : Nat) (r : Run) :
    ∃ count, (Run.extend budget r).steps = r.steps + count ∧
      (Run.extend budget r).machine = r.machine.follow (List.replicate count .step) := by
  induction budget generalizing r with
  | zero => exact ⟨0, rfl, rfl⟩
  | succ budget ih =>
      rw [Run.extend]
      by_cases ready : r.machine.Ready
      · rw [if_pos ready]
        obtain ⟨count, steps, reached⟩ := ih r.next
        refine ⟨count + 1, ?_, ?_⟩
        · have counted : r.next.steps = r.steps + 1 := rfl
          omega
        · rw [reached, List.replicate_succ]
          rfl
      · rw [if_neg ready]
        exact ⟨0, rfl, rfl⟩

theorem call_follows (m : Machine) (c : Call) : ∃ events, m.call c = m.follow events := by
  cases c with
  | step => exact ⟨[.step], rfl⟩
  | monitoredStep log now =>
      cases alarm : m.step.alarm? with
      | none => exact ⟨[.step], by simp [call, monitoredStep, alarm, follow, after]⟩
      | some raised => exact ⟨[], by simp [call, monitoredStep, alarm, follow]⟩
  | run budget =>
      cases steps : budget? budget with
      | none => exact ⟨[], by simp [call, steps, follow]⟩
      | some count =>
          obtain ⟨taken, _, reached⟩ := extend_follows count (Run.start m)
          refine ⟨List.replicate taken .step, ?_⟩
          simp only [call, steps]
          exact reached
  | press key =>
      cases held : keyOfInt key with
      | error e => exact ⟨[], by simp [call, held, follow]⟩
      | ok k => exact ⟨[.press k], by simp [call, held, follow, after]⟩
  | release key =>
      cases held : keyOfInt key with
      | error e => exact ⟨[], by simp [call, held, follow]⟩
      | ok k => exact ⟨[.release k], by simp [call, held, follow, after]⟩
  | clearFault => exact ⟨[.clearFault], rfl⟩

theorem call_all_follows (m : Machine) (calls : List Call) : ∃ events, m.callAll calls = m.follow events := by
  induction calls generalizing m with
  | nil => exact ⟨[], rfl⟩
  | cons c later ih =>
      obtain ⟨first, one⟩ := call_follows m c
      obtain ⟨rest, all⟩ := ih (m.call c)
      refine ⟨first ++ rest, ?_⟩
      rw [callAll, all, one, follow_append]

end Machine

end Chip8

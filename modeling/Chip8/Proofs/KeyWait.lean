import Chip8.Proofs.Invariant

set_option autoImplicit false

namespace Chip8

def Event.pressed? : Event → Option Nibble
  | .press key => some key
  | _ => none

def latestPress : List Event → Option Nibble
  | [] => none
  | event :: later => (latestPress later).or event.pressed?

namespace Machine

def Resolves (m : Machine) : Prop := m.waiting = true ∧ m.Executes m.prepared.instruction

instance (m : Machine) : Decidable m.Resolves := by
  unfold Resolves
  infer_instance

def Unresolved (m : Machine) : List Event → Prop
  | [] => True
  | event :: later => (event = .step → ¬ m.Resolves) ∧ (m.after event).Unresolved later

instance decidableUnresolved (m : Machine) (events : List Event) : Decidable (m.Unresolved events) :=
  match events with
  | [] => isTrue trivial
  | event :: later =>
      have := decidableUnresolved (m.after event) later
      inferInstanceAs (Decidable ((event = .step → ¬ m.Resolves) ∧ _))

-- The latch is open for `x`, and `pending` is what has been delivered to it. A machine that has been
-- handed no key cannot have faulted since, for all it does is stall.
structure Latched (m : Machine) (x : Reg) (pending : Option Nibble) : Prop where
  isOpen : m.waiting = true
  register : m.waitRegister = UInt8.ofNat x.val
  lastKey : m.lastKey = (pending.map fun k => Int8.ofNat k.val).getD (-1)
  healthy : pending = none → m.fault = 0

theorem key_nonneg (k : Nibble) : (0 : Int8) ≤ Int8.ofNat k.val := by
  rw [Int8.le_iff_toInt_le, key_value]
  exact Int.natCast_nonneg _

theorem latched_awaits (m : Machine) (x : Reg) (latched : m.Latched x none) : m.awaitsKey = true := by
  have none : m.lastKey = -1 := latched.lastKey
  simp [awaitsKey, latched.isOpen, none]

theorem latched_delivered (m : Machine) (x : Reg) (k : Nibble) (latched : m.Latched x (some k)) :
    m.awaitsKey = false := by
  have key : m.lastKey = Int8.ofNat k.val := latched.lastKey
  have delivered : ¬ m.lastKey < 0 := by
    rw [key]
    exact Int8.not_lt.mpr (key_nonneg k)
  simp [awaitsKey, delivered]

theorem latched_step (m : Machine) (x : Reg) (pending : Option Nibble) (latched : m.Latched x pending)
    (unresolved : ¬ m.Resolves) : m.step.Latched x pending := by
  have outcome := step_outcome m
  generalize m.step = next at outcome
  cases outcome with
  | halted recorded => exact latched
  | stalled stalls => exact ⟨latched.isOpen, latched.register, latched.lastKey, latched.healthy⟩
  | faulted f raises =>
      have delivered : pending ≠ none := by
        rintro rfl
        have closed := raises.2.1
        rw [latched_awaits m x latched] at closed
        cases closed
      exact ⟨latched.isOpen, latched.register, latched.lastKey, fun none => absurd none delivered⟩
  | executed i executes =>
      obtain ⟨healthy, closed, rfl, safe⟩ := executes
      exact absurd ⟨latched.isOpen, healthy, closed, rfl, safe⟩ unresolved

theorem latched_after (m : Machine) (event : Event) (x : Reg) (pending : Option Nibble)
    (latched : m.Latched x pending) (unresolved : event = .step → ¬ m.Resolves) : (m.after event).Latched x (event.pressed?.or pending) := by
  cases event with
  | step => exact latched_step m x pending latched (unresolved rfl)
  | press k =>
      refine ⟨latched.isOpen, latched.register, ?_, fun none => by cases none⟩
      simp [after, press, latched.isOpen, Event.pressed?]
  | release k => exact ⟨latched.isOpen, latched.register, latched.lastKey, latched.healthy⟩
  | clearFault => exact ⟨latched.isOpen, latched.register, latched.lastKey, fun _ => rfl⟩

theorem latched_follow (m : Machine) (later : List Event) (x : Reg) (pending : Option Nibble)
    (latched : m.Latched x pending) (unresolved : m.Unresolved later) :
    (m.follow later).Latched x ((latestPress later).or pending) := by
  induction later generalizing m pending with
  | nil => exact latched
  | cons event later ih =>
      have first := latched_after m event x pending latched unresolved.1
      rw [latestPress, Option.or_assoc]
      exact ih (m.after event) _ first unresolved.2

def given (m : Machine) (x : Reg) (k : Nibble) : Machine :=
  { m.setV x (UInt8.ofNat k.val) with waiting := false, lastKey := -1 }

theorem put_register_of_reg (registers : Registers) (x : Reg) (value : UInt8) :
    putRegister registers (UInt8.ofNat x.val) value = registers.set x.val value x.isLt := by
  have number : (UInt8.ofNat x.val).toNat = x.val := by
    have count := x.isLt
    rw [UInt8.toNat_ofNat']
    omega
  apply Vector.ext
  intro place inside
  rw [putRegister, number, Vector.getElem_setIfInBounds, Vector.getElem_set]

theorem prepared_given (m : Machine) (x : Reg) (k : Nibble) (latched : m.Latched x (some k)) :
    (m.given x k).prepared = m.prepared := by
  have key : m.lastKey = Int8.ofNat k.val := latched.lastKey
  have registers : putRegister m.registers m.waitRegister m.lastKey.toUInt8 =
      m.registers.set x.val (UInt8.ofNat k.val) x.isLt := by
    rw [latched.register, key, Int8.toUInt8_ofNat', put_register_of_reg]
  rw [prepared_of_closed (m.given x k) rfl,
    prepared_of_delivered m latched.isOpen (by rw [key]; exact key_nonneg k), registers]
  rfl

theorem resolves_of_safe (m : Machine) (x : Reg) (k : Nibble) (latched : m.Latched x (some k))
    (healthy : m.fault = 0) (safe : m.prepared.faultOf m.prepared.instruction = none) : m.Resolves :=
  ⟨latched.isOpen, healthy, latched_delivered m x k latched, rfl, safe⟩

theorem resolved_step (m : Machine) (x : Reg) (k : Nibble) (latched : m.Latched x (some k))
    (resolves : m.Resolves) : m.step = (m.given x k).step := by
  obtain ⟨_, executes⟩ := resolves
  have same := prepared_given m x k latched
  have byHand : (m.given x k).Executes m.prepared.instruction :=
    ⟨executes.1, rfl, by rw [same], by rw [same]; exact executes.2.2.2⟩
  rw [step_of_executes m _ executes, step_of_executes _ _ byHand, same]

theorem resolved_latch (m : Machine) (x : Reg) (k : Nibble) (latched : m.Latched x (some k))
    (resolves : m.Resolves) :
    m.step.fault = 0 ∧ m.step.lastKey = -1 ∧ (m.step.waiting = true ↔ ∃ y, m.Executes (.awaitKey y)) := by
  obtain ⟨isOpen, executes⟩ := resolves
  have key : m.lastKey = Int8.ofNat k.val := latched.lastKey
  have prepared := prepared_of_delivered m isOpen (by rw [key]; exact key_nonneg k)
  obtain ⟨_, lastKey, fault, _⟩ := execute_host_fields m.prepared m.prepared.instruction
  have waiting := execute_waiting m.prepared m.prepared.instruction
  have preparedWaiting : m.prepared.waiting = false := by rw [prepared]
  rw [step_of_executes m _ executes]
  refine ⟨?_, ?_, ?_⟩
  · change (m.prepared.execute m.prepared.instruction).fault = 0
    rw [fault, prepared_fault]
    exact executes.1
  · change (m.prepared.execute m.prepared.instruction).lastKey = -1
    rw [lastKey, prepared]
  · change (m.prepared.execute m.prepared.instruction).waiting = true ↔ _
    rw [waiting]
    constructor
    · intro reopened
      cases shape : m.prepared.instruction with
      | awaitKey y =>
          rw [shape] at executes
          exact ⟨y, executes⟩
      | _ =>
          rw [shape] at reopened
          rw [preparedWaiting] at reopened
          cases reopened
    · rintro ⟨y, again⟩
      rw [again.2.2.1]

theorem latched_of_wait (m : Machine) (sound : m.Sound) (x : Reg) (waits : m.Executes (.awaitKey x)) :
    m.step.Latched x none := by
  have closed : m.prepared.waiting = false := by
    rw [prepared_waiting]
    exact waits.2.1
  have key := execute_key m.prepared (.awaitKey x) closed (sound_prepared m sound)
  have fault := (prepared_fault m).trans waits.1
  rw [step_of_executes m _ waits]
  exact ⟨rfl, rfl, key, fun _ => fault⟩

end Machine

end Chip8

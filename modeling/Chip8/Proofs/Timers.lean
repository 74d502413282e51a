import Chip8.History
import Chip8.Proofs.Iteration
import Chip8.Proofs.Rollback

set_option autoImplicit false

namespace Chip8

inductive Timer
  | delay
  | sound
deriving DecidableEq

def Timer.setter : Timer → Opcode
  | .delay => .setDelay
  | .sound => .setSound

namespace Machine

def timer (m : Machine) : Timer → UInt8
  | .delay => m.delay
  | .sound => m.sound

def SetsTimer (m : Machine) (t : Timer) : Prop := m.Performs t.setter ∨ m.Performs .system

instance (m : Machine) (t : Timer) : Decidable (m.SetsTimer t) := by
  unfold SetsTimer
  infer_instance

structure UsesTimers (m : Machine) : Prop where
  set : ∀ t : Timer, m.Performs t.setter → (m.step.timer t).toNat = (m.prepared.v m.fetch.x).toNat - 1
  reset : ∀ t : Timer, m.Performs .system → m.step.timer t = 0
  read : m.Performs .readDelay → m.step.v m.fetch.x = m.delay

theorem ticked_to_nat (value : UInt8) : (ticked value).toNat = value.toNat - 1 := by
  by_cases running : 0 < value
  · have one : (1 : UInt8) ≤ value := running
    rw [ticked, if_pos running, UInt8.toNat_sub_of_le _ _ one]
    rfl
  · have none : value.toNat = 0 := Nat.eq_zero_of_not_pos running
    rw [ticked, if_neg running, none]

theorem tick_timer (m : Machine) (t : Timer) : m.tick.timer t = ticked (m.timer t) := by
  cases t <;> rfl

theorem prepared_timer (m : Machine) (t : Timer) : m.prepared.timer t = m.timer t := by
  rw [prepared_eq]
  cases t <;> rfl

theorem execute_set_timer (m : Machine) (t : Timer) (w : Word) :
    (m.execute (.withOperands w t.setter)).timer t = m.v w.x := by
  cases t <;> rfl

theorem execute_reset_timer (m : Machine) (t : Timer) (target : Word) : (m.execute (.system target)).timer t = 0 := by
  cases t <;> rfl

theorem execute_keeps_timer (m : Machine) (i : Instruction) (t : Timer) (unset : i.opcode ≠ t.setter)
    (unreset : i.opcode ≠ .system) : (m.execute i).timer t = m.timer t := by
  cases t with
  | delay =>
      refine (execute_delay m i).trans ?_
      cases i with
      | system target => exact absurd rfl unreset
      | setDelay x => exact absurd rfl unset
      | _ => rfl
  | sound =>
      refine (execute_sound m i).trans ?_
      cases i with
      | system target => exact absurd rfl unreset
      | setSound x => exact absurd rfl unset
      | _ => rfl

theorem executed_timer (m : Machine) (i : Instruction) (t : Timer) (executes : m.Executes i) :
    m.step.timer t = ticked ((m.prepared.execute i).timer t) := by
  rw [step_of_executes m i executes, tick_timer]

theorem healthy_step_timer (m : Machine) (t : Timer) (safe : m.step.fault = 0) (runs : ¬ m.SetsTimer t) :
    m.step.timer t = ticked (m.timer t) := by
  have outcome := step_outcome m
  generalize stepped : m.step = next at outcome safe ⊢
  cases outcome with
  | halted recorded => exact absurd safe recorded
  | stalled stalls => exact tick_timer { m with redraw := false } t
  | faulted f raises => exact absurd safe (Fault.code_ne_zero f)
  | executed i executes =>
      rw [SetsTimer, performs_iff m i executes, performs_iff m i executes, not_or] at runs
      rw [tick_timer, execute_keeps_timer m.prepared i t runs.1 runs.2, prepared_timer]

theorem after_timer (m : Machine) (event : Event) (t : Timer) (idle : event ≠ .step) :
    (m.after event).timer t = m.timer t := by
  cases event with
  | step => exact absurd rfl idle
  | press k | release k | clearFault => cases t <;> rfl

theorem follow_timer (m : Machine) (events : List Event) (t : Timer)
    (safe : m.EachStep (fun n => n.step.fault = 0) events) (runs : m.EachStep (fun n => ¬ n.SetsTimer t) events) :
    ((m.follow events).timer t).toNat = (m.timer t).toNat - events.count .step := by
  induction events generalizing m with
  | nil => rfl
  | cons event later ih =>
      have rest := ih (m.after event) safe.2 runs.2
      by_cases stepped : event = .step
      · subst stepped
        have first : (m.after .step).timer t = ticked (m.timer t) := healthy_step_timer m t (safe.1 rfl) (runs.1 rfl)
        rw [first, ticked_to_nat] at rest
        rw [follow, rest, List.count_cons_self]
        omega
      · rw [follow, rest, after_timer m event t stepped, List.count_cons_of_ne stepped]

theorem uses_timers (m : Machine) : m.UsesTimers where
  set t performs := by
    rw [executed_timer m _ t (executes_of_performs m t.setter performs), ticked_to_nat, execute_set_timer]
  reset t performs := by
    rw [executed_timer m _ t (executes_of_performs m .system performs)]
    exact congrArg ticked (execute_reset_timer m.prepared t m.fetch.nnn)
  read performs := by
    have loaded : (m.prepared.execute (.readDelay m.fetch.x)).v m.fetch.x = m.prepared.delay :=
      v_set_same m.prepared m.fetch.x m.prepared.delay
    rw [step_of_executes m _ (executes_of_performs m .readDelay performs)]
    exact loaded.trans (prepared_timer m .delay)

theorem follow_replicate (m : Machine) (count : Nat) : m.follow (List.replicate count .step) = step^[count] m := by
  induction count generalizing m with
  | zero => rfl
  | succ count ih => exact ih m.step

theorem each_step_replicate (m : Machine) (P : Machine → Prop) (count : Nat) (each : ∀ c < count, P (step^[c] m)) :
    m.EachStep P (List.replicate count .step) := by
  induction count generalizing m with
  | zero => trivial
  | succ count ih =>
      exact ⟨fun _ => each 0 (Nat.succ_pos count), ih m.step fun c before => each (c + 1) (Nat.succ_lt_succ before)⟩

theorem iterate_timer (m : Machine) (count : Nat) (t : Timer) (safe : ∀ c < count, (step^[c + 1] m).fault = 0)
    (runs : ∀ c < count, ¬ (step^[c] m).SetsTimer t) :
    ((step^[count] m).timer t).toNat = (m.timer t).toNat - count := by
  have safeSteps : m.EachStep (fun n => n.step.fault = 0) (List.replicate count .step) := by
    apply each_step_replicate
    intro c before
    rw [← Function.iterate_succ_apply' step c m]
    exact safe c before
  have total := follow_timer m (List.replicate count .step) t safeSteps (each_step_replicate m _ count runs)
  rwa [follow_replicate, List.count_replicate_self] at total

theorem run_timer (m : Machine) (budget : Nat) (t : Timer)
    (runs : ∀ c < (m.run budget).steps, ¬ (step^[c] m).SetsTimer t) :
    ((m.run budget).machine.timer t).toNat = (m.timer t).toNat -
      (if (m.run budget).machine.fault = 0 then (m.run budget).steps else (m.run budget).steps - 1) := by
  have traces := run_traces m budget
  generalize m.run budget = r at traces runs ⊢
  by_cases healthy : r.machine.fault = 0
  · rw [if_pos healthy, traces.machine]
    apply iterate_timer m r.steps t _ runs
    intro c before
    by_cases last : c + 1 = r.steps
    · rw [last, ← traces.machine, healthy]
    · exact (traces.ready (c + 1) (by omega)).1
  · rw [if_neg healthy]
    cases taken : r.steps with
    | zero =>
        rw [traces.machine, taken]
        rfl
    | succ count =>
        rw [taken] at runs
        have reached : r.machine = (step^[count] m).step := by
          rw [traces.machine, taken, Function.iterate_succ_apply']
        have ready := traces.ready count (by omega)
        rw [reached] at healthy ⊢
        have kept := rolled_back _ ready.1 healthy
        have same : (step^[count] m).step.timer t = (step^[count] m).timer t := by
          rw [kept]
          cases t <;> rfl
        rw [same]
        exact iterate_timer m count t (fun c before => (traces.ready (c + 1) (by omega)).1)
          fun c before => runs c (by omega)

theorem timers_tick_once_per_step :
    (∀ (m : Machine) (events : List Event) (t : Timer), m.EachStep (fun n => n.step.fault = 0) events →
      m.EachStep (fun n => ¬ n.SetsTimer t) events →
        ((m.follow events).timer t).toNat = (m.timer t).toNat - events.count .step) ∧
      (∀ m : Machine, m.UsesTimers) ∧
      ∀ (m : Machine) (budget : Nat),
        let r := m.run budget
        r.machine = step^[r.steps] m ∧
          ∀ t : Timer, (∀ c < r.steps, ¬ (step^[c] m).SetsTimer t) →
            (r.machine.timer t).toNat =
              (m.timer t).toNat - (if r.machine.fault = 0 then r.steps else r.steps - 1) :=
  ⟨fun m events t safe runs => follow_timer m events t safe runs, uses_timers,
    fun m budget => ⟨(run_traces m budget).machine, fun t runs => run_timer m budget t runs⟩⟩

theorem key_becomes_delay :
    let m := { fresh ⟨0x204, 1, 1, some 1, .clip⟩ [0xF2, 0x0A, 0xF2, 0x15] ⟨0, 0⟩ with delay := 3, sound := 5 }
    let waited : List Event := [.step, .step, .press 9, .release 9]
    let n := m.follow waited
    m.EachStep (fun n => n.step.fault = 0) waited ∧ m.EachStep (fun n => ¬ n.SetsTimer .delay) waited ∧
      (n.timer .delay).toNat = 1 ∧ n.Performs .setDelay ∧ (n.step.timer .delay).toNat = 9 - 1 ∧
      (n.run 3).steps = 2 ∧ (n.run 3).machine.fault ≠ 0 ∧
      ((n.run 3).machine.timer .sound).toNat = (n.timer .sound).toNat - 1 := by
  intro m waited n
  have waits : m.EachStep (fun n => n.step.fault = 0) waited ∧ m.EachStep (fun n => ¬ n.SetsTimer .delay) waited := by
    decide +kernel
  have performs : n.Performs .setDelay ∧ n.prepared.v n.fetch.x = 9 := by decide +kernel
  have taken : (n.run 3).steps = 2 ∧ (n.run 3).machine.fault ≠ 0 ∧
      ∀ c < 2, ¬ (step^[c] n).SetsTimer .sound := by
    decide +kernel
  obtain ⟨counts, uses, runs⟩ := timers_tick_once_per_step
  have waiting := counts m waited .delay waits.1 waits.2
  have set := (uses n).set .delay performs.1
  have total := (runs n 3).2 .sound (by rw [taken.1]; exact taken.2.2)
  rw [performs.2] at set
  rw [if_neg taken.2.1, taken.1] at total
  exact ⟨waits.1, waits.2, waiting, performs.1, set, taken.1, taken.2.1, total⟩

end Machine

end Chip8

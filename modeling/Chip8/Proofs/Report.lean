import Chip8.Monitor
import Chip8.Proofs.Iteration
import Chip8.Proofs.Rollback

set_option autoImplicit false

namespace Chip8

def Fault.ArisesAt (w : Word) : Fault → Prop
  | .unknownOpcode => Opcode.ofWord w = .unknown
  | .emptyStack => Opcode.ofWord w = .ret
  | .fullStack => Opcode.ofWord w = .call
  | .memory => Opcode.ofWord w = .draw ∧ 0 < w.n.val ∨ Opcode.ofWord w ∈ [.digits, .store, .load]

namespace Machine

structure Reports (m : Machine) (f : Fault) (r : FaultReport) : Prop where
  cause : r.cause = some f
  pc : r.pc = m.pc.toNat
  unread : r.opcode = none ↔ m.memory.size ≤ m.pc.toNat + 1
  beyond : r.opcode = none → f = .memory
  word : r.opcode ≠ none → r.opcode = some (m.prepared.fetch.toNat : Int) ∧ f.ArisesAt m.prepared.fetch
  detail : r.detail ≠ "" ↔ f = .memory

def verdict (m : Machine) : Except Alarm Machine :=
  match m.alarm? with
  | some alarm => .error alarm
  | none => .ok m

def watch (clock : Nat → Float) : Nat → Logger → Machine → Except Alarm Machine
  | 0, _, m => .ok m
  | budget + 1, log, m =>
    if m.awaitsKey then .ok m
    else
      let stepped := m.monitoredStep log (clock budget)
      match stepped.result with
      | .error alarm => .error alarm
      | .ok next => watch clock budget stepped.log next

theorem arises_of_raised (m : Machine) (w : Word) (f : Fault) (fetched : m.CanFetch)
    (raised : m.faultOf (.ofWord w) = some f) : f.ArisesAt w := by
  unfold faultOf at raised
  rw [if_pos fetched, Instruction.ofWord] at raised
  cases shape : Opcode.ofWord w <;> rw [shape] at raised <;> dsimp only [Instruction.withOperands] at raised
  case unknown =>
    cases raised
    exact shape
  case ret | call =>
    obtain ⟨_, ⟨⟩⟩ := Option.ite_none_right_eq_some.mp raised
    exact shape
  case draw =>
    obtain ⟨past, ⟨⟩⟩ := Option.ite_none_right_eq_some.mp raised
    exact .inl ⟨shape, past.1⟩
  case digits | store | load =>
    obtain ⟨_, ⟨⟩⟩ := Option.ite_none_right_eq_some.mp raised
    exact .inr (by simp [shape])
  all_goals
    obtain ⟨impossible, _⟩ := Option.ite_none_right_eq_some.mp raised
    exact impossible.elim

theorem alarm_eq_none_iff (m : Machine) : m.alarm? = none ↔ m.fault = 0 := by
  unfold alarm?
  split
  · rename_i healthy
    simp [healthy]
  · rename_i faulted
    split <;> simp [faulted]

theorem alarm_of_raises (m : Machine) (f : Fault) (raises : m.Raises f) :
    m.step.alarm? = some (.fault (m.faultReport f)) := by
  rw [step_of_raises m f raises]
  simp only [alarm?, Fault.code_ne_zero, if_false, Fault.of_code_code]
  rfl

theorem detail_ne_empty_iff (m : Machine) (f : Fault) : m.faultDetail f ≠ "" ↔ f = .memory := by
  unfold faultDetail
  split
  · rename_i memory
    split <;> simp [memory]
  · rename_i other
    simp [other]

theorem reported_opcode (m : Machine) (f : Fault) :
    (m.faultReport f).opcode = if m.CanFetch then some (m.fetch.toNat : Int) else none := by
  simp only [faultReport, fetch?]
  split <;> rfl

theorem reports_of_raises (m : Machine) (f : Fault) (raises : m.Raises f) : Reports m f (m.faultReport f) := by
  obtain ⟨_, _, raised⟩ := raises
  have opcode := reported_opcode m f
  by_cases fetched : m.CanFetch
  · rw [if_pos fetched] at opcode
    have inside : ¬ m.memory.size ≤ m.pc.toNat + 1 := Nat.not_le_of_lt fetched
    have arises := arises_of_raised m.prepared m.prepared.fetch f ((prepared_can_fetch m).mpr fetched) raised
    exact ⟨rfl, rfl, by simp [opcode, inside], by simp [opcode], fun _ => ⟨by rw [opcode, prepared_fetch], arises⟩,
      detail_ne_empty_iff m f⟩
  · rw [if_neg fetched] at opcode
    have beyond : m.memory.size ≤ m.pc.toNat + 1 := Nat.le_of_not_lt fetched
    have check : m.prepared.faultOf m.prepared.instruction = some .memory :=
      if_neg fun prepared => fetched ((prepared_can_fetch m).mp prepared)
    rw [raised] at check
    exact ⟨rfl, rfl, by simp [opcode, beyond], fun _ => Option.some.inj check, fun known => absurd opcode known,
      detail_ne_empty_iff m f⟩

theorem monitored_result (m : Machine) (log : Logger) (now : Float) :
    (m.monitoredStep log now).result = m.step.verdict := by
  unfold monitoredStep verdict
  cases raised : m.step.alarm? <;> simp only [raised]

theorem verdict_of_healthy (m : Machine) (healthy : m.fault = 0) : m.verdict = .ok m := by
  rw [verdict, (alarm_eq_none_iff m).mpr healthy]

theorem watch_eq_run (clock : Nat → Float) (budget : Nat) (log : Logger) (m : Machine) (healthy : m.fault = 0) :
    watch clock budget log m = (m.run budget).machine.verdict := by
  induction budget generalizing log m with
  | zero => exact (verdict_of_healthy m healthy).symm
  | succ budget ih =>
      cases awaits : m.awaitsKey with
      | true =>
          have stopped : ¬ m.Ready := fun ready => Bool.noConfusion (awaits.symm.trans ready.2)
          rw [run_of_not_ready m _ stopped, watch, if_pos awaits]
          exact (verdict_of_healthy m healthy).symm
      | false =>
          have rest : (m.run (budget + 1)).machine = (m.step.run budget).machine := by
            rw [run_of_ready m budget ⟨healthy, awaits⟩]
            rfl
          have awake : ¬ m.awaitsKey = true := by simp [awaits]
          rw [rest, watch, if_neg awake]
          dsimp only
          rw [monitored_result]
          cases raised : m.step.alarm? with
          | some alarm =>
              have faulted : m.step.fault ≠ 0 := fun healthy => by
                rw [(alarm_eq_none_iff m.step).mpr healthy] at raised
                cases raised
              rw [run_of_not_ready m.step budget fun ready => faulted ready.1]
              simp only [Run.start, verdict, raised]
          | none =>
              have safe := (alarm_eq_none_iff m.step).mp raised
              rw [verdict_of_healthy m.step safe]
              exact ih _ m.step safe

theorem report_names_fault (m : Machine) (healthy : m.fault = 0) :
    (m.step.fault ≠ 0 → ∃ f r, m.step.fault = f.code ∧ m.step.alarm? = some (.fault r) ∧ Reports m f r ∧
      ∀ log now, (m.monitoredStep log now).result = .error (.fault r)) ∧
    ∀ cycles : Int, FitsSigned 32 cycles → ∃ budget, budget? cycles = some budget ∧
      ∀ clock log, watch clock budget log m = (m.run budget).machine.verdict := by
  constructor
  · intro faulted
    obtain ⟨f, raises, code⟩ := raises_of_faulted m healthy faulted
    have alarm := alarm_of_raises m f raises
    exact ⟨f, m.faultReport f, code, alarm, reports_of_raises m f raises,
      fun log now => by rw [monitored_result, verdict, alarm]⟩
  · intro cycles fits
    exact ⟨cycles.toNat, budget_of_fits cycles fits, fun clock log => watch_eq_run clock _ log m healthy⟩

theorem store_beyond_memory_reported :
    let m := fresh ⟨0x204, 1, 1, some 1, .clip⟩ [0xA2, 0x03, 0xF1, 0x55] ⟨0, 0⟩
    let n := m.step
    let r : FaultReport := ⟨some .memory, 0x202, some 0xF155, "I=0x0203, memory size 516"⟩
    m.fault = 0 ∧ (∀ clock log, watch clock 5 log m = .error (.fault r)) ∧ n.fault = 0 ∧ n.step.fault ≠ 0 ∧
      Reports n .memory r ∧ ∀ log now, (n.monitoredStep log now).result = .error (.fault r) := by
  intro m n r
  have ran : n.fault = 0 ∧ n.step.fault ≠ 0 ∧ n.step.alarm? = some (.fault r) ∧
      (m.run 5).machine.alarm? = some (.fault r) := by
    decide +kernel
  obtain ⟨healthy, faulted, alarm, last⟩ := ran
  obtain ⟨_, ⟨⟩, watched⟩ := (report_names_fault m rfl).2 5 (by decide)
  obtain ⟨f, reported, _, raised, reports, monitored⟩ := (report_names_fault n healthy).1 faulted
  obtain rfl : reported = r := by
    rw [alarm] at raised
    cases raised
    rfl
  obtain rfl : f = .memory := by
    cases reports.cause
    rfl
  refine ⟨rfl, fun clock log => ?_, healthy, faulted, reports, monitored⟩
  refine (watched clock log).trans ?_
  change (m.run 5).machine.verdict = _
  rw [verdict, last]

end Machine

end Chip8

import Chip8.Machine.Run
import Chip8.Proofs.Outcome
import Mathlib.Logic.Function.Iterate
import Mathlib.Order.Bounds.Defs

set_option autoImplicit false

namespace Chip8

theorem budget_of_fits (n : Int) (fits : FitsSigned 32 n) : budget? n = some n.toNat := if_pos fits

namespace Run

def join (r s : Run) : Run := ⟨s.machine, r.steps + s.steps, r.redraw || s.redraw⟩

theorem extend_join (budget : Nat) (r : Run) : extend budget r = r.join (r.machine.run budget) := by
  induction budget generalizing r with
  | zero => simp [extend, Machine.run, start, join]
  | succ budget ih =>
      by_cases ready : r.machine.Ready
      · have first : extend (budget + 1) r = extend budget r.next := if_pos ready
        have same : r.machine.run (budget + 1) = extend budget (start r.machine).next := if_pos ready
        rw [first, same, ih r.next, ih (start r.machine).next]
        simp [join, next, start, Nat.add_assoc, Bool.or_assoc]
      · rw [extend_of_not_ready _ r ready, Machine.run, extend_of_not_ready _ (start r.machine) ready]
        simp [join, start]

end Run

namespace Machine

theorem run_of_not_ready (m : Machine) (budget : Nat) (stopped : ¬ m.Ready) : m.run budget = Run.start m :=
  Run.extend_of_not_ready budget (Run.start m) stopped

theorem run_of_ready (m : Machine) (budget : Nat) (ready : m.Ready) :
    m.run (budget + 1) = Run.join ⟨m.step, 1, m.step.redraw⟩ (m.step.run budget) := by
  have first : m.run (budget + 1) = Run.extend budget (Run.start m).next := if_pos ready
  rw [first, Run.extend_join]
  simp [Run.next, Run.start]

theorem run_add (m : Machine) (a b : Nat) : m.run (a + b) = (m.run a).join ((m.run a).machine.run b) := by
  rw [run, Run.extend_add, Run.extend_join]
  rfl

theorem executes_or_raises (m : Machine) (ready : m.Ready) : (∃ i, m.Executes i) ∨ ∃ f, m.Raises f := by
  cases raised : m.prepared.faultOf m.prepared.instruction with
  | none => exact .inl ⟨_, ready.1, ready.2, rfl, raised⟩
  | some f => exact .inr ⟨f, ready.1, ready.2, raised⟩

theorem not_ready_of_raises (m : Machine) (f : Fault) (raises : m.Raises f) : ¬ m.step.Ready := by
  rw [step_of_raises m f raises]
  exact fun ready => Fault.code_ne_zero f ready.1

-- What a run of at most `budget` steps from `m` amounts to: every step is taken by a ready machine, and
-- the run gives up short of its budget only at a machine that is not.
structure Traces (m : Machine) (budget : Nat) (r : Run) : Prop where
  machine : r.machine = step^[r.steps] m
  within : r.steps ≤ budget
  ready : ∀ c < r.steps, (step^[c] m).Ready
  stopped : r.steps < budget → ¬ r.machine.Ready
  redraw : r.redraw = true ↔ ∃ c < r.steps, (step^[c + 1] m).redraw = true

theorem traces_start (m : Machine) (budget : Nat) (stopped : 0 < budget → ¬ m.Ready) :
    Traces m budget (Run.start m) :=
  ⟨rfl, Nat.zero_le _, fun _ before => absurd before (Nat.not_lt_zero _), stopped, by simp [Run.start]⟩

theorem traces_step (m : Machine) (budget : Nat) (r : Run) (ready : m.Ready) (rest : Traces m.step budget r) :
    Traces m (budget + 1) (Run.join ⟨m.step, 1, m.step.redraw⟩ r) := by
  have count : 1 + r.steps = r.steps + 1 := Nat.add_comm 1 r.steps
  simp only [Run.join, count]
  refine ⟨?_, Nat.succ_le_succ rest.within, ?_, fun short => rest.stopped (Nat.lt_of_succ_lt_succ short), ?_⟩
  · exact rest.machine
  · intro c before
    cases c with
    | zero => exact ready
    | succ c => exact rest.ready c (Nat.lt_of_succ_lt_succ before)
  · rw [Bool.or_eq_true, rest.redraw, Nat.exists_lt_succ_left]
    rfl

theorem run_traces (m : Machine) (budget : Nat) : Traces m budget (m.run budget) := by
  induction budget generalizing m with
  | zero => exact traces_start m 0 (fun impossible => absurd impossible (Nat.lt_irrefl 0))
  | succ budget ih =>
      by_cases ready : m.Ready
      · rw [run_of_ready m budget ready]
        exact traces_step m budget (m.step.run budget) ready (ih m.step)
      · rw [run_of_not_ready m (budget + 1) ready]
        exact traces_start m (budget + 1) fun _ => ready

theorem steps_of_ready (m : Machine) (budget : Nat) (still : (m.run budget).machine.Ready) :
    (m.run budget).steps = budget := by
  have traces := run_traces m budget
  have full : ¬ (m.run budget).steps < budget := fun short => traces.stopped short still
  exact Nat.le_antisymm traces.within (Nat.le_of_not_lt full)

theorem steps_of_part (m : Machine) (budget rest : Nat) :
    (m.run budget).steps = min budget (m.run (budget + rest)).steps := by
  have within := (run_traces m budget).within
  have sum : (m.run (budget + rest)).steps = (m.run budget).steps + ((m.run budget).machine.run rest).steps := by
    rw [run_add]
    rfl
  by_cases still : (m.run budget).machine.Ready
  · have full := steps_of_ready m budget still
    omega
  · have nothing : ((m.run budget).machine.run rest).steps = 0 := by
      rw [run_of_not_ready _ rest still]
      rfl
    omega

theorem steps_from (m : Machine) (a budget : Nat) (reached : a ≤ (m.run (a + budget)).steps) :
    (m.run (a + budget)).steps = a + ((step^[a] m).run budget).steps := by
  have part := steps_of_part m a budget
  have first : (m.run a).steps = a := by omega
  have machine := (run_traces m a).machine
  rw [first] at machine
  rw [run_add, ← machine]
  change (m.run a).steps + _ = _
  rw [first]

def DoneAfter (m : Machine) (cycles : Int) (c : Nat) : Prop :=
  cycles ≤ c ∨ (step^[c] m).fault ≠ 0 ∨ (step^[c] m).awaitsKey = true

theorem not_ready_iff (m : Machine) : ¬ m.Ready ↔ m.fault ≠ 0 ∨ m.awaitsKey = true := by
  rw [Ready, not_and_or, Bool.not_eq_false]

theorem run_steps_least (m : Machine) (cycles : Int) :
    IsLeast {c | m.DoneAfter cycles c} (m.run cycles.toNat).steps := by
  have traces := run_traces m cycles.toNat
  constructor
  · by_cases used : cycles ≤ (m.run cycles.toNat).steps
    · exact .inl used
    · have stopped := traces.stopped (by omega)
      rw [traces.machine] at stopped
      exact .inr ((not_ready_iff _).mp stopped)
  · rintro c (used | stopped)
    · have within := traces.within
      omega
    · apply Nat.le_of_not_lt
      intro before
      exact (not_ready_iff _).mpr stopped (traces.ready c before)

-- Only the last step of a run can fault, since the machine is not ready afterwards.
theorem counted_step (m : Machine) (budget c : Nat) (counted : c < (m.run budget).steps) :
    (∃ i, (step^[c] m).Executes i ∧ step^[c + 1] m = ((step^[c] m).prepared.execute i).tick) ∨
      c + 1 = (m.run budget).steps ∧ ∃ f, (step^[c] m).Raises f := by
  have traces := run_traces m budget
  rcases executes_or_raises _ (traces.ready c counted) with ⟨i, executes⟩ | ⟨f, raises⟩
  · refine .inl ⟨i, executes, ?_⟩
    rw [Function.iterate_succ_apply', step_of_executes _ i executes]
  · have stopped := not_ready_of_raises _ f raises
    rw [← Function.iterate_succ_apply' step c m] at stopped
    have last : ¬ c + 1 < (m.run budget).steps := fun before => stopped (traces.ready (c + 1) before)
    exact .inr ⟨by omega, f, raises⟩

theorem run_is_iterated_step (m : Machine) :
    (∀ cycles : Int, FitsSigned 32 cycles → ∃ budget, budget? cycles = some budget ∧
      let r := m.run budget
      r.machine = step^[r.steps] m ∧ IsLeast {c | m.DoneAfter cycles c} r.steps ∧
        (cycles ≤ 0 → r.steps = 0) ∧
        (r.redraw = true ↔ ∃ c < r.steps, (step^[c + 1] m).redraw = true) ∧
        ∀ c < r.steps, ¬ (step^[c] m).Stalls ∧
          ((∃ i, (step^[c] m).Executes i ∧ step^[c + 1] m = ((step^[c] m).prepared.execute i).tick) ∨
            c + 1 = r.steps ∧ ∃ f, (step^[c] m).Raises f)) ∧
      ∀ a b : Int, 0 ≤ a → 0 ≤ b → FitsSigned 32 (a + b) →
        ∃ first second, budget? a = some first ∧ budget? b = some second ∧
          budget? (a + b) = some (first + second) ∧
          let r := m.run first
          let s := r.machine.run second
          m.run (first + second) = ⟨s.machine, r.steps + s.steps, r.redraw || s.redraw⟩ := by
  constructor
  · intro cycles fits
    have traces := run_traces m cycles.toNat
    refine ⟨cycles.toNat, budget_of_fits cycles fits, traces.machine, run_steps_least m cycles, ?_,
      traces.redraw, ?_⟩
    · intro none
      have within := traces.within
      omega
    · intro c counted
      have ready := traces.ready c counted
      refine ⟨?_, counted_step m cycles.toNat c counted⟩
      intro stalls
      exact Bool.false_ne_true (ready.2.symm.trans stalls.2)
  · intro a b aNatural bNatural fits
    have aFits : FitsSigned 32 a := ⟨by simp; omega, by have high := fits.2; omega⟩
    have bFits : FitsSigned 32 b := ⟨by simp; omega, by have high := fits.2; omega⟩
    have whole : budget? (a + b) = some (a.toNat + b.toNat) := by
      rw [budget_of_fits _ fits, Int.toNat_add aNatural bNatural]
    exact ⟨a.toNat, b.toNat, budget_of_fits a aFits, budget_of_fits b bFits, whole, run_add m a.toNat b.toNat⟩

theorem run_stops_at_key_wait :
    let m := fresh ⟨0x204, 1, 1, some 1, .clip⟩ [0x60, 0x01, 0xF3, 0x0A] ⟨0, 0⟩
    FitsSigned 32 (1 + 4) ∧ (m.run 5).machine = step^[2] m ∧ IsLeast {c | m.DoneAfter 5 c} 2 ∧
      m.run (1 + 4) = ⟨((m.run 1).machine.run 4).machine, 1 + 1, false⟩ := by
  intro m
  have counts : (m.run 5).steps = 2 ∧ (m.run 1).steps = 1 ∧ ((m.run 1).machine.run 4).steps = 1 ∧
      (m.run 1).redraw = false ∧ ((m.run 1).machine.run 4).redraw = false := by
    decide +kernel
  obtain ⟨whole, first, second, dark, stillDark⟩ := counts
  obtain ⟨runs, composes⟩ := run_is_iterated_step m
  obtain ⟨_, ⟨⟩, reached, least, _⟩ := runs 5 (by decide)
  obtain ⟨_, _, ⟨⟩, ⟨⟩, _, joined⟩ := composes 1 4 (by decide) (by decide) (by decide)
  change (m.run 5).machine = step^[(m.run 5).steps] m at reached
  change IsLeast {c | m.DoneAfter 5 c} (m.run 5).steps at least
  change m.run (1 + 4) = ⟨((m.run 1).machine.run 4).machine, (m.run 1).steps + ((m.run 1).machine.run 4).steps,
    (m.run 1).redraw || ((m.run 1).machine.run 4).redraw⟩ at joined
  rw [whole] at reached least
  rw [first, second, dark, stillDark] at joined
  exact ⟨by decide, reached, least, joined⟩

end Machine

end Chip8

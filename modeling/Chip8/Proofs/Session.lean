import Chip8.Host.Session
import Chip8.Proofs.Invariant
import Chip8.Proofs.Iteration
import Mathlib.Algebra.Order.Floor.Div

set_option autoImplicit false

namespace Chip8

def Plan.Paced (p : Plan) : Prop := 1 ≤ p.perFrame ∧ min p.perFrame p.maxCycles < 0x80000000

instance (p : Plan) : Decidable p.Paced := by
  unfold Plan.Paced
  infer_instance

def Ending.of (m : Machine) : Ending :=
  match m.alarm? with
  | some (.fault report) => .fault report
  | _ => if m.awaitsKey then .keyWait else .budget

theorem ending_of_ready (m : Machine) (ready : m.Ready) : Ending.of m = .budget := by
  have silent : m.alarm? = none := if_pos ready.1
  simp [Ending.of, silent, ready.2]

theorem Machine.ready_created (c : Config) (image : Image) (random : WordPair) (m : Machine)
    (created : create c image random = .ok m) : m.Ready := by
  obtain ⟨_, _, _, _, _, _, _, _, rfl⟩ := (create_eq_ok_iff c image random m).mp created
  exact ⟨rfl, rfl⟩

namespace Tally

theorem judge_of_sound (t : Tally) (sound : t.machine.Sound) :
    t.judge = if t.machine.Ready then .running t else .ended t (Ending.of t.machine) := by
  rcases sound.fault with healthy | ⟨f, recorded⟩
  · have silent : t.machine.alarm? = none := if_pos healthy
    cases awaits : t.machine.awaitsKey <;> simp [judge, Ending.of, Machine.Ready, silent, healthy, awaits]
  · have alarm : t.machine.alarm? = some (.fault (t.machine.faultReport f)) := by
      simp [Machine.alarm?, recorded, Fault.code_ne_zero, Fault.of_code_code]
    simp [judge, Ending.of, Machine.Ready, alarm, recorded, Fault.code_ne_zero]

-- The result that one run of all the remaining cycles gives, with the frames that it takes to hold its steps.
def EndsAsRun (p : Plan) (t : Tally) (result : FrameResult) : Prop :=
  let r := t.machine.run (p.maxCycles - t.cycles).toNat
  ∃ redraws, result =
    .ended ⟨r.machine, t.cycles + r.steps, t.frames + r.steps ⌈/⌉ p.perFrame.toNat, redraws⟩ (Ending.of r.machine)

theorem ends_when_used (p : Plan) (limit : Nat) (t : Tally) (ready : t.machine.Ready)
    (used : p.maxCycles ≤ t.cycles) : EndsAsRun p t (drive p limit t) := by
  have none : (p.maxCycles - t.cycles).toNat = 0 := by omega
  have nothing : t.machine.run 0 = ⟨t.machine, 0, false⟩ := rfl
  have ended : drive p limit t = .ended t .budget := by cases limit <;> exact if_pos used
  refine ⟨t.redraws, ?_⟩
  simp only [none, nothing, ended, ending_of_ready t.machine ready, zero_ceilDiv, Nat.add_zero]

structure Splits (p : Plan) (t : Tally) (budget rest : Nat) : Prop where
  whole : (p.maxCycles - t.cycles).toNat = budget + rest
  some : 0 < budget
  within : budget ≤ p.perFrame.toNat
  full : budget = p.perFrame.toNat ∨ rest = 0
  frame : t.frame p = (t.count (t.machine.run budget)).judge

theorem exists_split (p : Plan) (paced : p.Paced) (t : Tally) (unused : (t.cycles : Int) < p.maxCycles) :
    ∃ budget rest, Splits p t budget rest := by
  obtain ⟨perFrame, fits⟩ := paced
  have signed : FitsSigned 32 (t.allowance p) := by
    constructor <;> simp [allowance] <;> omega
  have known := budget_of_fits _ signed
  have framed : t.frame p = (t.count (t.machine.run (t.allowance p).toNat)).judge := by rw [frame, known]
  refine ⟨(t.allowance p).toNat, (p.maxCycles - t.cycles).toNat - (t.allowance p).toNat, ?_, ?_, ?_, ?_, framed⟩ <;>
    rw [allowance] <;> omega

theorem frames_of_first (perFrame first rest : Nat) (some : 0 < first) (fits : first ≤ perFrame)
    (last : first = perFrame ∨ rest = 0) :
    (first + rest) ⌈/⌉ perFrame = 1 + rest ⌈/⌉ perFrame := by
  have positive : 0 < perFrame := by omega
  simp only [Nat.ceilDiv_eq_add_pred_div]
  rcases last with rfl | rfl
  · have shifted : first + rest + first - 1 = rest + first - 1 + first := by omega
    rw [shifted, Nat.add_div_right _ positive, Nat.add_comm]
  · have whole : (first + 0 + perFrame - 1) / perFrame = 1 := by
      apply Nat.div_eq_of_lt_le <;> omega
    have none : (0 + perFrame - 1) / perFrame = 0 := Nat.div_eq_of_lt (by omega)
    rw [whole, none]

theorem frames_of_split (p : Plan) (t : Tally) (budget rest : Nat) (split : Splits p t budget rest)
    (ready : t.machine.Ready) :
    (t.machine.run (budget + rest)).steps ⌈/⌉ p.perFrame.toNat =
      1 + ((t.machine.run budget).machine.run rest).steps ⌈/⌉ p.perFrame.toNat := by
  have traces := Machine.run_traces t.machine budget
  have some : 0 < (t.machine.run budget).steps := by
    apply Nat.pos_of_ne_zero
    intro idle
    have stopped := traces.stopped (by rw [idle]; exact split.some)
    rw [traces.machine, idle] at stopped
    exact stopped ready
  rw [Machine.run_add]
  apply frames_of_first _ _ _ some (Nat.le_trans traces.within split.within)
  by_cases still : (t.machine.run budget).machine.Ready
  · rw [Machine.steps_of_ready t.machine budget still]
    rcases split.full with full | last
    · exact .inl full
    · rw [last]
      exact .inr rfl
  · rw [Machine.run_of_not_ready _ rest still]
    exact .inr rfl

theorem ends_in_frame (p : Plan) (t : Tally) (budget rest : Nat) (split : Splits p t budget rest)
    (ready : t.machine.Ready) (stopped : ¬ (t.machine.run budget).machine.Ready) :
    EndsAsRun p t (.ended (t.count (t.machine.run budget)) (Ending.of (t.machine.run budget).machine)) := by
  have frames := frames_of_split p t budget rest split ready
  have nothing := Machine.run_of_not_ready (t.machine.run budget).machine rest stopped
  refine ⟨(t.count (t.machine.run budget)).redraws, ?_⟩
  rw [split.whole, frames, Machine.run_add, nothing]
  simp [count, Run.join, Run.start]

theorem ends_after_frame (p : Plan) (t : Tally) (budget rest : Nat) (split : Splits p t budget rest)
    (ready : t.machine.Ready) (still : (t.machine.run budget).machine.Ready) (result : FrameResult)
    (ends : EndsAsRun p (t.count (t.machine.run budget)) result) : EndsAsRun p t result := by
  have frames := frames_of_split p t budget rest split ready
  have steps := Machine.steps_of_ready t.machine budget still
  have left : (p.maxCycles - (t.count (t.machine.run budget)).cycles).toNat = rest := by
    have whole := split.whole
    simp only [count, steps]
    omega
  obtain ⟨redraws, ended⟩ := ends
  refine ⟨redraws, ?_⟩
  rw [ended, left, split.whole, frames, Machine.run_add]
  simp [count, Run.join, Nat.add_assoc]

theorem drive_ends (p : Plan) (paced : p.Paced) (limit : Nat) (t : Tally) (sound : t.machine.Sound)
    (ready : t.machine.Ready) (room : p.maxCycles - t.cycles ≤ limit) : EndsAsRun p t (drive p limit t) := by
  induction limit generalizing t with
  | zero => exact ends_when_used p 0 t ready (by omega)
  | succ limit ih =>
      by_cases used : p.maxCycles ≤ t.cycles
      · exact ends_when_used p (limit + 1) t ready used
      · obtain ⟨budget, rest, split⟩ := exists_split p paced t (by omega)
        have later := Machine.sound_run t.machine budget sound
        rw [drive, if_neg used, split.frame, judge_of_sound _ later]
        by_cases still : (t.count (t.machine.run budget)).machine.Ready
        · have steps := Machine.steps_of_ready t.machine budget still
          have some := split.some
          rw [if_pos still]
          apply ends_after_frame p t budget rest split ready still
          apply ih _ later still
          simp only [count, steps]
          omega
        · rw [if_neg still]
          exact ends_in_frame p t budget rest split ready still

theorem finish_of_paced (p : Plan) (paced : p.Paced) (m : Machine) (sound : m.Sound) (ready : m.Ready) :
    let r := m.run p.maxCycles.toNat
    ∃ redraws, finish p m =
      .ended ⟨r.machine, r.steps, r.steps ⌈/⌉ p.perFrame.toNat, redraws⟩ (Ending.of r.machine) := by
  have ends := drive_ends p paced p.maxCycles.toNat (start m) sound ready (by simp [start])
  simpa only [EndsAsRun, finish, start, Int.natCast_zero, Int.sub_zero, Nat.zero_add] using ends

theorem session_independent_of_frame_size (c : Config) (image : Image) (random : WordPair) (made : Machine)
    (created : Machine.create c image random = .ok made) (p q : Plan) (sameCycles : q.maxCycles = p.maxCycles)
    (pPaced : p.Paced) (qPaced : q.Paced) :
    ∃ t u why, finish p made = .ended t why ∧ finish q made = .ended u why ∧
      u.machine = t.machine ∧ u.cycles = t.cycles ∧
      (∀ host core now, Session.stopLines host core now u why = Session.stopLines host core now t why) ∧
      (t.cycles : Int) ≤ max p.maxCycles 0 ∧
      t.frames = t.cycles ⌈/⌉ p.perFrame.toNat ∧ u.frames = u.cycles ⌈/⌉ q.perFrame.toNat := by
  have sound := Machine.created_sound c image random made created
  have ready := Machine.ready_created c image random made created
  obtain ⟨pRedraws, pEnds⟩ := finish_of_paced p pPaced made sound ready
  obtain ⟨qRedraws, qEnds⟩ := finish_of_paced q qPaced made sound ready
  rw [sameCycles] at qEnds
  have bound : ((made.run p.maxCycles.toNat).steps : Int) ≤ max p.maxCycles 0 := by
    have within := (Machine.run_traces made p.maxCycles.toNat).within
    omega
  exact ⟨_, _, _, pEnds, qEnds, rfl, rfl, fun _ _ _ => rfl, bound, rfl, rfl⟩

theorem fault_within_frame :
    let c : Config := ⟨0x208, 1, 1, some 1, .clip⟩
    let program : List UInt8 := [0x60, 0x01, 0x61, 0x02, 0x62, 0x03, 0xFF, 0xFF]
    let made := Machine.fresh c program ⟨0, 0⟩
    let p : Plan := ⟨0, 100, 1, false⟩
    let q : Plan := ⟨0, 100, 3, false⟩
    Machine.create c (.raw program) ⟨0, 0⟩ = .ok made ∧ p.Paced ∧ q.Paced ∧
      ∃ t u why, finish p made = .ended t why ∧ finish q made = .ended u why ∧ u.machine = t.machine ∧
        why.text = "UnknownOpcode" ∧ t.cycles = 4 ∧ u.cycles = 4 ∧ t.frames = 4 ∧ u.frames = 2 := by
  intro c program made p q
  have pPaced : p.Paced := by decide
  have qPaced : q.Paced := by decide
  have ran : (match finish p made with
      | .ended t why => t.cycles == 4 && why.text == "UnknownOpcode"
      | _ => false) = true := by
    decide +kernel
  obtain ⟨t, u, why, pEnds, qEnds, machine, cycles, _, _, tFrames, uFrames⟩ :=
    session_independent_of_frame_size c (.raw program) ⟨0, 0⟩ made rfl p q rfl pPaced qPaced
  rw [pEnds] at ran
  simp only [Bool.and_eq_true, beq_iff_eq] at ran
  rw [cycles] at uFrames
  rw [ran.1] at cycles tFrames uFrames
  exact ⟨rfl, pPaced, qPaced, t, u, why, pEnds, qEnds, machine, ran.2, ran.1, cycles,
    tFrames.trans (by decide), uFrames.trans (by decide)⟩

end Tally

end Chip8

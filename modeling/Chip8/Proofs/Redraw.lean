import Chip8.Proofs.Rollback
import Chip8.Proofs.Session
import Mathlib.Data.Nat.Count

set_option autoImplicit false

namespace Chip8

namespace Machine

-- The next step faults and so gives back the redraw flag that was set before it, though it draws nothing.
def StaleFault (m : Machine) : Prop := m.redraw = true ∧ m.Ready ∧ m.step.fault ≠ 0

instance (m : Machine) : Decidable m.StaleFault := by
  unfold StaleFault
  infer_instance

theorem redraw_of_executed (m : Machine) (i : Instruction) (executes : m.Executes i) :
    m.step.redraw = true ↔ m.Performs .draw := by
  rw [performs_iff m i executes, step_of_executes m i executes]
  change (m.prepared.execute i).redraw = true ↔ _
  rw [execute_redraw, prepared_redraw]
  cases i with
  | combine operation => cases operation <;> simp [Instruction.opcode]
  | shift direction => cases direction <;> simp [Instruction.opcode]
  | skip condition => cases condition <;> simp [Instruction.opcode]
  | _ => simp [Instruction.opcode]

theorem not_performs_of_faulted (m : Machine) (o : Opcode) (faulted : m.step.fault ≠ 0) : ¬ m.Performs o :=
  fun performs => faulted (fault_of_executed m _ performs.1)

theorem step_redraw_iff (m : Machine) (ready : m.Ready) :
    m.step.redraw = true ↔ m.Performs .draw ∨ m.StaleFault := by
  rcases executes_or_raises m ready with ⟨i, executes⟩ | ⟨f, raises⟩
  · have safe : ¬ m.StaleFault := fun stale => stale.2.2 (fault_of_executed m i executes)
    rw [redraw_of_executed m i executes, or_iff_left safe]
  · have step := step_of_raises m f raises
    have faulted : m.step.fault ≠ 0 := by
      rw [step]
      exact Fault.code_ne_zero f
    have kept : m.step.redraw = m.redraw := by rw [step]
    rw [kept, or_iff_right (not_performs_of_faulted m .draw faulted)]
    exact ⟨fun set => ⟨set, ready, faulted⟩, fun stale => stale.1⟩

-- A run reports that something was drawn when one of its steps did so, or when its first step faults on a flag
-- that was set before the run. A flag that a later fault gives back is that of a step of the run itself.
theorem run_redraw_iff (m : Machine) (budget : Nat) :
    (m.run budget).redraw = true ↔
      (∃ c < (m.run budget).steps, (step^[c] m).Performs .draw) ∨ 0 < (m.run budget).steps ∧ m.StaleFault := by
  have traces := run_traces m budget
  have flag : ∀ c < (m.run budget).steps, (step^[c + 1] m).redraw = true ↔
      (step^[c] m).Performs .draw ∨ (step^[c] m).StaleFault := by
    intro c counted
    rw [Function.iterate_succ_apply']
    exact step_redraw_iff _ (traces.ready c counted)
  rw [traces.redraw]
  constructor
  · rintro ⟨c, counted, set⟩
    rcases (flag c counted).mp set with performs | stale
    · exact .inl ⟨c, counted, performs⟩
    · cases c with
      | zero => exact .inr ⟨counted, stale⟩
      | succ c =>
          have earlier := Nat.lt_of_succ_lt counted
          have healthy := (traces.ready (c + 1) counted).1
          rw [Function.iterate_succ_apply'] at healthy
          rcases (flag c earlier).mp stale.1 with performs | faults
          · exact .inl ⟨c, earlier, performs⟩
          · exact absurd healthy faults.2.2
  · rintro (⟨c, counted, performs⟩ | ⟨some, stale⟩)
    · exact ⟨c, counted, (flag c counted).mpr (.inl performs)⟩
    · exact ⟨0, some, (flag 0 some).mpr (.inr stale)⟩

theorem steps_of_stale_fault (m : Machine) (budget : Nat) (stale : m.StaleFault) : (m.run budget).steps ≤ 1 := by
  apply Nat.le_of_not_lt
  intro more
  exact stale.2.2 ((run_traces m budget).ready 1 more).1

theorem not_draws_of_stale_fault (m : Machine) (budget : Nat) (stale : m.StaleFault) :
    ¬ ∃ c < (m.run budget).steps, (step^[c] m).Performs .draw := by
  rintro ⟨c, counted, performs⟩
  have short := steps_of_stale_fault m budget stale
  obtain rfl : c = 0 := by omega
  exact not_performs_of_faulted m .draw stale.2.2 performs

end Machine

namespace Tally

def frameRun (p : Plan) (made : Machine) (k : Nat) : Run :=
  (Machine.step^[k * p.perFrame.toNat] made).run
    (min p.perFrame.toNat (p.maxCycles.toNat - k * p.perFrame.toNat))

structure Counts (p : Plan) (made : Machine) (t : Tally) : Prop where
  machine : t.machine = Machine.step^[t.cycles] made
  full : t.cycles = t.frames * p.perFrame.toNat ∨ p.maxCycles ≤ t.cycles
  redraws : t.redraws = Nat.count (fun k => (frameRun p made k).redraw = true) t.frames

theorem count_redraws (p : Plan) (made : Machine) (t : Tally) (counts : Counts p made t) (budget rest : Nat)
    (split : Splits p t budget rest) (unused : (t.cycles : Int) < p.maxCycles) :
    (t.count (t.machine.run budget)).redraws =
      Nat.count (fun k => (frameRun p made k).redraw = true) (t.frames + 1) := by
  have cycles : t.cycles = t.frames * p.perFrame.toNat := by
    rcases counts.full with full | used
    · exact full
    · omega
  have frame : frameRun p made t.frames = t.machine.run budget := by
    have allowed : min p.perFrame.toNat (p.maxCycles.toNat - t.frames * p.perFrame.toNat) = budget := by
      have whole := split.whole
      have within := split.within
      have full := split.full
      omega
    rw [frameRun, allowed, ← cycles, ← counts.machine]
  rw [Nat.count_succ, frame, ← counts.redraws]
  rfl

theorem counts_of_ready (p : Plan) (made : Machine) (t : Tally) (counts : Counts p made t) (budget rest : Nat)
    (split : Splits p t budget rest) (unused : (t.cycles : Int) < p.maxCycles)
    (still : (t.machine.run budget).machine.Ready) : Counts p made (t.count (t.machine.run budget)) := by
  have traces := Machine.run_traces t.machine budget
  have steps := Machine.steps_of_ready t.machine budget still
  refine ⟨?_, ?_, count_redraws p made t counts budget rest split unused⟩
  · change (t.machine.run budget).machine = Machine.step^[t.cycles + (t.machine.run budget).steps] made
    rw [traces.machine, counts.machine, Nat.add_comm, Function.iterate_add_apply]
  · change t.cycles + (t.machine.run budget).steps = (t.frames + 1) * p.perFrame.toNat ∨
      p.maxCycles ≤ ((t.cycles + (t.machine.run budget).steps : Nat) : Int)
    have whole := split.whole
    rcases split.full with full | last
    · rcases counts.full with cycles | used
      · rw [steps, full, cycles, Nat.succ_mul]
        exact .inl rfl
      · omega
    · exact .inr (by omega)

theorem drive_redraws (p : Plan) (paced : p.Paced) (made : Machine) (limit : Nat) (t ended : Tally) (why : Ending)
    (counts : Counts p made t) (sound : t.machine.Sound) (ends : drive p limit t = .ended ended why) :
    ended.redraws = Nat.count (fun k => (frameRun p made k).redraw = true) ended.frames := by
  induction limit generalizing t with
  | zero =>
      rw [drive] at ends
      split at ends
      · cases ends
        exact counts.redraws
      · cases ends
  | succ limit ih =>
      by_cases used : p.maxCycles ≤ t.cycles
      · rw [drive, if_pos used] at ends
        cases ends
        exact counts.redraws
      · obtain ⟨budget, rest, split⟩ := exists_split p paced t (by omega)
        have later := Machine.sound_run t.machine budget sound
        rw [drive, if_neg used, split.frame, judge_of_sound _ later] at ends
        by_cases still : (t.count (t.machine.run budget)).machine.Ready
        · rw [if_pos still] at ends
          exact ih _ (counts_of_ready p made t counts budget rest split (by omega) still) later ends
        · rw [if_neg still] at ends
          cases ends
          exact count_redraws p made t counts budget rest split (by omega)

def FrameDraws (p : Plan) (made : Machine) (cycles k : Nat) : Prop :=
  ∃ c < cycles, c / p.perFrame.toNat = k ∧ (Machine.step^[c] made).Performs .draw

instance (p : Plan) (made : Machine) (cycles k : Nat) : Decidable (FrameDraws p made cycles k) := by
  unfold FrameDraws
  infer_instance

def FrameStale (p : Plan) (made : Machine) (k : Nat) : Prop :=
  (Machine.step^[k * p.perFrame.toNat] made).StaleFault

instance (p : Plan) (made : Machine) (k : Nat) : Decidable (FrameStale p made k) := by
  unfold FrameStale
  infer_instance

theorem frame_steps (p : Plan) (made : Machine) (k : Nat)
    (begun : k * p.perFrame.toNat < (made.run p.maxCycles.toNat).steps) :
    (frameRun p made k).steps =
      min p.perFrame.toNat ((made.run p.maxCycles.toNat).steps - k * p.perFrame.toNat) := by
  have within := (Machine.run_traces made p.maxCycles.toNat).within
  obtain ⟨left, cycles⟩ := Nat.exists_eq_add_of_le (show k * p.perFrame.toNat ≤ p.maxCycles.toNat by omega)
  rw [cycles] at begun within ⊢
  have from_k := Machine.steps_from made (k * p.perFrame.toNat) left (by omega)
  have part := Machine.steps_of_part (Machine.step^[k * p.perFrame.toNat] made)
    (min p.perFrame.toNat left) (left - min p.perFrame.toNat left)
  rw [Nat.add_sub_cancel' (Nat.min_le_right _ _)] at part
  rw [frameRun, cycles, Nat.add_sub_cancel_left, part]
  omega

theorem frame_draws_iff (p : Plan) (made : Machine) (k : Nat) (positive : 0 < p.perFrame.toNat)
    (begun : k * p.perFrame.toNat < (made.run p.maxCycles.toNat).steps) :
    FrameDraws p made (made.run p.maxCycles.toNat).steps k ↔
      ∃ c < (frameRun p made k).steps,
        (Machine.step^[c] (Machine.step^[k * p.perFrame.toNat] made)).Performs .draw := by
  have steps := frame_steps p made k begun
  constructor
  · rintro ⟨c, counted, rfl, performs⟩
    have whole := Nat.div_add_mod' c p.perFrame.toNat
    have short := Nat.mod_lt c positive
    refine ⟨c % p.perFrame.toNat, by omega, ?_⟩
    rw [← Function.iterate_add_apply, Nat.add_comm, whole]
    exact performs
  · rintro ⟨c, counted, performs⟩
    rw [← Function.iterate_add_apply] at performs
    refine ⟨c + k * p.perFrame.toNat, by omega, ?_, performs⟩
    rw [Nat.add_mul_div_right _ _ positive, Nat.div_eq_of_lt (by omega), Nat.zero_add]

theorem frame_redraw_iff (p : Plan) (made : Machine) (k : Nat) (positive : 0 < p.perFrame.toNat)
    (begun : k * p.perFrame.toNat < (made.run p.maxCycles.toNat).steps) :
    (frameRun p made k).redraw = true ↔
      FrameDraws p made (made.run p.maxCycles.toNat).steps k ∨ FrameStale p made k := by
  have steps := frame_steps p made k begun
  have some : 0 < (frameRun p made k).steps := by omega
  have report := Machine.run_redraw_iff (Machine.step^[k * p.perFrame.toNat] made)
    (min p.perFrame.toNat (p.maxCycles.toNat - k * p.perFrame.toNat))
  rw [← frameRun, and_iff_right some, ← frame_draws_iff p made k positive begun] at report
  exact report

theorem stale_frame_is_last (p : Plan) (made : Machine) (k : Nat)
    (begun : k * p.perFrame.toNat < (made.run p.maxCycles.toNat).steps) (stale : FrameStale p made k) :
    (made.run p.maxCycles.toNat).steps = k * p.perFrame.toNat + 1 := by
  have within := (Machine.run_traces made p.maxCycles.toNat).within
  obtain ⟨left, cycles⟩ := Nat.exists_eq_add_of_le (show k * p.perFrame.toNat ≤ p.maxCycles.toNat by omega)
  rw [cycles] at begun ⊢
  have from_k := Machine.steps_from made (k * p.perFrame.toNat) left (by omega)
  have short := Machine.steps_of_stale_fault _ left stale
  omega

theorem stale_frame_draws_nothing (p : Plan) (made : Machine) (k : Nat) (positive : 0 < p.perFrame.toNat)
    (begun : k * p.perFrame.toNat < (made.run p.maxCycles.toNat).steps) (stale : FrameStale p made k) :
    ¬ FrameDraws p made (made.run p.maxCycles.toNat).steps k := by
  rw [frame_draws_iff p made k positive begun, frameRun]
  exact Machine.not_draws_of_stale_fault _ _ stale

theorem count_or_last (p q r : Nat → Prop) [DecidablePred p] [DecidablePred q] [DecidablePred r] (n : Nat)
    (either : ∀ k < n, p k ↔ q k ∨ r k) (last : ∀ k < n, r k → k + 1 = n ∧ ¬ q k) :
    Nat.count p n = Nat.count q n + if ∃ k < n, r k then 1 else 0 := by
  cases n with
  | zero => simp
  | succ n =>
      have before : ∀ k < n, ¬ r k := fun k earlier atK => by
        have same := (last k (Nat.lt_succ_of_lt earlier) atK).1
        omega
      have same : Nat.count p n = Nat.count q n := by
        apply Nat.le_antisymm <;> apply Nat.count_mono_left
        · intro k earlier atK
          exact ((either k (Nat.lt_succ_of_lt earlier)).mp atK).resolve_right (before k earlier)
        · intro k earlier atK
          exact (either k (Nat.lt_succ_of_lt earlier)).mpr (.inl atK)
      have atLast : (∃ k < n + 1, r k) ↔ r n := by
        rw [Nat.exists_lt_succ_right]
        exact or_iff_right fun ⟨k, earlier, atK⟩ => before k earlier atK
      rw [Nat.count_succ, Nat.count_succ, same, Nat.add_assoc]
      simp only [atLast, either n (Nat.lt_succ_self n)]
      by_cases stale : r n
      · simp [stale, (last n (Nat.lt_succ_self n) stale).2]
      · simp [stale]

theorem frame_begun (cycles perFrame k : Nat) (positive : 0 < perFrame) (frame : k < cycles ⌈/⌉ perFrame) :
    k * perFrame < cycles := by
  apply Nat.lt_of_not_le
  intro covered
  rw [Nat.mul_comm] at covered
  exact absurd ((ceilDiv_le_iff_le_mul positive).mpr covered) (Nat.not_le_of_lt frame)

theorem session_redraws (p : Plan) (paced : p.Paced) (made : Machine) (sound : made.Sound) (ready : made.Ready) :
    ∃ t why, finish p made = .ended t why ∧
      t.redraws = Nat.count (FrameDraws p made t.cycles) t.frames +
        if ∃ k < t.frames, FrameStale p made k then 1 else 0 := by
  have positive : 0 < p.perFrame.toNat := by
    have some := paced.1
    omega
  obtain ⟨redraws, ends⟩ := finish_of_paced p paced made sound ready
  have counts : Counts p made (start made) := ⟨rfl, .inl (Nat.zero_mul _).symm, (Nat.count_zero _).symm⟩
  have counted := drive_redraws p paced made _ (start made) _ _ counts sound ends
  refine ⟨_, _, ends, counted.trans ?_⟩
  apply count_or_last
  · intro k frame
    exact frame_redraw_iff p made k positive (frame_begun _ _ k positive frame)
  · intro k frame stale
    have begun := frame_begun _ _ k positive frame
    have last := stale_frame_is_last p made k begun stale
    have full : k * p.perFrame.toNat + 1 + p.perFrame.toNat - 1 = (k + 1) * p.perFrame.toNat := by
      rw [Nat.succ_mul]
      omega
    refine ⟨?_, stale_frame_draws_nothing p made k positive begun stale⟩
    change k + 1 = (made.run p.maxCycles.toNat).steps ⌈/⌉ p.perFrame.toNat
    rw [last, Nat.ceilDiv_eq_add_pred_div, full, Nat.mul_div_cancel _ positive]

theorem redraw_of_draw_or_stale_fault (m : Machine) (budget : Nat) :
    let drew := ∃ c < (m.run budget).steps, (Machine.step^[c] m).Performs .draw
    let stale := 0 < (m.run budget).steps ∧ m.StaleFault
    ((m.run budget).redraw = true ↔ drew ∨ stale) ∧ ¬ (drew ∧ stale) ∧
      ∀ (c : Config) (image : Image) (random : WordPair) (made : Machine),
        Machine.create c image random = .ok made → ∀ p : Plan, p.Paced →
          ∃ t why, finish p made = .ended t why ∧
            t.redraws = Nat.count (FrameDraws p made t.cycles) t.frames +
              if ∃ k < t.frames, FrameStale p made k then 1 else 0 := by
  refine ⟨Machine.run_redraw_iff m budget, ?_, ?_⟩
  · rintro ⟨drew, _, stale⟩
    exact Machine.not_draws_of_stale_fault m budget stale drew
  · intro c image random made created p paced
    have sound := Machine.created_sound c image random made created
    exact session_redraws p paced made sound (Machine.ready_created c image random made created)

theorem one_redraw_within_frame :
    let c : Config := ⟨0x204, 1, 1, some 1, .clip⟩
    let made := Machine.fresh c [0xD0, 0x01, 0xFF, 0xFF] ⟨0, 0⟩
    let p : Plan := ⟨0, 10, 2, false⟩
    Machine.create c (.raw [0xD0, 0x01, 0xFF, 0xFF]) ⟨0, 0⟩ = .ok made ∧ p.Paced ∧
      (made.run 2).redraw = true ∧ ∃ t why, finish p made = .ended t why ∧ t.redraws = 1 := by
  intro c made p
  have paced : p.Paced := by decide
  have drawn : 0 < (made.run 2).steps ∧ (Machine.step^[0] made).Performs .draw := by decide +kernel
  have ran : (match finish p made with
      | .ended t _ => t.cycles == 2 && t.frames == 1
      | _ => false) = true := by
    decide +kernel
  have frames : Nat.count (FrameDraws p made 2) 1 = 1 ∧ ¬ ∃ k < 1, FrameStale p made k := by decide +kernel
  obtain ⟨report, _, session⟩ := redraw_of_draw_or_stale_fault made 2
  obtain ⟨t, why, ends, redraws⟩ := session c (.raw [0xD0, 0x01, 0xFF, 0xFF]) ⟨0, 0⟩ made rfl p paced
  rw [ends] at ran
  simp only [Bool.and_eq_true, beq_iff_eq] at ran
  rw [ran.1, ran.2, frames.1, if_neg frames.2] at redraws
  exact ⟨rfl, paced, report.mpr (.inl ⟨0, drawn⟩), t, why, ends, redraws⟩

theorem stale_flag_is_reported :
    let made := Machine.fresh ⟨0x204, 1, 1, some 1, .clip⟩ [0xD0, 0x01, 0xFF, 0xFF] ⟨0, 0⟩
    let m := (made.run 1).machine
    let p : Plan := ⟨0, 10, 1, false⟩
    (m.run 1).redraw = true ∧ (¬ ∃ c < (m.run 1).steps, (Machine.step^[c] m).Performs .draw) ∧
      ∃ t why, finish p made = .ended t why ∧ t.redraws = 2 ∧
        Nat.count (FrameDraws p made t.cycles) t.frames = 1 := by
  intro made m p
  have reported : (m.run 1).redraw = true ∧ ¬ ∃ c < (m.run 1).steps, (Machine.step^[c] m).Performs .draw := by
    decide +kernel
  have frames : Nat.count (FrameDraws p made 2) 2 = 1 := by decide +kernel
  have ran : (match finish p made with
      | .ended t _ => t.cycles == 2 && t.frames == 2 && t.redraws == 2
      | _ => false) = true := by
    decide +kernel
  cases ends : finish p made with
  | running t | failed cause =>
      rw [ends] at ran
      cases ran
  | ended t why =>
      rw [ends] at ran
      simp only [Bool.and_eq_true, beq_iff_eq] at ran
      obtain ⟨⟨cycles, count⟩, redraws⟩ := ran
      exact ⟨reported.1, reported.2, t, why, rfl, redraws, by rw [cycles, count]; exact frames⟩

end Tally

end Chip8

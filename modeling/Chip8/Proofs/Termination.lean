import Chip8.Proofs.Report
import Chip8.Proofs.Session

set_option autoImplicit false

namespace Chip8

def Plan.Idle (p : Plan) : Prop := p.perFrame ≤ 0 ∧ 0 < p.maxCycles

def Plan.Refused (p : Plan) : Prop := 0 < p.maxCycles ∧ ¬ FitsSigned 32 (min p.perFrame p.maxCycles)

instance (p : Plan) : Decidable p.Idle := by
  unfold Plan.Idle
  infer_instance

instance (p : Plan) : Decidable p.Refused := by
  unfold Plan.Refused
  infer_instance

theorem Plan.paced_of_accepted (p : Plan) (accepted : ¬ p.Refused) (busy : ¬ p.Idle) (work : 0 < p.maxCycles) :
    p.Paced := by
  have perFrame : 1 ≤ p.perFrame := Int.not_le.mp fun empty => busy ⟨empty, work⟩
  have fits : FitsSigned 32 (min p.perFrame p.maxCycles) :=
    Decidable.of_not_not fun overflows => accepted ⟨work, overflows⟩
  exact ⟨perFrame, fits.2⟩

namespace Tally

def turn (p : Plan) (t : Tally) : FrameResult := if p.maxCycles ≤ t.cycles then .ended t .budget else t.frame p

-- The first `n` turns of the loop, or as many as it takes to leave it. Nothing here limits their number.
def turns (p : Plan) : Nat → Tally → FrameResult
  | 0, t => .running t
  | n + 1, t => match t.turn p with
    | .running next => turns p n next
    | result => result

theorem turns_succ (p : Plan) (n : Nat) (t : Tally) :
    turns p (n + 1) t = match turns p n t with
      | .running u => u.turn p
      | result => result := by
  induction n generalizing t with
  | zero => cases turned : t.turn p <;> simp only [turns, turned]
  | succ n ih =>
      rw [turns]
      cases turned : t.turn p with
      | running next => simpa only [turns, turned] using ih next
      | ended u why => simp only [turns, turned]
      | failed cause => simp only [turns, turned]

theorem turns_of_left (p : Plan) (n more : Nat) (t : Tally) (left : ∀ u, turns p n t ≠ .running u) :
    turns p (n + more) t = turns p n t := by
  induction more with
  | zero => rfl
  | succ more ih =>
      rw [← Nat.add_assoc, turns_succ, ih]
      cases result : turns p n t with
      | running u => exact absurd result (left u)
      | ended u why => rfl
      | failed cause => rfl

theorem left_once (p : Plan) (n k : Nat) (t : Tally) (r s : FrameResult) (first : turns p n t = r)
    (second : turns p k t = s) (rLeft : ∀ u, r ≠ .running u) (sLeft : ∀ u, s ≠ .running u) : r = s := by
  have fromFirst := turns_of_left p n k t (by rwa [first])
  have fromSecond := turns_of_left p k n t (by rwa [second])
  rw [Nat.add_comm, first] at fromFirst
  rw [second, fromFirst] at fromSecond
  exact fromSecond

theorem drive_eq_turns (p : Plan) (limit : Nat) (t : Tally) :
    drive p limit t = match turns p limit t with
      | .running u => if p.maxCycles ≤ u.cycles then .ended u .budget else .failed .noProgress
      | result => result := by
  induction limit generalizing t with
  | zero => rfl
  | succ limit ih =>
      rw [drive, turns, turn]
      by_cases used : p.maxCycles ≤ t.cycles
      · simp only [if_pos used]
      · simp only [if_neg used]
        cases framed : t.frame p with
        | running next => exact ih next
        | ended u why => rfl
        | failed cause => rfl

theorem turns_of_drive (p : Plan) (limit : Nat) (t u : Tally) (why : Ending)
    (ends : drive p limit t = .ended u why) : ∃ n, turns p n t = .ended u why := by
  rw [drive_eq_turns] at ends
  cases result : turns p limit t with
  | running last =>
      rw [result] at ends
      dsimp only at ends
      split at ends
      · rename_i used
        refine ⟨limit + 1, ?_⟩
        rw [turns_succ, result]
        exact (if_pos used).trans ends
      · cases ends
  | ended last reason =>
      rw [result] at ends
      exact ⟨limit, result.trans ends⟩
  | failed cause =>
      rw [result] at ends
      cases ends

theorem judge_running (t next : Tally) (goes : t.judge = .running next) : next = t ∧ t.machine.Ready := by
  unfold judge at goes
  split at goes
  · cases goes
  · cases goes
  · rename_i silent
    split at goes
    · cases goes
    · rename_i awake
      cases goes
      exact ⟨rfl, (Machine.alarm_eq_none_iff _).mp silent, Bool.eq_false_iff.mpr awake⟩

theorem cycles_of_running (p : Plan) (t next : Tally) (goes : t.frame p = .running next) :
    next.cycles = t.cycles + (t.allowance p).toNat := by
  unfold frame at goes
  cases known : budget? (t.allowance p) with
  | none =>
      rw [known] at goes
      cases goes
  | some budget =>
      rw [known] at goes
      obtain ⟨rfl, ready⟩ := judge_running _ next goes
      obtain ⟨_, same⟩ := Option.ite_none_right_eq_some.mp known
      rw [Option.some.inj same]
      exact congrArg (t.cycles + ·) (Machine.steps_of_ready t.machine budget ready)

theorem turn_gains (p : Plan) (busy : ¬ p.Idle) (t next : Tally) (goes : t.turn p = .running next) :
    t.cycles < next.cycles := by
  unfold turn at goes
  split at goes
  · cases goes
  · rename_i unused
    have perFrame : ¬ p.perFrame ≤ 0 := fun empty => busy ⟨empty, by omega⟩
    rw [cycles_of_running p t next goes, allowance]
    omega

theorem turn_of_idle (p : Plan) (idle : p.Idle) (accepted : ¬ p.Refused) (t : Tally) (ready : t.machine.Ready)
    (unused : t.cycles = 0) : t.turn p = .running ⟨t.machine, 0, t.frames + 1, t.redraws⟩ := by
  obtain ⟨perFrame, cycles⟩ := idle
  have first : t.allowance p = min p.perFrame p.maxCycles := by
    rw [allowance, unused, Int.natCast_zero, Int.sub_zero]
  have fits : FitsSigned 32 (t.allowance p) := by
    rw [first]
    exact Decidable.of_not_not fun overflows => accepted ⟨cycles, overflows⟩
  have empty : (t.allowance p).toNat = 0 := by omega
  have left : ¬ p.maxCycles ≤ t.cycles := by omega
  have silent : t.machine.alarm? = none := (Machine.alarm_eq_none_iff _).mpr ready.1
  rw [turn, if_neg left, frame, budget_of_fits _ fits, empty]
  simp [judge, count, Machine.run, Run.extend, Run.start, silent, ready.2, unused]

theorem turns_of_idle (p : Plan) (idle : p.Idle) (accepted : ¬ p.Refused) (m : Machine) (ready : m.Ready) (n : Nat) :
    turns p n (start m) = .running ⟨m, 0, n, 0⟩ := by
  induction n with
  | zero => rfl
  | succ n ih =>
      rw [turns_succ, ih]
      exact turn_of_idle p idle accepted ⟨m, 0, n, 0⟩ ready rfl

theorem turns_of_refused (p : Plan) (refused : p.Refused) (m : Machine) :
    turns p 1 (start m) = .failed .budgetBeyond32Bits := by
  obtain ⟨work, overflows⟩ := refused
  have first : (start m).allowance p = min p.perFrame p.maxCycles := by simp [allowance, start]
  have unused : ¬ p.maxCycles ≤ (start m).cycles := Int.not_le.mpr work
  have unknown : budget? (min p.perFrame p.maxCycles) = none := if_neg overflows
  rw [turns, turn, if_neg unused, frame, first, unknown]

theorem finish_of_busy (p : Plan) (busy : ¬ p.Idle) (accepted : ¬ p.Refused) (m : Machine) (sound : m.Sound)
    (ready : m.Ready) : ∃ t why, finish p m = .ended t why ∧ (t.frames : Int) ≤ max p.maxCycles 0 := by
  by_cases work : 0 < p.maxCycles
  · have paced := p.paced_of_accepted accepted busy work
    obtain ⟨redraws, ends⟩ := finish_of_paced p paced m sound ready
    refine ⟨_, _, ends, ?_⟩
    have within := (Machine.run_traces m p.maxCycles.toNat).within
    have perFrame : 0 < p.perFrame.toNat := by
      have positive := paced.1
      omega
    have frames : (m.run p.maxCycles.toNat).steps ⌈/⌉ p.perFrame.toNat ≤ (m.run p.maxCycles.toNat).steps :=
      (ceilDiv_le_iff_le_mul perFrame).mpr (Nat.le_mul_of_pos_left _ perFrame)
    dsimp only
    omega
  · have used : p.maxCycles ≤ (start m).cycles := Int.not_lt.mp work
    have nothing : p.maxCycles.toNat = 0 := by omega
    refine ⟨start m, .budget, ?_, ?_⟩
    · rw [finish, nothing, drive, if_pos used]
    · exact le_max_right _ _

theorem finish_no_progress_iff (p : Plan) (m : Machine) (sound : m.Sound) (ready : m.Ready) :
    finish p m = .failed .noProgress ↔ p.Idle ∧ ¬ p.Refused := by
  constructor
  · intro stuck
    by_cases refused : p.Refused
    · have first := turns_of_refused p refused m
      obtain ⟨more, limit⟩ : ∃ more, p.maxCycles.toNat = 1 + more := by
        have work := refused.1
        exact ⟨p.maxCycles.toNat - 1, by omega⟩
      rw [finish, drive_eq_turns, limit, turns_of_left p 1 more _ (by simp [first]), first] at stuck
      cases stuck
    · refine ⟨?_, refused⟩
      apply Decidable.of_not_not
      intro busy
      obtain ⟨t, why, ends, _⟩ := finish_of_busy p busy refused m sound ready
      rw [ends] at stuck
      cases stuck
  · rintro ⟨idle, accepted⟩
    have unused : ¬ p.maxCycles ≤ ((0 : Nat) : Int) := Int.not_le.mpr idle.2
    rw [finish, drive_eq_turns, turns_of_idle p idle accepted m ready]
    exact if_neg unused

theorem loop_ends_unless_frames_empty (c : Config) (image : Image) (random : WordPair) (made : Machine)
    (created : Machine.create c image random = .ok made) (p : Plan) :
    ((∃ n cause, turns p n (start made) = .failed cause) ↔ p.Refused) ∧
      (¬ p.Idle →
        (∀ t next : Tally, t.turn p = .running next → t.cycles < next.cycles) ∧
        (¬ p.Refused → ∃ n t why, turns p n (start made) = .ended t why ∧ (t.frames : Int) ≤ max p.maxCycles 0)) ∧
      (p.Idle → ¬ p.Refused → ∀ n, turns p n (start made) = .running ⟨made, 0, n, 0⟩) ∧
      (finish p made = .failed .noProgress ↔ ∀ n, ∃ t, turns p n (start made) = .running t) := by
  have sound := Machine.created_sound c image random made created
  have ready := Machine.ready_created c image random made created
  have ends (busy : ¬ p.Idle) (accepted : ¬ p.Refused) :
      ∃ n t why, turns p n (start made) = .ended t why ∧ (t.frames : Int) ≤ max p.maxCycles 0 := by
    obtain ⟨t, why, finished, frames⟩ := finish_of_busy p busy accepted made sound ready
    obtain ⟨n, left⟩ := turns_of_drive p _ _ t why finished
    exact ⟨n, t, why, left, frames⟩
  have never (idle : p.Idle) (accepted : ¬ p.Refused) := turns_of_idle p idle accepted made ready
  refine ⟨⟨?_, fun refused => ⟨1, _, turns_of_refused p refused made⟩⟩,
    fun busy => ⟨turn_gains p busy, ends busy⟩, never, ?_⟩
  · rintro ⟨n, cause, failed⟩
    apply Decidable.of_not_not
    intro accepted
    by_cases idle : p.Idle
    · rw [never idle accepted] at failed
      cases failed
    · obtain ⟨k, t, why, ended, _⟩ := ends idle accepted
      cases left_once p n k _ _ _ failed ended nofun nofun
  · rw [finish_no_progress_iff p made sound ready]
    constructor
    · rintro ⟨idle, accepted⟩ n
      exact ⟨_, never idle accepted n⟩
    · intro always
      have accepted : ¬ p.Refused := by
        intro refused
        obtain ⟨t, running⟩ := always 1
        rw [turns_of_refused p refused made] at running
        cases running
      refine ⟨?_, accepted⟩
      apply Decidable.of_not_not
      intro busy
      obtain ⟨n, t, why, ended, _⟩ := ends busy accepted
      obtain ⟨u, running⟩ := always n
      rw [ended] at running
      cases running

theorem loop_ends_at_fault :
    let c : Config := ⟨0x208, 1, 1, some 1, .clip⟩
    let program : List UInt8 := [0x60, 0x01, 0x61, 0x02, 0x62, 0x03, 0xFF, 0xFF]
    let made := Machine.fresh c program ⟨0, 0⟩
    let p : Plan := ⟨0, 100, 3, false⟩
    Machine.create c (.raw program) ⟨0, 0⟩ = .ok made ∧ ¬ p.Idle ∧ ¬ p.Refused ∧
      (∀ next, (start made).turn p = .running next → 0 < next.cycles) ∧
      (∃ n t why, turns p n (start made) = .ended t why ∧ (t.frames : Int) ≤ 100) ∧
      ¬ ∃ n cause, turns p n (start made) = .failed cause := by
  intro c program made p
  have busy : ¬ p.Idle := by decide
  have accepted : ¬ p.Refused := by decide
  obtain ⟨fails, loops, _, _⟩ := loop_ends_unless_frames_empty c (.raw program) ⟨0, 0⟩ made rfl p
  obtain ⟨gains, ends⟩ := loops busy
  exact ⟨rfl, busy, accepted, gains (start made), ends accepted, fun failed => accepted (fails.mp failed)⟩

theorem empty_frames_never_end :
    let c : Config := {}
    let made := Machine.fresh c [0x12, 0x00] ⟨0, 0⟩
    let p : Plan := ⟨0, 1000000000000000000, 0, false⟩
    Machine.create c (.raw [0x12, 0x00]) ⟨0, 0⟩ = .ok made ∧
      (∀ n cause, turns p n (start made) ≠ .failed cause) ∧
      (∃ next, (start made).turn p = .running next ∧ next.cycles = (start made).cycles) ∧
      ¬ ∃ n t why, turns p n (start made) = .ended t why := by
  intro c made p
  have loops := turns_of_idle p (by decide) (by decide) made ⟨rfl, rfl⟩
  refine ⟨rfl, ?_, ⟨⟨made, 0, 1, 0⟩, turn_of_idle p (by decide) (by decide) (start made) ⟨rfl, rfl⟩ rfl, rfl⟩, ?_⟩
  · intro n cause failed
    rw [loops n] at failed
    cases failed
  · rintro ⟨n, t, why, ended⟩
    rw [loops n] at ended
    cases ended

end Tally

end Chip8

import Chip8.History
import Chip8.Proofs.Outcome
import Mathlib.Logic.Function.Iterate

set_option autoImplicit false

namespace Chip8

def Random.stream (key : WordPair) (j : Nat) : UInt8 := byte (next^[j] key)

theorem Random.stream_next (key : WordPair) (j : Nat) : stream (next key) j = stream key (j + 1) := rfl

structure Roll where
  register : Reg
  mask : UInt8
  result : UInt8
deriving DecidableEq

namespace Machine

def roll? (m : Machine) (event : Event) : Option Roll :=
  if event = .step ∧ m.Performs .random then some ⟨m.fetch.x, m.fetch.kk, m.step.v m.fetch.x⟩ else none

def rolls (m : Machine) : List Event → List Roll
  | [] => []
  | event :: later => (m.roll? event).toList ++ (m.after event).rolls later

theorem rolled_after (m : Machine) (event : Event) (roll : Roll) (rolled : m.roll? event = some roll) :
    roll.result = Random.byte m.random &&& roll.mask ∧ (m.after event).random = Random.next m.random := by
  by_cases performed : event = .step ∧ m.Performs .random
  · rw [roll?, if_pos performed] at rolled
    cases rolled
    obtain ⟨rfl, performs⟩ := performed
    have stepped := step_of_executes m _ (executes_of_performs m .random performs)
    constructor
    · change m.step.v m.fetch.x = Random.byte m.random &&& m.fetch.kk
      rw [stepped]
      change (m.prepared.execute (.random m.fetch.x m.fetch.kk)).v m.fetch.x = _
      rw [v, execute_registers]
      change (m.prepared.setV m.fetch.x (Random.byte m.prepared.random &&& m.fetch.kk)).v m.fetch.x = _
      rw [v_set_same, prepared_random]
    · change m.step.random = _
      rw [stepped]
      change (m.prepared.execute (.random m.fetch.x m.fetch.kk)).random = _
      rw [execute_random, prepared_random]
  · rw [roll?, if_neg performed] at rolled
    cases rolled

theorem random_kept (m : Machine) (event : Event) (other : ¬ (event = .step ∧ m.Performs .random)) :
    (m.after event).random = m.random := by
  cases event with
  | press k => rfl
  | release k => rfl
  | clearFault => rfl
  | step =>
      have outcome := step_outcome m
      rw [after]
      generalize m.step = next at outcome
      cases outcome with
      | halted recorded => rfl
      | stalled stalls => rfl
      | faulted f raises => rfl
      | executed i executes =>
          change (m.prepared.execute i).random = m.random
          rw [execute_random, prepared_random]
          cases i with
          | random x mask => exact absurd ⟨rfl, (performs_iff m _ executes .random).mpr rfl⟩ other
          | _ => rfl

theorem roll_none_iff (m : Machine) (event : Event) :
    m.roll? event = none ↔ ¬ (event = .step ∧ m.Performs .random) := by
  rw [roll?]
  split <;> simp_all

theorem follow_random (m : Machine) (events : List Event) :
    (m.follow events).random = Random.next^[(m.rolls events).length] m.random ∧
      ∀ (j : Nat) (roll : Roll), (m.rolls events)[j]? = some roll →
        roll.result = Random.stream m.random j &&& roll.mask := by
  induction events generalizing m with
  | nil => exact ⟨rfl, fun j roll none => by cases none⟩
  | cons event later ih =>
      obtain ⟨advanced, results⟩ := ih (m.after event)
      rw [follow, rolls]
      cases rolled : m.roll? event with
      | none =>
          rw [random_kept m event ((roll_none_iff m event).mp rolled)] at advanced results
          exact ⟨advanced, results⟩
      | some first =>
          obtain ⟨result, moved⟩ := rolled_after m event first rolled
          rw [moved] at advanced results
          refine ⟨advanced, ?_⟩
          intro j roll listed
          cases j with
          | zero =>
              cases listed
              exact result
          | succ j =>
              rw [← Random.stream_next]
              exact results j roll listed

theorem created_random (c : Config) (image : Image) (key : WordPair) (made : Machine)
    (created : create c image key = .ok made) : made.random = key := by
  obtain ⟨_, _, _, _, _, _, _, _, rfl⟩ := (create_eq_ok_iff c image key made).mp created
  rfl

theorem random_stream_of_key (key : WordPair) :
    (∀ (c : Config) (image : Image) (made : Machine), create c image key = .ok made → ∀ events : List Event,
      (made.follow events).random = Random.next^[(made.rolls events).length] key ∧
        ∀ (j : Nat) (roll : Roll), (made.rolls events)[j]? = some roll →
          roll.result = Random.stream key j &&& roll.mask) ∧
      (∀ (c d : Config) (image picture : Image) (made other : Machine),
        create c image key = .ok made → create d picture key = .ok other →
        ∀ (events others : List Event) (j : Nat) (first second : Roll),
          (made.rolls events)[j]? = some first → (other.rolls others)[j]? = some second →
            first.result &&& second.mask = second.result &&& first.mask) ∧
      ∀ (m : Machine) (event : Event), ¬ (event = .step ∧ m.Performs .random) →
        (m.after event).random = m.random := by
  refine ⟨?_, ?_, random_kept⟩
  · intro c image made created events
    rw [← created_random c image key made created]
    exact follow_random made events
  · intro c d image picture made other created otherCreated events others j first second listed otherListed
    have result := (follow_random made events).2 j first listed
    have otherResult := (follow_random other others).2 j second otherListed
    rw [created_random c image key made created] at result
    rw [created_random d picture key other otherCreated] at otherResult
    rw [result, otherResult, UInt8.and_assoc, UInt8.and_assoc, UInt8.and_comm first.mask]

theorem stream_shared_by_two_programs :
    let c : Config := ⟨0x204, 1, 1, some 1, .clip⟩
    let twice := fresh c [0xC1, 0xFF, 0xC2, 0xFF] ⟨0, 7⟩
    let waits := fresh c [0xF0, 0x0A, 0xC3, 0x0F] ⟨0, 7⟩
    Random.key? 7 = some ⟨0, 7⟩ ∧ create c (.raw [0xC1, 0xFF, 0xC2, 0xFF]) ⟨0, 7⟩ = .ok twice ∧
      create c (.raw [0xF0, 0x0A, 0xC3, 0x0F]) ⟨0, 7⟩ = .ok waits ∧
      twice.rolls [.step, .step] = [⟨1, 0xFF, 31⟩, ⟨2, 0xFF, 251⟩] ∧
      waits.rolls [.step, .step, .press 5, .step] = [⟨3, 0x0F, 15⟩] ∧
      (twice.follow [.step, .step]).random = Random.next^[2] ⟨0, 7⟩ ∧
      (251 : UInt8) = Random.stream ⟨0, 7⟩ 1 &&& 0xFF ∧ (31 : UInt8) &&& 0x0F = 15 &&& 0xFF ∧
      (waits.step.after .step).random = waits.step.random := by
  intro c twice waits
  have drawn : twice.rolls [.step, .step] = [⟨1, 0xFF, 31⟩, ⟨2, 0xFF, 251⟩] := by decide +kernel
  have otherDrawn : waits.rolls [.step, .step, .press 5, .step] = [⟨3, 0x0F, 15⟩] := by decide +kernel
  have idle : ¬ (Event.step = .step ∧ waits.step.Performs .random) := by decide +kernel
  obtain ⟨stream, shared, kept⟩ := random_stream_of_key ⟨0, 7⟩
  obtain ⟨advanced, results⟩ := stream c (.raw [0xC1, 0xFF, 0xC2, 0xFF]) twice rfl [.step, .step]
  rw [drawn] at advanced results
  have agree := shared c c (.raw [0xC1, 0xFF, 0xC2, 0xFF]) (.raw [0xF0, 0x0A, 0xC3, 0x0F]) twice waits rfl rfl
    [.step, .step] [.step, .step, .press 5, .step] 0 ⟨1, 0xFF, 31⟩ ⟨3, 0x0F, 15⟩ (by rw [drawn]; rfl)
    (by rw [otherDrawn]; rfl)
  exact ⟨rfl, rfl, rfl, drawn, otherDrawn, advanced, results 1 _ rfl, agree, kept _ _ idle⟩

end Machine

end Chip8

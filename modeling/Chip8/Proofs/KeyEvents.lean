import Chip8.History
import Chip8.Proofs.Decode
import Chip8.Proofs.Outcome

set_option autoImplicit false

namespace Chip8

namespace Event

def key? : Event → Option Nibble
  | .press k => some k
  | .release k => some k
  | _ => none

def hold (k : Nibble) (held : Bool) : Event → Bool
  | .press j => if j = k then true else held
  | .release j => if j = k then false else held
  | _ => held

theorem hold_other (k : Nibble) (held : Bool) (event : Event) (other : event.key? ≠ some k) :
    event.hold k held = held := by
  cases event with
  | press j | release j => exact if_neg fun same => other (congrArg some same)
  | step | clearFault => rfl

end Event

def sightings (k : Nibble) (held : Bool) : List Event → List Bool
  | [] => []
  | event :: later => (if event.key? = none then [held] else []) ++ sightings k (event.hold k held) later

-- The same events in another order. Each key keeps the order of its own events, and one that is not
-- affected also keeps their places among the steps.
structure Reordered (affected : Nibble → Prop) (events others : List Event) : Prop where
  steps : others.filter (·.key? = none) = events.filter (·.key? = none)
  keys : ∀ k, others.filter (·.key? = some k) = events.filter (·.key? = some k)
  fixed : ∀ k, ¬ affected k → others.filter (fun event => event.key? = none ∨ event.key? = some k) =
    events.filter (fun event => event.key? = none ∨ event.key? = some k)

theorem held_of_own (k : Nibble) (held : Bool) (events : List Event) :
    events.foldl (Event.hold k) held = (events.filter (·.key? = some k)).foldl (Event.hold k) held := by
  rw [List.foldl_filter]
  congr 1
  funext held event
  by_cases own : event.key? = some k
  · rw [if_pos (decide_eq_true own)]
  · rw [if_neg (by simpa using own), Event.hold_other k held event own]

theorem sightings_of_own (k : Nibble) (held : Bool) (events : List Event) :
    sightings k held events =
      sightings k held (events.filter fun event => event.key? = none ∨ event.key? = some k) := by
  induction events generalizing held with
  | nil => rfl
  | cons event later ih =>
      by_cases own : event.key? = none ∨ event.key? = some k
      · rw [List.filter_cons_of_pos (by simpa using own), sightings, sightings, ih]
      · have foreign := not_or.mp own
        rw [List.filter_cons_of_neg (by simpa using own), sightings, if_neg foreign.1,
          Event.hold_other k held event foreign.2]
        exact ih held

namespace Machine

def holding (m : Machine) (pad : Keypad) : Machine := { m with keypad := pad }

def Probes (m : Machine) (k : Nibble) : Prop :=
  ∃ x, (m.Executes (.skip (.key x)) ∨ m.Executes (.skip (.noKey x))) ∧ Fin.ofNat 16 (m.prepared.v x).toNat = k

instance (m : Machine) (k : Nibble) : Decidable (m.Probes k) := by
  unfold Probes
  infer_instance

def Ignores (m : Machine) (keys : Nibble → Prop) : Prop := ¬ m.Performs .awaitKey ∧ ∀ k, keys k → ¬ m.Probes k

instance (m : Machine) (keys : Nibble → Prop) [DecidablePred keys] : Decidable (m.Ignores keys) := by
  unfold Ignores
  infer_instance

theorem execute_holding (m : Machine) (pad : Keypad) (i : Instruction)
    (agree : ∀ x, i = .skip (.key x) ∨ i = .skip (.noKey x) → (m.holding pad).holds x = m.holds x) :
    (m.holding pad).execute i = (m.execute i).holding pad := by
  cases i with
  | skip condition =>
      have same : (m.holding pad).satisfies condition = m.satisfies condition := by
        cases condition with
        | key x => exact agree x (.inl rfl)
        | noKey x => exact congrArg not (agree x (.inr rfl))
        | _ => rfl
      simp only [execute, same]
      rfl
  | _ => simp only [execute, holding, put_eq, registersAfter, advance, setV, v, reset, drawSprite, storedLanes, loadRegisters]

theorem step_holding (m : Machine) (pad : Keypad) (closed : m.waiting = false)
    (agree : ∀ k : Fin 16, m.Probes k → pad[k] = m.keypad[k]) : (m.holding pad).step = m.step.holding pad := by
  have prepared := prepared_of_closed m closed
  have same : (m.holding pad).prepared = m.prepared.holding pad := by
    rw [prepared, prepared_of_closed (m.holding pad) closed]
    rfl
  have check (i : Instruction) : (m.prepared.holding pad).faultOf i = m.prepared.faultOf i := by
    cases i <;> rfl
  have outcome := step_outcome m
  generalize m.step = next at outcome ⊢
  cases outcome with
  | halted recorded => exact step_of_halted (m.holding pad) recorded
  | stalled stalls => simp [awaitsKey, closed, Stalls] at stalls
  | faulted f raises =>
      refine step_of_raises (m.holding pad) f ⟨raises.1, raises.2.1, ?_⟩
      rw [same]
      exact (check _).trans raises.2.2
  | executed i executes =>
      have also : (m.holding pad).Executes i := by
        refine ⟨executes.1, executes.2.1, ?_, ?_⟩
        · rw [same]
          exact executes.2.2.1
        · rw [same]
          exact (check i).trans executes.2.2.2
      rw [step_of_executes _ i also, same, execute_holding]
      · rfl
      · intro x skips
        have probes : m.Probes (Fin.ofNat 16 (m.prepared.v x).toNat) := by
          refine ⟨x, ?_, rfl⟩
          rcases skips with rfl | rfl
          · exact .inl executes
          · exact .inr executes
        have keypad : m.prepared.keypad = m.keypad := by rw [prepared]
        rw [holds, holds, keypad]
        exact agree _ probes

theorem step_keypad (m : Machine) : m.step.keypad = m.keypad := by
  have outcome := step_outcome m
  generalize m.step = next at outcome ⊢
  cases outcome with
  | halted recorded => rfl
  | stalled stalls => rfl
  | faulted f raises => rfl
  | executed i executes =>
      change (m.prepared.execute i).keypad = m.keypad
      rw [(execute_host_fields m.prepared i).1, prepared_eq]

theorem step_closed (m : Machine) (closed : m.waiting = false) (runs : ¬ m.Performs .awaitKey) :
    m.step.waiting = false := by
  have outcome := step_outcome m
  generalize m.step = next at outcome ⊢
  cases outcome with
  | halted recorded => exact closed
  | stalled stalls => exact closed
  | faulted f raises => exact closed
  | executed i executes =>
      rw [performs_iff m i executes] at runs
      change (m.prepared.execute i).waiting = false
      rw [execute_waiting]
      cases i with
      | awaitKey x => exact absurd rfl runs
      | _ => exact (prepared_waiting m).trans executes.2.1

theorem press_closed (m : Machine) (k : Nibble) (closed : m.waiting = false) :
    m.press k = m.holding (m.keypad.set k.val true k.isLt) := by
  have undelivered : ¬ m.waiting = true := Bool.not_eq_true _ ▸ closed
  rw [press, if_neg undelivered]
  rfl

theorem after_key (m : Machine) (event : Event) (closed : m.waiting = false) (about : event.key? ≠ none) :
    m.after event = m.holding (m.after event).keypad := by
  cases event with
  | press k => exact press_closed m k closed
  | release k => rfl
  | step | clearFault => exact absurd rfl about

theorem after_keypad (m : Machine) (event : Event) (k : Fin 16) :
    (m.after event).keypad[k] = event.hold k m.keypad[k] := by
  cases event with
  | step => exact congrArg (fun pad : Keypad => pad[k]) (step_keypad m)
  | press j =>
      refine (Vector.getElem_set j.isLt k.isLt).trans ?_
      rw [Event.hold]
      simp only [Fin.ext_iff]
      rfl
  | release j =>
      refine (Vector.getElem_set j.isLt k.isLt).trans ?_
      rw [Event.hold]
      simp only [Fin.ext_iff]
      rfl
  | clearFault => rfl

theorem after_holding (m : Machine) (event : Event) (pad : Keypad) (closed : m.waiting = false)
    (other : event.key? = none) (agree : event = .step → ∀ k : Fin 16, m.Probes k → pad[k] = m.keypad[k]) :
    (m.holding pad).after event = (m.after event).holding pad := by
  cases event with
  | step => exact step_holding m pad closed (agree rfl)
  | press k | release k => cases other
  | clearFault => rfl

theorem after_closed (m : Machine) (event : Event) (closed : m.waiting = false)
    (runs : event = .step → ¬ m.Performs .awaitKey) : (m.after event).waiting = false := by
  cases event with
  | step => exact step_closed m closed (runs rfl)
  | press k | release k | clearFault => exact closed

-- Two machines that differ in the keys alone, each with a run ahead of it: their steps find the same keys,
-- up to those that are affected, and in the end they have all keys in common.
structure Converge (affected : Nibble → Prop) (m n : Machine) (events others : List Event) : Prop where
  rest : n = m.holding n.keypad
  steps : others.filter (·.key? = none) = events.filter (·.key? = none)
  seen : ∀ k : Fin 16, ¬ affected k → sightings k n.keypad[k] others = sightings k m.keypad[k] events
  last : ∀ k : Fin 16, others.foldl (Event.hold k) n.keypad[k] = events.foldl (Event.hold k) m.keypad[k]

variable {affected : Nibble → Prop} {m n : Machine} {event : Event} {events others : List Event}

theorem converge_key (closed : m.waiting = false) (about : event.key? ≠ none)
    (same : Converge affected m n (event :: events) others) : Converge affected (m.after event) n events others where
  rest := by
    rw [after_key m event closed about]
    exact same.rest
  steps := by
    have steps := same.steps
    rwa [List.filter_cons_of_neg (by simpa using about)] at steps
  seen k untouched := by
    have seen := same.seen k untouched
    rwa [sightings, if_neg about, List.nil_append, ← after_keypad] at seen
  last k := by
    have last := same.last k
    rwa [List.foldl_cons, ← after_keypad] at last

theorem converge_symm (same : Converge affected m n events others) : Converge affected n m others events where
  rest := by
    rw [same.rest]
    rfl
  steps := same.steps.symm
  seen k untouched := (same.seen k untouched).symm
  last k := (same.last k).symm

theorem converge_step (closed : m.waiting = false) (other : event.key? = none)
    (ignores : event = .step → m.Ignores affected)
    (same : Converge affected m n (event :: events) (event :: others)) :
    Converge affected (m.after event) (n.after event) events others := by
  have seen (k : Fin 16) (untouched : ¬ affected k) := same.seen k untouched
  simp only [sightings, if_pos other, List.singleton_append, List.cons.injEq, ← after_keypad] at seen
  have agree : event = .step → ∀ k : Fin 16, m.Probes k → n.keypad[k] = m.keypad[k] := fun stepped k probes =>
    (seen k fun touched => (ignores stepped).2 k touched probes).1
  have stepped := after_holding m event n.keypad closed other agree
  rw [← same.rest] at stepped
  refine ⟨?_, ?_, fun k untouched => (seen k untouched).2, ?_⟩
  · rw [stepped]
    rfl
  · have steps := same.steps
    rw [List.filter_cons_of_pos (by simpa using other), List.filter_cons_of_pos (by simpa using other)] at steps
    exact List.tail_eq_of_cons_eq steps
  · intro k
    have last := same.last k
    rwa [List.foldl_cons, List.foldl_cons, ← after_keypad, ← after_keypad] at last

theorem converge_key_right (closed : m.waiting = false) (about : event.key? ≠ none)
    (same : Converge affected m n events (event :: others)) : Converge affected m (n.after event) events others := by
  have alsoClosed : n.waiting = false := by
    rw [same.rest]
    exact closed
  exact converge_symm (converge_key alsoClosed about (converge_symm same))

theorem converge_nil (same : Converge affected m n [] []) : n = m := by
  have keypad : n.keypad = m.keypad := Vector.ext fun place inside => same.last ⟨place, inside⟩
  rw [same.rest, keypad]
  rfl

theorem converge_next_step (closed : m.waiting = false) (same : Converge affected m n events others) :
    ∃ (now : Machine) (ahead : List Event), now.follow ahead = n.follow others ∧
      Converge affected m now events ahead ∧ ∀ first later, ahead = first :: later → first.key? = none := by
  induction others generalizing n with
  | nil => exact ⟨n, [], rfl, same, fun _ _ impossible => by cases impossible⟩
  | cons event others ih =>
      by_cases other : event.key? = none
      · exact ⟨n, event :: others, rfl, same, fun _ _ cons => by cases cons; exact other⟩
      · exact ih (converge_key_right closed other same)

-- Key events are taken up one at a time on either side, and the other events on both sides at once.
theorem follow_of_converge (closed : m.waiting = false)
    (ignores : m.EachStep (fun n => n.Ignores affected) events) (same : Converge affected m n events others) :
    n.follow others = m.follow events := by
  induction events generalizing m n others with
  | nil =>
      obtain ⟨now, ahead, reached, same, plain⟩ := converge_next_step closed same
      rw [← reached]
      cases ahead with
      | nil => exact converge_nil same
      | cons first ahead =>
          have steps := same.steps
          simp [plain first ahead rfl] at steps
  | cons event events ih =>
      have next := after_closed m event closed fun stepped => (ignores.1 stepped).1
      by_cases other : event.key? = none
      · obtain ⟨now, ahead, reached, same, plain⟩ := converge_next_step closed same
        rw [← reached]
        have steps := same.steps
        cases ahead with
        | nil => simp [other] at steps
        | cons first ahead =>
            have also := plain first ahead rfl
            rw [List.filter_cons_of_pos (by simpa using also), List.filter_cons_of_pos (by simpa using other)] at steps
            obtain rfl : first = event := (List.cons.inj steps).1
            have rest := ih next ignores.2 (converge_step closed other ignores.1 same)
            exact rest
      · exact ih next ignores.2 (converge_key closed other same)

theorem converge_of_reordered (reordered : Reordered affected events others) :
    Converge affected m m events others where
  rest := rfl
  steps := reordered.steps
  seen k untouched := by
    rw [sightings_of_own, reordered.fixed k untouched, ← sightings_of_own]
  last k := by
    rw [held_of_own, reordered.keys k, ← held_of_own]

theorem key_event_passes_step (m : Machine) (event : Event) (k : Nibble) (closed : m.waiting = false)
    (about : event.key? = some k) (ignores : m.Ignores (· = k)) : (m.after event).step = m.step.after event := by
  have key : event.key? ≠ none := by
    rw [about]
    exact Option.some_ne_none k
  have agree (j : Nibble) (probes : m.Probes j) : (m.after event).keypad[j] = m.keypad[j] := by
    have other : event.key? ≠ some j := by
      rw [about]
      exact fun same => ignores.2 j (Option.some.inj same).symm probes
    rw [after_keypad, Event.hold_other j _ event other]
  have keypad : (m.step.after event).keypad = (m.after event).keypad := by
    apply Vector.ext
    intro place inside
    have later := after_keypad m.step event ⟨place, inside⟩
    rw [step_keypad] at later
    exact later.trans (after_keypad m event ⟨place, inside⟩).symm
  rw [after_key m event closed key, step_holding m _ closed agree, ← keypad]
  exact (after_key m.step event (step_closed m closed ignores.1) key).symm

theorem bits_of_executes (m : Machine) (i : Instruction) (o : Opcode) (mask value : Word) (executes : m.Executes i)
    (shape : i.opcode = o) (listed : ∃ p ∈ Opcode.patterns, p.mask = mask ∧ p.value = value ∧ p.opcode = o)
    (apart : o ∉ [.clear, .ret, .system]) :
    m.fetch &&& mask = value ∧ Instruction.withOperands m.fetch o = i := by
  have word := word_of_executes m i executes
  have opcode : Opcode.ofWord m.fetch = o := by rw [← Instruction.opcode_of_word, word, shape]
  rw [Instruction.ofWord, opcode] at word
  exact ⟨(Opcode.of_word_iff m.fetch mask value o listed apart).mp opcode, word⟩

theorem word_of_key_skip (m : Machine) (x : Reg)
    (skips : m.Executes (.skip (.key x)) ∨ m.Executes (.skip (.noKey x))) :
    m.fetch.x = x ∧ (m.fetch &&& 0xF0FF = 0xE09E ∨ m.fetch &&& 0xF0FF = 0xE0A1) := by
  rcases skips with executes | executes
  · obtain ⟨bits, word⟩ := bits_of_executes m _ .skipKey 0xF0FF 0xE09E executes rfl (by decide) (by decide)
    cases word
    exact ⟨rfl, .inl bits⟩
  · obtain ⟨bits, word⟩ := bits_of_executes m _ .skipNoKey 0xF0FF 0xE0A1 executes rfl (by decide) (by decide)
    cases word
    exact ⟨rfl, .inr bits⟩

theorem ignores_of_word (m : Machine) (k : Nibble) (closed : m.waiting = false)
    (runs : m.fetch &&& 0xF0FF ≠ 0xF00A)
    (elsewhere : m.fetch &&& 0xF0FF = 0xE09E ∨ m.fetch &&& 0xF0FF = 0xE0A1 →
      (m.v m.fetch.x &&& 0xF).toNat ≠ k.val) : m.Ignores (· = k) := by
  have number (x : Reg) : (Fin.ofNat 16 (m.prepared.v x).toNat).val = (m.v x &&& 0xF).toNat := by
    rw [prepared_of_closed m closed, UInt8.toNat_and]
    exact (Nat.and_two_pow_sub_one_eq_mod _ 4).symm
  constructor
  · intro performs
    exact runs (bits_of_executes m _ .awaitKey 0xF0FF 0xF00A performs.1 performs.2 (by decide) (by decide)).1
  · rintro j rfl ⟨x, skips, rfl⟩
    obtain ⟨rfl, bits⟩ := word_of_key_skip m x skips
    exact elsewhere bits (number m.fetch.x).symm

theorem key_events_commute :
    (∀ (m : Machine) (k : Nibble), m.waiting = false → m.fetch &&& 0xF0FF ≠ 0xF00A →
      (m.fetch &&& 0xF0FF = 0xE09E ∨ m.fetch &&& 0xF0FF = 0xE0A1 → (m.v m.fetch.x &&& 0xF).toNat ≠ k.val) →
        (m.press k).step = m.step.press k ∧ (m.release k).step = m.step.release k) ∧
      ∀ (m : Machine) (affected : Nibble → Prop) (events others : List Event), m.waiting = false →
        m.EachStep (fun n => n.Ignores affected) events → Reordered affected events others →
          m.follow others = m.follow events := by
  constructor
  · intro m k closed runs elsewhere
    have ignores := ignores_of_word m k closed runs elsewhere
    exact ⟨key_event_passes_step m (.press k) k closed rfl ignores,
      key_event_passes_step m (.release k) k closed rfl ignores⟩
  · intro m affected events others closed ignores reordered
    exact follow_of_converge closed ignores (converge_of_reordered reordered)

theorem other_key_moves_past_skip :
    let m := { fresh ⟨0x206, 1, 1, some 1, .clip⟩ [0xE1, 0x9E, 0x60, 0x01, 0x60, 0x02] ⟨0, 0⟩ with
      registers := (Vector.replicate 16 0).set 1 0x13 }
    let events : List Event := [.press 4, .press 3, .step, .release 4, .step, .step, .step]
    let others : List Event := [.press 3, .step, .step, .step, .press 4, .release 4, .step]
    m.fetch &&& 0xF0FF = 0xE09E ∧ (m.v m.fetch.x &&& 0xF).toNat ≠ 4 ∧ (m.press 4).step = m.step.press 4 ∧
      m.EachStep (fun n => n.Ignores (· = 4)) events ∧ Reordered (· = 4) events others ∧
      (m.follow events).fault ≠ 0 ∧ m.follow others = m.follow events := by
  intro m events others
  have word : m.fetch &&& 0xF0FF = 0xE09E ∧ (m.v m.fetch.x &&& 0xF).toNat ≠ 4 := by decide +kernel
  have run : m.EachStep (fun n => n.Ignores (· = 4)) events ∧ (m.follow events).fault ≠ 0 := by decide +kernel
  have reordered : Reordered (· = 4) events others := ⟨by decide, by decide, by decide⟩
  obtain ⟨passes, reorders⟩ := key_events_commute
  have first := passes m 4 rfl (by rw [word.1]; decide) fun _ => word.2
  exact ⟨word.1, word.2, first.1, run.1, reordered, run.2, reorders m _ events others rfl run.1 reordered⟩

end Machine

end Chip8

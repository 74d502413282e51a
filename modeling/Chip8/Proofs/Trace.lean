import Chip8.History
import Chip8.Proofs.Lines
import Chip8.Proofs.Report

set_option autoImplicit false

namespace Chip8

theorem Word.low_to_nat (w : Word) : low (w.toNat : Int) = w := by
  have small : w.toNat < 0x10000 := w.toNat_lt
  have kept : ((w.toNat : Int) % 0x10000).toNat = w.toNat := by omega
  exact (congrArg UInt16.ofNat kept).trans UInt16.ofNat_toNat

namespace Logger

theorem write_unbroken (log : Logger) (now : Float) (level : Level) (text : String) (enabled : log.Enabled level)
    (whole : Text.Unbroken text.toList) : log.write now level text = [log.head now level ++ " " ++ text] := by
  rw [write, if_pos enabled, Text.printed_lines_unbroken text whole, List.map_singleton]

theorem unbroken_trace_text (pc opcode : Int) : Text.Unbroken (traceText pc opcode).toList := by
  rw [traceText, Text.unbroken_string_append, Text.unbroken_string_append, Text.unbroken_string_append,
    Text.unbroken_string_append]
  exact ⟨⟨⟨⟨Text.unbroken_hex_padded 4 pc, by decide⟩, Text.unbroken_hex_padded 4 opcode⟩, by decide⟩,
    Mnemonic.unbroken_mnemonic _⟩

end Logger

inductive Move
  | check (now : Float)
  | hold (next : Machine)

structure Visit where
  now : Float
  machine : Machine
  lines : List String

namespace Machine

def Fetches (m : Machine) : Prop := m.Ready ∧ m.CanFetch

instance (m : Machine) : Decidable m.Fetches :=
  inferInstanceAs (Decidable (m.Ready ∧ m.CanFetch))

def traceLine (m : Machine) (log : Logger) (now : Float) : String :=
  log.head now .debug ++ " " ++ (Text.Hex.padded 4 m.pc.toNat ++ ": " ++ Text.Hex.padded 4 m.fetch.toNat ++ "  " ++
    m.fetch.mnemonic)

def traceLines (m : Machine) (log : Logger) (now : Float) : List String :=
  if m.CanFetch then [m.traceLine log now] else []

def alarmLines (m : Machine) (log : Logger) (now : Float) : List String :=
  match m.step.alarm? with
  | some alarm => log.writeAlarm now alarm
  | none => []

-- A monitored step prints the line of the word at the program counter if it can be fetched, and what its alarm
-- says. That is a line for each instruction that runs, but also one for each step that finds a word and runs
-- nothing.
structure TracedStep (m : Machine) (log : Logger) (now : Float) (stepped : MonitoredStep) : Prop where
  lines : stepped.lines = m.traceLines log now ++ m.alarmLines log now
  counted : stepped.log.traced = log.traced + (m.traceLines log now).length
  executed : ∀ i, m.Executes i → stepped.lines = [log.head now .debug ++ " " ++
    (Text.Hex.padded 4 m.pc.toNat ++ ": " ++ Text.Hex.padded 4 m.fetch.toNat ++ "  " ++ i.mnemonic)]
  exact : (stepped.log.traced = log.traced + 1 ↔ m.CanFetch ∧ ((∃ i, m.Executes i) ∨ ∃ f, m.Raises f)) ↔
    (m.CanFetch → m.fault = 0 ∧ ¬ m.Stalls)

def supervise (m : Machine) (log : Logger) : List Move → Logger × List Visit
  | [] => (log, [])
  | .hold next :: later => next.supervise log later
  | .check now :: later =>
      let stepped := m.monitoredStep log now
      let rest := (m.call (.monitoredStep log now)).supervise stepped.log later
      (rest.1, ⟨now, m, stepped.lines⟩ :: rest.2)

theorem fetches_iff (m : Machine) : m.Fetches ↔ m.CanFetch ∧ ((∃ i, m.Executes i) ∨ ∃ f, m.Raises f) := by
  constructor
  · rintro ⟨ready, fetched⟩
    exact ⟨fetched, executes_or_raises m ready⟩
  · rintro ⟨fetched, ⟨i, executes⟩ | ⟨f, raises⟩⟩
    · exact ⟨⟨executes.1, executes.2.1⟩, fetched⟩
    · exact ⟨⟨raises.1, raises.2.1⟩, fetched⟩

theorem can_fetch_of_executes (m : Machine) (i : Instruction) (executes : m.Executes i) : m.CanFetch :=
  (prepared_can_fetch m).mp (can_fetch_of_safe m.prepared i executes.2.2.2)

theorem ready_iff (m : Machine) : m.Ready ↔ m.fault = 0 ∧ ¬ m.Stalls := by
  constructor
  · intro ready
    exact ⟨ready.1, fun stalls => Bool.false_ne_true (ready.2.symm.trans stalls.2)⟩
  · rintro ⟨healthy, runs⟩
    exact ⟨healthy, Bool.eq_false_iff.mpr fun awaits => runs ⟨healthy, awaits⟩⟩

theorem trace_next (m : Machine) (log : Logger) (now : Float) (debug : log.Enabled .debug) :
    m.traceNext log now =
      ({ log with traced := log.traced + (m.traceLines log now).length }, m.traceLines log now) := by
  unfold traceLines
  by_cases fetched : m.CanFetch
  · rw [traceNext, if_pos ⟨debug, fetched⟩, if_pos fetched, Logger.trace,
      log.write_unbroken now .debug _ debug (Logger.unbroken_trace_text _ _), Logger.traceText, Word.low_to_nat]
    rfl
  · rw [traceNext, if_neg fun both => fetched both.2, if_neg fetched]
    rfl

theorem monitored_step_eq (m : Machine) (log : Logger) (now : Float) (debug : log.Enabled .debug) :
    m.monitoredStep log now =
      ⟨{ log with traced := log.traced + (m.traceLines log now).length },
        m.traceLines log now ++ m.alarmLines log now, m.step.verdict⟩ := by
  unfold monitoredStep alarmLines verdict
  rw [trace_next m log now debug]
  cases raised : m.step.alarm? <;> simp only [raised, List.append_nil]
  rfl

theorem one_trace_line_iff (m : Machine) (log : Logger) (now : Float) :
    (m.traceLines log now).length = 1 ↔ m.CanFetch := by
  unfold traceLines
  by_cases fetched : m.CanFetch
  · simp [fetched]
  · simp [fetched]

theorem supervise_lines (m : Machine) (log : Logger) (moves : List Move) (debug : log.Enabled .debug) :
    ∀ visit ∈ (m.supervise log moves).2, visit.lines =
      visit.machine.traceLines log visit.now ++ visit.machine.alarmLines log visit.now := by
  induction moves generalizing m log with
  | nil => exact List.forall_mem_nil _
  | cons move later ih =>
      cases move with
      | hold next => exact ih next log debug
      | check now =>
          have step := monitored_step_eq m log now debug
          refine List.forall_mem_cons.mpr ⟨congrArg MonitoredStep.lines step, ?_⟩
          have rest := ih (m.call (.monitoredStep log now)) (m.monitoredStep log now).log
          rw [step] at rest ⊢
          exact rest debug

theorem supervise_traced (m : Machine) (log : Logger) (moves : List Move) (debug : log.Enabled .debug) :
    (m.supervise log moves).1.traced =
      log.traced + ((m.supervise log moves).2.flatMap fun visit => visit.machine.traceLines log visit.now).length := by
  induction moves generalizing m log with
  | nil => rfl
  | cons move later ih =>
      cases move with
      | hold next => exact ih next log debug
      | check now =>
          have step := monitored_step_eq m log now debug
          have rest := ih (m.call (.monitoredStep log now)) (m.monitoredStep log now).log (step ▸ debug)
          rw [supervise]
          dsimp only
          rw [rest, List.flatMap_cons, List.length_append, step, ← Nat.add_assoc]
          rfl

theorem map_filter_eq_iff {α β : Type} (p q : α → Bool) (f : α → β) (l : List α)
    (within : ∀ a, q a = true → p a = true) :
    (l.filter p).map f = (l.filter q).map f ↔ ∀ a ∈ l, p a = true → q a = true := by
  have nested : l.filter q = (l.filter p).filter q := by
    rw [List.filter_filter]
    exact List.filter_congr fun a _ => by cases taken : q a <;> simp [taken, within]
  constructor
  · intro same a member kept
    have length : ((l.filter p).filter q).length = (l.filter p).length := by
      rw [← nested, ← List.length_map, ← same, List.length_map]
    exact List.length_filter_eq_length_iff.mp length a (List.mem_filter.mpr ⟨member, kept⟩)
  · intro kept
    rw [nested, List.filter_eq_self.mpr fun a member =>
      kept a (List.mem_filter.mp member).1 (List.mem_filter.mp member).2]

theorem trace_lines_filter (log : Logger) (visits : List Visit) :
    (visits.flatMap fun visit => visit.machine.traceLines log visit.now) =
      (visits.filter fun visit => visit.machine.CanFetch).map fun visit => visit.machine.traceLine log visit.now := by
  induction visits with
  | nil => rfl
  | cons visit later ih =>
      rw [List.flatMap_cons, ih, List.filter_cons, traceLines]
      by_cases fetched : visit.machine.CanFetch
      · rw [if_pos fetched, if_pos (decide_eq_true fetched), List.map_cons, List.singleton_append]
      · rw [if_neg fetched, if_neg (by simp [fetched]), List.nil_append]

theorem alarm_lines_of_executes (m : Machine) (log : Logger) (now : Float) (i : Instruction) (executes : m.Executes i) :
    m.alarmLines log now = [] := by
  rw [alarmLines, (alarm_eq_none_iff m.step).mpr (fault_of_executed m i executes)]

theorem traced_step (m : Machine) (log : Logger) (now : Float) (debug : log.Enabled .debug) :
    TracedStep m log now (m.monitoredStep log now) := by
  rw [monitored_step_eq m log now debug]
  refine ⟨rfl, rfl, ?_, ?_⟩
  · intro i executes
    dsimp only
    rw [alarm_lines_of_executes m log now i executes, traceLines, if_pos (can_fetch_of_executes m i executes),
      List.append_nil, traceLine, Word.mnemonic, word_of_executes m i executes]
  · dsimp only
    rw [Nat.add_left_cancel_iff, one_trace_line_iff, ← fetches_iff, ← ready_iff]
    exact ⟨fun same fetched => (same.mp fetched).1, fun ready => ⟨fun fetched => ⟨ready fetched, fetched⟩, And.right⟩⟩

theorem traces_what_can_be_fetched (m : Machine) (log : Logger) (debug : log.Enabled .debug) :
    (∀ now, TracedStep m log now (m.monitoredStep log now)) ∧
    ∀ moves, let visits := (m.supervise log moves).2
      let traced := visits.flatMap fun visit => visit.machine.traceLines log visit.now
      (∀ visit ∈ visits, visit.lines =
        visit.machine.traceLines log visit.now ++ visit.machine.alarmLines log visit.now) ∧
      (m.supervise log moves).1.traced = log.traced + traced.length ∧
      (traced = (visits.filter fun visit => visit.machine.Fetches).map
          (fun visit => visit.machine.traceLine log visit.now) ↔
        ∀ visit ∈ visits, visit.machine.CanFetch → visit.machine.fault = 0 ∧ ¬ visit.machine.Stalls) := by
  refine ⟨fun now => traced_step m log now debug, fun moves => ?_⟩
  refine ⟨supervise_lines m log moves debug, supervise_traced m log moves debug, ?_⟩
  rw [trace_lines_filter, map_filter_eq_iff]
  · simp only [decide_eq_true_eq, ← ready_iff]
    exact ⟨fun all visit member fetched => (all visit member fetched).1,
      fun all visit member fetched => ⟨all visit member fetched, fetched⟩⟩
  · intro visit fetches
    exact decide_eq_true (of_decide_eq_true fetches).2

theorem wait_traced_once_more :
    let log : Logger := ⟨"chip8vm", .debug, false, true, 0, 0⟩
    let m := fresh ⟨0x204, 1, 1, some 1, .clip⟩ [0xF0, 0x0A, 0x60, 0x05] ⟨0, 0⟩
    let visits := (m.supervise log [.check 0, .check 0]).2
    log.Enabled .debug ∧ (m.supervise log [.check 0, .check 0]).1.traced = 2 ∧
      (m.monitoredStep log 0).lines = [log.head 0 .debug ++ " " ++ "0200: F00A  LD V0, K"] ∧
      (visits.flatMap fun visit => visit.machine.traceLines log visit.now) ≠
        (visits.filter fun visit => visit.machine.Fetches).map fun visit => visit.machine.traceLine log visit.now := by
  intro log m visits
  obtain ⟨step, session⟩ := traces_what_can_be_fetched m log (by decide)
  obtain ⟨_, _, exact⟩ := session [.check 0, .check 0]
  have ran : m.Executes (.awaitKey 0) ∧ m.step.CanFetch ∧ m.step.Stalls ∧
      (m.supervise log [.check 0, .check 0]).1.traced = 2 ∧
      Text.Hex.padded 4 m.pc.toNat ++ ": " ++ Text.Hex.padded 4 m.fetch.toNat ++ "  " ++
        (Instruction.awaitKey 0).mnemonic = "0200: F00A  LD V0, K" := by
    decide +kernel
  obtain ⟨executes, fetched, stalls, counted, text⟩ := ran
  have second : ∀ n : Machine, n.step.fault = 0 →
      ∃ visit ∈ (n.supervise log [.check 0, .check 0]).2, visit.machine = n.step := by
    intro n healthy
    have held : n.call (.monitoredStep log 0) = n.step := by
      rw [call, monitored_result, verdict_of_healthy n.step healthy]
    exact ⟨_, List.mem_cons_of_mem _ (List.mem_singleton_self _), held⟩
  obtain ⟨visit, member, found⟩ := second m stalls.1
  rw [← found] at fetched stalls
  refine ⟨by decide, counted, ?_, fun same => (exact.mp same visit member fetched).2 stalls⟩
  rw [← text]
  exact (step 0).executed _ executes

theorem stalled_and_halted_steps_are_traced :
    let log : Logger := ⟨"chip8vm", .debug, false, true, 0, 0⟩
    let stalled := (fresh ⟨0x204, 1, 1, some 1, .clip⟩ [0xF0, 0x0A, 0x60, 0x05] ⟨0, 0⟩).step
    let halted := (fresh ⟨0x204, 1, 1, some 1, .clip⟩ [0xFF, 0xFF] ⟨0, 0⟩).step
    log.Enabled .debug ∧
      (stalled.Stalls ∧ (stalled.monitoredStep log 0).log.traced = log.traced + 1 ∧
        (stalled.monitoredStep log 0).lines = [log.head 0 .debug ++ " " ++ "0202: 6005  LD V0, #05"]) ∧
      halted.fault ≠ 0 ∧ (halted.monitoredStep log 0).log.traced = log.traced + 1 := by
  intro log stalled halted
  have ran : stalled.Stalls ∧ stalled.CanFetch ∧ stalled.step.fault = 0 ∧
      (stalled.monitoredStep log 0).log.traced = log.traced + 1 ∧
      Text.Hex.padded 4 stalled.pc.toNat ++ ": " ++ Text.Hex.padded 4 stalled.fetch.toNat ++ "  " ++
        stalled.fetch.mnemonic = "0202: 6005  LD V0, #05" ∧
      halted.fault ≠ 0 ∧ (halted.monitoredStep log 0).log.traced = log.traced + 1 := by
    decide +kernel
  obtain ⟨stalls, fetched, healthy, counted, text, faulted, countedAgain⟩ := ran
  have quiet : stalled.alarmLines log 0 = [] := by
    rw [alarmLines, (alarm_eq_none_iff stalled.step).mpr healthy]
  refine ⟨by decide, ⟨stalls, counted, ?_⟩, faulted, countedAgain⟩
  rw [monitored_step_eq stalled log 0 (by decide), quiet, traceLines, if_pos fetched, List.append_nil, traceLine, text]

end Machine
end Chip8

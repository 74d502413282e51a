import Chip8.Log.Call
import Chip8.Proofs.Lines

set_option autoImplicit false

namespace Chip8

namespace LogCall

def content (elapsed : Float) : LogCall → Option (Level × String)
  | .setLevel _ => none
  | .plain level text => some (level, text)
  | .named level text => (Level.ofName? level).map fun urgency => (urgency, text)
  | .titled level title lines => (Level.ofName? level).map fun urgency => (urgency, Logger.framed title lines)
  | .start settings => some (.info, Logger.startText settings)
  | .finish statistics => some (.info, Logger.endText elapsed statistics)
  | .instruction pc opcode => some (.debug, Logger.traceText pc opcode)
  | .keyWait register pc => some (.warning, Logger.keyWaitText register pc)
  | .fault reason => some (.error, Logger.faultText reason)
  | .picture p on off => some (.info, p.text on off)

def newLevel? : LogCall → Option Level
  | .setLevel given => Level.ofName? given
  | _ => none

def levelAfter (first : Level) (calls : List (Float × LogCall)) : Level :=
  (calls.filterMap fun timed => timed.2.newLevel?).getLast?.getD first

theorem level_after_cons (first : Level) (timed : Float × LogCall) (later : List (Float × LogCall)) :
    levelAfter first (timed :: later) = levelAfter (timed.2.newLevel?.getD first) later := by
  unfold levelAfter
  cases changed : timed.2.newLevel? with
  | none => rw [List.filterMap_cons, changed, Option.getD_none]
  | some level => rw [List.filterMap_cons, changed, List.getLast?_cons, Option.getD_some, Option.getD_some]

end LogCall

namespace Logger

theorem unbroken_stamp (log : Logger) (now : Float) : Text.Unbroken (log.stamp now).toList := by
  unfold stamp
  split
  · rw [Text.unbroken_string_append, Text.unbroken_string_append]
    exact ⟨⟨by decide, Text.unbroken_flush_right 8 _ (Text.unbroken_fixed 2 _)⟩, by decide⟩
  · exact Text.unbroken_nil

theorem unbroken_tag (log : Logger) (level : Level) : Text.Unbroken (log.tag level).toList := by
  unfold tag
  cases log.colors <;> cases level <;> decide

theorem unbroken_head (log : Logger) (now : Float) (level : Level) (plain : Text.Unbroken log.name.toList) :
    Text.Unbroken (log.head now level).toList := by
  rw [head, Text.unbroken_string_append, Text.unbroken_string_append, Text.unbroken_string_append,
    Text.unbroken_string_append]
  exact ⟨⟨⟨⟨log.unbroken_stamp now, log.unbroken_tag level⟩, by decide⟩, plain⟩, by decide⟩

def written (log : Logger) (now : Float) : Option (Level × String) → List String
  | none => []
  | some (level, text) => log.write now level text

-- The lines with which a message reaches its reader: none below the threshold; else each line of its text
-- behind the head, or the head alone if the text is empty.
def Prints (log : Logger) (threshold : Level) (now : Float) : Option (Level × String) → List String → Prop
  | none, out => out = []
  | some (level, text), out =>
      (level.rank < threshold.rank → out = []) ∧
        (threshold.rank ≤ level.rank → ∃ pieces, Text.FallsInto text.toList pieces ∧
          out = (if pieces = [] then [[]] else pieces).map fun piece =>
            log.head now level ++ " " ++ String.ofList piece)

theorem written_prints (log : Logger) (now : Float) (content : Option (Level × String)) :
    log.Prints log.threshold now content (log.written now content) := by
  rcases content with _ | ⟨level, text⟩
  · rfl
  · constructor
    · intro below
      exact if_neg (Nat.not_le.mpr below)
    · intro enabled
      have shown : log.Enabled level := enabled
      refine ⟨Text.splitLines text.toList, (Text.falls_into_iff _ _).mpr rfl, ?_⟩
      rw [written, write, if_pos shown, Text.printed_lines_eq, List.map_map]
      rfl

theorem written_head (log : Logger) (now : Float) (content : Option (Level × String)) (line : String)
    (member : line ∈ log.written now content) :
    ∃ level piece, Text.Unbroken piece ∧ line.toList = (log.head now level ++ " ").toList ++ piece := by
  rcases content with _ | ⟨level, text⟩
  · cases member
  · rw [written, write, Text.printed_lines_eq] at member
    split at member
    next =>
      obtain ⟨_, inner, rfl⟩ := List.mem_map.mp member
      obtain ⟨piece, found, rfl⟩ := List.mem_map.mp inner
      refine ⟨level, piece, ?_, by rw [String.toList_append, String.toList_ofList]⟩
      split at found
      next => rw [List.mem_singleton.mp found]; exact Text.unbroken_nil
      next => exact Text.split_lines_clean text.toList piece found
    next => cases member

theorem perform_lines (log : Logger) (now : Float) (call : LogCall) :
    (log.perform now call).2 = log.written now (call.content (log.elapsed now)) := by
  cases call with
  | setLevel given =>
      rw [perform]
      cases log.setThreshold given <;> rfl
  | named level text =>
      rw [perform, writeNamed, levelOf, LogCall.content]
      cases Level.ofName? level <;> rfl
  | titled level title lines =>
      rw [perform, writeNamed, levelOf, LogCall.content]
      cases Level.ofName? level <;> rfl
  | _ => rfl

theorem perform_logger (log : Logger) (now : Float) (call : LogCall) :
    ∃ traced, (log.perform now call).1 =
      { log with threshold := call.newLevel?.getD log.threshold, traced := traced } := by
  cases call with
  | setLevel given =>
      refine ⟨log.traced, ?_⟩
      rw [perform, setThreshold, threshold?, LogCall.newLevel?]
      cases Level.ofName? given <;> rfl
  | named level text =>
      refine ⟨log.traced, ?_⟩
      rw [perform]
      cases log.writeNamed now level text <;> rfl
  | titled level title lines =>
      refine ⟨log.traced, ?_⟩
      rw [perform]
      cases log.writeNamed now level (framed title lines) <;> rfl
  | instruction pc opcode => exact ⟨log.traced + 1, rfl⟩
  | _ => exact ⟨log.traced, rfl⟩

theorem record_lines (log : Logger) (calls : List (Float × LogCall)) (i : Nat) (now : Float) (call : LogCall)
    (found : calls[i]? = some (now, call)) :
    (log.record calls)[i]? = some
      ({ log with threshold := LogCall.levelAfter log.threshold (calls.take i) }.written now
        (call.content (log.elapsed now))) := by
  induction calls generalizing log i with
  | nil => cases found
  | cons first later ih =>
      cases i with
      | zero =>
          obtain rfl : first = (now, call) := Option.some.inj found
          exact congrArg some (log.perform_lines now call)
      | succ i =>
          obtain ⟨traced, next⟩ := log.perform_logger first.1 first.2
          have rest := ih (log.perform first.1 first.2).1 i found
          rw [next] at rest
          rw [record, List.getElem?_cons_succ, next, rest, List.take_succ_cons, LogCall.level_after_cons]
          rfl

theorem record_head (log : Logger) (calls : List (Float × LogCall)) (line : String)
    (member : line ∈ (log.record calls).flatten) :
    ∃ now level piece, Text.Unbroken piece ∧ line.toList = (log.head now level ++ " ").toList ++ piece := by
  induction calls generalizing log with
  | nil => cases member
  | cons first later ih =>
      rw [record, List.flatten_cons, List.mem_append] at member
      rcases member with printed | member
      · rw [log.perform_lines first.1 first.2] at printed
        exact ⟨first.1, log.written_head first.1 _ line printed⟩
      · obtain ⟨traced, next⟩ := log.perform_logger first.1 first.2
        have rest := ih (log.perform first.1 first.2).1 member
        rw [next] at rest
        exact rest

theorem length_record (log : Logger) (calls : List (Float × LogCall)) : (log.record calls).length = calls.length := by
  induction calls generalizing log with
  | nil => rfl
  | cons first later ih => exact congrArg (· + 1) (ih (log.perform first.1 first.2).1)

theorem output_exact (log : Logger) (plain : Text.Unbroken log.name.toList) (calls : List (Float × LogCall)) :
    (log.record calls).length = calls.length ∧
      (∀ i now call, calls[i]? = some (now, call) → ∃ out, (log.record calls)[i]? = some out ∧
        log.Prints (LogCall.levelAfter log.threshold (calls.take i)) now (call.content (log.elapsed now)) out) ∧
      (∀ line ∈ (log.record calls).flatten, Text.Unbroken line.toList) ∧
      Text.splitLines (printed (log.record calls).flatten).toList = (log.record calls).flatten.map String.toList ∧
      ∀ physical ∈ Text.splitLines (printed (log.record calls).flatten).toList,
        ∃ now level, (log.head now level ++ " ").toList <+: physical := by
  have whole : ∀ line ∈ (log.record calls).flatten, Text.Unbroken line.toList := by
    intro line member
    obtain ⟨now, level, piece, inner, parts⟩ := log.record_head calls line member
    rw [parts, Text.unbroken_append, Text.unbroken_string_append]
    exact ⟨⟨log.unbroken_head now level plain, by decide⟩, inner⟩
  have physical := Text.split_printed (log.record calls).flatten whole
  refine ⟨log.length_record calls, ?_, whole, physical, ?_⟩
  · intro i now call found
    exact ⟨_, log.record_lines calls i now call found, written_prints _ now _⟩
  · intro line member
    rw [physical] at member
    obtain ⟨shown, inRecord, rfl⟩ := List.mem_map.mp member
    obtain ⟨now, level, piece, _, parts⟩ := log.record_head calls shown inRecord
    exact ⟨now, level, parts ▸ List.prefix_append _ piece⟩

theorem output_after_failed_change :
    Text.Unbroken "host".toList ∧
      Text.splitLines (printed (Logger.record ⟨"host", .info, false, false, 0, 0⟩
        [(0, .setLevel "warning"), (0, .plain .info "kept back"), (0, .start [("rom", .text "kept back")]),
          (0, .setLevel "loud"), (0, .named "Error" "a\r\nb\u2028[  ERROR][host] c"), (0, .plain .warning ""),
          (0, .titled "error" "one\u0085two" ["x"]), (0, .fault "lost\x0cpage"), (0, .setLevel "debug"),
          (0, .instruction 0x200 0x5127), (0, .picture ⟨2, 1, fun x _ => x == 0⟩ "#" "\r")]).flatten).toList =
        ["[  ERROR][host] a", "[  ERROR][host] b", "[  ERROR][host] [  ERROR][host] c", "[WARNING][host] ",
          "[  ERROR][host] ============================================================",
          "[  ERROR][host] one", "[  ERROR][host] two", "[  ERROR][host] x",
          "[  ERROR][host] ============================================================",
          "[  ERROR][host] Machine fault: lost", "[  ERROR][host] page", "[  DEBUG][host] 0200: 5127  SE V1, V2",
          "[   INFO][host] Display 2x1:", "[   INFO][host] #"].map String.toList :=
  ⟨by decide, (output_exact _ (by decide) _).2.2.2.1.trans (congrArg (List.map String.toList) (by decide +kernel))⟩

end Logger
end Chip8

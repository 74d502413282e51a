import Chip8.Log.Entry

set_option autoImplicit false

namespace Chip8

namespace Text

def Unbroken (text : List Char) : Prop := ∀ c ∈ text, isLineEnd c = false

-- Not left to the search, which may find the instance that tries all characters there are.
instance (text : List Char) : Decidable (Unbroken text) :=
  List.decidableBAll (fun c => isLineEnd c = false) text

theorem unbroken_nil : Unbroken [] := nofun

theorem unbroken_cons (c : Char) (text : List Char) : Unbroken (c :: text) ↔ isLineEnd c = false ∧ Unbroken text :=
  List.forall_mem_cons

theorem unbroken_append (a b : List Char) : Unbroken (a ++ b) ↔ Unbroken a ∧ Unbroken b :=
  List.forall_mem_append

theorem unbroken_replicate (count : Nat) (c : Char) (inner : isLineEnd c = false) :
    Unbroken (List.replicate count c) := by
  intro d member
  rw [List.eq_of_mem_replicate member, inner]

def EndsLine (ending rest : List Char) : Prop :=
  ending = ['\r', '\n'] ∨ ∃ c, ending = [c] ∧ isLineEnd c = true ∧ ¬ (c = '\r' ∧ rest.head? = some '\n')

-- The text falls into these lines when it is cut behind each end of a line. What stands behind the last one
-- is a line only if it is not empty.
inductive FallsInto : List Char → List (List Char) → Prop
  | nothing : FallsInto [] []
  | last {line} : line ≠ [] → Unbroken line → FallsInto line [line]
  | cut {line ending rest lines} : Unbroken line → EndsLine ending rest → FallsInto rest lines →
      FallsInto (line ++ (ending ++ rest)) (line :: lines)

theorem falls_into_cons (c : Char) (text : List Char) (lines : List (List Char)) (inner : isLineEnd c = false)
    (falls : FallsInto text lines) : FallsInto (c :: text) (consLine c lines) := by
  cases falls with
  | nothing => exact .last (List.cons_ne_nil c []) ((unbroken_cons c []).mpr ⟨inner, unbroken_nil⟩)
  | last _ whole => exact .last (List.cons_ne_nil c _) ((unbroken_cons c _).mpr ⟨inner, whole⟩)
  | @cut line ending rest lines whole ends later =>
      have longer : Unbroken (c :: line) := (unbroken_cons c line).mpr ⟨inner, whole⟩
      exact .cut longer ends later

theorem falls_into_split (text : List Char) : FallsInto text (splitLines text) := by
  fun_induction splitLines text with
  | case1 => exact .nothing
  | case2 rest ih => exact .cut unbroken_nil (.inl rfl) ih
  | case3 c rest notPair ends ih =>
      refine .cut unbroken_nil (.inr ⟨c, rfl, ends, ?_⟩) ih
      rintro ⟨rfl, first⟩
      obtain ⟨later, rfl⟩ := List.head?_eq_some_iff.mp first
      exact notPair later rfl rfl
  | case4 c rest _ inner ih => exact falls_into_cons c rest _ (Bool.not_eq_true _ ▸ inner) ih

theorem split_inner (c : Char) (rest : List Char) (inner : isLineEnd c = false) :
    splitLines (c :: rest) = consLine c (splitLines rest) := by
  have noReturn : c ≠ '\r' := by
    rintro rfl
    cases inner
  rw [splitLines.eq_3 _ _ fun _ returned _ => noReturn returned, if_neg (by simp [inner])]

theorem split_ending (ending rest : List Char) (ends : EndsLine ending rest) :
    splitLines (ending ++ rest) = [] :: splitLines rest := by
  rcases ends with rfl | ⟨c, rfl, isEnd, alone⟩
  · rfl
  · have notPair : ∀ later, c = '\r' → rest = '\n' :: later → False := by
      rintro later rfl rfl
      exact alone ⟨rfl, rfl⟩
    rw [List.singleton_append, splitLines.eq_3 _ _ notPair, if_pos isEnd]

theorem split_unbroken (line text : List Char) (first : List Char) (later : List (List Char)) (whole : Unbroken line)
    (split : splitLines text = first :: later) : splitLines (line ++ text) = (line ++ first) :: later := by
  induction line with
  | nil => exact split
  | cons c line ih =>
      obtain ⟨inner, rest⟩ := (unbroken_cons c line).mp whole
      rw [List.cons_append, split_inner c _ inner, ih rest]
      rfl

theorem split_whole (line : List Char) (filled : line ≠ []) (whole : Unbroken line) : splitLines line = [line] := by
  induction line with
  | nil => exact absurd rfl filled
  | cons c line ih =>
      obtain ⟨inner, rest⟩ := (unbroken_cons c line).mp whole
      rw [split_inner c line inner]
      by_cases empty : line = []
      · subst empty
        rfl
      · rw [ih empty rest]
        rfl

theorem split_of_falls_into (text : List Char) (lines : List (List Char)) (falls : FallsInto text lines) :
    splitLines text = lines := by
  induction falls with
  | nothing => rfl
  | @last line filled whole => exact split_whole line filled whole
  | @cut line ending rest lines whole ends _ ih =>
      have split := split_ending ending rest ends
      rw [split_unbroken line _ [] _ whole split, List.append_nil, ih]

theorem falls_into_iff (text : List Char) (lines : List (List Char)) :
    FallsInto text lines ↔ splitLines text = lines := by
  constructor
  · exact split_of_falls_into text lines
  · rintro rfl
    exact falls_into_split text

example : splitLines "a\r\nb\u2028\nc\n".toList = ["a".toList, "b".toList, [], "c".toList] := by
  decide

theorem printed_lines_eq (text : String) :
    printedLines text =
      (if splitLines text.toList = [] then [[]] else splitLines text.toList).map String.ofList := by
  unfold printedLines
  split
  next empty => rw [if_pos empty]; rfl
  next lines filled => rw [if_neg filled]

theorem printed_lines_unbroken (text : String) (whole : Unbroken text.toList) : printedLines text = [text] := by
  by_cases empty : text.toList = []
  · rw [String.toList_eq_nil_iff.mp empty]
    rfl
  · rw [printed_lines_eq, split_whole text.toList empty whole, if_neg (List.cons_ne_nil _ _), List.map_singleton,
      String.ofList_toList]

theorem split_printed (lines : List String) (whole : ∀ line ∈ lines, Unbroken line.toList) :
    splitLines (printed lines).toList = lines.map String.toList := by
  rw [printed, String.toList_join, List.flatMap_map]
  induction lines with
  | nil => rfl
  | cons line lines ih =>
      obtain ⟨first, later⟩ := List.forall_mem_cons.mp whole
      have newline : EndsLine "\n".toList (lines.flatMap fun line => (line ++ "\n").toList) :=
        .inr ⟨'\n', rfl, by decide, fun returned => absurd returned.1 (by decide)⟩
      rw [List.flatMap_cons, String.toList_append, List.append_assoc,
        split_unbroken line.toList _ [] _ first (split_ending _ _ newline), List.append_nil, ih later, List.map_cons]

theorem mem_to_digits (base n : Nat) (c : Char) (many : 1 < base) (member : c ∈ Nat.toDigits base n) :
    ∃ d < base, c = Nat.digitChar d := by
  induction n using Nat.strongRecOn with
  | _ n ih =>
      rw [Nat.toDigits_eq_if many] at member
      split at member
      next small => exact ⟨n, small, List.mem_singleton.mp member⟩
      next large =>
        rcases List.mem_append.mp member with high | low
        · exact ih (n / base) (Nat.div_lt_self (by omega) many) high
        · exact ⟨n % base, Nat.mod_lt n (by omega), List.mem_singleton.mp low⟩

theorem unbroken_decimal (n : Nat) : Unbroken (Nat.toDigits 10 n) := by
  have inner : ∀ value < 10, isLineEnd (Nat.digitChar value) = false := by decide
  intro c member
  obtain ⟨value, small, rfl⟩ := mem_to_digits 10 n c (by decide) member
  exact inner value small

theorem unbroken_string_append (a b : String) :
    Unbroken (a ++ b).toList ↔ Unbroken a.toList ∧ Unbroken b.toList := by
  rw [String.toList_append, unbroken_append]

theorem unbroken_flush_right (width : Nat) (text : String) (whole : Unbroken text.toList) :
    Unbroken (flushRight width text).toList := by
  rw [flushRight, unbroken_string_append, String.toList_ofList]
  exact ⟨unbroken_replicate _ ' ' (by decide), whole⟩

theorem unbroken_pointed (places n : Nat) : Unbroken (Decimal.pointed places n).toList := by
  have whole : Unbroken (toString (n / Nat.pow 10 places)).toList := by
    rw [Nat.toString_eq_repr, Nat.toList_repr]
    exact unbroken_decimal _
  rw [Decimal.pointed, unbroken_string_append, unbroken_string_append]
  refine ⟨⟨whole, by decide⟩, ?_⟩
  rw [String.toList_ofList, unbroken_append]
  exact ⟨unbroken_replicate _ '0' (by decide), unbroken_decimal _⟩

theorem unbroken_sign (negative : Bool) : Unbroken (Decimal.Double.sign negative).toList := by
  cases negative <;> decide

theorem unbroken_fixed (places : Nat) (x : Float) : Unbroken (Decimal.fixed places x).toList := by
  rw [Decimal.fixed]
  cases Decimal.Double.ofFloat x with
  | nan => exact (by decide : Unbroken "nan".toList)
  | infinite negative => exact (unbroken_string_append _ _).mpr ⟨unbroken_sign negative, by decide⟩
  | finite negative magnitude =>
      exact (unbroken_string_append _ _).mpr ⟨unbroken_sign negative, unbroken_pointed _ _⟩

theorem unbroken_hex_digits (n : Nat) : Unbroken (Hex.digits n) := by
  have inner : ∀ value < 16, isLineEnd (Nat.digitChar value).toUpper = false := by decide
  intro c member
  obtain ⟨d, digit, rfl⟩ := List.mem_map.mp member
  obtain ⟨value, small, rfl⟩ := mem_to_digits 16 n d (by decide) digit
  exact inner value small

theorem unbroken_hex_padded (width : Nat) (n : Int) : Unbroken (Hex.padded width n).toList := by
  rw [Hex.padded, String.toList_ofList, unbroken_append, unbroken_append]
  refine ⟨⟨?_, unbroken_replicate _ '0' (by decide)⟩, unbroken_hex_digits n.natAbs⟩
  split <;> decide

theorem unbroken_hex_fixed (width n : Nat) : Unbroken (Hex.fixed width n) := by
  have inner : ∀ d, isLineEnd (Hex.digit d) = false := by decide
  induction width generalizing n with
  | zero => exact unbroken_nil
  | succ width ih =>
      rw [Hex.fixed, unbroken_append, unbroken_cons]
      exact ⟨ih (n / 16), inner _, unbroken_nil⟩

end Text

namespace Mnemonic

theorem unbroken_reg (x : Reg) : Text.Unbroken (reg x) :=
  (Text.unbroken_cons _ _).mpr ⟨by decide, Text.unbroken_hex_fixed 1 x.val⟩

theorem unbroken_const (kk : UInt8) : Text.Unbroken (const kk) :=
  (Text.unbroken_cons _ _).mpr ⟨by decide, Text.unbroken_hex_fixed 2 kk.toNat⟩

theorem unbroken_address (a : Word) : Text.Unbroken (address a) :=
  (Text.unbroken_cons _ _).mpr ⟨by decide, Text.unbroken_hex_fixed 3 a.toNat⟩

theorem unbroken_combination (op : Combination) : Text.Unbroken (combination op) := by
  cases op <;> decide

theorem unbroken_shift (op : Shift) : Text.Unbroken (shift op) := by
  cases op <;> decide

theorem unbroken_condition (c : Condition) : Text.Unbroken (condition c) := by
  cases c <;> simp only [condition.eq_def, Text.unbroken_append, unbroken_reg, unbroken_const, and_true] <;> decide

theorem unbroken_chars (i : Instruction) : Text.Unbroken (chars i) := by
  cases i <;> simp only [chars.eq_def, Text.unbroken_append, Text.unbroken_cons, unbroken_condition,
    unbroken_combination, unbroken_shift, unbroken_reg, unbroken_const, unbroken_address, Text.unbroken_hex_fixed,
    and_true] <;> decide

theorem unbroken_mnemonic (w : Word) : Text.Unbroken w.mnemonic.toList := by
  rw [Word.mnemonic, Instruction.mnemonic, String.toList_ofList]
  exact unbroken_chars _

end Mnemonic

end Chip8

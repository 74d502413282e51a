import Chip8.Proofs.Frames

set_option autoImplicit false

namespace Chip8

inductive StackCall
  | push (address : Int)
  | pop

def StackCall.history {σ α : Type} (call? : σ → StackCall → Option (α × σ)) (start : σ) :
    List StackCall → Option (List α × σ)
  | [] => some ([], start)
  | call :: later =>
      match call? start call with
      | none => none
      | some (answer, next) => (history call? next later).map fun rest => (answer :: rest.1, rest.2)

structure BoundedList (capacity : Nat) where
  values : List Nat
  fits : values.length ≤ capacity
  narrow : ∀ value ∈ values, value < 0x10000

namespace BoundedList

variable {capacity : Nat}

def empty (capacity : Nat) : BoundedList capacity := ⟨[], Nat.zero_le capacity, by simp⟩

def push (l : BoundedList capacity) (address : Int) (room : l.values.length < capacity) : BoundedList capacity where
  values := l.values ++ [(address % 0x10000).toNat]
  fits := by
    rw [List.length_append, List.length_singleton]
    exact room
  narrow := by
    intro value member
    rcases List.mem_append.mp member with older | newest
    · exact l.narrow value older
    · rw [List.mem_singleton.mp newest]
      omega

def pop (l : BoundedList capacity) (held : l.values ≠ []) : Nat × BoundedList capacity where
  fst := l.values.getLast held
  snd :=
    { values := l.values.dropLast
      fits := Nat.le_trans l.values.dropLast_sublist.length_le l.fits
      narrow := fun value member => l.narrow value (List.dropLast_subset l.values member) }

def call? (l : BoundedList capacity) : StackCall → Option (Option Nat × BoundedList capacity)
  | .push address => if room : l.values.length < capacity then some (none, l.push address room) else none
  | .pop => if held : l.values ≠ [] then some (some (l.pop held).1, (l.pop held).2) else none

end BoundedList

theorem Word.to_nat_low (n : Int) : (low n).toNat = (n % 0x10000).toNat := by
  rw [low, UInt16.ofInt, UInt16.toNat_ofNat']
  omega

namespace Stack

variable {capacity : Nat}

def call? (s : Stack) : StackCall → Option (Option Word × Stack)
  | .push address => if s.isFull then none else some (none, s.push (Word.low address))
  | .pop => if s.isEmpty then none else some (some s.pop.1, s.pop.2)

def Represents (s : Stack) (l : BoundedList capacity) : Prop :=
  s.capacity = capacity ∧ ∃ frames, s.Holds frames ∧ frames.map UInt16.toNat = l.values

def Agrees {α β : Type} (number : α → β) (used : α × Stack) (kept : β × BoundedList capacity) : Prop :=
  number used.1 = kept.1 ∧ used.2.Represents kept.2

theorem push_represents (s : Stack) (l : BoundedList capacity) (represents : s.Represents l) (address : Int)
    (free : s.isFull = false) (room : l.values.length < capacity) :
    (s.push (Word.low address)).Represents (l.push address room) := by
  obtain ⟨size, frames, holds, values⟩ := represents
  refine ⟨by rw [capacity_push, size], frames ++ [Word.low address], holds_push s frames _ holds free, ?_⟩
  rw [List.map_append, values, List.map_singleton, Word.to_nat_low]
  rfl

theorem pop_represents (s : Stack) (l : BoundedList capacity) (represents : s.Represents l)
    (held : l.values ≠ []) : s.pop.1.toNat = (l.pop held).1 ∧ s.pop.2.Represents (l.pop held).2 := by
  obtain ⟨size, frames, holds, values⟩ := represents
  have numbers : frames.map UInt16.toNat ≠ [] := by rwa [values]
  have stacked : frames ≠ [] := fun bare => numbers (by rw [bare, List.map_nil])
  rw [← List.dropLast_concat_getLast stacked] at holds
  obtain ⟨newest, older⟩ := holds_pop s frames.dropLast (frames.getLast stacked) holds
  refine ⟨?_, by rw [capacity_pop, size], frames.dropLast, older, ?_⟩
  · rw [newest, ← List.getLast_map numbers]
    simp only [values, BoundedList.pop]
  · rw [List.map_dropLast, values]
    rfl

theorem is_full_iff_length (s : Stack) (l : BoundedList capacity) (represents : s.Represents l) :
    s.isFull = true ↔ l.values.length = capacity := by
  obtain ⟨size, frames, holds, values⟩ := represents
  rw [is_full_iff s frames holds, ← values, List.length_map, size]

theorem is_empty_iff_length (s : Stack) (l : BoundedList capacity) (represents : s.Represents l) :
    s.isEmpty = true ↔ l.values.length = 0 := by
  obtain ⟨_, frames, holds, values⟩ := represents
  rw [is_empty_iff s frames holds, ← values, List.length_map, List.length_eq_zero_iff]

theorem call_agrees (s : Stack) (l : BoundedList capacity) (represents : s.Represents l) (call : StackCall) :
    Option.Rel (Agrees (Option.map UInt16.toNat)) (s.call? call) (l.call? call) := by
  cases call with
  | push address =>
      cases full : s.isFull with
      | true =>
          have filled : ¬ l.values.length < capacity := by
            rw [(is_full_iff_length s l represents).mp full]
            exact Nat.lt_irrefl capacity
          rw [call?, BoundedList.call?, full, if_pos rfl, dif_neg filled]
          exact .none
      | false =>
          have room : l.values.length < capacity := by
            apply Nat.lt_of_le_of_ne l.fits
            intro filled
            rw [(is_full_iff_length s l represents).mpr filled] at full
            cases full
          rw [call?, BoundedList.call?, full, if_neg Bool.false_ne_true, dif_pos room]
          exact .some ⟨rfl, push_represents s l represents address full room⟩
  | pop =>
      have empty_iff := is_empty_iff_length s l represents
      rw [List.length_eq_zero_iff] at empty_iff
      cases empty : s.isEmpty with
      | true =>
          have bare : ¬ l.values ≠ [] := not_not_intro (empty_iff.mp empty)
          rw [call?, BoundedList.call?, empty, if_pos rfl, dif_neg bare]
          exact .none
      | false =>
          have held : l.values ≠ [] := fun bare => by
            rw [empty_iff.mpr bare] at empty
            cases empty
          obtain ⟨newest, older⟩ := pop_represents s l represents held
          rw [call?, BoundedList.call?, empty, if_neg Bool.false_ne_true, dif_pos held]
          exact .some ⟨congrArg some newest, older⟩

theorem history_agrees (s : Stack) (l : BoundedList capacity) (represents : s.Represents l)
    (calls : List StackCall) :
    Option.Rel (Agrees (List.map (Option.map UInt16.toNat)))
      (StackCall.history call? s calls) (StackCall.history BoundedList.call? l calls) := by
  induction calls generalizing s l with
  | nil => exact .some ⟨rfl, represents⟩
  | cons call later ih =>
      have first := call_agrees s l represents call
      rw [StackCall.history, StackCall.history]
      generalize s.call? call = used at first
      generalize l.call? call = kept at first
      cases first with
      | none => exact .none
      | @some used kept agrees =>
          have rest := ih used.2 kept.2 agrees.2
          dsimp only
          generalize StackCall.history call? used.2 later = usedLater at rest
          generalize StackCall.history BoundedList.call? kept.2 later = keptLater at rest
          cases rest with
          | none => exact .none
          | some agreesLater =>
              refine .some ⟨?_, agreesLater.2⟩
              rw [List.map_cons, agrees.1, agreesLater.1]

-- A pop undoes a push: the slot that it clears held zero before.
theorem pop_push (s : Stack) (frames : List Word) (a : Word) (holds : s.Holds frames) (free : s.isFull = false) :
    (s.push a).pop = (a, s) := by
  obtain ⟨newest, older⟩ := holds_pop (s.push a) frames a (holds_push s frames a holds free)
  have same : (s.push a).pop.2 = s :=
    holds_unique _ _ frames older holds (by rw [capacity_pop, capacity_push])
  exact Prod.ext newest same

structure Shows (s : Stack) (l : BoundedList capacity) : Prop where
  size : s.slots.size = capacity
  pointer : s.pointer.toInt = l.values.length
  live : ∀ slot (inside : slot < s.slots.size), slot < s.pointer.toInt →
    l.values[slot]? = some s.slots[slot].toNat
  free : ∀ slot (inside : slot < s.slots.size), s.pointer.toInt ≤ slot → s.slots[slot] = 0
  empty : s.isEmpty = true ↔ l.values.length = 0
  full : s.isFull = true ↔ l.values.length = capacity

theorem shows_of_represents (s : Stack) (l : BoundedList capacity) (represents : s.Represents l) : s.Shows l := by
  have empty := is_empty_iff_length s l represents
  have full := is_full_iff_length s l represents
  obtain ⟨size, frames, holds, values⟩ := represents
  have pointer := holds.pointer
  have live : ∀ slot (inside : slot < s.slots.size), slot < s.pointer.toInt →
      l.values[slot]? = some s.slots[slot].toNat := by
    intro slot inside below
    have same := slot_of_holds s frames holds slot (by omega)
    rw [← values, List.getElem?_map, ← same, Array.getElem?_eq_getElem inside]
    rfl
  refine ⟨size, ?_, live, fun slot inside free => ?_, empty, full⟩
  · rw [pointer, ← values, List.length_map]
  · exact free_slot_of_holds s frames holds slot inside (by omega)

theorem refines_bounded_list (capacity : Int32) (positive : 1 ≤ capacity.toInt) (calls : List StackCall) :
    Option.Rel
      (fun (used : List (Option Word) × Stack) (kept : List (Option Nat) × BoundedList capacity.toInt.toNat) =>
        used.1.map (Option.map UInt16.toNat) = kept.1 ∧ used.2.Shows kept.2 ∧
          (used.2.isFull = false → ∀ address : Int,
            (used.2.push (Word.low address)).pop.1.toNat = (address % 0x10000).toNat ∧
              (used.2.push (Word.low address)).pop.2 = used.2))
      (StackCall.history call? (zeroed capacity) calls)
      (StackCall.history BoundedList.call? (BoundedList.empty capacity.toInt.toNat) calls) := by
  have size : (zeroed capacity).capacity = capacity.toInt.toNat := Array.size_replicate
  have start : (zeroed capacity).Represents (BoundedList.empty capacity.toInt.toNat) :=
    ⟨size, [], holds_zeroed capacity (by omega), rfl⟩
  have agrees := history_agrees _ _ start calls
  generalize StackCall.history call? (zeroed capacity) calls = used at agrees
  generalize StackCall.history BoundedList.call? (BoundedList.empty capacity.toInt.toNat) calls = kept at agrees
  cases agrees with
  | none => exact .none
  | some agrees =>
      obtain ⟨answers, represents⟩ := agrees
      refine .some ⟨answers, shows_of_represents _ _ represents, ?_⟩
      intro free address
      obtain ⟨_, frames, holds, _⟩ := represents
      rw [pop_push _ frames _ holds free]
      exact ⟨Word.to_nat_low address, rfl⟩

theorem two_slots_refine_list :
    let calls : List StackCall := [.push 0x12345, .push (-1), .pop]
    let s : Stack := ⟨#[0x2345, 0], 1⟩
    let l : BoundedList 2 := ⟨[0x2345], by decide, by decide⟩
    1 ≤ (2 : Int32).toInt ∧
      StackCall.history call? (zeroed 2) calls = some ([none, none, some 0xFFFF], s) ∧
      StackCall.history BoundedList.call? (BoundedList.empty 2) calls = some ([none, none, some 0xFFFF], l) ∧
      s.Shows l ∧ s.isFull = false ∧
      (s.push (Word.low 0x20005)).pop.1.toNat = 5 ∧ (s.push (Word.low 0x20005)).pop.2 = s := by
  intro calls s l
  have refines := refines_bounded_list 2 (by decide) calls
  have used : StackCall.history call? (zeroed 2) calls = some ([none, none, some 0xFFFF], s) := rfl
  have kept : StackCall.history BoundedList.call? (BoundedList.empty 2) calls =
      some ([none, none, some 0xFFFF], l) := rfl
  cases refines with
  | some agrees =>
      obtain ⟨_, shows, undone⟩ := agrees
      exact ⟨by decide, used, kept, shows, rfl, undone rfl 0x20005⟩

end Stack

end Chip8

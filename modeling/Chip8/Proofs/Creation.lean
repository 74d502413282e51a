import Chip8.Proofs.Listing

set_option autoImplicit false

namespace Chip8

namespace Image

def values : Image → List Int
  | .raw bytes => bytes.map fun byte => (byte.toNat : Int)
  | .numbers nested => nested.flatten

def AllBytes (values : List Int) : Prop := ∀ v ∈ values, 0 ≤ v ∧ v < 256

instance (values : List Int) : Decidable (AllBytes values) := by
  unfold AllBytes
  infer_instance

theorem byte_of_int (byte : UInt8) : UInt8.ofInt byte.toNat = byte := by
  have bound := byte.toNat_lt
  rw [← UInt8.toNat_inj, UInt8.ofInt, UInt8.toNat_ofNat']
  omega

theorem bytes_of_values (image : Image) (regular : image.Regular) : image.bytes = ofInts image.values := by
  cases image with
  | numbers nested => exact if_pos regular
  | raw bytes =>
      refine ((of_ints_eq_ok_iff _ bytes).mpr ⟨?_, ?_⟩).symm
      · intro v member
        obtain ⟨byte, _, rfl⟩ := List.mem_map.mp member
        have bound := byte.toNat_lt
        omega
      · simp [values, Function.comp_def, byte_of_int]

theorem bytes_eq_ok_iff (image : Image) (bs : List UInt8) :
    image.bytes = .ok bs ↔ image.Regular ∧ AllBytes image.values ∧ bs = image.values.map UInt8.ofInt := by
  by_cases regular : image.Regular
  · rw [bytes_of_values image regular, of_ints_eq_ok_iff]
    exact (and_iff_right regular).symm
  · have refused : image.bytes = .error .irregular := by
      cases image with
      | numbers nested => exact if_neg regular
      | raw bytes => exact absurd trivial regular
    rw [refused]
    exact ⟨nofun, fun accepted => absurd accepted.1 regular⟩

example : Image.bytes (.numbers (Nat.repeat (fun inner => .many [inner]) 64 (.one 7))) = .ok [7] ∧
    Image.bytes (.numbers (Nat.repeat (fun inner => .many [inner]) 65 (.one 7))) = .error .irregular := by
  constructor <;> rfl

theorem of_ints_of_fits (values : List Int) (fits : ∀ v ∈ values, FitsSigned 64 v) :
    ofInts values = if AllBytes values then .ok (values.map UInt8.ofInt) else .error .noByte :=
  if_pos fits

end Image

structure Requirement where
  holds : Prop
  error : CreateError

namespace Requirement

def FirstFailing : List Requirement → CreateError → Prop
  | [], _ => False
  | r :: rest, e => ¬ r.holds ∧ r.error = e ∨ r.holds ∧ FirstFailing rest e

theorem all_or_first_failing (rs : List Requirement) : (∀ r ∈ rs, r.holds) ∨ ∃ e, FirstFailing rs e := by
  induction rs with
  | nil => exact .inl (by simp)
  | cons first rest ih =>
      by_cases holds : first.holds
      · rcases ih with all | ⟨e, fails⟩
        · exact .inl (List.forall_mem_cons.mpr ⟨holds, all⟩)
        · exact .inr ⟨e, .inr ⟨holds, fails⟩⟩
      · exact .inr ⟨first.error, .inl ⟨holds, rfl⟩⟩

end Requirement

namespace Machine

open Requirement (FirstFailing)

def requirements (c : Config) (values : List Int) : List Requirement :=
  [⟨c.memorySize ≤ 0x10000, .memoryTooLarge c.memorySize⟩,
   ⟨0 < c.width, .emptyDisplay c.width c.height⟩,
   ⟨0 < c.height, .emptyDisplay c.width c.height⟩,
   ⟨0 < c.capacity, .emptyStack c.capacity⟩,
   ⟨Image.AllBytes values, .badImage .noByte⟩,
   ⟨0x200 + values.length ≤ c.memorySize, .programTooLarge values.length (max (c.memorySize - 0x200) 0)⟩]

def LaidOut (memory : Memory) (size : Int) (values : List Int) : Prop :=
  (memory.size : Int) = size ∧ ∀ a < memory.size,
    ((memory.read a).toNat : Int) =
      if a < 80 then (((font[a]?).getD 0).toNat : Int)
      else if 0x200 ≤ a ∧ a < 0x200 + values.length then (values[a - 0x200]?).getD 0
      else 0

theorem create_of_values (c : Config) (image other : Image) (random : WordPair) (regular : image.Regular)
    (otherRegular : other.Regular) (same : other.values = image.values) :
    create c other random = create c image random := by
  unfold create
  rw [Image.bytes_of_values image regular, Image.bytes_of_values other otherRegular, same]

theorem create_of_first_failing (c : Config) (image : Image) (random : WordPair) (regular : image.Regular)
    (fits : ∀ v ∈ image.values, FitsSigned 64 v) (e : CreateError)
    (fails : FirstFailing (requirements c image.values) e) : create c image random = .error e := by
  have limit : maxMemorySize = 0x10000 := rfl
  have start : programStart = 0x200 := rfl
  have read : image.bytes = _ := (Image.bytes_of_values image regular).trans (Image.of_ints_of_fits _ fits)
  simp only [requirements, FirstFailing, and_false, or_false] at fails
  unfold create
  obtain ⟨large, rfl⟩ | ⟨size, fails⟩ := fails
  · rw [if_pos (by omega)]
  rw [if_neg (by omega)]
  obtain ⟨narrow, rfl⟩ | ⟨width, ⟨flat, rfl⟩ | ⟨height, fails⟩⟩ := fails
  · rw [if_pos (.inl (by omega))]
  · rw [if_pos (.inr (by omega))]
  rw [if_neg (by omega)]
  obtain ⟨empty, rfl⟩ | ⟨capacity, fails⟩ := fails
  · rw [if_pos (by omega)]
  rw [if_neg (by omega), read]
  obtain ⟨wide, rfl⟩ | ⟨bytes, long, rfl⟩ := fails
  · rw [if_neg wide]
  · rw [if_pos bytes]
    dsimp only
    rw [List.length_map, if_pos (by omega), start]
    rfl

theorem create_of_requirements (c : Config) (image : Image) (random : WordPair) (regular : image.Regular)
    (allocatable : c.Allocatable) (met : ∀ r ∈ requirements c image.values, r.holds) :
    create c image random = .ok (fresh c (image.values.map UInt8.ofInt) random) := by
  simp only [requirements, List.forall_mem_cons] at met
  obtain ⟨size, width, height, capacity, bytes, fits, _⟩ := met
  have read : image.bytes = .ok (image.values.map UInt8.ofInt) :=
    (Image.bytes_eq_ok_iff image _).mpr ⟨regular, bytes, rfl⟩
  refine (create_eq_ok_iff c image random _).mpr ⟨size, width, height, capacity, _, read, ?_, allocatable, rfl⟩
  rw [List.length_map, programStart]
  omega

theorem laid_out_loaded (size : Int) (values : List Int) (bytes : Image.AllBytes values)
    (fits : 0x200 + values.length ≤ size) :
    LaidOut (loaded size.toNat (values.map UInt8.ofInt)) size values := by
  constructor
  · rw [size_loaded]
    omega
  · intro a inside
    rw [size_loaded] at inside
    have start : programStart = 0x200 := rfl
    have letters : font.length = 80 := rfl
    rw [read_loaded _ _ a inside, start, letters, List.length_map, List.getElem?_map]
    by_cases lettered : a < 80
    · have before : ¬ (0x200 ≤ a ∧ a < 0x200 + values.length) := by omega
      rw [if_neg before, if_pos lettered, if_pos lettered]
    · rw [if_neg lettered, if_neg lettered]
      split
      · rename_i covered
        have within : a - 0x200 < values.length := by omega
        have range := bytes _ (List.getElem_mem within)
        rw [List.getElem?_eq_getElem within]
        simp [UInt8.ofInt]
        omega
      · rfl

end Machine

end Chip8

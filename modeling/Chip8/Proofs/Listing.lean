import Chip8.Machine.Step
import Chip8.Proofs.Mnemonic

set_option autoImplicit false

namespace Chip8

namespace Word

def toBytes (w : Word) : List UInt8 := [(w >>> 8).toUInt8, w.toUInt8]

theorem of_bytes_to_nat (high low : UInt8) : (ofBytes high low).toNat = high.toNat * 256 + low.toNat := by
  have shifted : (high.toUInt16 <<< 8).toNat = high.toNat <<< 8 := by
    have fits : high.toNat <<< 8 < 65536 := by
      have bound := high.toNat_lt
      rw [Nat.shiftLeft_eq]
      omega
    rw [UInt16.toNat_shiftLeft, UInt8.toNat_toUInt16]
    exact Nat.mod_eq_of_lt fits
  rw [ofBytes, UInt16.toNat_or, shifted, UInt8.toNat_toUInt16,
    ← Nat.shiftLeft_add_eq_or_of_lt low.toNat_lt, Nat.shiftLeft_eq]

theorem to_bytes_of_bytes (high low : UInt8) : (ofBytes high low).toBytes = [high, low] := by
  have number := of_bytes_to_nat high low
  have lowBound := low.toNat_lt
  have highBound := high.toNat_lt
  have top : ((ofBytes high low) >>> 8).toUInt8 = high := by
    rw [← UInt8.toNat_inj, UInt16.toNat_toUInt8, UInt16.toNat_shiftRight, number]
    change ((high.toNat * 256 + low.toNat) >>> 8) % 256 = high.toNat
    rw [Nat.shiftRight_eq_div_pow]
    omega
  have bottom : (ofBytes high low).toUInt8 = low := by
    rw [← UInt8.toNat_inj, UInt16.toNat_toUInt8, number]
    omega
  rw [toBytes, top, bottom]

end Word

namespace Listing

theorem length_of_image (origin : Int) (program : List UInt8) :
    (ofImage origin program).length = (program.length + 1) / 2 := by
  induction origin, program using ofImage.induct with
  | case1 origin => rfl
  | case2 origin high => simp [ofImage]
  | case3 origin high low rest ih =>
      simp only [ofImage, List.length_cons, ih]
      omega

theorem get_of_image (origin : Int) (program : List UInt8) (i : Nat) :
    (ofImage origin program)[i]? = (program[2 * i]?).map fun high =>
      row (origin + 2 * i) (Word.ofBytes high ((program[2 * i + 1]?).getD 0)) := by
  induction origin, program using ofImage.induct generalizing i with
  | case1 origin => simp [ofImage]
  | case2 origin high => cases i <;> simp [ofImage, Nat.mul_succ]
  | case3 origin high low rest ih =>
      cases i with
      | zero => simp [ofImage]
      | succ i =>
          have place : origin + 2 + 2 * (i : Int) = origin + 2 * ((i + 1 : Nat) : Int) := by omega
          rw [ofImage, List.getElem?_cons_succ, ih, place]
          rfl

theorem bytes_of_image (origin : Int) (program : List UInt8) :
    (ofImage origin program).flatMap (fun row => row.word.toBytes) =
      program ++ List.replicate (program.length % 2) 0 := by
  induction origin, program using ofImage.induct with
  | case1 origin => rfl
  | case2 origin high => simp [ofImage, row, Word.to_bytes_of_bytes]
  | case3 origin high low rest ih =>
      have parity : (high :: low :: rest).length % 2 = rest.length % 2 := Nat.add_mod_right rest.length 2
      rw [ofImage, List.flatMap_cons, ih, row, Word.to_bytes_of_bytes, parity]
      rfl

end Listing

namespace Machine

theorem read_loaded (size : Nat) (program : List UInt8) (a : Nat) (inside : a < size) :
    (loaded size program).read a =
      if programStart ≤ a ∧ a < programStart + program.length then (program[a - programStart]?).getD 0
      else if a < font.length then (font[a]?).getD 0 else 0 := by
  have held := get_loaded size program a inside
  rw [Memory.get_eq_read _ a (by rw [size_loaded]; exact inside)] at held
  have read := congrArg (fun byte : Option UInt8 => byte.getD 0) held
  simpa only [apply_ite (fun byte : Option UInt8 => byte.getD 0), Option.getD_some] using read

theorem read_loaded_program (size : Nat) (program : List UInt8) (k : Nat) (inside : programStart + k < size) :
    (loaded size program).read (programStart + k) = (program[k]?).getD 0 := by
  have pastFont : ¬ programStart + k < font.length := by
    have small : font.length ≤ programStart := by decide
    omega
  rw [read_loaded size program _ inside, if_neg pastFont, Nat.add_sub_cancel_left]
  split
  · rfl
  · rename_i uncovered
    have beyond : program.length ≤ k := by omega
    rw [List.getElem?_eq_none beyond, Option.getD_none]

theorem fetch_loaded (c : Config) (program : List UInt8) (random : WordPair) (i : Nat) (high : UInt8)
    (first : program[2 * i]? = some high) (pc : Word) (address : pc.toNat = programStart + 2 * i)
    (inside : programStart + 2 * i + 1 < c.memorySize.toNat) :
    { fresh c program random with pc := pc }.fetch = Word.ofBytes high ((program[2 * i + 1]?).getD 0) := by
  have highByte := read_loaded_program c.memorySize.toNat program (2 * i) (by omega)
  have lowByte := read_loaded_program c.memorySize.toNat program (2 * i + 1) inside
  rw [first, Option.getD_some] at highByte
  change Word.ofBytes ((loaded c.memorySize.toNat program).read pc.toNat)
    ((loaded c.memorySize.toNat program).read (pc.toNat + 1)) = _
  rw [address, highByte, Nat.add_assoc, lowByte]

end Machine

def Opcode.Names (o : Opcode) (text : String) : Prop := ∃ w, Opcode.ofWord w = o ∧ w.mnemonic = text

theorem Opcode.names_mnemonic_iff (o : Opcode) (w : Word) : o.Names w.mnemonic ↔ o = Opcode.ofWord w := by
  constructor
  · rintro ⟨v, rfl, same⟩
    exact Word.opcode_of_instruction v w (Mnemonic.instruction_of_text v w same)
  · rintro rfl
    exact ⟨w, rfl, rfl⟩

namespace Listing

def Matches (row : Listing) (m : Machine) : Prop :=
  let atRow := { m with pc := Word.low row.address }
  atRow.pc.toNat = row.address ∧ atRow.CanFetch ∧ atRow.fetch = row.word ∧
    atRow.instruction.mnemonic = row.text ∧ ∀ o : Opcode, o.Names row.text ↔ o = atRow.instruction.opcode

theorem row_matches (c : Config) (program : List UInt8) (random : WordPair) (i : Nat) (high : UInt8)
    (fits : c.memorySize ≤ maxMemorySize) (first : program[2 * i]? = some high)
    (inside : programStart + 2 * (i : Int) + 1 < c.memorySize) :
    (row (programStart + 2 * i) (Word.ofBytes high ((program[2 * i + 1]?).getD 0))).Matches
      (Machine.fresh c program random) := by
  have limit : maxMemorySize = 0x10000 := rfl
  have start : programStart = 0x200 := rfl
  have address : (Word.low (programStart + 2 * (i : Int))).toNat = programStart + 2 * i := by
    rw [Word.low, UInt16.ofInt, UInt16.toNat_ofNat']
    omega
  have fetched := Machine.fetch_loaded c program random i high first _ address (by omega)
  refine ⟨?_, ?_, fetched, ?_, ?_⟩
  · change ((Word.low (programStart + 2 * (i : Int))).toNat : Int) = programStart + 2 * i
    omega
  · change (Word.low (programStart + 2 * (i : Int))).toNat + 1 < (Machine.loaded c.memorySize.toNat program).size
    rw [Machine.size_loaded]
    omega
  · rw [Machine.instruction]
    exact congrArg Word.mnemonic fetched
  · intro o
    rw [Machine.instruction, Instruction.opcode_of_word]
    exact (Opcode.names_mnemonic_iff o _).trans (by rw [← fetched]; rfl)

theorem listing_matches_machine (c : Config) (image : Image) (random : WordPair) (made : Machine)
    (created : Machine.create c image random = .ok made) :
    ∃ program, image.bytes = .ok program ∧
      let rows := ofImage programStart program
      rows.length = (program.length + 1) / 2 ∧
        rows.flatMap (fun row => row.word.toBytes) = program ++ List.replicate (program.length % 2) 0 ∧
        ∀ (i : Nat) (row : Listing), rows[i]? = some row →
          row.address = 0x200 + 2 * i ∧ row.text = row.word.mnemonic ∧
            (row.address + 1 < c.memorySize → row.Matches made) := by
  obtain ⟨size, _, _, _, program, read, _, _, rfl⟩ := (Machine.create_eq_ok_iff c image random made).mp created
  refine ⟨program, read, length_of_image programStart program, bytes_of_image programStart program, ?_⟩
  intro i listed at_i
  rw [get_of_image] at at_i
  obtain ⟨high, first, rfl⟩ := Option.map_eq_some_iff.mp at_i
  exact ⟨rfl, rfl, row_matches c program random i high size first⟩

theorem odd_image_matches_machine :
    let c : Config := ⟨0x204, 1, 1, some 1, .clip⟩
    let made := Machine.fresh c [0xA2, 0x1E, 0xC1] ⟨0, 0⟩
    let last : Listing := ⟨0x202, 0xC100, "RND V1, #00"⟩
    Machine.create c (.raw [0xA2, 0x1E, 0xC1]) ⟨0, 0⟩ = .ok made ∧
      ofImage programStart [0xA2, 0x1E, 0xC1] = [⟨0x200, 0xA21E, "LD I, $21E"⟩, last] ∧
      last.address + 1 < c.memorySize ∧ last.Matches made := by
  intro c made last
  have listed : ofImage programStart [0xA2, 0x1E, 0xC1] = [⟨0x200, 0xA21E, "LD I, $21E"⟩, last] := by
    decide +kernel
  obtain ⟨_, ⟨⟩, _, _, rows⟩ := listing_matches_machine c (.raw [0xA2, 0x1E, 0xC1]) ⟨0, 0⟩ made rfl
  have second := rows 1 last (by rw [listed]; rfl)
  exact ⟨rfl, listed, by decide, second.2.2 (by decide)⟩

end Listing

end Chip8

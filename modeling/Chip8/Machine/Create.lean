import Chip8.Image
import Chip8.Machine.Basic

set_option autoImplicit false

namespace Chip8

def font : List UInt8 :=
  [0xF0, 0x90, 0x90, 0x90, 0xF0,
   0x20, 0x60, 0x20, 0x20, 0x70,
   0xF0, 0x10, 0xF0, 0x80, 0xF0,
   0xF0, 0x10, 0xF0, 0x10, 0xF0,
   0x90, 0x90, 0xF0, 0x10, 0x10,
   0xF0, 0x80, 0xF0, 0x10, 0xF0,
   0xF0, 0x80, 0xF0, 0x90, 0xF0,
   0xF0, 0x10, 0x20, 0x40, 0x40,
   0xF0, 0x90, 0xF0, 0x90, 0xF0,
   0xF0, 0x90, 0xF0, 0x10, 0xF0,
   0xF0, 0x90, 0xF0, 0x90, 0x90,
   0xE0, 0x90, 0xE0, 0x90, 0xE0,
   0xF0, 0x80, 0x80, 0x80, 0xF0,
   0xE0, 0x90, 0x90, 0x90, 0xE0,
   0xF0, 0x80, 0xF0, 0x80, 0xF0,
   0xF0, 0x80, 0xF0, 0x80, 0x80]

def glyphSize : Nat := 5

def programStart : Nat := 0x200

def maxMemorySize : Nat := 0x10000

structure Config where
  memorySize : Int := 4096
  width : Int := 64
  height : Int := 32
  stackSize : Option Int := none
  edges : Edges := .clip
deriving DecidableEq

def Config.capacity (c : Config) : Int := c.stackSize.getD (c.memorySize.fdiv 2)

-- The display and the stack are arrays whose lengths are signed 32-bit numbers.
def Config.Allocatable (c : Config) : Prop :=
  FitsSigned 32 c.width ∧ FitsSigned 32 c.height ∧ FitsSigned 32 c.capacity

instance (c : Config) : Decidable c.Allocatable := by
  unfold Config.Allocatable
  infer_instance

inductive CreateError
  | memoryTooLarge (size : Int)
  | emptyDisplay (width height : Int)
  | emptyStack (size : Int)
  | badImage (cause : ImageError)
  | programTooLarge (size capacity : Int)
  | unallocatable
deriving DecidableEq

def CreateError.message : CreateError → String
  | .memoryTooLarge size => "memory_size must be at most 0x10000, got " ++ toString size
  | .emptyDisplay width height =>
      "framebuffer dimensions must be positive, got " ++ toString width ++ "x" ++ toString height
  | .emptyStack size => "stack_size must be positive, got " ++ toString size
  | .badImage cause => cause.message
  | .programTooLarge size capacity =>
      "program of " ++ toString size ++ " bytes does not fit in the " ++ toString capacity ++
        " bytes available after 0x200"
  | .unallocatable => "the display or the stack is too large"

namespace Machine

def loaded (size : Nat) (program : List UInt8) : Memory :=
  ((Memory.zeroed size).overlay 0 font).overlay programStart program

def fresh (c : Config) (program : List UInt8) (random : WordPair) : Machine where
  memory := loaded c.memorySize.toNat program
  registers := Vector.replicate 16 0
  index := 0
  pc := 0x200
  stack := Stack.zeroed (Int32.ofInt c.capacity)
  display := Display.blank c.width.toNat c.height.toNat
  edges := c.edges
  delay := 0
  sound := 0
  keypad := Vector.replicate 16 false
  waiting := false
  waitRegister := 0
  lastKey := -1
  redraw := false
  fault := 0
  random := random

def create (c : Config) (image : Image) (random : WordPair) : Except CreateError Machine :=
  if (maxMemorySize : Int) < c.memorySize then .error (.memoryTooLarge c.memorySize)
  else if c.width ≤ 0 ∨ c.height ≤ 0 then .error (.emptyDisplay c.width c.height)
  else if c.capacity ≤ 0 then .error (.emptyStack c.capacity)
  else match image.bytes with
    | .error cause => .error (.badImage cause)
    | .ok program =>
      if c.memorySize < (programStart + program.length : Nat) then
        .error (.programTooLarge program.length (max (c.memorySize - programStart) 0))
      else if c.Allocatable then .ok (fresh c program random)
      else .error .unallocatable

theorem create_eq_ok_iff (c : Config) (image : Image) (random : WordPair) (m : Machine) :
    create c image random = .ok m ↔
      c.memorySize ≤ maxMemorySize ∧ 0 < c.width ∧ 0 < c.height ∧ 0 < c.capacity ∧
        ∃ program, image.bytes = .ok program ∧ (programStart + program.length : Nat) ≤ c.memorySize ∧
          c.Allocatable ∧ m = fresh c program random := by
  unfold create
  constructor
  · intro created
    split at created
    · cases created
    · split at created
      · cases created
      · split at created
        · cases created
        · split at created
          · cases created
          · rename_i program read
            split at created
            · cases created
            · split at created
              · rename_i allocatable
                cases created
                exact ⟨by omega, by omega, by omega, by omega, program, read, by omega, allocatable, rfl⟩
              · cases created
  · rintro ⟨size, width, height, capacity, program, read, fits, allocatable, rfl⟩
    rw [if_neg (by omega), if_neg (by omega), if_neg (by omega), read]
    dsimp only
    rw [if_neg (by omega), if_pos allocatable]

theorem size_loaded (size : Nat) (program : List UInt8) : (loaded size program).size = size := by
  simp [loaded, Memory.size_overlay, Memory.zeroed]

theorem get_loaded (size : Nat) (program : List UInt8) (a : Nat) (h : a < size) :
    (loaded size program)[a]? =
      if programStart ≤ a ∧ a < programStart + program.length then program[a - programStart]?
      else if a < font.length then font[a]? else some 0 := by
  have zeros : (Memory.zeroed size).size = size := by simp [Memory.zeroed]
  have lettered : ((Memory.zeroed size).overlay 0 font).size = size := by
    rw [Memory.size_overlay, zeros]
  rw [loaded, Memory.get_overlay _ _ _ _ (by rw [lettered]; exact h),
    Memory.get_overlay _ _ _ _ (by rw [zeros]; exact h)]
  simp [Memory.zeroed, h]

end Machine

end Chip8

import Chip8.Instruction
import Chip8.Text.Hex

set_option autoImplicit false

namespace Chip8

namespace Mnemonic

def reg (x : Reg) : List Char := 'V' :: Text.Hex.fixed 1 x.val

def const (kk : UInt8) : List Char := '#' :: Text.Hex.fixed 2 kk.toNat

def address (a : Word) : List Char := '$' :: Text.Hex.fixed 3 a.toNat

def comma : List Char := [',', ' ']

def combination : Combination → List Char
  | .copy => "LD ".toList
  | .or => "OR ".toList
  | .and => "AND ".toList
  | .xor => "XOR ".toList
  | .add => "ADD ".toList
  | .sub => "SUB ".toList
  | .subFrom => "SUBN ".toList

def shift : Shift → List Char
  | .right => "SHR ".toList
  | .left => "SHL ".toList

def condition : Condition → List Char
  | .eqConst x kk => "SE ".toList ++ reg x ++ comma ++ const kk
  | .neConst x kk => "SNE ".toList ++ reg x ++ comma ++ const kk
  | .eqReg x y => "SE ".toList ++ reg x ++ comma ++ reg y
  | .neReg x y => "SNE ".toList ++ reg x ++ comma ++ reg y
  | .key x => "SKP ".toList ++ reg x
  | .noKey x => "SKNP ".toList ++ reg x

def chars : Instruction → List Char
  | .unknown w => "UNKNOWN $".toList ++ Text.Hex.fixed 4 w.toNat
  | .clear => "CLS".toList
  | .ret => "RET".toList
  | .system a => "SYS ".toList ++ address a
  | .jump a => "JP ".toList ++ address a
  | .call a => "CALL ".toList ++ address a
  | .skip c => condition c
  | .setConst x kk => "LD ".toList ++ reg x ++ comma ++ const kk
  | .addConst x kk => "ADD ".toList ++ reg x ++ comma ++ const kk
  | .combine op x y => combination op ++ reg x ++ comma ++ reg y
  | .shift op x => shift op ++ reg x
  | .setIndex a => "LD I, ".toList ++ address a
  | .jumpOffset a => "JP V0, ".toList ++ address a
  | .random x kk => "RND ".toList ++ reg x ++ comma ++ const kk
  | .draw x y n => "DRW ".toList ++ reg x ++ comma ++ reg y ++ comma ++ '#' :: Text.Hex.fixed 1 n.val
  | .readDelay x => "LD ".toList ++ reg x ++ ", DT".toList
  | .awaitKey x => "LD ".toList ++ reg x ++ ", K".toList
  | .setDelay x => "LD DT, ".toList ++ reg x
  | .setSound x => "LD ST, ".toList ++ reg x
  | .addIndex x => "ADD I, ".toList ++ reg x
  | .glyph x => "LD F, ".toList ++ reg x
  | .digits x => "LD B, ".toList ++ reg x
  | .store x => "LD [I], ".toList ++ reg x
  | .load x => "LD ".toList ++ reg x ++ ", [I]".toList

end Mnemonic

def Instruction.mnemonic (i : Instruction) : String := String.ofList (Mnemonic.chars i)

def Word.mnemonic (w : Word) : String := (Instruction.ofWord w).mnemonic

structure Listing where
  address : Int
  word : Word
  text : String
deriving DecidableEq

namespace Listing

def row (address : Int) (word : Word) : Listing := ⟨address, word, word.mnemonic⟩

def ofImage (origin : Int) : List UInt8 → List Listing
  | [] => []
  | [high] => [row origin (Word.ofBytes high 0)]
  | high :: low :: rest => row origin (Word.ofBytes high low) :: ofImage (origin + 2) rest

end Listing

end Chip8

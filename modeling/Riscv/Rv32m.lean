import Riscv.Common
import Riscv.Lib.Checked

/- RV32M: decoder and executor of the multiply-divide instructions
   (`riscv_rv32m.hpp`). The signed product of MULH and the quotients and remainders
   are checked operations, so a case C++ leaves undefined has no value. The other
   products are unsigned in the source and wrap: MULHSU mixes an `int64_t` with a
   `uint64_t`, which makes it unsigned too. -/
namespace Riscv.Rv32m

/-- Low and high products, quotients and remainders. -/
inductive InstrType where
  | mul | mulh | mulhsu | mulhu | div | divu | rem | remu
  | illegal
  deriving DecidableEq, Repr

/-- The fields of the format, with those the decoder has checked. -/
structure DecodedInstr where
  type : InstrType
  rd : BitVec 8
  rs1 : BitVec 8
  rs2 : BitVec 8
  funct3 : BitVec 8
  funct7 : BitVec 8
  raw : Word
  deriving DecidableEq, Repr

/-- The value written to `rd`, or the error. -/
structure ExecResult where
  result : Word := 0
  valid : Bool := true
  error : String := ""
  deriving DecidableEq, Repr

namespace Opcode
/-- OP, shared with RV32I and the bit manipulation extensions. -/
def op : BitVec 8 := 0b0110011
end Opcode

namespace Funct7
/-- One `funct7` for all eight; `funct3` tells them apart. -/
def muldiv : BitVec 8 := 0b0000001
end Funct7

namespace Funct3
def mul : BitVec 8 := 0b000
def mulh : BitVec 8 := 0b001
def mulhsu : BitVec 8 := 0b010
def mulhu : BitVec 8 := 0b011
def div : BitVec 8 := 0b100
def divu : BitVec 8 := 0b101
def rem : BitVec 8 := 0b110
def remu : BitVec 8 := 0b111
end Funct3

/-! ## Decoder -/

/-- Every `funct3` is an instruction, so the opcode and `funct7` decide alone. -/
def decode (instr : Word) : DecodedInstr :=
  let d : DecodedInstr :=
    { raw := instr
      rd := u8 (bits instr 11 7)
      rs1 := u8 (bits instr 19 15)
      rs2 := u8 (bits instr 24 20)
      funct3 := u8 (bits instr 14 12)
      funct7 := u8 (bits instr 31 25)
      type := .illegal }
  let op := u8 (bits instr 6 0)
  if op ≠ Opcode.op ∨ d.funct7 ≠ Funct7.muldiv then d
  else if d.funct3 = Funct3.mul then { d with type := .mul }
  else if d.funct3 = Funct3.mulh then { d with type := .mulh }
  else if d.funct3 = Funct3.mulhsu then { d with type := .mulhsu }
  else if d.funct3 = Funct3.mulhu then { d with type := .mulhu }
  else if d.funct3 = Funct3.div then { d with type := .div }
  else if d.funct3 = Funct3.divu then { d with type := .divu }
  else if d.funct3 = Funct3.rem then { d with type := .rem }
  else if d.funct3 = Funct3.remu then { d with type := .remu }
  else d

/-- The test the dispatcher makes; it looks at the fields and does not decode. -/
def isMInstruction (instr : Word) : Bool :=
  decide (u8 (bits instr 6 0) = Opcode.op) && decide (u8 (bits instr 31 25) = Funct7.muldiv)

/-! ## Executor -/

/-- The upper half of a 64-bit product, as `static_cast<uint32_t>(product >> 32)`. -/
def highHalf (product : BitVec 64) : Word := (product >>> 32).setWidth 32

/-- The value each operation writes; `none` where the source reports an error and
where an operation it performs is undefined. -/
def compute (type : InstrType) (rs1Val rs2Val : Word) : Option Word :=
  match type with
  | .mul => some (rs1Val * rs2Val)
  | .mulh => (Checked.smul (rs1Val.signExtend 64) (rs2Val.signExtend 64)).map highHalf
  | .mulhsu => some (highHalf (rs1Val.signExtend 64 * rs2Val.setWidth 64))
  | .mulhu => some (highHalf (rs1Val.setWidth 64 * rs2Val.setWidth 64))
  | .div =>
    if rs2Val = 0 then some 0xFFFFFFFF
    else if rs1Val = 0x80000000 ∧ rs2Val = -1 then some 0x80000000
    else Checked.sdiv rs1Val rs2Val
  | .divu => if rs2Val = 0 then some 0xFFFFFFFF else Checked.udiv rs1Val rs2Val
  | .rem =>
    if rs2Val = 0 then some rs1Val
    else if rs1Val = 0x80000000 ∧ rs2Val = -1 then some 0
    else Checked.srem rs1Val rs2Val
  | .remu => if rs2Val = 0 then some rs1Val else Checked.urem rs1Val rs2Val
  | .illegal => none

/-- Reads both operands before it writes, so `rd` may be one of them. -/
def execute (instr : DecodedInstr) (regs : RegFile) : ExecResult × RegFile :=
  if instr.type = .illegal then ({ valid := false, error := "Illegal M instruction" }, regs)
  else
    match compute instr.type (regs.read instr.rs1) (regs.read instr.rs2) with
    | some result => ({ result := result }, regs.write instr.rd result)
    | none => ({ valid := false, error := "Unknown M instruction" }, regs)

/-! ## Mnemonics -/

/-- `name rd, rs1, rs2`. -/
def DecodedInstr.rStr (d : DecodedInstr) (name : String) : String :=
  name ++ " " ++ regAbiName d.rd ++ ", " ++ regAbiName d.rs1 ++ ", " ++ regAbiName d.rs2

def DecodedInstr.mnemonic (d : DecodedInstr) : String :=
  match d.type with
  | .mul => d.rStr "mul"
  | .mulh => d.rStr "mulh"
  | .mulhsu => d.rStr "mulhsu"
  | .mulhu => d.rStr "mulhu"
  | .div => d.rStr "div"
  | .divu => d.rStr "divu"
  | .rem => d.rStr "rem"
  | .remu => d.rStr "remu"
  | .illegal => "ILLEGAL"

end Riscv.Rv32m

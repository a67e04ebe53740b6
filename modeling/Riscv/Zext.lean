import Riscv.Common
import Riscv.Lib.Checked

/- The small extensions: Zifencei, Zba, Zbb, Zbs and Zicond
   (`riscv_zifencei.hpp`, `riscv_zba.hpp`, `riscv_zbb.hpp`, `riscv_zbs.hpp`,
   `riscv_zicond.hpp`). Their decoders are exact: each accepts its own encodings
   on the shared OP, OP-IMM and MISC-MEM opcodes and nothing else. Each executor
   computes one value and writes it to `rd`, so its body is a `compute` function
   that has no value where the source reports an error. The rotations of Zbb shift by
   checked operations: a shift by the width or more is undefined. -/
namespace Riscv

/-! ## Zifencei -/

namespace Zifencei

/-- FENCE.I, or nothing of this extension. -/
inductive InstrType where
  | fenceI
  | illegal
  deriving DecidableEq, Repr

/-- The fields are read whatever the type; FENCE.I uses none of them. -/
structure DecodedInstr where
  type : InstrType
  raw : Word
  rd : BitVec 8
  rs1 : BitVec 8
  imm : BitVec 16
  deriving DecidableEq, Repr

/-- What the executor reports; `fenceExecuted` says that the fence was carried out. -/
structure ExecResult where
  valid : Bool := true
  fenceExecuted : Bool := false
  error : String := ""
  deriving DecidableEq, Repr

namespace Opcode
/-- MISC-MEM, shared with FENCE. -/
def miscMem : BitVec 8 := 0b0001111
end Opcode

namespace Funct3
def fenceI : BitVec 8 := 0b001
end Funct3

/-- Only the opcode and `funct3` are checked: the other fields of FENCE.I are reserved for
later use and ignored. -/
def decode (instr : Word) : DecodedInstr :=
  let d : DecodedInstr :=
    { raw := instr
      type := .illegal
      rd := u8 (bits instr 11 7)
      rs1 := u8 (bits instr 19 15)
      imm := u16 (bits instr 31 20) }
  if u8 (bits instr 6 0) = Opcode.miscMem ∧ u8 (bits instr 14 12) = Funct3.fenceI then
    { d with type := .fenceI }
  else d

/-- The test the dispatcher makes before it decodes. -/
def isZifenceiInstruction (instr : Word) : Bool :=
  decide (u8 (bits instr 6 0) = Opcode.miscMem) &&
    decide (u8 (bits instr 14 12) = Funct3.fenceI)

/-- With no fence callback installed FENCE.I changes nothing. -/
def execute (instr : DecodedInstr) : ExecResult :=
  match instr.type with
  | .fenceI => { fenceExecuted := true }
  | .illegal => { valid := false, error := "Illegal Zifencei instruction" }

/-- FENCE.I has no operands. -/
def DecodedInstr.mnemonic (d : DecodedInstr) : String :=
  match d.type with
  | .fenceI => "fence.i"
  | .illegal => "ILLEGAL"

end Zifencei

/-! ## Zba -/

namespace Zba

/-- Shift the first operand by one, two or three and add the second. -/
inductive InstrType where
  | sh1add | sh2add | sh3add
  | illegal
  deriving DecidableEq, Repr

/-- The three registers, and the word itself for the error of an illegal one. -/
structure DecodedInstr where
  type : InstrType
  rd : BitVec 8
  rs1 : BitVec 8
  rs2 : BitVec 8
  raw : Word
  deriving DecidableEq, Repr

/-- The value written to `rd`, or the error. -/
structure ExecResult where
  valid : Bool := true
  result : Word := 0
  error : String := ""
  deriving DecidableEq, Repr

namespace Opcode
/-- OP, shared with RV32I, M, Zbb, Zbs and Zicond. -/
def op : BitVec 8 := 0b0110011
end Opcode

namespace Funct3
def sh1add : BitVec 8 := 0b010
def sh2add : BitVec 8 := 0b100
def sh3add : BitVec 8 := 0b110
end Funct3

namespace Funct7
/-- One `funct7` for all three; `funct3` tells them apart. -/
def shadd : BitVec 8 := 0b0010000
end Funct7

/-- A word on OP with the `funct7` of Zba but another `funct3` stays illegal. -/
def decode (instr : Word) : DecodedInstr :=
  let d : DecodedInstr :=
    { raw := instr
      type := .illegal
      rd := u8 (bits instr 11 7)
      rs1 := u8 (bits instr 19 15)
      rs2 := u8 (bits instr 24 20) }
  let op := u8 (bits instr 6 0)
  let funct3 := u8 (bits instr 14 12)
  let funct7 := u8 (bits instr 31 25)
  if op = Opcode.op ∧ funct7 = Funct7.shadd then
    if funct3 = Funct3.sh1add then { d with type := .sh1add }
    else if funct3 = Funct3.sh2add then { d with type := .sh2add }
    else if funct3 = Funct3.sh3add then { d with type := .sh3add }
    else d
  else d

/-- The test the dispatcher makes; it looks at the fields and does not decode. -/
def isZbaInstruction (instr : Word) : Bool :=
  let op := u8 (bits instr 6 0)
  let funct3 := u8 (bits instr 14 12)
  let funct7 := u8 (bits instr 31 25)
  if op ≠ Opcode.op ∨ funct7 ≠ Funct7.shadd then false
  else
    decide (funct3 = Funct3.sh1add) || decide (funct3 = Funct3.sh2add) ||
      decide (funct3 = Funct3.sh3add)

/-- The value written: `rs1` times two, four or eight, plus `rs2`. -/
def compute (type : InstrType) (rs1Val rs2Val : Word) : Option Word :=
  match type with
  | .sh1add => some ((rs1Val <<< 1) + rs2Val)
  | .sh2add => some ((rs1Val <<< 2) + rs2Val)
  | .sh3add => some ((rs1Val <<< 3) + rs2Val)
  | .illegal => none

/-- Reads both operands before it writes, so `rd` may be one of them. -/
def execute (instr : DecodedInstr) (regs : RegFile) : ExecResult × RegFile :=
  if instr.type = .illegal then ({ valid := false, error := "Illegal Zba instruction" }, regs)
  else
    match compute instr.type (regs.read instr.rs1) (regs.read instr.rs2) with
    | some result => ({ result := result }, regs.write instr.rd result)
    | none => ({ valid := false, error := "Unknown Zba instruction" }, regs)

/-- `name rd, rs1, rs2`. -/
def DecodedInstr.rStr (d : DecodedInstr) (name : String) : String :=
  name ++ " " ++ regAbiName d.rd ++ ", " ++ regAbiName d.rs1 ++ ", " ++ regAbiName d.rs2

def DecodedInstr.mnemonic (d : DecodedInstr) : String :=
  match d.type with
  | .sh1add => d.rStr "sh1add"
  | .sh2add => d.rStr "sh2add"
  | .sh3add => d.rStr "sh3add"
  | .illegal => "ILLEGAL"

end Zba

/-! ## Zbb -/

namespace Zbb

/-- The eighteen instructions of Zbb in their groups: logic, counts, minima and maxima,
extensions, rotations, bytes. -/
inductive InstrType where
  | andn | orn | xnor
  | clz | ctz | cpop
  | max | maxu | min | minu
  | sextB | sextH | zextH
  | rol | ror | rori
  | orcB | rev8
  | illegal
  deriving DecidableEq, Repr

/-- `rs2` and `shamt` are the same five bits, an operand of OP and an amount of OP-IMM. -/
structure DecodedInstr where
  type : InstrType
  rd : BitVec 8
  rs1 : BitVec 8
  rs2 : BitVec 8
  shamt : BitVec 8
  raw : Word
  deriving DecidableEq, Repr

structure ExecResult where
  valid : Bool := true
  result : Word := 0
  error : String := ""
  deriving DecidableEq, Repr

namespace Opcode
/-- OP: the instructions with two source registers, and ZEXT.H. -/
def op : BitVec 8 := 0b0110011
/-- OP-IMM: the unary ones and RORI. -/
def opImm : BitVec 8 := 0b0010011
end Opcode

namespace Funct7
/-- Also of ORN and XNOR. -/
def andn : BitVec 8 := 0b0100000
/-- Of the four minima and maxima. -/
def minmax : BitVec 8 := 0b0000101
/-- Also of ROR. -/
def rol : BitVec 8 := 0b0110000
/-- The same value on OP-IMM. -/
def rori : BitVec 8 := 0b0110000
end Funct7

namespace Rs2Val
/-- The unary instructions on `funct3` 001 differ in the field of `rs2`. -/
def clz : BitVec 8 := 0b00000
def ctz : BitVec 8 := 0b00001
def cpop : BitVec 8 := 0b00010
def sextB : BitVec 8 := 0b00100
def sextH : BitVec 8 := 0b00101
end Rs2Val

/-- The words of OP, by `funct7` and then `funct3`. -/
def decodeRType (d : DecodedInstr) (funct3 funct7 : BitVec 8) : DecodedInstr :=
  if funct7 = Funct7.andn then
    if funct3 = 0b111 then { d with type := .andn }
    else if funct3 = 0b110 then { d with type := .orn }
    else if funct3 = 0b100 then { d with type := .xnor }
    else d
  else if funct7 = Funct7.minmax then
    if funct3 = 0b100 then { d with type := .min }
    else if funct3 = 0b101 then { d with type := .minu }
    else if funct3 = 0b110 then { d with type := .max }
    else if funct3 = 0b111 then { d with type := .maxu }
    else d
  else if funct7 = Funct7.rol then
    if funct3 = 0b001 then { d with type := .rol }
    else if funct3 = 0b101 then { d with type := .ror }
    else d
  -- ZEXT.H is PACK with rs2 = x0
  else if funct7 = 0b0000100 ∧ funct3 = 0b100 ∧ d.rs2 = 0 then { d with type := .zextH }
  else d

/-- The words of OP-IMM. ORC.B and REV8 are single immediates of `funct3` 101. -/
def decodeIType (d : DecodedInstr) (funct3 funct7 : BitVec 8) (funct12 : BitVec 16) :
    DecodedInstr :=
  if funct3 = 0b001 ∧ funct7 = 0b0110000 then
    if d.rs2 = Rs2Val.clz then { d with type := .clz }
    else if d.rs2 = Rs2Val.ctz then { d with type := .ctz }
    else if d.rs2 = Rs2Val.cpop then { d with type := .cpop }
    else if d.rs2 = Rs2Val.sextB then { d with type := .sextB }
    else if d.rs2 = Rs2Val.sextH then { d with type := .sextH }
    else d
  else if funct3 = 0b101 ∧ funct7 = Funct7.rori then { d with type := .rori }
  else if funct3 = 0b101 ∧ funct12 = 0b001010000111 then { d with type := .orcB }
  else if funct3 = 0b101 ∧ funct12 = 0b011010011000 then { d with type := .rev8 }
  else d

/-- The fields are cut out first; a word on another opcode stays illegal. -/
def decode (instr : Word) : DecodedInstr :=
  let d : DecodedInstr :=
    { raw := instr
      type := .illegal
      rd := u8 (bits instr 11 7)
      rs1 := u8 (bits instr 19 15)
      rs2 := u8 (bits instr 24 20)
      shamt := u8 (bits instr 24 20) }
  let op := u8 (bits instr 6 0)
  let funct3 := u8 (bits instr 14 12)
  let funct7 := u8 (bits instr 31 25)
  let funct12 := u16 (bits instr 31 20)
  if op = Opcode.op then decodeRType d funct3 funct7
  else if op = Opcode.opImm then decodeIType d funct3 funct7 funct12
  else d

/-- The test the dispatcher makes is the decoder's own. -/
def isZbbInstruction (instr : Word) : Bool := decide ((decode instr).type ≠ .illegal)

/-- Leading zeros by binary search from the top: a clear half is shifted out and counted. -/
def clz32 (x : Word) : Word :=
  if x = 0 then 32
  else
    let n : Word := 0
    let (n, x) := if x &&& 0xFFFF0000 = 0 then (n + 16, x <<< 16) else (n, x)
    let (n, x) := if x &&& 0xFF000000 = 0 then (n + 8, x <<< 8) else (n, x)
    let (n, x) := if x &&& 0xF0000000 = 0 then (n + 4, x <<< 4) else (n, x)
    let (n, x) := if x &&& 0xC0000000 = 0 then (n + 2, x <<< 2) else (n, x)
    if x &&& 0x80000000 = 0 then n + 1 else n

/-- Trailing zeros by the same search from the bottom. -/
def ctz32 (x : Word) : Word :=
  if x = 0 then 32
  else
    let n : Word := 0
    let (n, x) := if x &&& 0x0000FFFF = 0 then (n + 16, x >>> 16) else (n, x)
    let (n, x) := if x &&& 0x000000FF = 0 then (n + 8, x >>> 8) else (n, x)
    let (n, x) := if x &&& 0x0000000F = 0 then (n + 4, x >>> 4) else (n, x)
    let (n, x) := if x &&& 0x00000003 = 0 then (n + 2, x >>> 2) else (n, x)
    if x &&& 0x00000001 = 0 then n + 1 else n

/-- Set bits, counted in pairs, nibbles and bytes and then summed within the register. -/
def popcount32 (x : Word) : Word :=
  let x := x - ((x >>> 1) &&& 0x55555555)
  let x := (x &&& 0x33333333) + ((x >>> 2) &&& 0x33333333)
  let x := (x + (x >>> 4)) &&& 0x0F0F0F0F
  let x := x + (x >>> 8)
  let x := x + (x >>> 16)
  x &&& 0x3F

/-- Every byte that is not zero becomes all ones. -/
def orcB (x : Word) : Word :=
  let result : Word := 0
  let result := if x &&& 0x000000FF ≠ 0 then result ||| 0x000000FF else result
  let result := if x &&& 0x0000FF00 ≠ 0 then result ||| 0x0000FF00 else result
  let result := if x &&& 0x00FF0000 ≠ 0 then result ||| 0x00FF0000 else result
  if x &&& 0xFF000000 ≠ 0 then result ||| 0xFF000000 else result

/-- The four bytes in reverse order. -/
def rev8 (x : Word) : Word :=
  ((x &&& 0xFF000000) >>> 24) ||| ((x &&& 0x00FF0000) >>> 8) |||
    ((x &&& 0x0000FF00) <<< 8) ||| ((x &&& 0x000000FF) <<< 24)

/-- The arithmetic of ROL. A zero amount is handled apart: the other branch would shift
by 32, which is undefined. -/
def rotateLeft (x shamt : Word) : Option Word :=
  if shamt = 0 then some x
  else do
    let high ← Checked.shl x shamt
    let low ← Checked.shr x (32 - shamt)
    return high ||| low

/-- The arithmetic of ROR and RORI. -/
def rotateRight (x shamt : Word) : Option Word :=
  if shamt = 0 then some x
  else do
    let low ← Checked.shr x shamt
    let high ← Checked.shl x (32 - shamt)
    return low ||| high

/-- The value each operation writes; `none` where the source reports an error and where it
would shift by the width. The amount of a rotation is its low five bits. -/
def compute (type : InstrType) (rs1Val rs2Val : Word) (shamt : BitVec 8) : Option Word :=
  match type with
  | .andn => some (rs1Val &&& ~~~rs2Val)
  | .orn => some (rs1Val ||| ~~~rs2Val)
  | .xnor => some (~~~(rs1Val ^^^ rs2Val))
  | .clz => some (clz32 rs1Val)
  | .ctz => some (ctz32 rs1Val)
  | .cpop => some (popcount32 rs1Val)
  | .min => some (if rs2Val.slt rs1Val then rs2Val else rs1Val)
  | .max => some (if rs1Val.slt rs2Val then rs2Val else rs1Val)
  | .minu => some (if rs2Val.ult rs1Val then rs2Val else rs1Val)
  | .maxu => some (if rs1Val.ult rs2Val then rs2Val else rs1Val)
  | .sextB => some (signExtend32 (rs1Val &&& 0xFF) 7)
  | .sextH => some (signExtend32 (rs1Val &&& 0xFFFF) 15)
  | .zextH => some (rs1Val &&& 0xFFFF)
  | .rol => rotateLeft rs1Val (rs2Val &&& 0x1F)
  | .ror => rotateRight rs1Val (rs2Val &&& 0x1F)
  | .rori => rotateRight rs1Val (shamt.setWidth 32 &&& 0x1F)
  | .orcB => some (orcB rs1Val)
  | .rev8 => some (rev8 rs1Val)
  | .illegal => none

/-- As in Zba; the amount of RORI comes with the instruction. -/
def execute (instr : DecodedInstr) (regs : RegFile) : ExecResult × RegFile :=
  if instr.type = .illegal then ({ valid := false, error := "Illegal Zbb instruction" }, regs)
  else
    match compute instr.type (regs.read instr.rs1) (regs.read instr.rs2) instr.shamt with
    | some result => ({ result := result }, regs.write instr.rd result)
    | none => ({ valid := false, error := "Unknown Zbb instruction" }, regs)

/-- `name rd, rs1, rs2`. -/
def DecodedInstr.rStr (d : DecodedInstr) (name : String) : String :=
  name ++ " " ++ regAbiName d.rd ++ ", " ++ regAbiName d.rs1 ++ ", " ++ regAbiName d.rs2

/-- `name rd, rs1`. -/
def DecodedInstr.unaryStr (d : DecodedInstr) (name : String) : String :=
  name ++ " " ++ regAbiName d.rd ++ ", " ++ regAbiName d.rs1

/-- RORI shows its amount in decimal. -/
def DecodedInstr.mnemonic (d : DecodedInstr) : String :=
  match d.type with
  | .andn => d.rStr "andn"
  | .orn => d.rStr "orn"
  | .xnor => d.rStr "xnor"
  | .clz => d.unaryStr "clz"
  | .ctz => d.unaryStr "ctz"
  | .cpop => d.unaryStr "cpop"
  | .min => d.rStr "min"
  | .minu => d.rStr "minu"
  | .max => d.rStr "max"
  | .maxu => d.rStr "maxu"
  | .sextB => d.unaryStr "sext.b"
  | .sextH => d.unaryStr "sext.h"
  | .zextH => d.unaryStr "zext.h"
  | .rol => d.rStr "rol"
  | .ror => d.rStr "ror"
  | .rori => d.unaryStr "rori" ++ ", " ++ toString d.shamt.toNat
  | .orcB => d.unaryStr "orc.b"
  | .rev8 => d.unaryStr "rev8"
  | .illegal => "ILLEGAL"

end Zbb

/-! ## Zbs -/

namespace Zbs

/-- Set, clear, invert or extract one bit, at a position of a register or an immediate. -/
inductive InstrType where
  | bset | bseti | bclr | bclri | binv | binvi | bext | bexti
  | illegal
  deriving DecidableEq, Repr

/-- `rs2` and `shamt` are the same five bits. -/
structure DecodedInstr where
  type : InstrType
  rd : BitVec 8
  rs1 : BitVec 8
  rs2 : BitVec 8
  shamt : BitVec 8
  raw : Word
  deriving DecidableEq, Repr

structure ExecResult where
  valid : Bool := true
  result : Word := 0
  error : String := ""
  deriving DecidableEq, Repr

namespace Opcode
/-- OP: the position is in `rs2`. -/
def op : BitVec 8 := 0b0110011
/-- OP-IMM: the position is the amount. -/
def opImm : BitVec 8 := 0b0010011
end Opcode

namespace Funct3
/-- Of the three that change a bit. -/
def bsetBclrBinv : BitVec 8 := 0b001
def bext : BitVec 8 := 0b101
end Funct3

namespace Funct7
def bset : BitVec 8 := 0b0010100
def bclr : BitVec 8 := 0b0100100
def binv : BitVec 8 := 0b0110100
/-- The same value as that of BCLR; `funct3` tells the two apart. -/
def bext : BitVec 8 := 0b0100100
end Funct7

/-- The two opcodes repeat the same cases, each with its own types. -/
def decode (instr : Word) : DecodedInstr :=
  let d : DecodedInstr :=
    { raw := instr
      type := .illegal
      rd := u8 (bits instr 11 7)
      rs1 := u8 (bits instr 19 15)
      rs2 := u8 (bits instr 24 20)
      shamt := u8 (bits instr 24 20) }
  let op := u8 (bits instr 6 0)
  let funct3 := u8 (bits instr 14 12)
  let funct7 := u8 (bits instr 31 25)
  if op = Opcode.op then
    if funct3 = Funct3.bsetBclrBinv then
      if funct7 = Funct7.bset then { d with type := .bset }
      else if funct7 = Funct7.bclr then { d with type := .bclr }
      else if funct7 = Funct7.binv then { d with type := .binv }
      else d
    else if funct3 = Funct3.bext ∧ funct7 = Funct7.bext then { d with type := .bext }
    else d
  else if op = Opcode.opImm then
    if funct3 = Funct3.bsetBclrBinv then
      if funct7 = Funct7.bset then { d with type := .bseti }
      else if funct7 = Funct7.bclr then { d with type := .bclri }
      else if funct7 = Funct7.binv then { d with type := .binvi }
      else d
    else if funct3 = Funct3.bext ∧ funct7 = Funct7.bext then { d with type := .bexti }
    else d
  else d

def isZbsInstruction (instr : Word) : Bool := decide ((decode instr).type ≠ .illegal)

/-- Whether the bit position is read from `rs2` rather than from `shamt`. -/
def usesRs2 : InstrType → Bool
  | .bset | .bclr | .binv | .bext => true
  | _ => false

/-- The value written, at a position below 32; BEXT leaves the bit in position zero. -/
def compute (type : InstrType) (rs1Val bitPos : Word) : Option Word :=
  let bitMask := (1 : Word) <<< bitPos
  match type with
  | .bset | .bseti => some (rs1Val ||| bitMask)
  | .bclr | .bclri => some (rs1Val &&& ~~~bitMask)
  | .binv | .binvi => some (rs1Val ^^^ bitMask)
  | .bext | .bexti => some ((rs1Val >>> bitPos) &&& 1)
  | .illegal => none

/-- The position is five bits of `rs2` or of the amount. -/
def execute (instr : DecodedInstr) (regs : RegFile) : ExecResult × RegFile :=
  if instr.type = .illegal then ({ valid := false, error := "Illegal Zbs instruction" }, regs)
  else
    let bitPos :=
      if usesRs2 instr.type then regs.read instr.rs2 &&& 0x1F
      else instr.shamt.setWidth 32 &&& 0x1F
    match compute instr.type (regs.read instr.rs1) bitPos with
    | some result => ({ result := result }, regs.write instr.rd result)
    | none => ({ valid := false, error := "Unknown Zbs instruction" }, regs)

/-- `name rd, rs1, rs2`. -/
def DecodedInstr.rStr (d : DecodedInstr) (name : String) : String :=
  name ++ " " ++ regAbiName d.rd ++ ", " ++ regAbiName d.rs1 ++ ", " ++ regAbiName d.rs2

/-- `name rd, rs1, shamt`. -/
def DecodedInstr.shamtStr (d : DecodedInstr) (name : String) : String :=
  name ++ " " ++ regAbiName d.rd ++ ", " ++ regAbiName d.rs1 ++ ", " ++ toString d.shamt.toNat

/-- The immediate forms show their amount in decimal. -/
def DecodedInstr.mnemonic (d : DecodedInstr) : String :=
  match d.type with
  | .bset => d.rStr "bset"
  | .bseti => d.shamtStr "bseti"
  | .bclr => d.rStr "bclr"
  | .bclri => d.shamtStr "bclri"
  | .binv => d.rStr "binv"
  | .binvi => d.shamtStr "binvi"
  | .bext => d.rStr "bext"
  | .bexti => d.shamtStr "bexti"
  | .illegal => "ILLEGAL"

end Zbs

/-! ## Zicond -/

namespace Zicond

/-- Zero, or the first operand, as the second is zero or not. -/
inductive InstrType where
  | czeroEqz | czeroNez
  | illegal
  deriving DecidableEq, Repr

structure DecodedInstr where
  type : InstrType
  rd : BitVec 8
  rs1 : BitVec 8
  rs2 : BitVec 8
  raw : Word
  deriving DecidableEq, Repr

structure ExecResult where
  valid : Bool := true
  result : Word := 0
  error : String := ""
  deriving DecidableEq, Repr

namespace Opcode
/-- OP, shared with RV32I, M, Zba, Zbb and Zbs. -/
def op : BitVec 8 := 0b0110011
end Opcode

namespace Funct3
def czeroEqz : BitVec 8 := 0b101
def czeroNez : BitVec 8 := 0b111
end Funct3

namespace Funct7
/-- Of both; `funct3` tells them apart. -/
def czero : BitVec 8 := 0b0000111
end Funct7

/-- A word on OP with the `funct7` of Zicond but another `funct3` stays illegal. -/
def decode (instr : Word) : DecodedInstr :=
  let d : DecodedInstr :=
    { raw := instr
      type := .illegal
      rd := u8 (bits instr 11 7)
      rs1 := u8 (bits instr 19 15)
      rs2 := u8 (bits instr 24 20) }
  let op := u8 (bits instr 6 0)
  let funct3 := u8 (bits instr 14 12)
  let funct7 := u8 (bits instr 31 25)
  if op = Opcode.op ∧ funct7 = Funct7.czero then
    if funct3 = Funct3.czeroEqz then { d with type := .czeroEqz }
    else if funct3 = Funct3.czeroNez then { d with type := .czeroNez }
    else d
  else d

def isZicondInstruction (instr : Word) : Bool :=
  let op := u8 (bits instr 6 0)
  let funct3 := u8 (bits instr 14 12)
  let funct7 := u8 (bits instr 31 25)
  if op ≠ Opcode.op ∨ funct7 ≠ Funct7.czero then false
  else decide (funct3 = Funct3.czeroEqz) || decide (funct3 = Funct3.czeroNez)

/-- The value written: the condition is on `rs2`, the value is `rs1`. -/
def compute (type : InstrType) (rs1Val rs2Val : Word) : Option Word :=
  match type with
  | .czeroEqz => some (if rs2Val = 0 then 0 else rs1Val)
  | .czeroNez => some (if rs2Val ≠ 0 then 0 else rs1Val)
  | .illegal => none

def execute (instr : DecodedInstr) (regs : RegFile) : ExecResult × RegFile :=
  if instr.type = .illegal then ({ valid := false, error := "Illegal Zicond instruction" }, regs)
  else
    match compute instr.type (regs.read instr.rs1) (regs.read instr.rs2) with
    | some result => ({ result := result }, regs.write instr.rd result)
    | none => ({ valid := false, error := "Unknown Zicond instruction" }, regs)

/-- `name rd, rs1, rs2`. -/
def DecodedInstr.rStr (d : DecodedInstr) (name : String) : String :=
  name ++ " " ++ regAbiName d.rd ++ ", " ++ regAbiName d.rs1 ++ ", " ++ regAbiName d.rs2

/-- The names have a dot: `czero.eqz`, `czero.nez`. -/
def DecodedInstr.mnemonic (d : DecodedInstr) : String :=
  match d.type with
  | .czeroEqz => d.rStr "czero.eqz"
  | .czeroNez => d.rStr "czero.nez"
  | .illegal => "ILLEGAL"

end Zicond

end Riscv

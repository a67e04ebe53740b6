import Riscv.Common
import Riscv.Lib.Sample

/- The illegal-opcode generator (`riscv_illegal_opgen.hpp`).

   Every class builds one encoding from random fields. A generator is a program that
   draws from a tape: which numbers the engine gives is not modelled, so a statement
   about all tapes is one about every outcome. The order in which C++ draws the
   arguments of one call is unspecified; here they are drawn from left to right. -/
namespace Riscv.IllegalOpgen

open Sample

/-! ## Random numbers -/

namespace RNG

/-- `range(lo, hi)`: both bounds are included. -/
def range (lo hi : Nat) : Gen Word := do
  return BitVec.ofNat 32 (← Gen.uniform lo hi)

def reg : Gen Word := range 0 31

def bits32 : Gen Word := range 0 0xFFFFFFFF

/-- `chance(p)`: how often is not modelled. -/
def chance : Gen Bool := do
  return decide ((← Gen.draw) % 2 = 1)

/-- One element of an array. -/
def choice (arr : List Word) : Gen Word := Gen.choice arr

/-- `do { r = reg(); } while (!good(r))`. -/
def regUntil (good : Word → Bool) : Gen Word := Gen.repeatUntil reg good

end RNG

open RNG

/-! ## Encoding helpers -/

/-- `enc_r`: every field is masked. -/
def encR (f7 rs2 rs1 f3 rd op : Word) : Word :=
  ((f7 &&& 0x7F) <<< 25) ||| ((rs2 &&& 0x1F) <<< 20) ||| ((rs1 &&& 0x1F) <<< 15) |||
    ((f3 &&& 0x7) <<< 12) ||| ((rd &&& 0x1F) <<< 7) ||| (op &&& 0x7F)

/-- `enc_i`: every field is masked. -/
def encI (imm rs1 f3 rd op : Word) : Word :=
  ((imm &&& 0xFFF) <<< 20) ||| ((rs1 &&& 0x1F) <<< 15) |||
    ((f3 &&& 0x7) <<< 12) ||| ((rd &&& 0x1F) <<< 7) ||| (op &&& 0x7F)

/-- The S format, as the two store generators pack it without masks. -/
def encS (imm rs2 rs1 f3 op : Word) : Word :=
  ((imm &&& 0xFE0) <<< 20) ||| (rs2 <<< 20) ||| (rs1 <<< 15) ||| (f3 <<< 12) |||
    ((imm &&& 0x1F) <<< 7) ||| op

/-! ## Canonical patterns and reserved major opcodes -/

def genAllZeros : Gen Word := pure 0x00000000

def genAllOnes : Gen Word := pure 0xFFFFFFFF

/-- custom-0, OP-IMM-32, 48-bit, custom-1, OP-32, 64-bit, reserved, custom-2, 48-bit,
reserved, reserved, custom-3, at least 80-bit. -/
def badOps : List Word :=
  [0b00010, 0b00110, 0b00111, 0b01010, 0b01110, 0b01111, 0b10101, 0b10110, 0b10111, 0b11010,
    0b11101, 0b11110, 0b11111]

/-- Any word whose major opcode no extension has. -/
def genReservedMajorOpcode : Gen Word := do
  let raw ← bits32
  let op ← choice badOps
  return (raw &&& ~~~(0x7F : Word)) ||| (op <<< 2) ||| 0b11

/-! ## The base set -/

/-- The widths RV32 has not. -/
def genBadLoad : Gen Word := do
  let imm ← range 0 0xFFF
  let rs1 ← reg
  let f3 ← choice [0b011, 0b110, 0b111]
  let rd ← reg
  return encI imm rs1 f3 rd 0b0000011

def genBadStore : Gen Word := do
  let imm ← range 0 0xFFF
  let rs2 ← reg
  let rs1 ← reg
  let f3 ← choice [0b011, 0b100, 0b101, 0b110, 0b111]
  return encS imm rs2 rs1 f3 0b0100011

/-- The two conditions that are reserved. -/
def genBadBranch : Gen Word := do
  let f7 ← range 0 0x7F
  let rs2 ← reg
  let rs1 ← reg
  let f3 ← choice [0b010, 0b011]
  let rd ← range 0 0x1F
  return encR f7 rs2 rs1 f3 rd 0b1100011

def genBadJalr : Gen Word := do
  let imm ← range 0 0xFFF
  let rs1 ← reg
  let f3 ← range 1 7
  let rd ← reg
  return encI imm rs1 f3 rd 0b1100111

/-- An OP-IMM word of the given upper twelve bits. -/
def genOpImm (f3 : Word) (imm : Gen Word) : Gen Word := do
  let imm ← imm
  let rs1 ← reg
  let rd ← reg
  return encI imm rs1 f3 rd 0b0010011

/-- `funct7` over a random shift amount. -/
def genShamt (f7 : Gen Word) : Gen Word := do
  let f7 ← f7
  return (f7 <<< 5) ||| (← range 0 31)

/-- `funct7` over an `rs2` that is none of the given. -/
def genRs2Not (f7 : Word) (legal : List Word) : Gen Word := do
  let rs2 ← regUntil fun rs2 => decide (rs2 ∉ legal)
  return (f7 <<< 5) ||| rs2

/-- Three ways to be none of the instructions of `funct3` 001. -/
def genBadSlliSlot : Gen Word := do
  let slot ← range 0 2
  -- shamt[5] = 1
  if slot = 0 then genOpImm 0b001 (genShamt (pure 0b0000001))
  else if slot = 1 then
    genOpImm 0b001 (genShamt (choice [0b0000010, 0b0000011, 0b0000100, 0b0000101, 0b0000110,
      0b0000111, 0b0001000, 0b0100000, 0b1111111]))
  -- the Zbb unary group
  else genOpImm 0b001 (genRs2Not 0b0110000 [0, 1, 2, 4, 5])

/-- Four ways to be none of those of `funct3` 101. -/
def genBadSrliSlot : Gen Word := do
  let slot ← range 0 3
  if slot = 0 then genOpImm 0b101 (genShamt (pure 0b0000001))
  else if slot = 1 then
    genOpImm 0b101 (genShamt (choice [0b0000010, 0b0000011, 0b0001000, 0b0100001, 0b0110001,
      0b1111111]))
  -- ORC.B and REV8
  else if slot = 2 then genOpImm 0b101 (genRs2Not 0b0010100 [7])
  else genOpImm 0b101 (genRs2Not 0b0110100 [24])

/-- The legal `funct3` values of an OP word, as a bit mask. -/
def opLegalFunct3Mask (f7 : Word) : Word :=
  if f7 = 0b0000000 then 0xFF
  else if f7 = 0b0100000 then 0xF1
  else if f7 = 0b0000001 then 0xFF
  else if f7 = 0b0010000 then 0x54
  else if f7 = 0b0000101 then 0xF0
  else if f7 = 0b0110000 then 0x22
  else if f7 = 0b0010100 then 0x02
  else if f7 = 0b0100100 then 0x22
  else if f7 = 0b0110100 then 0x02
  else if f7 = 0b0000111 then 0xA0
  else if f7 = 0b0000100 then 0x10
  else 0x00

/-- Whether some extension decodes the pair on OP. -/
def opLegal (f7 f3 : Word) : Bool :=
  decide ((opLegalFunct3Mask f7 >>> f3.toNat) &&& 1 ≠ 0)

/-- PACK of Zbkb, or a pair that is redrawn until no extension decodes it. -/
def genBadOp : Gen Word := do
  -- PACK, of Zbkb
  if ← chance then
    let rs2 ← regUntil fun rs2 => decide (rs2 ≠ 0)
    let rs1 ← reg
    let rd ← reg
    return encR 0b0000100 rs2 rs1 0b100 rd 0b0110011
  else
    let fields : Gen (Word × Word) := do
      let f7 ← range 0 0x7F
      return (f7, ← range 0 7)
    let (f7, f3) ← Gen.repeatUntil fields fun fields => !opLegal fields.1 fields.2
    let rs2 ← reg
    let rs1 ← reg
    let rd ← reg
    return encR f7 rs2 rs1 f3 rd 0b0110011

def genBadMiscMem : Gen Word := do
  let imm ← range 0 0xFFF
  let rs1 ← reg
  let f3 ← range 2 7
  let rd ← reg
  return encI imm rs1 f3 rd 0b0001111

/-- ECALL, EBREAK, MRET, WFI, SRET and SFENCE.VMA. -/
def systemAssigned (raw : Word) : Bool :=
  decide (raw = 0x00000073 ∨ raw = 0x00100073 ∨ raw = 0x30200073 ∨ raw = 0x10500073 ∨
    raw = 0x10200073 ∨ raw &&& 0xFE007FFF = 0x12000073)

def genBadSystemF30 : Gen Word :=
  let word : Gen Word := do
    let f7 ← range 0 0x7F
    let rs2 ← reg
    let rs1 ← reg
    let rd ← reg
    return encR f7 rs2 rs1 0b000 rd 0b1110011
  Gen.repeatUntil word fun raw => !systemAssigned raw

/-- The `funct3` of the hypervisor. -/
def genBadSystemF34 : Gen Word := do
  let imm ← range 0 0xFFF
  let rs1 ← reg
  let rd ← reg
  return encI imm rs1 0b100 rd 0b1110011

/-- hpmcounter3, mhpmcounter3, mcountinhibit, tselect, dcsr and hstatus. -/
def absentCsrs : List Word := [0xC03, 0xB03, 0x320, 0x7A0, 0x7B0, 0x600]

/-- A CSR instruction on an address no CSR has. -/
def genBadCsrAddr : Gen Word := do
  let addr ← choice absentCsrs
  let rs1 ← reg
  let f3 ← choice [0b001, 0b010, 0b011, 0b101, 0b110, 0b111]
  let rd ← reg
  return encI addr rs1 f3 rd 0b1110011

/-! ## F -/

/-- The rounding modes of the generators, DYN among them. -/
def validRm : List Word := [0, 1, 2, 3, 4, 7]

/-- An OP-FP word of drawn fields. -/
def genOpFp (f7 rs2 f3 : Gen Word) : Gen Word := do
  let f7 ← f7
  let rs2 ← rs2
  let rs1 ← reg
  let f3 ← f3
  let rd ← reg
  return encR f7 rs2 rs1 f3 rd 0b1010011

def regNonzero : Gen Word := regUntil fun rs2 => decide (rs2 ≠ 0)

def genBadFpFunct7 : Gen Word :=
  genOpFp (choice [0b0000001, 0b0001001, 0b0001101, 0b0101101, 0b0010001, 0b1111111]) reg
    (choice validRm)

/-- A reserved mode where the instruction rounds. -/
def genBadFpRm : Gen Word :=
  genOpFp (choice [0b0000000, 0b0001000, 0b0101100, 0b1100000, 0b1101000]) reg (range 5 6)

def genBadFsqrt : Gen Word := genOpFp (pure 0b0101100) regNonzero (choice validRm)

def genBadFcvt : Gen Word :=
  genOpFp (choice [0b1100000, 0b1101000]) (range 2 31) (choice validRm)

def genBadFmvFclass : Gen Word := do
  if ← chance then genOpFp (pure 0b1110000) reg (range 2 7)
  else genOpFp (pure 0b1110000) regNonzero (range 0 1)

def genBadFcmp : Gen Word := genOpFp (pure 0b1010000) reg (range 3 7)

def genBadFminmax : Gen Word := genOpFp (pure 0b0010100) reg (range 2 7)

def genBadFsgnj : Gen Word := genOpFp (pure 0b0010000) reg (range 3 7)

def genBadFmvWx : Gen Word := do
  if ← chance then genOpFp (pure 0b1111000) reg (range 1 7)
  else genOpFp (pure 0b1111000) regNonzero (pure 0b000)

/-- Every `funct3` but 010. -/
def notWord : List Word := [0b000, 0b001, 0b011, 0b100, 0b101, 0b110, 0b111]

def genBadLoadFp : Gen Word := do
  let imm ← range 0 0xFFF
  let rs1 ← reg
  let f3 ← choice notWord
  let rd ← reg
  return encI imm rs1 f3 rd 0b0000111

def genBadStoreFp : Gen Word := do
  let imm ← range 0 0xFFF
  let rs2 ← reg
  let rs1 ← reg
  let f3 ← choice notWord
  return encS imm rs2 rs1 f3 0b0100111

/-- A fused instruction of another format than single. -/
def genBadMaddFmt : Gen Word := do
  let rs3 ← reg
  let fmt ← range 1 3
  let rs2 ← reg
  let rs1 ← reg
  let rm ← choice validRm
  let rd ← reg
  let op ← choice [0b1000011, 0b1000111, 0b1001011, 0b1001111]
  return ((rs3 &&& 0x1F) <<< 27) ||| (fmt <<< 25) ||| ((rs2 &&& 0x1F) <<< 20) |||
    ((rs1 &&& 0x1F) <<< 15) ||| (rm <<< 12) ||| ((rd &&& 0x1F) <<< 7) ||| op

/-! ## A -/

def genBadAmoFunct3 : Gen Word := do
  let f7 ← range 0 0x7F
  let rs2 ← reg
  let rs1 ← reg
  let f3 ← choice notWord
  let rd ← reg
  return encR f7 rs2 rs1 f3 rd 0b0101111

/-- The `funct5` values an atomic has. -/
def amoLegal : List Word :=
  [0b00010, 0b00011, 0b00001, 0b00000, 0b00100, 0b01100, 0b01000, 0b10000, 0b10100, 0b11000,
    0b11100]

def genBadAmoFunct5 : Gen Word := do
  let f5 ← Gen.repeatUntil (range 0 31) fun f5 => decide (f5 ∉ amoLegal)
  let aqrl ← range 0 3
  let rs2 ← reg
  let rs1 ← reg
  let rd ← reg
  return encR ((f5 <<< 2) ||| aqrl) rs2 rs1 0b010 rd 0b0101111

/-- LR with a second source. -/
def genBadLr : Gen Word := do
  let rs2 ← regNonzero
  let aqrl ← range 0 3
  let rs1 ← reg
  let rd ← reg
  return encR (((0b00010 : Word) <<< 2) ||| aqrl) rs2 rs1 0b010 rd 0b0101111

/-! ## Compressed -/

/-- A parcel known by its `funct3` and its quadrant only. -/
def genQuadrant (f3s : List Word) (quadrant : Word) : Gen Word := do
  let f3 ← choice f3s
  return (f3 <<< 13) ||| ((← bits32) &&& 0x1FFC) ||| quadrant

def genCQuad0BadFunct3 : Gen Word := genQuadrant [0b001, 0b100, 0b101] 0b00

def genCAddi4spnZero : Gen Word := do
  return ((← reg) &&& 0x7) <<< 2

def genCLwspRd0 : Gen Word := do
  let high ← bits32
  let low ← reg
  return ((0b010 : Word) <<< 13) ||| ((high &&& 1) <<< 12) ||| ((low &&& 0x1F) <<< 2) ||| 0b10

def genCJrRs10 : Gen Word := pure (((0b100 : Word) <<< 13) ||| 0b10)

/-- Amounts from 32 on are reserved on RV32. -/
def genCShiftShamt5 : Gen Word := do
  -- C.SRLI and C.SRAI, or C.SLLI
  if ← chance then
    let funct2 ← range 0 1
    let rd ← reg
    let low ← reg
    return ((0b100 : Word) <<< 13) ||| ((1 : Word) <<< 12) ||| (funct2 <<< 10) |||
      ((rd &&& 0x7) <<< 7) ||| ((low &&& 0x1F) <<< 2) ||| 0b01
  else
    let rd ← reg
    let low ← reg
    return ((1 : Word) <<< 12) ||| ((rd &&& 0x1F) <<< 7) ||| ((low &&& 0x1F) <<< 2) ||| 0b10

def genCAluFunct1 : Gen Word := do
  let rd ← reg
  let funct2 ← range 0 3
  let rs2 ← reg
  return ((0b100 : Word) <<< 13) ||| ((1 : Word) <<< 12) ||| ((0b11 : Word) <<< 10) |||
    ((rd &&& 0x7) <<< 7) ||| (funct2 <<< 5) ||| ((rs2 &&& 0x7) <<< 2) ||| 0b01

def genCLuiZero : Gen Word := do
  let rd ← regUntil fun rd => decide (rd ≠ 0 ∧ rd ≠ 2)
  return ((0b011 : Word) <<< 13) ||| (rd <<< 7) ||| 0b01

def genCAddi16spZero : Gen Word := pure 0x6101

def genCQuad2BadFunct3 : Gen Word := genQuadrant [0b001, 0b101] 0b10

/-! ## The class table -/

/-- A class of illegal words: its name, its generator and its length. -/
structure ClassInfo where
  name : String
  gen : Gen Word
  compressed : Bool

/-- The classes in the order of the source. -/
def classes : List ClassInfo :=
  [⟨"all-zeros", genAllZeros, true⟩,
    ⟨"all-ones", genAllOnes, false⟩,
    ⟨"reserved major opcode", genReservedMajorOpcode, false⟩,
    ⟨"LOAD bad funct3", genBadLoad, false⟩,
    ⟨"STORE bad funct3", genBadStore, false⟩,
    ⟨"BRANCH bad funct3", genBadBranch, false⟩,
    ⟨"JALR bad funct3", genBadJalr, false⟩,
    ⟨"SLLI slot violation", genBadSlliSlot, false⟩,
    ⟨"SRLI slot violation", genBadSrliSlot, false⟩,
    ⟨"OP bad funct7/funct3", genBadOp, false⟩,
    ⟨"MISC-MEM bad funct3", genBadMiscMem, false⟩,
    ⟨"SYSTEM f3=0 unassigned", genBadSystemF30, false⟩,
    ⟨"SYSTEM f3=100 (hypervisor)", genBadSystemF34, false⟩,
    ⟨"CSR nonexistent address", genBadCsrAddr, false⟩,
    ⟨"OP-FP bad funct7", genBadFpFunct7, false⟩,
    ⟨"FP reserved rm (101/110)", genBadFpRm, false⟩,
    ⟨"FSQRT.S rs2 != 0", genBadFsqrt, false⟩,
    ⟨"FCVT rs2 > 1", genBadFcvt, false⟩,
    ⟨"FMV.X.W/FCLASS bad fields", genBadFmvFclass, false⟩,
    ⟨"FCMP bad funct3", genBadFcmp, false⟩,
    ⟨"FMIN/FMAX bad funct3", genBadFminmax, false⟩,
    ⟨"FSGNJ bad funct3", genBadFsgnj, false⟩,
    ⟨"FMV.W.X bad fields", genBadFmvWx, false⟩,
    ⟨"LOAD_FP bad funct3", genBadLoadFp, false⟩,
    ⟨"STORE_FP bad funct3", genBadStoreFp, false⟩,
    ⟨"MADD-family bad fmt", genBadMaddFmt, false⟩,
    ⟨"AMO bad funct3", genBadAmoFunct3, false⟩,
    ⟨"AMO bad funct5", genBadAmoFunct5, false⟩,
    ⟨"LR.W rs2 != 0", genBadLr, false⟩,
    ⟨"C quad0 reserved funct3", genCQuad0BadFunct3, true⟩,
    ⟨"C.ADDI4SPN nzimm=0", genCAddi4spnZero, true⟩,
    ⟨"C.LWSP rd=x0", genCLwspRd0, true⟩,
    ⟨"C.JR rs1=x0", genCJrRs10, true⟩,
    ⟨"C shift shamt[5]=1", genCShiftShamt5, true⟩,
    ⟨"C ALU funct1=1 (RV64)", genCAluFunct1, true⟩,
    ⟨"C.LUI nzimm=0", genCLuiZero, true⟩,
    ⟨"C.ADDI16SP nzimm=0", genCAddi16spZero, true⟩,
    ⟨"C quad2 RV64 funct3", genCQuad2BadFunct3, true⟩]

end Riscv.IllegalOpgen

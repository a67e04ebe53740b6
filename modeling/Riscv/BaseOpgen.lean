import Mathlib.Algebra.Group.Int.Defs
import Mathlib.Algebra.Group.Nat.Defs
import Riscv.Encoders
import Riscv.Lib.Sample

/- The opcode generators of the base set and of M (`riscv_rv32i_opgen.hpp`,
   `riscv_rv32m_opgen.hpp`).

   Every generator draws its operands and packs them with a format encoder. The type it
   is for is nowhere in it: `generate` finds it in a table, at the place of the type in an
   enumeration. The order in which C++ draws the arguments of one call is unspecified;
   here they are drawn from left to right. -/
namespace Riscv

open Sample

/-! ## Random numbers

`chance(p)` is a draw of either value: how often is not modelled. -/

namespace Opgen

/-- `uniform_int_distribution<uint32_t>(lo, hi)`. -/
def uniformWord (lo hi : Nat) : Gen Word := do
  return BitVec.ofNat 32 (← Gen.uniform lo hi)

/-- `uniform_int_distribution<int32_t>(lo, hi)`. -/
def uniformSigned (lo hi : Int) : Gen Word := do
  return BitVec.ofInt 32 (← Gen.uniformInt lo hi)

def coin : Gen Bool := do
  return decide ((← Gen.draw) % 2 = 1)

theorem uniformWord_yields {lo hi : Nat} (h : lo ≤ hi) (hhi : hi < 2 ^ 32) :
    (uniformWord lo hi).Yields fun v => lo ≤ v.toNat ∧ v.toNat ≤ hi := by
  refine .bind (.uniform h) fun n hn => .pure ?_
  rw [BitVec.toNat_ofNat, Nat.mod_eq_of_lt (by omega)]
  exact hn

theorem uniformSigned_yields {lo hi : Int} (h : lo ≤ hi) (hlo : -2 ^ 31 ≤ lo) (hhi : hi < 2 ^ 31) :
    (uniformSigned lo hi).Yields fun v => lo ≤ v.toInt ∧ v.toInt ≤ hi := by
  refine .bind (.uniformInt h) fun n hn => .pure ?_
  rw [BitVec.toInt_ofInt_eq_self (by decide) (by simp only [Nat.add_one_sub_one]; omega)
    (by simp only [Nat.add_one_sub_one]; omega)]
  exact hn

/-- Offsets are drawn in halfwords. -/
theorem toInt_double {v : Word} (h : -2 ^ 30 ≤ v.toInt ∧ v.toInt < 2 ^ 30) :
    (v * 2).toInt = v.toInt * 2 := by
  rw [BitVec.toInt_mul]
  exact Int.bmod_eq_of_le (by simp; omega) (by simp; omega)

end Opgen

namespace Rv32i.Opgen

namespace RNG

def reg : Gen Word := Riscv.Opgen.uniformWord 0 31

def imm12 : Gen Word := Riscv.Opgen.uniformSigned (-2048) 2047

/-- Already in place: the low twelve bits are clear. -/
def imm20Upper : Gen Word := do
  return (← Riscv.Opgen.uniformWord 0 0xFFFFF) <<< 12

/-- An even offset: half of it is drawn. -/
def branchOffset : Gen Word := do
  return (← Riscv.Opgen.uniformSigned (-2048) 2047) * 2

/-- An even offset within reach of JAL. -/
def jalOffset : Gen Word := do
  return (← Riscv.Opgen.uniformSigned (-524288) 524287) * 2

def shamt : Gen Word := Riscv.Opgen.uniformWord 0 31

def range (lo hi : Nat) : Gen Word := Riscv.Opgen.uniformWord lo hi

def chance : Gen Bool := Riscv.Opgen.coin

end RNG

open RNG

/-! ## The generators of the base set

One body a format; a generator is the body of its format at its opcode and function
codes. -/

namespace Op
def lui : Word := 0b0110111
def auipc : Word := 0b0010111
def jal : Word := 0b1101111
def jalr : Word := 0b1100111
def branch : Word := 0b1100011
def load : Word := 0b0000011
def store : Word := 0b0100011
def opImm : Word := 0b0010011
def op : Word := 0b0110011
def misc : Word := 0b0001111
end Op

/-- LUI and AUIPC differ in the opcode. -/
def genUpper (op : Word) : Gen Word := do
  let imm ← imm20Upper
  let rd ← reg
  return encodeUType imm rd op

def genLui : Gen Word := genUpper Op.lui
def genAuipc : Gen Word := genUpper Op.auipc

def genJal : Gen Word := do
  let imm ← jalOffset
  let rd ← reg
  return encodeJType imm rd Op.jal

/-- The immediate is drawn first, then the registers. -/
def genIType (funct3 op : Word) : Gen Word := do
  let imm ← imm12
  let rs1 ← reg
  let rd ← reg
  return encodeIType imm rs1 funct3 rd op

def genJalr : Gen Word := genIType 0b000 Op.jalr

/-- The six conditions differ in `funct3`. -/
def genBranch (funct3 : Word) : Gen Word := do
  let imm ← branchOffset
  let rs2 ← reg
  let rs1 ← reg
  return encodeBType imm rs2 rs1 funct3 Op.branch

def genBeq : Gen Word := genBranch 0b000
def genBne : Gen Word := genBranch 0b001
def genBlt : Gen Word := genBranch 0b100
def genBge : Gen Word := genBranch 0b101
def genBltu : Gen Word := genBranch 0b110
def genBgeu : Gen Word := genBranch 0b111

def genLb : Gen Word := genIType 0b000 Op.load
def genLh : Gen Word := genIType 0b001 Op.load
def genLw : Gen Word := genIType 0b010 Op.load
def genLbu : Gen Word := genIType 0b100 Op.load
def genLhu : Gen Word := genIType 0b101 Op.load

/-- The three widths differ in `funct3`. -/
def genStore (funct3 : Word) : Gen Word := do
  let imm ← imm12
  let rs2 ← reg
  let rs1 ← reg
  return encodeSType imm rs2 rs1 funct3 Op.store

def genSb : Gen Word := genStore 0b000
def genSh : Gen Word := genStore 0b001
def genSw : Gen Word := genStore 0b010

def genAddi : Gen Word := genIType 0b000 Op.opImm
def genSlti : Gen Word := genIType 0b010 Op.opImm
def genSltiu : Gen Word := genIType 0b011 Op.opImm
def genXori : Gen Word := genIType 0b100 Op.opImm
def genOri : Gen Word := genIType 0b110 Op.opImm
def genAndi : Gen Word := genIType 0b111 Op.opImm

/-- `mark` is `0x400` in SRAI, bit 5 of the `funct7` over the shift amount. -/
def genShift (mark funct3 : Word) : Gen Word := do
  let shamt ← shamt
  let rs1 ← reg
  let rd ← reg
  return encodeIType (shamt ||| mark) rs1 funct3 rd Op.opImm

def genSlli : Gen Word := genShift 0 0b001
def genSrli : Gen Word := genShift 0 0b101
def genSrai : Gen Word := genShift 0x400 0b101

/-- The register operations differ in `funct7` and `funct3`. -/
def genRType (funct7 funct3 : Word) : Gen Word := do
  let rs2 ← reg
  let rs1 ← reg
  let rd ← reg
  return encodeRType funct7 rs2 rs1 funct3 rd Op.op

def genAdd : Gen Word := genRType 0b0000000 0b000
def genSub : Gen Word := genRType 0b0100000 0b000
def genSll : Gen Word := genRType 0b0000000 0b001
def genSlt : Gen Word := genRType 0b0000000 0b010
def genSltu : Gen Word := genRType 0b0000000 0b011
def genXor : Gen Word := genRType 0b0000000 0b100
def genSrl : Gen Word := genRType 0b0000000 0b101
def genSra : Gen Word := genRType 0b0100000 0b101
def genOr : Gen Word := genRType 0b0000000 0b110
def genAnd : Gen Word := genRType 0b0000000 0b111

/-- `fm` is that of FENCE or of FENCE.TSO; rd and rs1 are reserved. -/
def genFence : Gen Word := do
  let fm : Word := if ← chance then 0b0000 else 0b1000
  let pred ← range 0 15
  let succ ← range 0 15
  return encodeIType ((fm <<< 8) ||| (pred <<< 4) ||| succ) 0 0b000 0 Op.misc

def genEcall : Gen Word := pure 0x00000073
def genEbreak : Gen Word := pure 0x00100073

/-! ## The table -/

/-- The instructions of the generator; the privileged ones are not among them. -/
inductive InstrType where
  | lui | auipc
  | jal
  | jalr
  | beq | bne | blt | bge | bltu | bgeu
  | lb | lh | lw | lbu | lhu
  | sb | sh | sw
  | addi | slti | sltiu | xori | ori | andi
  | slli | srli | srai
  | add | sub | sll | slt | sltu | xor | srl | sra | or | and
  | fence
  | ecall | ebreak
  deriving DecidableEq, Repr

/-- The table `generate` indexes by the type. -/
def generators : List (Gen Word) :=
  [genLui, genAuipc,
    genJal,
    genJalr,
    genBeq, genBne, genBlt, genBge, genBltu, genBgeu,
    genLb, genLh, genLw, genLbu, genLhu,
    genSb, genSh, genSw,
    genAddi, genSlti, genSltiu, genXori, genOri, genAndi,
    genSlli, genSrli, genSrai,
    genAdd, genSub, genSll, genSlt, genSltu, genXor, genSrl, genSra, genOr, genAnd,
    genFence,
    genEcall, genEbreak]

/-- `generate(type)`: the mask does not matter. -/
def generate (type : InstrType) : Gen Word := Gen.nth generators type.ctorIdx

end Rv32i.Opgen

/-! ## M -/

namespace Rv32m.Opgen

namespace RNG

def reg : Gen Word := Riscv.Opgen.uniformWord 0 31

end RNG

def encodeRType (funct7 rs2 rs1 funct3 rd op : Word) : Word :=
  ((funct7 &&& 0x7F) <<< 25) ||| ((rs2 &&& 0x1F) <<< 20) ||| ((rs1 &&& 0x1F) <<< 15) |||
    ((funct3 &&& 0x7) <<< 12) ||| ((rd &&& 0x1F) <<< 7) ||| (op &&& 0x7F)

/-- The eight differ in `funct3`. -/
def genMulDiv (funct3 : Word) : Gen Word := do
  let rs2 ← RNG.reg
  let rs1 ← RNG.reg
  let rd ← RNG.reg
  return encodeRType 0b0000001 rs2 rs1 funct3 rd 0b0110011

def genMul : Gen Word := genMulDiv 0b000
def genMulh : Gen Word := genMulDiv 0b001
def genMulhsu : Gen Word := genMulDiv 0b010
def genMulhu : Gen Word := genMulDiv 0b011
def genDiv : Gen Word := genMulDiv 0b100
def genDivu : Gen Word := genMulDiv 0b101
def genRem : Gen Word := genMulDiv 0b110
def genRemu : Gen Word := genMulDiv 0b111

/-- The instructions of M, in the order of the table. -/
inductive InstrType where
  | mul | mulh | mulhsu | mulhu | div | divu | rem | remu
  deriving DecidableEq, Repr

def generators : List (Gen Word) :=
  [genMul, genMulh, genMulhsu, genMulhu, genDiv, genDivu, genRem, genRemu]

/-- `generate(type)`: the mask does not matter. -/
def generate (type : InstrType) : Gen Word := Gen.nth generators type.ctorIdx

end Rv32m.Opgen

end Riscv

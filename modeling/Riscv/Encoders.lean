import Riscv.Rv32a
import Riscv.Rv32fc
import Riscv.Rv32m
import Riscv.Zext
import Riscv.Zicsr

/- The instruction encoders of the source: the `encode` namespaces of the
   extension headers, and the format encoders of the RV32I generator
   (`riscv_rv32i_opgen.hpp`). Each helper is a definition under its source name;
   an argument the source gives a default (`rm`, `aq`, `rl`) is an ordinary one.

   Six headers pack a word in the same way, masking the registers and nothing
   else. `packR` and `packI` are these two bodies, and each header's own packer
   is one of them. A, F and the generator mask other fields and keep their own. -/
namespace Riscv

/-- `static_cast<uint32_t>(v & 0x1F) << lo`. -/
def field5 (v : BitVec 8) (lo : Nat) : Word := (v &&& 0x1F).setWidth 32 <<< lo

/-- `r_type` of Zba, Zbb, Zbs and Zicond. -/
def packR (funct7 rs2 rs1 funct3 rd op : BitVec 8) : Word :=
  (funct7.setWidth 32 <<< 25) ||| field5 rs2 20 ||| field5 rs1 15 |||
    (funct3.setWidth 32 <<< 12) ||| field5 rd 7 ||| op.setWidth 32

/-- `i_type` of Zbb. -/
def packI (imm12 : BitVec 16) (rs1 funct3 rd op : BitVec 8) : Word :=
  ((imm12 &&& 0xFFF).setWidth 32 <<< 20) ||| field5 rs1 15 |||
    (funct3.setWidth 32 <<< 12) ||| field5 rd 7 ||| op.setWidth 32

/-! ## M -/

namespace Rv32m.Encode

/-- `m_instr`: the eight differ in `funct3` only. -/
def mInstr (funct3 rd rs1 rs2 : BitVec 8) : Word :=
  packR Funct7.muldiv rs2 rs1 funct3 rd Opcode.op

/-- `rd :=` the low half of `rs1 * rs2`. -/
def mul (rd rs1 rs2 : BitVec 8) : Word := mInstr Funct3.mul rd rs1 rs2
/-- `rd :=` the high half of the signed product. -/
def mulh (rd rs1 rs2 : BitVec 8) : Word := mInstr Funct3.mulh rd rs1 rs2
/-- `rd :=` the high half of the product of a signed `rs1` and an unsigned `rs2`. -/
def mulhsu (rd rs1 rs2 : BitVec 8) : Word := mInstr Funct3.mulhsu rd rs1 rs2
/-- `rd :=` the high half of the unsigned product. -/
def mulhu (rd rs1 rs2 : BitVec 8) : Word := mInstr Funct3.mulhu rd rs1 rs2
/-- `rd := rs1 / rs2`, signed, towards zero. -/
def div (rd rs1 rs2 : BitVec 8) : Word := mInstr Funct3.div rd rs1 rs2
/-- `rd := rs1 / rs2`, unsigned. -/
def divu (rd rs1 rs2 : BitVec 8) : Word := mInstr Funct3.divu rd rs1 rs2
/-- `rd := rs1 % rs2`, with the sign of the dividend. -/
def rem (rd rs1 rs2 : BitVec 8) : Word := mInstr Funct3.rem rd rs1 rs2
/-- `rd := rs1 % rs2`, unsigned. -/
def remu (rd rs1 rs2 : BitVec 8) : Word := mInstr Funct3.remu rd rs1 rs2

end Rv32m.Encode

/-! ## Zba -/

namespace Zba.Encode

def rType (funct7 rs2 rs1 funct3 rd op : BitVec 8) : Word := packR funct7 rs2 rs1 funct3 rd op

/-- `rd := (rs1 << 1) + rs2`. -/
def sh1add (rd rs1 rs2 : BitVec 8) : Word := rType Funct7.shadd rs2 rs1 Funct3.sh1add rd Opcode.op
/-- `rd := (rs1 << 2) + rs2`. -/
def sh2add (rd rs1 rs2 : BitVec 8) : Word := rType Funct7.shadd rs2 rs1 Funct3.sh2add rd Opcode.op
/-- `rd := (rs1 << 3) + rs2`. -/
def sh3add (rd rs1 rs2 : BitVec 8) : Word := rType Funct7.shadd rs2 rs1 Funct3.sh3add rd Opcode.op

end Zba.Encode

/-! ## Zbb -/

namespace Zbb.Encode

def rType (funct7 rs2 rs1 funct3 rd op : BitVec 8) : Word := packR funct7 rs2 rs1 funct3 rd op

def iType (imm12 : BitVec 16) (rs1 funct3 rd op : BitVec 8) : Word := packI imm12 rs1 funct3 rd op

/- The source names one `funct7` three times (ANDN, ORN, XNOR) and another three
   times (ROL, ROR, RORI). -/

/-- `rd := rs1 & ~rs2`. -/
def andn (rd rs1 rs2 : BitVec 8) : Word := rType Funct7.andn rs2 rs1 0b111 rd Opcode.op
/-- `rd := rs1 | ~rs2`. -/
def orn (rd rs1 rs2 : BitVec 8) : Word := rType Funct7.andn rs2 rs1 0b110 rd Opcode.op
/-- `rd := ~(rs1 ^ rs2)`. -/
def xnor (rd rs1 rs2 : BitVec 8) : Word := rType Funct7.andn rs2 rs1 0b100 rd Opcode.op

/-- `rd :=` the leading zeros of `rs1`. -/
def clz (rd rs1 : BitVec 8) : Word := iType 0b011000000000 rs1 0b001 rd Opcode.opImm
/-- `rd :=` the trailing zeros of `rs1`. -/
def ctz (rd rs1 : BitVec 8) : Word := iType 0b011000000001 rs1 0b001 rd Opcode.opImm
/-- `rd :=` the set bits of `rs1`. -/
def cpop (rd rs1 : BitVec 8) : Word := iType 0b011000000010 rs1 0b001 rd Opcode.opImm

/-- `rd :=` the signed minimum. -/
def min (rd rs1 rs2 : BitVec 8) : Word := rType Funct7.minmax rs2 rs1 0b100 rd Opcode.op
/-- `rd :=` the unsigned minimum. -/
def minu (rd rs1 rs2 : BitVec 8) : Word := rType Funct7.minmax rs2 rs1 0b101 rd Opcode.op
/-- `rd :=` the signed maximum. -/
def max (rd rs1 rs2 : BitVec 8) : Word := rType Funct7.minmax rs2 rs1 0b110 rd Opcode.op
/-- `rd :=` the unsigned maximum. -/
def maxu (rd rs1 rs2 : BitVec 8) : Word := rType Funct7.minmax rs2 rs1 0b111 rd Opcode.op

/-- `rd :=` the low byte of `rs1`, sign extended. -/
def sextB (rd rs1 : BitVec 8) : Word := iType 0b011000000100 rs1 0b001 rd Opcode.opImm
/-- `rd :=` the low half of `rs1`, sign extended. -/
def sextH (rd rs1 : BitVec 8) : Word := iType 0b011000000101 rs1 0b001 rd Opcode.opImm
/-- `rd :=` the low half of `rs1`: PACK with `x0`. -/
def zextH (rd rs1 : BitVec 8) : Word := rType 0b0000100 0 rs1 0b100 rd Opcode.op

/-- `rd := rs1` rotated left by the low five bits of `rs2`. -/
def rol (rd rs1 rs2 : BitVec 8) : Word := rType Funct7.rol rs2 rs1 0b001 rd Opcode.op
/-- `rd := rs1` rotated right by the low five bits of `rs2`. -/
def ror (rd rs1 rs2 : BitVec 8) : Word := rType Funct7.rol rs2 rs1 0b101 rd Opcode.op
/-- `rd := rs1` rotated right by `shamt`, which takes the low bits of the immediate. -/
def rori (rd rs1 shamt : BitVec 8) : Word :=
  iType (((0b0110000 : BitVec 16) <<< 5) ||| (shamt &&& 0x1F).setWidth 16) rs1 0b101 rd Opcode.opImm

/-- `rd := rs1` with every byte that is not zero all ones. -/
def orcB (rd rs1 : BitVec 8) : Word := iType 0b001010000111 rs1 0b101 rd Opcode.opImm
/-- `rd :=` the bytes of `rs1` in reverse order. -/
def rev8 (rd rs1 : BitVec 8) : Word := iType 0b011010011000 rs1 0b101 rd Opcode.opImm

end Zbb.Encode

/-! ## Zbs -/

namespace Zbs.Encode

def rType (funct7 rs2 rs1 funct3 rd op : BitVec 8) : Word := packR funct7 rs2 rs1 funct3 rd op

/-- `i_type_shamt`: the amount stands where `rs2` does. -/
def iTypeShamt (funct7 shamt rs1 funct3 rd op : BitVec 8) : Word :=
  packR funct7 shamt rs1 funct3 rd op

/-- `rd := rs1` with bit `rs2` set. -/
def bset (rd rs1 rs2 : BitVec 8) : Word :=
  rType Funct7.bset rs2 rs1 Funct3.bsetBclrBinv rd Opcode.op
/-- `rd := rs1` with bit `rs2` clear. -/
def bclr (rd rs1 rs2 : BitVec 8) : Word :=
  rType Funct7.bclr rs2 rs1 Funct3.bsetBclrBinv rd Opcode.op
/-- `rd := rs1` with bit `rs2` inverted. -/
def binv (rd rs1 rs2 : BitVec 8) : Word :=
  rType Funct7.binv rs2 rs1 Funct3.bsetBclrBinv rd Opcode.op
/-- `rd :=` bit `rs2` of `rs1`. -/
def bext (rd rs1 rs2 : BitVec 8) : Word := rType Funct7.bext rs2 rs1 Funct3.bext rd Opcode.op

/-- `rd := rs1` with bit `shamt` set. -/
def bseti (rd rs1 shamt : BitVec 8) : Word :=
  iTypeShamt Funct7.bset shamt rs1 Funct3.bsetBclrBinv rd Opcode.opImm
/-- `rd := rs1` with bit `shamt` clear. -/
def bclri (rd rs1 shamt : BitVec 8) : Word :=
  iTypeShamt Funct7.bclr shamt rs1 Funct3.bsetBclrBinv rd Opcode.opImm
/-- `rd := rs1` with bit `shamt` inverted. -/
def binvi (rd rs1 shamt : BitVec 8) : Word :=
  iTypeShamt Funct7.binv shamt rs1 Funct3.bsetBclrBinv rd Opcode.opImm
/-- `rd :=` bit `shamt` of `rs1`. -/
def bexti (rd rs1 shamt : BitVec 8) : Word :=
  iTypeShamt Funct7.bext shamt rs1 Funct3.bext rd Opcode.opImm

end Zbs.Encode

/-! ## Zicond -/

namespace Zicond.Encode

def rType (funct7 rs2 rs1 funct3 rd op : BitVec 8) : Word := packR funct7 rs2 rs1 funct3 rd op

/-- `rd := rs1`, or zero when `rs2` is zero. -/
def czeroEqz (rd rs1 rs2 : BitVec 8) : Word :=
  rType Funct7.czero rs2 rs1 Funct3.czeroEqz rd Opcode.op
/-- `rd := rs1`, or zero when `rs2` is not zero. -/
def czeroNez (rd rs1 rs2 : BitVec 8) : Word :=
  rType Funct7.czero rs2 rs1 Funct3.czeroNez rd Opcode.op

end Zicond.Encode

/-! ## Zicsr -/

namespace Zicsr.Encode

/-- `csr_instr`: the CSR address is the immediate of an I-type word. -/
def csrInstr (funct3 rd : BitVec 8) (csr : BitVec 16) (rs1Uimm : BitVec 8) : Word :=
  packI csr rs1Uimm funct3 rd Opcode.system

/-- `rd := csr`, `csr := rs1`. -/
def csrrw (rd : BitVec 8) (csr : BitVec 16) (rs1 : BitVec 8) : Word :=
  csrInstr Funct3.csrrw rd csr rs1
/-- `rd := csr`, and the bits of `rs1` are set. -/
def csrrs (rd : BitVec 8) (csr : BitVec 16) (rs1 : BitVec 8) : Word :=
  csrInstr Funct3.csrrs rd csr rs1
/-- `rd := csr`, and the bits of `rs1` are cleared. -/
def csrrc (rd : BitVec 8) (csr : BitVec 16) (rs1 : BitVec 8) : Word :=
  csrInstr Funct3.csrrc rd csr rs1
/-- `rd := csr`, `csr := uimm`. -/
def csrrwi (rd : BitVec 8) (csr : BitVec 16) (uimm : BitVec 8) : Word :=
  csrInstr Funct3.csrrwi rd csr uimm
/-- `rd := csr`, and the bits of `uimm` are set. -/
def csrrsi (rd : BitVec 8) (csr : BitVec 16) (uimm : BitVec 8) : Word :=
  csrInstr Funct3.csrrsi rd csr uimm
/-- `rd := csr`, and the bits of `uimm` are cleared. -/
def csrrci (rd : BitVec 8) (csr : BitVec 16) (uimm : BitVec 8) : Word :=
  csrInstr Funct3.csrrci rd csr uimm

/- Pseudo-instructions. -/

/-- A read: CSRRS from `x0`. -/
def csrr (rd : BitVec 8) (csr : BitVec 16) : Word := csrrs rd csr 0
/-- A write that discards the old value. -/
def csrw (csr : BitVec 16) (rs1 : BitVec 8) : Word := csrrw 0 csr rs1
/-- A set that discards the old value. -/
def csrs (csr : BitVec 16) (rs1 : BitVec 8) : Word := csrrs 0 csr rs1
/-- A clear that discards the old value. -/
def csrc (csr : BitVec 16) (rs1 : BitVec 8) : Word := csrrc 0 csr rs1

end Zicsr.Encode

/-! ## A -/

namespace Rv32a.Encode

/-- `amo_instr`: the two ordering bits stand below `funct5`. -/
def amoInstr (funct5 : BitVec 8) (aq rl : Bool) (rs2 rs1 rd : BitVec 8) : Word :=
  field5 funct5 27 ||| ((if aq then 1 else 0 : Word) <<< 26) |||
    ((if rl then 1 else 0 : Word) <<< 25) ||| field5 rs2 20 ||| field5 rs1 15 |||
    (Funct3.w.setWidth 32 <<< 12) ||| field5 rd 7 ||| Opcode.amo.setWidth 32

/-- `rd :=` the word at `rs1`, which is then reserved. -/
def lrW (rd rs1 : BitVec 8) (aq rl : Bool) : Word := amoInstr Funct5.lr aq rl 0 rs1 rd
/-- The word at `rs1` `:= rs2` if it is still reserved; `rd` tells. -/
def scW (rd rs2 rs1 : BitVec 8) (aq rl : Bool) : Word := amoInstr Funct5.sc aq rl rs2 rs1 rd
/-- The word at `rs1` `:= rs2`. As in all of them, `rd` gets the old word. -/
def amoswapW (rd rs2 rs1 : BitVec 8) (aq rl : Bool) : Word :=
  amoInstr Funct5.amoswap aq rl rs2 rs1 rd
/-- The word at `rs1` plus `rs2`. -/
def amoaddW (rd rs2 rs1 : BitVec 8) (aq rl : Bool) : Word :=
  amoInstr Funct5.amoadd aq rl rs2 rs1 rd
/-- The word at `rs1` xor `rs2`. -/
def amoxorW (rd rs2 rs1 : BitVec 8) (aq rl : Bool) : Word :=
  amoInstr Funct5.amoxor aq rl rs2 rs1 rd
/-- The word at `rs1` and `rs2`. -/
def amoandW (rd rs2 rs1 : BitVec 8) (aq rl : Bool) : Word :=
  amoInstr Funct5.amoand aq rl rs2 rs1 rd
/-- The word at `rs1` or `rs2`. -/
def amoorW (rd rs2 rs1 : BitVec 8) (aq rl : Bool) : Word :=
  amoInstr Funct5.amoor aq rl rs2 rs1 rd
/-- The signed minimum of the word at `rs1` and `rs2`. -/
def amominW (rd rs2 rs1 : BitVec 8) (aq rl : Bool) : Word :=
  amoInstr Funct5.amomin aq rl rs2 rs1 rd
/-- The signed maximum of the two. -/
def amomaxW (rd rs2 rs1 : BitVec 8) (aq rl : Bool) : Word :=
  amoInstr Funct5.amomax aq rl rs2 rs1 rd
/-- The unsigned minimum of the two. -/
def amominuW (rd rs2 rs1 : BitVec 8) (aq rl : Bool) : Word :=
  amoInstr Funct5.amominu aq rl rs2 rs1 rd
/-- The unsigned maximum of the two. -/
def amomaxuW (rd rs2 rs1 : BitVec 8) (aq rl : Bool) : Word :=
  amoInstr Funct5.amomaxu aq rl rs2 rs1 rd

end Rv32a.Encode

/-! ## F -/

namespace Rv32f.Encode

/-- `imm` is an `int32_t`. -/
def flw (rd rs1 : BitVec 8) (imm : Word) : Word :=
  ((imm &&& 0xFFF) <<< 20) ||| field5 rs1 15 ||| (Funct3.w.setWidth 32 <<< 12) |||
    field5 rd 7 ||| Opcode.loadFp.setWidth 32

/-- The offset is cut in two, as that of SW. -/
def fsw (rs2 rs1 : BitVec 8) (imm : Word) : Word :=
  ((imm &&& 0xFE0) <<< 20) ||| field5 rs2 20 ||| field5 rs1 15 |||
    (Funct3.w.setWidth 32 <<< 12) ||| ((imm &&& 0x1F) <<< 7) ||| Opcode.storeFp.setWidth 32

/-- `r_type_f`: unlike the other packers it masks `funct7` and `rm`. -/
def rTypeF (funct7 rs2 rs1 rm rd op : BitVec 8) : Word :=
  ((funct7 &&& 0x7F).setWidth 32 <<< 25) ||| field5 rs2 20 ||| field5 rs1 15 |||
    ((rm &&& 0x7).setWidth 32 <<< 12) ||| field5 rd 7 ||| op.setWidth 32

/-- `r4_type`, of the fused instructions; the format bits are those of a single. -/
def r4Type (rs3 rs2 rs1 rm rd op : BitVec 8) : Word :=
  field5 rs3 27 ||| ((0b00 : Word) <<< 25) ||| field5 rs2 20 ||| field5 rs1 15 |||
    ((rm &&& 0x7).setWidth 32 <<< 12) ||| field5 rd 7 ||| op.setWidth 32

/-- `rd := rs1 + rs2`, rounded by `rm`. -/
def faddS (rd rs1 rs2 rm : BitVec 8) : Word := rTypeF Funct7.faddS rs2 rs1 rm rd Opcode.opFp
/-- `rd := rs1 - rs2`, rounded by `rm`. -/
def fsubS (rd rs1 rs2 rm : BitVec 8) : Word := rTypeF Funct7.fsubS rs2 rs1 rm rd Opcode.opFp
/-- `rd := rs1 * rs2`, rounded by `rm`. -/
def fmulS (rd rs1 rs2 rm : BitVec 8) : Word := rTypeF Funct7.fmulS rs2 rs1 rm rd Opcode.opFp
/-- `rd := rs1 / rs2`, rounded by `rm`. -/
def fdivS (rd rs1 rs2 rm : BitVec 8) : Word := rTypeF Funct7.fdivS rs2 rs1 rm rd Opcode.opFp
/-- `rd :=` the root of `rs1`, rounded by `rm`. -/
def fsqrtS (rd rs1 rm : BitVec 8) : Word := rTypeF Funct7.fsqrtS 0 rs1 rm rd Opcode.opFp
/-- `rd :=` the smaller operand. -/
def fminS (rd rs1 rs2 : BitVec 8) : Word := rTypeF Funct7.fminmaxS rs2 rs1 0b000 rd Opcode.opFp
/-- `rd :=` the larger operand. -/
def fmaxS (rd rs1 rs2 : BitVec 8) : Word := rTypeF Funct7.fminmaxS rs2 rs1 0b001 rd Opcode.opFp

/-- `rd := rs1 * rs2 + rs3`. -/
def fmaddS (rd rs1 rs2 rs3 rm : BitVec 8) : Word := r4Type rs3 rs2 rs1 rm rd Opcode.madd
/-- `rd := rs1 * rs2 - rs3`. -/
def fmsubS (rd rs1 rs2 rs3 rm : BitVec 8) : Word := r4Type rs3 rs2 rs1 rm rd Opcode.msub
/-- `rd := -(rs1 * rs2) - rs3`. -/
def fnmaddS (rd rs1 rs2 rs3 rm : BitVec 8) : Word := r4Type rs3 rs2 rs1 rm rd Opcode.nmadd
/-- `rd := -(rs1 * rs2) + rs3`. -/
def fnmsubS (rd rs1 rs2 rs3 rm : BitVec 8) : Word := r4Type rs3 rs2 rs1 rm rd Opcode.nmsub

/-- To a signed integer. -/
def fcvtWS (rd rs1 rm : BitVec 8) : Word := rTypeF Funct7.fcvtWS 0 rs1 rm rd Opcode.opFp
/-- To an unsigned integer; the field of `rs2` tells the two apart. -/
def fcvtWuS (rd rs1 rm : BitVec 8) : Word := rTypeF Funct7.fcvtWS 1 rs1 rm rd Opcode.opFp
/-- From a signed integer. -/
def fcvtSW (rd rs1 rm : BitVec 8) : Word := rTypeF Funct7.fcvtSW 0 rs1 rm rd Opcode.opFp
/-- From an unsigned integer. -/
def fcvtSWu (rd rs1 rm : BitVec 8) : Word := rTypeF Funct7.fcvtSW 1 rs1 rm rd Opcode.opFp
/-- The bits of `rs1` to an integer register. -/
def fmvXW (rd rs1 : BitVec 8) : Word := rTypeF Funct7.fmvFclass 0 rs1 0b000 rd Opcode.opFp
/-- The bits of an integer register to `rd`. -/
def fmvWX (rd rs1 : BitVec 8) : Word := rTypeF Funct7.fmvWX 0 rs1 0b000 rd Opcode.opFp

/-- `rd :=` whether the operands are equal. -/
def feqS (rd rs1 rs2 : BitVec 8) : Word := rTypeF Funct7.fcmpS rs2 rs1 0b010 rd Opcode.opFp
/-- `rd :=` whether the first operand is the smaller one. -/
def fltS (rd rs1 rs2 : BitVec 8) : Word := rTypeF Funct7.fcmpS rs2 rs1 0b001 rd Opcode.opFp
/-- `rd :=` whether the first operand is not the larger one. -/
def fleS (rd rs1 rs2 : BitVec 8) : Word := rTypeF Funct7.fcmpS rs2 rs1 0b000 rd Opcode.opFp
/-- `rd := rs1` with the sign of `rs2`. -/
def fsgnjS (rd rs1 rs2 : BitVec 8) : Word := rTypeF Funct7.fsgnjS rs2 rs1 0b000 rd Opcode.opFp
/-- `rd := rs1` with the other sign than `rs2`. -/
def fsgnjnS (rd rs1 rs2 : BitVec 8) : Word := rTypeF Funct7.fsgnjS rs2 rs1 0b001 rd Opcode.opFp
/-- `rd := rs1` with the product of the two signs. -/
def fsgnjxS (rd rs1 rs2 : BitVec 8) : Word := rTypeF Funct7.fsgnjS rs2 rs1 0b010 rd Opcode.opFp
/-- `rd :=` the class of `rs1`, one bit of ten. -/
def fclassS (rd rs1 : BitVec 8) : Word := rTypeF Funct7.fmvFclass 0 rs1 0b001 rd Opcode.opFp

/- Pseudo-instructions. -/

/-- A copy. -/
def fmvS (rd rs : BitVec 8) : Word := fsgnjS rd rs rs
/-- A change of sign. -/
def fnegS (rd rs : BitVec 8) : Word := fsgnjnS rd rs rs
/-- The absolute value. -/
def fabsS (rd rs : BitVec 8) : Word := fsgnjxS rd rs rs

end Rv32f.Encode

/-! ## Zcf -/

namespace Rv32fc.Encode

/-- `(r - 8) & 0x7`, of a primed register. -/
def creg (r : BitVec 8) : Word := ((r - 8) &&& 0x7).setWidth 32

/-- The two loads and stores of quadrant 0: `funct3 | uimm[5:3] | rs1' | uimm[2|6] | r' | 00`. -/
def packCl (funct3 : Word) (r rs1 : BitVec 8) (uimm : Word) : BitVec 16 :=
  u16 ((0b00 : Word) ||| (creg r <<< 2) ||| (((uimm >>> 6) &&& 0x1) <<< 5) |||
    (((uimm >>> 2) &&& 0x1) <<< 6) ||| (creg rs1 <<< 7) |||
    (((uimm >>> 3) &&& 0x7) <<< 10) ||| (funct3 <<< 13))

/-- C.FLW, between primed registers. -/
def cFlw (rd rs1 : BitVec 8) (uimm : Word) : BitVec 16 := packCl 0b011 rd rs1 uimm
/-- C.FSW, between primed registers. -/
def cFsw (rs2 rs1 : BitVec 8) (uimm : Word) : BitVec 16 := packCl 0b111 rs2 rs1 uimm

/-- C.FLWSP: any register, relative to the stack pointer. -/
def cFlwsp (rd : BitVec 8) (uimm : Word) : BitVec 16 :=
  u16 ((0b10 : Word) ||| (((uimm >>> 6) &&& 0x3) <<< 2) ||| (((uimm >>> 2) &&& 0x7) <<< 4) |||
    field5 rd 7 ||| (((uimm >>> 5) &&& 0x1) <<< 12) ||| ((0b011 : Word) <<< 13))

/-- C.FSWSP: its offset is in another order than that of C.FLWSP. -/
def cFswsp (rs2 : BitVec 8) (uimm : Word) : BitVec 16 :=
  u16 ((0b10 : Word) ||| field5 rs2 2 ||| (((uimm >>> 6) &&& 0x3) <<< 7) |||
    (((uimm >>> 2) &&& 0xF) <<< 9) ||| ((0b111 : Word) <<< 13))

end Rv32fc.Encode

/-! ## The RV32I generator -/

namespace Rv32i.Opgen

/-- `encode_r_type`: every field is masked to its width. -/
def encodeRType (funct7 rs2 rs1 funct3 rd op : Word) : Word :=
  ((funct7 &&& 0x7F) <<< 25) ||| ((rs2 &&& 0x1F) <<< 20) ||| ((rs1 &&& 0x1F) <<< 15) |||
    ((funct3 &&& 0x7) <<< 12) ||| ((rd &&& 0x1F) <<< 7) ||| (op &&& 0x7F)

/-- `encode_i_type`: the low twelve bits of the immediate. -/
def encodeIType (imm rs1 funct3 rd op : Word) : Word :=
  ((imm &&& 0xFFF) <<< 20) ||| ((rs1 &&& 0x1F) <<< 15) ||| ((funct3 &&& 0x7) <<< 12) |||
    ((rd &&& 0x1F) <<< 7) ||| (op &&& 0x7F)

/-- `encode_s_type`: the immediate is cut in two. -/
def encodeSType (imm rs2 rs1 funct3 op : Word) : Word :=
  ((imm &&& 0xFE0) <<< 20) ||| ((rs2 &&& 0x1F) <<< 20) ||| ((rs1 &&& 0x1F) <<< 15) |||
    ((funct3 &&& 0x7) <<< 12) ||| ((imm &&& 0x1F) <<< 7) ||| (op &&& 0x7F)

/-- Bit 0 of the offset is not encoded. -/
def encodeBType (imm rs2 rs1 funct3 op : Word) : Word :=
  (((imm >>> 12) &&& 0x1) <<< 31) ||| (((imm >>> 5) &&& 0x3F) <<< 25) |||
    ((rs2 &&& 0x1F) <<< 20) ||| ((rs1 &&& 0x1F) <<< 15) ||| ((funct3 &&& 0x7) <<< 12) |||
    (((imm >>> 1) &&& 0xF) <<< 8) ||| (((imm >>> 11) &&& 0x1) <<< 7) ||| (op &&& 0x7F)

/-- `encode_u_type`: the low twelve bits of the immediate are dropped. -/
def encodeUType (imm rd op : Word) : Word :=
  (imm &&& 0xFFFFF000) ||| ((rd &&& 0x1F) <<< 7) ||| (op &&& 0x7F)

/-- Bit 0 of the offset is not encoded. -/
def encodeJType (imm rd op : Word) : Word :=
  (((imm >>> 20) &&& 0x1) <<< 31) ||| (((imm >>> 1) &&& 0x3FF) <<< 21) |||
    (((imm >>> 11) &&& 0x1) <<< 20) ||| (((imm >>> 12) &&& 0xFF) <<< 12) |||
    ((rd &&& 0x1F) <<< 7) ||| (op &&& 0x7F)

end Rv32i.Opgen

end Riscv

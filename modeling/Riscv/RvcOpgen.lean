import Riscv.BaseOpgen
import Riscv.Lib.Pack
import Riscv.Rv32c

/- The opcode generator of RV32C (`riscv_rv32c_opgen.hpp`).

   A generator ORs the pieces of its operands into a parcel, one statement for each piece;
   `⟨v, lo, n, pos⟩` is `((v >> lo) & mask) << pos` for the mask of `n` bits. The shift of a
   signed immediate is arithmetic, of which no mask keeps anything. HINTs have generators
   of their own and a table of their own. -/
namespace Riscv.Rv32c.Opgen

open Sample Riscv.Opgen

/-! ## Random numbers -/

namespace RNG

def reg : Gen Word := uniformWord 0 31

/-- Where `x0` would be another instruction or a HINT. -/
def regNz : Gen Word := uniformWord 1 31

/-- `x8` to `x15`, as 0 to 7. -/
def creg : Gen Word := uniformWord 0 7

def imm6 : Gen Word := uniformSigned (-32) 31

/-- Where a zero immediate is reserved or a HINT; redrawn until it is not zero. -/
def imm6Nz : Gen Word := Gen.repeatUntil imm6 fun v => decide (v ≠ 0)

/-- Neither zero, a HINT, nor 32 and more, reserved on RV32. -/
def shamt : Gen Word := uniformWord 1 31

def range (lo hi : Nat) : Gen Word := uniformWord lo hi

def srange (lo hi : Int) : Gen Word := uniformSigned lo hi

end RNG

open RNG

/-! ## Generators -/

def parcel (pieces : List (Pack.Piece 32)) : BitVec 16 := Pack.pack 16 pieces

/-- A zero offset is reserved, so the smallest is four. -/
def genCAddi4spn : Gen (BitVec 16) := do
  let rd ← creg
  let nzuimm := (← range 1 255) * 4
  return parcel [⟨0b00, 0, 2, 0⟩, ⟨rd, 0, 3, 2⟩, ⟨nzuimm, 3, 1, 5⟩, ⟨nzuimm, 2, 1, 6⟩,
    ⟨nzuimm, 6, 4, 7⟩, ⟨nzuimm, 4, 2, 11⟩, ⟨0b000, 0, 3, 13⟩]

/-- C.LW and C.SW: the first register is `rd'` or `rs2'`. -/
def genCMem (funct3 : Word) : Gen (BitVec 16) := do
  let r ← creg
  let rs1 ← creg
  let uimm := (← range 0 31) * 4
  return parcel [⟨0b00, 0, 2, 0⟩, ⟨r, 0, 3, 2⟩, ⟨uimm, 6, 1, 5⟩, ⟨uimm, 2, 1, 6⟩, ⟨rs1, 0, 3, 7⟩,
    ⟨uimm, 3, 3, 10⟩, ⟨funct3, 0, 3, 13⟩]

def genCLw : Gen (BitVec 16) := genCMem 0b010
def genCSw : Gen (BitVec 16) := genCMem 0b110

def genCNop : Gen (BitVec 16) := pure 0x0001

def genCAddi : Gen (BitVec 16) := do
  let rd ← regNz
  let nzimm ← imm6Nz
  return parcel [⟨0b01, 0, 2, 0⟩, ⟨nzimm, 0, 5, 2⟩, ⟨rd, 0, 5, 7⟩, ⟨nzimm, 5, 1, 12⟩,
    ⟨0b000, 0, 3, 13⟩]

/-- C.JAL and C.J. -/
def genCJump (funct3 : Word) : Gen (BitVec 16) := do
  let imm := (← srange (-1024) 1023) * 2
  return parcel [⟨0b01, 0, 2, 0⟩, ⟨imm, 5, 1, 2⟩, ⟨imm, 1, 3, 3⟩, ⟨imm, 7, 1, 6⟩, ⟨imm, 6, 1, 7⟩,
    ⟨imm, 10, 1, 8⟩, ⟨imm, 8, 2, 9⟩, ⟨imm, 4, 1, 11⟩, ⟨imm, 11, 1, 12⟩, ⟨funct3, 0, 3, 13⟩]

def genCJal : Gen (BitVec 16) := genCJump 0b001

def genCLi : Gen (BitVec 16) := do
  let rd ← regNz
  let imm ← imm6
  return parcel [⟨0b01, 0, 2, 0⟩, ⟨imm, 0, 5, 2⟩, ⟨rd, 0, 5, 7⟩, ⟨imm, 5, 1, 12⟩,
    ⟨0b010, 0, 3, 13⟩]

/-- A zero immediate is reserved, so it is redrawn. -/
def genCAddi16sp : Gen (BitVec 16) := do
  let multiple : Gen Word := do return (← srange (-32) 31) * 16
  let nzimm ← Gen.repeatUntil multiple fun v => decide (v ≠ 0)
  return parcel [⟨0b01, 0, 2, 0⟩, ⟨nzimm, 5, 1, 2⟩, ⟨nzimm, 7, 2, 3⟩, ⟨nzimm, 6, 1, 5⟩,
    ⟨nzimm, 4, 1, 6⟩, ⟨2, 0, 5, 7⟩, ⟨nzimm, 9, 1, 12⟩, ⟨0b011, 0, 3, 13⟩]

/-- `nzimm` are bits 17 to 12 of the immediate. -/
def genCLui : Gen (BitVec 16) := do
  let rd ← Gen.repeatUntil regNz fun rd => decide (rd ≠ 2)
  let nzimm ← Gen.repeatUntil imm6 fun v => decide (v ≠ 0)
  return parcel [⟨0b01, 0, 2, 0⟩, ⟨nzimm, 0, 5, 2⟩, ⟨rd, 0, 5, 7⟩, ⟨nzimm, 5, 1, 12⟩,
    ⟨0b011, 0, 3, 13⟩]

/-- C.SRLI and C.SRAI. -/
def genCShift (funct2 : Word) : Gen (BitVec 16) := do
  let rd ← creg
  let shamt ← shamt
  return parcel [⟨0b01, 0, 2, 0⟩, ⟨shamt, 0, 5, 2⟩, ⟨rd, 0, 3, 7⟩, ⟨funct2, 0, 2, 10⟩,
    ⟨shamt, 5, 1, 12⟩, ⟨0b100, 0, 3, 13⟩]

def genCSrli : Gen (BitVec 16) := genCShift 0b00
def genCSrai : Gen (BitVec 16) := genCShift 0b01

def genCAndi : Gen (BitVec 16) := do
  let rd ← creg
  let imm ← imm6
  return parcel [⟨0b01, 0, 2, 0⟩, ⟨imm, 0, 5, 2⟩, ⟨rd, 0, 3, 7⟩, ⟨0b10, 0, 2, 10⟩,
    ⟨imm, 5, 1, 12⟩, ⟨0b100, 0, 3, 13⟩]

/-- C.SUB, C.XOR, C.OR and C.AND. -/
def genCAlu (funct2 : Word) : Gen (BitVec 16) := do
  let rd ← creg
  let rs2 ← creg
  return parcel [⟨0b01, 0, 2, 0⟩, ⟨rs2, 0, 3, 2⟩, ⟨funct2, 0, 2, 5⟩, ⟨rd, 0, 3, 7⟩,
    ⟨0b11, 0, 2, 10⟩, ⟨0, 0, 1, 12⟩, ⟨0b100, 0, 3, 13⟩]

def genCSub : Gen (BitVec 16) := genCAlu 0b00
def genCXor : Gen (BitVec 16) := genCAlu 0b01
def genCOr : Gen (BitVec 16) := genCAlu 0b10
def genCAnd : Gen (BitVec 16) := genCAlu 0b11

def genCJ : Gen (BitVec 16) := genCJump 0b101

/-- C.BEQZ and C.BNEZ. -/
def genCBranch (funct3 : Word) : Gen (BitVec 16) := do
  let rs1 ← creg
  let imm := (← srange (-128) 127) * 2
  return parcel [⟨0b01, 0, 2, 0⟩, ⟨imm, 5, 1, 2⟩, ⟨imm, 1, 2, 3⟩, ⟨imm, 6, 2, 5⟩, ⟨rs1, 0, 3, 7⟩,
    ⟨imm, 3, 2, 10⟩, ⟨imm, 8, 1, 12⟩, ⟨funct3, 0, 3, 13⟩]

def genCBeqz : Gen (BitVec 16) := genCBranch 0b110
def genCBnez : Gen (BitVec 16) := genCBranch 0b111

def genCSlli : Gen (BitVec 16) := do
  let rd ← regNz
  let shamt ← shamt
  return parcel [⟨0b10, 0, 2, 0⟩, ⟨shamt, 0, 5, 2⟩, ⟨rd, 0, 5, 7⟩, ⟨shamt, 5, 1, 12⟩,
    ⟨0b000, 0, 3, 13⟩]

/-- `rd` is not `x0`, which is reserved. -/
def genCLwsp : Gen (BitVec 16) := do
  let rd ← regNz
  let uimm := (← range 0 63) * 4
  return parcel [⟨0b10, 0, 2, 0⟩, ⟨uimm, 6, 2, 2⟩, ⟨uimm, 2, 3, 4⟩, ⟨rd, 0, 5, 7⟩,
    ⟨uimm, 5, 1, 12⟩, ⟨0b010, 0, 3, 13⟩]

/-- C.JR and C.JALR. -/
def genCJumpReg (link : Word) : Gen (BitVec 16) := do
  let rs1 ← regNz
  return parcel [⟨0b10, 0, 2, 0⟩, ⟨0, 0, 5, 2⟩, ⟨rs1, 0, 5, 7⟩, ⟨link, 0, 1, 12⟩,
    ⟨0b100, 0, 3, 13⟩]

/-- C.MV and C.ADD. -/
def genCRegReg (funct1 : Word) : Gen (BitVec 16) := do
  let rd ← regNz
  let rs2 ← regNz
  return parcel [⟨0b10, 0, 2, 0⟩, ⟨rs2, 0, 5, 2⟩, ⟨rd, 0, 5, 7⟩, ⟨funct1, 0, 1, 12⟩,
    ⟨0b100, 0, 3, 13⟩]

def genCJr : Gen (BitVec 16) := genCJumpReg 0
def genCMv : Gen (BitVec 16) := genCRegReg 0

def genCEbreak : Gen (BitVec 16) := pure 0x9002

def genCJalr : Gen (BitVec 16) := genCJumpReg 1
def genCAdd : Gen (BitVec 16) := genCRegReg 1

def genCSwsp : Gen (BitVec 16) := do
  let rs2 ← reg
  let uimm := (← range 0 63) * 4
  return parcel [⟨0b10, 0, 2, 0⟩, ⟨rs2, 0, 5, 2⟩, ⟨uimm, 6, 2, 7⟩, ⟨uimm, 2, 4, 9⟩,
    ⟨0b110, 0, 3, 13⟩]

/-- The instructions of the generator, in the order of the table. -/
inductive InstrType where
  -- quadrant 0
  | cAddi4spn | cLw | cSw
  -- quadrant 1
  | cNop | cAddi | cJal | cLi | cAddi16sp | cLui
  | cSrli | cSrai | cAndi | cSub | cXor | cOr | cAnd
  | cJ | cBeqz | cBnez
  -- quadrant 2
  | cSlli | cLwsp | cJr | cMv | cEbreak | cJalr | cAdd | cSwsp
  deriving DecidableEq, Repr

/-- The table `generate` indexes by the type. -/
def generators : List (Gen (BitVec 16)) :=
  [genCAddi4spn, genCLw, genCSw,
    genCNop, genCAddi, genCJal, genCLi,
    genCAddi16sp, genCLui,
    genCSrli, genCSrai, genCAndi,
    genCSub, genCXor, genCOr, genCAnd,
    genCJ, genCBeqz, genCBnez,
    genCSlli, genCLwsp, genCJr, genCMv,
    genCEbreak, genCJalr, genCAdd, genCSwsp]

/-- `generate(type)`: the mask does not matter. -/
def generate (type : InstrType) : Gen (BitVec 16) := Gen.nth generators type.ctorIdx

/-! ## HINTs

The forms of C.ADDI, C.LI, C.LUI, C.MV, C.ADD and C.SLLI with `rd = x0`, and the shifts by
zero. -/

/-- `((imm & 0x1F) << 2) | (((imm >> 5) & 0x1) << 12)`. -/
def ciImmBits (imm : Word) : Word :=
  ((imm &&& 0x1F) <<< 2) ||| (((imm >>> 5) &&& 0x1) <<< 12)

/-- C.ADDI to `x0`. -/
def genCAddiX0Hint : Gen (BitVec 16) := do
  let nzimm ← imm6Nz
  return u16 (0b01 ||| ciImmBits nzimm)

/-- C.LI to `x0`. -/
def genCLiX0Hint : Gen (BitVec 16) := do
  let imm ← imm6
  return u16 (((0b010 : Word) <<< 13) ||| 0b01 ||| ciImmBits imm)

/-- C.LUI to `x0`. -/
def genCLuiX0Hint : Gen (BitVec 16) := do
  let nzimm ← imm6Nz
  return u16 (((0b011 : Word) <<< 13) ||| 0b01 ||| ciImmBits nzimm)

/-- C.MV to `x0`. -/
def genCMvX0Hint : Gen (BitVec 16) := do
  return u16 (((0b100 : Word) <<< 13) ||| 0b10 ||| ((← regNz) <<< 2))

/-- C.ADD to `x0`. -/
def genCAddX0Hint : Gen (BitVec 16) := do
  return u16 (((0b100 : Word) <<< 13) ||| ((1 : Word) <<< 12) ||| 0b10 ||| ((← regNz) <<< 2))

/-- C.SLLI of `x0`. -/
def genCSlliX0Hint : Gen (BitVec 16) := do
  return u16 (0b10 ||| (((← range 0 31) &&& 0x1F) <<< 2))

/-- C.SLLI by zero. -/
def genCSlli64Hint : Gen (BitVec 16) := do
  return u16 (0b10 ||| ((← regNz) <<< 7))

/-- C.SRLI by zero. -/
def genCSrli64Hint : Gen (BitVec 16) := do
  return u16 (((0b100 : Word) <<< 13) ||| 0b01 ||| ((← creg) <<< 7))

/-- C.SRAI by zero. -/
def genCSrai64Hint : Gen (BitVec 16) := do
  return u16 (((0b100 : Word) <<< 13) ||| 0b01 ||| ((0b01 : Word) <<< 10) ||| ((← creg) <<< 7))

/-- The nine families of HINTs, in the order of the table. -/
inductive HintType where
  | cAddiX0 | cLiX0 | cLuiX0 | cMvX0 | cAddX0
  | cSlliX0 | cSlli64 | cSrli64 | cSrai64
  deriving DecidableEq, Repr

/-- The table `generate_hint` indexes by the family. -/
def hintGenerators : List (Gen (BitVec 16)) :=
  [genCAddiX0Hint, genCLiX0Hint, genCLuiX0Hint,
    genCMvX0Hint, genCAddX0Hint, genCSlliX0Hint,
    genCSlli64Hint, genCSrli64Hint, genCSrai64Hint]

/-- `generate_hint(type)`. -/
def generateHint (type : HintType) : Gen (BitVec 16) := Gen.nth hintGenerators type.ctorIdx

end Riscv.Rv32c.Opgen

import Riscv.Encoding

/- The compressed instruction set as an abbreviation: the 32-bit instruction
   each 16-bit parcel of RV32C and Zcf stands for, read off the format tables.
   Parcels that are reserved or belong to another extension stand for nothing.

   This is the purpose of the two compressed decoders, not a translation of
   them: it is written on the bits of the parcel and produces an encoded word. -/
namespace Riscv.Rvc

open Encoding

/-! ## Fields -/

/-- The two low bits. -/
def quadrant (p : BitVec 16) : BitVec 2 := p.extractLsb' 0 2

def funct3 (p : BitVec 16) : BitVec 3 := p.extractLsb' 13 3

def bit (p : BitVec 16) (i : Nat) : BitVec 1 := p.extractLsb' i 1

/-- A full register number. -/
def reg (p : BitVec 16) (lo : Nat) : BitVec 5 := p.extractLsb' lo 5

/-- A register number of the compressed formats: `x8` to `x15`. -/
def creg (p : BitVec 16) (lo : Nat) : BitVec 5 := 0b01#2 ++ p.extractLsb' lo 3

/-! ## Immediates

Each is listed from its most significant encoded bit down. -/

/-- `imm[5|4:0]` of CI. -/
def ciImm (p : BitVec 16) : BitVec 6 := bit p 12 ++ p.extractLsb' 2 5

/-- The shift amount of the CI and CB shifts. -/
def shamt (p : BitVec 16) : BitVec 5 := p.extractLsb' 2 5

/-- `nzuimm[9:2]` of C.ADDI4SPN. -/
def addi4spnImm (p : BitVec 16) : BitVec 8 :=
  p.extractLsb' 7 4 ++ p.extractLsb' 11 2 ++ bit p 5 ++ bit p 6

/-- `nzimm[9:4]` of C.ADDI16SP. -/
def addi16spImm (p : BitVec 16) : BitVec 6 :=
  bit p 12 ++ p.extractLsb' 3 2 ++ bit p 5 ++ bit p 2 ++ bit p 6

/-- `uimm[6:2]` of the register-based loads and stores. -/
def clImm (p : BitVec 16) : BitVec 5 := bit p 5 ++ p.extractLsb' 10 3 ++ bit p 6

/-- `uimm[7:2]` of the stack-pointer-based loads. -/
def lwspImm (p : BitVec 16) : BitVec 6 := p.extractLsb' 2 2 ++ bit p 12 ++ p.extractLsb' 4 3

/-- `uimm[7:2]` of the stack-pointer-based stores. -/
def swspImm (p : BitVec 16) : BitVec 6 := p.extractLsb' 7 2 ++ p.extractLsb' 9 4

/-- `imm[11:1]` of CJ. -/
def cjOff (p : BitVec 16) : BitVec 11 :=
  bit p 12 ++ bit p 8 ++ p.extractLsb' 9 2 ++ bit p 6 ++ bit p 7 ++ bit p 2 ++ bit p 11 ++
    p.extractLsb' 3 3

/-- `imm[8:1]` of the branches. -/
def cbOff (p : BitVec 16) : BitVec 8 :=
  bit p 12 ++ p.extractLsb' 5 2 ++ bit p 2 ++ p.extractLsb' 10 2 ++ p.extractLsb' 3 2

/-- A scaled unsigned offset as a twelve-bit immediate. -/
def scaled {n : Nat} (uimm : BitVec n) : BitVec 12 := (uimm ++ 0#2).setWidth 12

/-! ## Base instructions -/

def addi (rd rs1 : BitVec 5) (imm : BitVec 12) : Word := iType imm rs1 0b000 rd 0b0010011
def andi (rd rs1 : BitVec 5) (imm : BitVec 12) : Word := iType imm rs1 0b111 rd 0b0010011
def slli (rd rs1 shamt : BitVec 5) : Word := rType 0b0000000 shamt rs1 0b001 rd 0b0010011
def srli (rd rs1 shamt : BitVec 5) : Word := rType 0b0000000 shamt rs1 0b101 rd 0b0010011
def srai (rd rs1 shamt : BitVec 5) : Word := rType 0b0100000 shamt rs1 0b101 rd 0b0010011
def add (rd rs1 rs2 : BitVec 5) : Word := rType 0b0000000 rs2 rs1 0b000 rd 0b0110011
def sub (rd rs1 rs2 : BitVec 5) : Word := rType 0b0100000 rs2 rs1 0b000 rd 0b0110011
def xor (rd rs1 rs2 : BitVec 5) : Word := rType 0b0000000 rs2 rs1 0b100 rd 0b0110011
def or (rd rs1 rs2 : BitVec 5) : Word := rType 0b0000000 rs2 rs1 0b110 rd 0b0110011
def and (rd rs1 rs2 : BitVec 5) : Word := rType 0b0000000 rs2 rs1 0b111 rd 0b0110011
def lui (rd : BitVec 5) (imm : BitVec 20) : Word := uType imm rd 0b0110111
def jal (rd : BitVec 5) (off : BitVec 20) : Word := jType off rd 0b1101111
def jalr (rd rs1 : BitVec 5) (imm : BitVec 12) : Word := iType imm rs1 0b000 rd 0b1100111
def beq (rs1 rs2 : BitVec 5) (off : BitVec 12) : Word := bType off rs2 rs1 0b000 0b1100011
def bne (rs1 rs2 : BitVec 5) (off : BitVec 12) : Word := bType off rs2 rs1 0b001 0b1100011
def lw (rd rs1 : BitVec 5) (imm : BitVec 12) : Word := iType imm rs1 0b010 rd 0b0000011
def sw (rs2 rs1 : BitVec 5) (imm : BitVec 12) : Word := sType imm rs2 rs1 0b010 0b0100011
def flw (rd rs1 : BitVec 5) (imm : BitVec 12) : Word := iType imm rs1 0b010 rd 0b0000111
def fsw (rs2 rs1 : BitVec 5) (imm : BitVec 12) : Word := sType imm rs2 rs1 0b010 0b0100111
def ebreak : Word := iType 1 0 0b000 0 0b1110011

/-! ## Expansion -/

/-- Quadrant 0, for the word each parcel stands for. -/
def expand0 (p : BitVec 16) : Option Word :=
  if funct3 p = 0b000 then
    -- the parcel of all zeros is among those with a zero immediate
    if addi4spnImm p ≠ 0 then some (addi (creg p 2) 2 (scaled (addi4spnImm p))) else none
  else if funct3 p = 0b010 then some (lw (creg p 2) (creg p 7) (scaled (clImm p)))
  else if funct3 p = 0b110 then some (sw (creg p 2) (creg p 7) (scaled (clImm p)))
  else if funct3 p = 0b011 then some (flw (creg p 2) (creg p 7) (scaled (clImm p)))
  else if funct3 p = 0b111 then some (fsw (creg p 2) (creg p 7) (scaled (clImm p)))
  else none

/-- The CA and CB arithmetic of quadrant 1, by `p[11:10]`, `p[12]` and `p[6:5]`. -/
def expandAlu (p : BitVec 16) : Option Word :=
  let rd := creg p 7
  let rs2 := creg p 2
  if p.extractLsb' 10 2 = 0b00 then
    if bit p 12 = 0 then some (srli rd rd (shamt p)) else none
  else if p.extractLsb' 10 2 = 0b01 then
    if bit p 12 = 0 then some (srai rd rd (shamt p)) else none
  else if p.extractLsb' 10 2 = 0b10 then some (andi rd rd ((ciImm p).signExtend 12))
  else if bit p 12 = 0 then
    if p.extractLsb' 5 2 = 0b00 then some (sub rd rd rs2)
    else if p.extractLsb' 5 2 = 0b01 then some (xor rd rd rs2)
    else if p.extractLsb' 5 2 = 0b10 then some (or rd rd rs2)
    else some (and rd rd rs2)
  else none

/-- Quadrant 1. -/
def expand1 (p : BitVec 16) : Option Word :=
  -- C.NOP is the case rd = x0 of C.ADDI
  if funct3 p = 0b000 then some (addi (reg p 7) (reg p 7) ((ciImm p).signExtend 12))
  else if funct3 p = 0b001 then some (jal 1 ((cjOff p).signExtend 20))
  else if funct3 p = 0b010 then some (addi (reg p 7) 0 ((ciImm p).signExtend 12))
  else if funct3 p = 0b011 then
    if reg p 7 = 2 then
      if addi16spImm p ≠ 0 then some (addi 2 2 ((addi16spImm p ++ 0#4).signExtend 12)) else none
    else if ciImm p ≠ 0 then some (lui (reg p 7) ((ciImm p).signExtend 20))
    else none
  else if funct3 p = 0b100 then expandAlu p
  else if funct3 p = 0b101 then some (jal 0 ((cjOff p).signExtend 20))
  else if funct3 p = 0b110 then some (beq (creg p 7) 0 ((cbOff p).signExtend 12))
  else some (bne (creg p 7) 0 ((cbOff p).signExtend 12))

/-- The CR instructions of quadrant 2. -/
def expandCr (p : BitVec 16) : Option Word :=
  let rs1 := reg p 7
  let rs2 := reg p 2
  if bit p 12 = 0 then
    if rs2 = 0 then
      if rs1 ≠ 0 then some (jalr 0 rs1 0) else none
    else some (add rs1 0 rs2)
  else if rs1 = 0 ∧ rs2 = 0 then some ebreak
  else if rs2 = 0 then some (jalr 1 rs1 0)
  else some (add rs1 rs1 rs2)

/-- Quadrant 2. -/
def expand2 (p : BitVec 16) : Option Word :=
  if funct3 p = 0b000 then
    if bit p 12 = 0 then some (slli (reg p 7) (reg p 7) (shamt p)) else none
  else if funct3 p = 0b010 then
    if reg p 7 ≠ 0 then some (lw (reg p 7) 2 (scaled (lwspImm p))) else none
  else if funct3 p = 0b100 then expandCr p
  else if funct3 p = 0b110 then some (sw (reg p 2) 2 (scaled (swspImm p)))
  -- unlike C.LWSP, C.FLWSP may name register 0
  else if funct3 p = 0b011 then some (flw (reg p 7) 2 (scaled (lwspImm p)))
  else if funct3 p = 0b111 then some (fsw (reg p 2) 2 (scaled (swspImm p)))
  else none

/-- **The instruction a parcel of RV32C or Zcf abbreviates.** -/
def expand (p : BitVec 16) : Option Word :=
  if quadrant p = 0b00 then expand0 p
  else if quadrant p = 0b01 then expand1 p
  else if quadrant p = 0b10 then expand2 p
  else none

-- c.addi16sp sp, -64 is addi sp, sp, -64
example : expand 0x7139 = some 0xFC010113 := by decide
-- c.jalr a0 is jalr ra, 0(a0)
example : expand 0x9502 = some 0x000500E7 := by decide

end Riscv.Rvc

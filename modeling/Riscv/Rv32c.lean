import Riscv.Rv32i

/- RV32C: decoder and executor of the compressed integer instructions
   (`riscv_rv32c.hpp`). The executor is written independently of the base one;
   that the two agree is a theorem elsewhere, so nothing here is shared with
   RV32I but the text helpers of the mnemonics. -/
namespace Riscv.Rv32c

/-- The instructions of the three quadrants. -/
inductive InstrType where
  -- quadrant 0
  | cAddi4spn | cLw | cSw
  -- quadrant 1
  | cNop | cAddi | cJal | cLi | cAddi16sp | cLui
  | cSrli | cSrai | cAndi | cSub | cXor | cOr | cAnd
  | cJ | cBeqz | cBnez
  -- quadrant 2
  | cSlli | cLwsp | cJr | cMv | cEbreak | cJalr | cAdd | cSwsp
  | illegal
  deriving DecidableEq, Repr

/-- The registers are full indices, the immediate is extended and scaled. -/
structure DecodedInstr where
  type : InstrType
  rd : BitVec 8
  rs1 : BitVec 8
  rs2 : BitVec 8
  imm : Word
  raw : BitVec 16
  deriving DecidableEq, Repr

/-- The next pc is computed here, from the length of a parcel. -/
structure ExecResult where
  nextPc : Word
  branchTaken : Bool := false
  trap : Bool := false
  trapCause : Word := 0
  trapValue : Word := 0
  trapInfo : String := ""
  deriving DecidableEq, Repr

/-! ## Decoder -/

/-- `(instr >> lo) & mask`, promoted to `int`. -/
def field (instr : BitVec 16) (lo : Nat) (mask : Word) : Word :=
  (instr.setWidth 32 >>> lo) &&& mask

/-- The two low bits of a 32-bit word are both set. -/
def isCompressed (instr : BitVec 16) : Bool := decide (instr &&& 0x3 ≠ 0x3)

/-- Eight pieces of an even offset, then sign extension from bit 11. -/
def decodeCjImm (instr : BitVec 16) : Word :=
  let imm := (field instr 2 0x1 <<< 5) ||| (field instr 3 0x7 <<< 1) |||
    (field instr 6 0x1 <<< 7) ||| (field instr 7 0x1 <<< 6) |||
    (field instr 8 0x1 <<< 10) ||| (field instr 9 0x3 <<< 8) |||
    (field instr 11 0x1 <<< 4) ||| (field instr 12 0x1 <<< 11)
  if imm &&& 0x800 ≠ 0 then imm ||| 0xFFFFF000 else imm

/-- Five pieces of an even offset, then sign extension from bit 8. -/
def decodeCbImm (instr : BitVec 16) : Word :=
  let imm := (field instr 2 0x1 <<< 5) ||| (field instr 3 0x3 <<< 1) |||
    (field instr 5 0x3 <<< 6) ||| (field instr 10 0x3 <<< 3) |||
    (field instr 12 0x1 <<< 8)
  if imm &&& 0x100 ≠ 0 then imm ||| 0xFFFFFE00 else imm

/-- The six-bit signed immediate of the CI format. -/
def decodeCiImm (instr : BitVec 16) : Word :=
  let imm := field instr 2 0x1F ||| (field instr 12 0x1 <<< 5)
  if imm &&& 0x20 ≠ 0 then imm ||| 0xFFFFFFC0 else imm

/-- The word offset of C.LW and C.SW. -/
def decodeClImm (instr : BitVec 16) : Word :=
  (field instr 5 0x1 <<< 6) ||| (field instr 6 0x1 <<< 2) ||| (field instr 10 0x7 <<< 3)

/-- The offset of C.ADDI4SPN. -/
def decodeCiwImm (instr : BitVec 16) : Word :=
  (field instr 5 0x1 <<< 3) ||| (field instr 6 0x1 <<< 2) |||
    (field instr 7 0xF <<< 6) ||| (field instr 11 0x3 <<< 4)

/-- The `nzimm` of C.ADDI16SP, before sign extension. -/
def addi16spNzimm (instr : BitVec 16) : Word :=
  (field instr 2 0x1 <<< 5) ||| (field instr 3 0x3 <<< 7) ||| (field instr 5 0x1 <<< 6) |||
    (field instr 6 0x1 <<< 4) ||| (field instr 12 0x1 <<< 9)

/-- The offset of C.LWSP. -/
def decodeLwspImm (instr : BitVec 16) : Word :=
  (field instr 2 0x3 <<< 6) ||| (field instr 4 0x7 <<< 2) ||| (field instr 12 0x1 <<< 5)

/-- The offset of C.SWSP. -/
def decodeSwspImm (instr : BitVec 16) : Word :=
  (field instr 7 0x3 <<< 6) ||| (field instr 9 0xF <<< 2)

/-- A full five-bit register field. -/
def regField (instr : BitVec 16) (lo : Nat) : BitVec 8 := u8 (field instr lo 0x1F)

/-- A three-bit register field, naming `x8` to `x15`. -/
def cregField (instr : BitVec 16) (lo : Nat) : BitVec 8 := cregToReg (u8 (field instr lo 0x7))

/-- Quadrant 0, with the primed registers. -/
def decodeC0 (instr : BitVec 16) (d : DecodedInstr) : DecodedInstr :=
  let funct3 := field instr 13 0x7
  if funct3 = 0b000 then
    let imm := decodeCiwImm instr
    if imm ≠ 0 then { d with type := .cAddi4spn, rd := cregField instr 2, rs1 := 2, imm := imm }
    else d
  else if funct3 = 0b010 then
    { d with
      type := .cLw
      rd := cregField instr 2
      rs1 := cregField instr 7
      imm := decodeClImm instr }
  else if funct3 = 0b110 then
    { d with
      type := .cSw
      rs2 := cregField instr 2
      rs1 := cregField instr 7
      imm := decodeClImm instr }
  else d

/-- The register-register group of quadrant 1. -/
def decodeC1Alu (instr : BitVec 16) (d : DecodedInstr) : DecodedInstr :=
  let funct2 := field instr 10 0x3
  let d := { d with rd := cregField instr 7, rs1 := cregField instr 7 }
  if funct2 = 0b00 then
    -- shamt[5] = 1 is reserved on RV32
    if field instr 12 0x1 = 0 then { d with type := .cSrli, imm := field instr 2 0x1F } else d
  else if funct2 = 0b01 then
    if field instr 12 0x1 = 0 then { d with type := .cSrai, imm := field instr 2 0x1F } else d
  else if funct2 = 0b10 then { d with type := .cAndi, imm := decodeCiImm instr }
  else
    let d := { d with rs2 := cregField instr 2 }
    let funct2b := field instr 5 0x3
    if field instr 12 0x1 = 0 then
      if funct2b = 0b00 then { d with type := .cSub }
      else if funct2b = 0b01 then { d with type := .cXor }
      else if funct2b = 0b10 then { d with type := .cOr }
      else { d with type := .cAnd }
    else d

/-- Quadrant 1; C.JAL is there on RV32 only. -/
def decodeC1 (instr : BitVec 16) (d : DecodedInstr) : DecodedInstr :=
  let funct3 := field instr 13 0x7
  if funct3 = 0b000 then
    let d := { d with rd := regField instr 7, rs1 := regField instr 7, imm := decodeCiImm instr }
    { d with type := if d.rd = 0 then .cNop else .cAddi }
  else if funct3 = 0b001 then { d with type := .cJal, rd := 1, imm := decodeCjImm instr }
  else if funct3 = 0b010 then
    { d with type := .cLi, rd := regField instr 7, imm := decodeCiImm instr }
  else if funct3 = 0b011 then
    let d := { d with rd := regField instr 7 }
    if d.rd = 2 then
      -- nzimm = 0 is reserved, here and for C.LUI
      let nzimm := addi16spNzimm instr
      if nzimm ≠ 0 then
        { d with
          type := .cAddi16sp
          rs1 := 2
          imm := if nzimm &&& 0x200 ≠ 0 then nzimm ||| 0xFFFFFC00 else nzimm }
      else d
    else
      let nzimm6 := field instr 2 0x1F ||| (field instr 12 0x1 <<< 5)
      if nzimm6 ≠ 0 then
        let imm := nzimm6 <<< 12
        { d with
          type := .cLui
          imm := if instr &&& 0x1000 ≠ 0 then imm ||| 0xFFFC0000 else imm }
      else d
  else if funct3 = 0b100 then decodeC1Alu instr d
  else if funct3 = 0b101 then { d with type := .cJ, imm := decodeCjImm instr }
  else if funct3 = 0b110 then
    { d with type := .cBeqz, rs1 := cregField instr 7, imm := decodeCbImm instr }
  else { d with type := .cBnez, rs1 := cregField instr 7, imm := decodeCbImm instr }

/-- C.JR, C.MV, C.EBREAK, C.JALR and C.ADD share one `funct3`. -/
def decodeC2Reg (instr : BitVec 16) (d : DecodedInstr) : DecodedInstr :=
  let rs1 := regField instr 7
  let rs2 := regField instr 2
  if field instr 12 0x1 = 0 then
    if rs2 = 0 then
      -- rs1 = x0 is reserved
      if rs1 ≠ 0 then { d with type := .cJr, rs1 := rs1 } else d
    else { d with type := .cMv, rd := rs1, rs2 := rs2 }
  else if rs1 = 0 ∧ rs2 = 0 then { d with type := .cEbreak }
  else if rs2 = 0 then { d with type := .cJalr, rd := 1, rs1 := rs1 }
  else { d with type := .cAdd, rd := rs1, rs1 := rs1, rs2 := rs2 }

/-- Quadrant 2; `rs2` and bit 12 divide the last group. -/
def decodeC2 (instr : BitVec 16) (d : DecodedInstr) : DecodedInstr :=
  let funct3 := field instr 13 0x7
  if funct3 = 0b000 then
    if field instr 12 0x1 = 0 then
      { d with
        type := .cSlli
        rd := regField instr 7
        rs1 := regField instr 7
        imm := field instr 2 0x1F }
    else d
  else if funct3 = 0b010 then
    -- rd = x0 is reserved
    let rd := regField instr 7
    if rd ≠ 0 then { d with type := .cLwsp, rd := rd, rs1 := 2, imm := decodeLwspImm instr } else d
  else if funct3 = 0b100 then decodeC2Reg instr d
  else if funct3 = 0b110 then
    { d with type := .cSwsp, rs1 := 2, rs2 := regField instr 2, imm := decodeSwspImm instr }
  else d

/-- By quadrant; the all-zero parcel stays illegal. -/
def decode (instr : BitVec 16) : DecodedInstr :=
  let d : DecodedInstr := { raw := instr, type := .illegal, rd := 0, rs1 := 0, rs2 := 0, imm := 0 }
  let op := instr &&& 0x3
  if op = 0b00 then decodeC0 instr d
  else if op = 0b01 then decodeC1 instr d
  else if op = 0b10 then decodeC2 instr d
  else d

/-! ## Executor -/

/-- The only setting is whether accesses may be misaligned. -/
structure Executor where
  allowMisaligned : Bool := false
  deriving DecidableEq, Repr

namespace Executor

variable {β : Type} [Bus β]

/-- A word load into `rd`. -/
def doLoad32 (ex : Executor) (bus : β) (addr : Word) (result : ExecResult) (regs : RegFile)
    (rd : BitVec 8) : ExecResult × RegFile × β :=
  match MemAccess.load bus addr 4 ex.allowMisaligned with
  | (.ok val, bus) => (result, regs.write rd val, bus)
  | (.error e, bus) =>
    ({ result with
      trap := true
      trapCause := e.cause
      trapValue := e.tval
      trapInfo := MemAccess.loadError e.cause }, regs, bus)

def doStore32 (ex : Executor) (bus : β) (addr data : Word) (result : ExecResult)
    (regs : RegFile) : ExecResult × RegFile × β :=
  match MemAccess.store bus addr 4 data ex.allowMisaligned with
  | (.ok _, bus) => (result, regs, bus)
  | (.error e, bus) =>
    ({ result with
      trap := true
      trapCause := e.cause
      trapValue := e.tval
      trapInfo := MemAccess.storeError e.cause }, regs, bus)

/-- Every parcel is two bytes long, so a link register gets `pc + 2`. -/
def execute (ex : Executor) (instr : DecodedInstr) (regs : RegFile) (bus : β) (pc : Word) :
    ExecResult × RegFile × β :=
  let result : ExecResult := { nextPc := pc + 2 }
  match instr.type with
  | .cAddi4spn => (result, regs.write instr.rd (regs.read 2 + instr.imm), bus)
  | .cLw => ex.doLoad32 bus (regs.read instr.rs1 + instr.imm) result regs instr.rd
  | .cSw => ex.doStore32 bus (regs.read instr.rs1 + instr.imm) (regs.read instr.rs2) result regs
  | .cNop => (result, regs, bus)
  | .cAddi => (result, regs.write instr.rd (regs.read instr.rs1 + instr.imm), bus)
  | .cJal =>
    ({ result with nextPc := pc + instr.imm, branchTaken := true }, regs.write 1 (pc + 2), bus)
  | .cLi => (result, regs.write instr.rd instr.imm, bus)
  | .cAddi16sp => (result, regs.write 2 (regs.read 2 + instr.imm), bus)
  | .cLui => (result, regs.write instr.rd instr.imm, bus)
  | .cSrli =>
    (result, regs.write instr.rd (regs.read instr.rs1 >>> (instr.imm &&& 0x1F)), bus)
  | .cSrai =>
    (result, regs.write instr.rd ((regs.read instr.rs1).sshiftRight' (instr.imm &&& 0x1F)), bus)
  | .cAndi => (result, regs.write instr.rd (regs.read instr.rs1 &&& instr.imm), bus)
  | .cSub => (result, regs.write instr.rd (regs.read instr.rs1 - regs.read instr.rs2), bus)
  | .cXor => (result, regs.write instr.rd (regs.read instr.rs1 ^^^ regs.read instr.rs2), bus)
  | .cOr => (result, regs.write instr.rd (regs.read instr.rs1 ||| regs.read instr.rs2), bus)
  | .cAnd => (result, regs.write instr.rd (regs.read instr.rs1 &&& regs.read instr.rs2), bus)
  | .cJ => ({ result with nextPc := pc + instr.imm, branchTaken := true }, regs, bus)
  | .cBeqz =>
    (if regs.read instr.rs1 = 0 then
      { result with nextPc := pc + instr.imm, branchTaken := true } else result, regs, bus)
  | .cBnez =>
    (if regs.read instr.rs1 ≠ 0 then
      { result with nextPc := pc + instr.imm, branchTaken := true } else result, regs, bus)
  | .cSlli =>
    (result, regs.write instr.rd (regs.read instr.rs1 <<< (instr.imm &&& 0x1F)), bus)
  | .cLwsp => ex.doLoad32 bus (regs.read 2 + instr.imm) result regs instr.rd
  | .cJr =>
    ({ result with nextPc := regs.read instr.rs1 &&& ~~~1, branchTaken := true }, regs, bus)
  | .cMv => (result, regs.write instr.rd (regs.read instr.rs2), bus)
  | .cEbreak =>
    ({ result with
      trap := true
      trapCause := Exc.breakpoint
      trapValue := pc
      trapInfo := "C.EBREAK" }, regs, bus)
  -- the target is read before the link register is written (c.jalr ra)
  | .cJalr =>
    let target := regs.read instr.rs1 &&& ~~~1
    ({ result with nextPc := target, branchTaken := true }, regs.write 1 (pc + 2), bus)
  | .cAdd => (result, regs.write instr.rd (regs.read instr.rs1 + regs.read instr.rs2), bus)
  | .cSwsp => ex.doStore32 bus (regs.read 2 + instr.imm) (regs.read instr.rs2) result regs
  | .illegal =>
    ({ result with
      trap := true
      trapCause := Exc.illegalInstruction
      trapValue := instr.raw.setWidth 32
      trapInfo := "Illegal C instruction" }, regs, bus)

end Executor

/-! ## Mnemonics -/

def DecodedInstr.mnemonic (d : DecodedInstr) : String :=
  let rdS := regAbiName d.rd
  let rs1S := regAbiName d.rs1
  let rs2S := regAbiName d.rs2
  let immS := Rv32i.immStr d.imm
  match d.type with
  | .cAddi4spn => "c.addi4spn " ++ rdS ++ ", sp, " ++ immS
  | .cLw => "c.lw " ++ rdS ++ ", " ++ immS ++ "(" ++ rs1S ++ ")"
  | .cSw => "c.sw " ++ rs2S ++ ", " ++ immS ++ "(" ++ rs1S ++ ")"
  | .cNop => "c.nop"
  | .cAddi => "c.addi " ++ rdS ++ ", " ++ immS
  | .cJal => "c.jal " ++ immS
  | .cLi => "c.li " ++ rdS ++ ", " ++ immS
  | .cAddi16sp => "c.addi16sp sp, " ++ immS
  | .cLui => "c.lui " ++ rdS ++ ", " ++ Rv32i.immStr (d.imm.sshiftRight 12)
  | .cSrli => "c.srli " ++ rdS ++ ", " ++ immS
  | .cSrai => "c.srai " ++ rdS ++ ", " ++ immS
  | .cAndi => "c.andi " ++ rdS ++ ", " ++ immS
  | .cSub => "c.sub " ++ rdS ++ ", " ++ rs2S
  | .cXor => "c.xor " ++ rdS ++ ", " ++ rs2S
  | .cOr => "c.or " ++ rdS ++ ", " ++ rs2S
  | .cAnd => "c.and " ++ rdS ++ ", " ++ rs2S
  | .cJ => "c.j " ++ immS
  | .cBeqz => "c.beqz " ++ rs1S ++ ", " ++ immS
  | .cBnez => "c.bnez " ++ rs1S ++ ", " ++ immS
  | .cSlli => "c.slli " ++ rdS ++ ", " ++ immS
  | .cLwsp => "c.lwsp " ++ rdS ++ ", " ++ immS ++ "(sp)"
  | .cJr => "c.jr " ++ rs1S
  | .cMv => "c.mv " ++ rdS ++ ", " ++ rs2S
  | .cEbreak => "c.ebreak"
  | .cJalr => "c.jalr " ++ rs1S
  | .cAdd => "c.add " ++ rdS ++ ", " ++ rs2S
  | .cSwsp => "c.swsp " ++ rs2S ++ ", " ++ immS ++ "(sp)"
  | .illegal => "ILLEGAL"

end Riscv.Rv32c

import Riscv.Rv32f

/- Zcf: decoder and executor of C.FLW, C.FSW, C.FLWSP and C.FSWSP
   (`riscv_rv32fc.hpp`), which exist when both C and F do. -/
namespace Riscv.Rv32fc

open Rv32f (FRegFile)

/-- The four loads and stores of Zcf. -/
inductive InstrType where
  | cFlw | cFsw | cFlwsp | cFswsp
  | illegal
  deriving DecidableEq, Repr

/-- The registers are full indices, the offset is in bytes. -/
structure DecodedInstr where
  type : InstrType
  rd : BitVec 8
  rs1 : BitVec 8
  rs2 : BitVec 8
  uimm : Word
  raw : BitVec 16
  deriving DecidableEq, Repr

/-- A trap keeps its cause and address. -/
structure ExecResult where
  valid : Bool := true
  memoryRead : Bool := false
  memoryWritten : Bool := false
  trapCause : Word := 0
  trapValue : Word := 0
  error : String := ""
  deriving DecidableEq, Repr

/-! ## Decoder -/

/-- `(instr >> lo) & mask`, promoted to `int`. -/
def field (instr : BitVec 16) (lo : Nat) (mask : Word) : Word :=
  (instr.setWidth 32 >>> lo) &&& mask

/-- The module's own copy of the three-bit register map. -/
def cregToReg (creg : BitVec 8) : BitVec 8 := (creg &&& 0x7) + 8

/-- The offset of C.FLW and C.FSW. -/
def clUimm (instr : BitVec 16) : Word :=
  (field instr 10 0x7 <<< 3) ||| (field instr 6 0x1 <<< 2) ||| (field instr 5 0x1 <<< 6)

/-- The primed registers, with an offset of five bits. -/
def decodeQuadrant0 (d : DecodedInstr) (instr : BitVec 16) (funct3 : Word) : DecodedInstr :=
  if funct3 = 0b011 then
    { d with
      type := .cFlw
      rd := cregToReg (u8 (field instr 2 0x7))
      rs1 := cregToReg (u8 (field instr 7 0x7))
      uimm := clUimm instr }
  else if funct3 = 0b111 then
    { d with
      type := .cFsw
      rs2 := cregToReg (u8 (field instr 2 0x7))
      rs1 := cregToReg (u8 (field instr 7 0x7))
      uimm := clUimm instr }
  else d

/-- Unlike C.LWSP, C.FLWSP with rd = 0 is valid: `f0` is an ordinary register. -/
def decodeQuadrant2 (d : DecodedInstr) (instr : BitVec 16) (funct3 : Word) : DecodedInstr :=
  if funct3 = 0b011 then
    { d with
      type := .cFlwsp
      rd := u8 (field instr 7 0x1F)
      rs1 := 2
      uimm := (field instr 12 0x1 <<< 5) ||| (field instr 4 0x7 <<< 2) |||
        (field instr 2 0x3 <<< 6) }
  else if funct3 = 0b111 then
    { d with
      type := .cFswsp
      rs2 := u8 (field instr 2 0x1F)
      rs1 := 2
      uimm := (field instr 9 0xF <<< 2) ||| (field instr 7 0x3 <<< 6) }
  else d

/-- Quadrants 0 and 2; everything else stays illegal. -/
def decode (instr : BitVec 16) : DecodedInstr :=
  let d : DecodedInstr := { raw := instr, type := .illegal, rd := 0, rs1 := 0, rs2 := 0, uimm := 0 }
  let op := instr &&& 0x3
  let funct3 := field instr 13 0x7
  if op = 0b00 then decodeQuadrant0 d instr funct3
  else if op = 0b10 then decodeQuadrant2 d instr funct3
  else d

/-- The test the dispatcher makes; it looks at quadrant and `funct3`. -/
def isCompressedFloat (instr : BitVec 16) : Bool :=
  let op := instr &&& 0x3
  let funct3 := field instr 13 0x7
  if op = 0b00 then decide (funct3 = 0b011 ∨ funct3 = 0b111)
  else if op = 0b10 then decide (funct3 = 0b011 ∨ funct3 = 0b111)
  else false

/-! ## Executor -/

/-- The only setting is whether accesses may be misaligned. -/
structure Executor where
  allowMisaligned : Bool := false
  deriving DecidableEq, Repr

namespace Executor

variable {β : Type} [Bus β]

/-- The register is written when the load succeeds. -/
def doLoad32 (ex : Executor) (bus : β) (addr : Word) (fregs : FRegFile) (rd : BitVec 8) :
    ExecResult × FRegFile × β :=
  match MemAccess.load bus addr 4 ex.allowMisaligned with
  | (.ok val, bus) => ({ memoryRead := true }, fregs.writeBits rd val, bus)
  | (.error e, bus) =>
    ({ valid := false
       trapCause := e.cause
       trapValue := e.tval
       error := MemAccess.loadError e.cause }, fregs, bus)

/-- A failed store is a trap. -/
def doStore32 (ex : Executor) (bus : β) (addr data : Word) (fregs : FRegFile) :
    ExecResult × FRegFile × β :=
  match MemAccess.store bus addr 4 data ex.allowMisaligned with
  | (.ok _, bus) => ({ memoryWritten := true }, fregs, bus)
  | (.error e, bus) =>
    ({ valid := false
       trapCause := e.cause
       trapValue := e.tval
       error := MemAccess.storeError e.cause }, fregs, bus)

/-- The base is an integer register; the stack pointer is `x2`. -/
def execute (ex : Executor) (d : DecodedInstr) (iregs : RegFile) (fregs : FRegFile) (bus : β) :
    ExecResult × FRegFile × β :=
  match d.type with
  | .cFlw => ex.doLoad32 bus (iregs.read d.rs1 + d.uimm) fregs d.rd
  | .cFlwsp => ex.doLoad32 bus (iregs.read 2 + d.uimm) fregs d.rd
  | .cFsw => ex.doStore32 bus (iregs.read d.rs1 + d.uimm) (fregs.readBits d.rs2) fregs
  | .cFswsp => ex.doStore32 bus (iregs.read 2 + d.uimm) (fregs.readBits d.rs2) fregs
  | .illegal =>
    ({ valid := false
       trapCause := Exc.illegalInstruction
       trapValue := d.raw.setWidth 32
       error := "Illegal compressed F instruction" }, fregs, bus)

end Executor

/-! ## Mnemonics -/

def DecodedInstr.mnemonic (d : DecodedInstr) : String :=
  let uimmS := toString d.uimm.toNat
  match d.type with
  | .cFlw => "c.flw " ++ Rv32f.fregName d.rd ++ ", " ++ uimmS ++ "(" ++ regAbiName d.rs1 ++ ")"
  | .cFsw => "c.fsw " ++ Rv32f.fregName d.rs2 ++ ", " ++ uimmS ++ "(" ++ regAbiName d.rs1 ++ ")"
  | .cFlwsp => "c.flwsp " ++ Rv32f.fregName d.rd ++ ", " ++ uimmS ++ "(sp)"
  | .cFswsp => "c.fswsp " ++ Rv32f.fregName d.rs2 ++ ", " ++ uimmS ++ "(sp)"
  | .illegal => "ILLEGAL"

end Riscv.Rv32fc

import Riscv.Common

/- RV32I: decoder and executor of the base instruction set, with the decoding
   of MRET, SRET, SFENCE.VMA and WFI, whose state changes the CPU performs
   (`riscv_rv32i.hpp`).

   An executor takes the register file and the bus by reference in the source;
   here it returns them after the result record. The checks that come before a
   register write in the source come before it here: a jump to a misaligned
   target and a failed load leave the register file they were given. -/
namespace Riscv.Rv32i

/-- The instructions of the base and of the privileged architecture that share its opcodes. -/
inductive InstrType where
  -- R-type (register-register)
  | add | sub | sll | slt | sltu | xor | srl | sra | or | and
  -- I-type (immediate)
  | addi | slti | sltiu | xori | ori | andi | slli | srli | srai
  -- loads
  | lb | lh | lw | lbu | lhu
  -- stores
  | sb | sh | sw
  -- branches
  | beq | bne | blt | bge | bltu | bgeu
  -- upper immediate
  | lui | auipc
  -- jumps
  | jal | jalr
  -- system
  | ecall | ebreak | mret | sret | wfi | sfenceVma
  -- FENCE.I belongs to Zifencei
  | fence
  | illegal
  deriving DecidableEq, Repr

/-- The format decides how the immediate is put together. -/
inductive InstrFormat where
  | rType | iType | sType | bType | uType | jType | system | unknown
  deriving DecidableEq, Repr

/-- All the fields of a word; those its format lacks are read all the same. -/
structure DecodedInstr where
  type : InstrType
  format : InstrFormat
  rd : BitVec 8
  rs1 : BitVec 8
  rs2 : BitVec 8
  imm : Word
  funct3 : BitVec 8
  funct7 : BitVec 8
  raw : Word
  deriving DecidableEq, Repr

/-- What the executor asks of the CPU: the next pc, a trap, or one of the privileged actions. -/
structure ExecResult where
  nextPc : Word
  branchTaken : Bool := false
  trap : Bool := false
  trapCause : Word := 0
  trapValue : Word := 0
  mret : Bool := false
  sret : Bool := false
  sfenceVma : Bool := false
  wfi : Bool := false
  trapInfo : String := ""
  deriving DecidableEq, Repr

namespace Opcode
def lui : BitVec 8 := 0b0110111
def auipc : BitVec 8 := 0b0010111
def jal : BitVec 8 := 0b1101111
def jalr : BitVec 8 := 0b1100111
/-- The six conditional branches. -/
def branch : BitVec 8 := 0b1100011
def load : BitVec 8 := 0b0000011
def store : BitVec 8 := 0b0100011
/-- The register-immediate instructions. -/
def opImm : BitVec 8 := 0b0010011
/-- The register-register instructions. -/
def op : BitVec 8 := 0b0110011
/-- FENCE; FENCE.I belongs to Zifencei. -/
def misc : BitVec 8 := 0b0001111
/-- ECALL, EBREAK and the privileged instructions, and those of Zicsr. -/
def system : BitVec 8 := 0b1110011
end Opcode

/-! ## Decoder -/

/-- SRET and SFENCE.VMA decode only when S-mode is implemented. -/
structure Decoder where
  sModeEnabled : Bool := false
  deriving DecidableEq, Repr

/-- An arithmetic shift of the word as an `int32_t`. -/
def decodeIImm (instr : Word) : Word := instr.sshiftRight 20

/-- Two pieces, then sign extension from bit 11. -/
def decodeSImm (instr : Word) : Word :=
  let imm := (bits instr 31 25 <<< 5) ||| bits instr 11 7
  if imm &&& 0x800 ≠ 0 then imm ||| 0xFFFFF000 else imm

/-- Four pieces of an even offset, then sign extension from bit 12. -/
def decodeBImm (instr : Word) : Word :=
  let imm := (bits instr 31 31 <<< 12) ||| (bits instr 7 7 <<< 11) |||
    (bits instr 30 25 <<< 5) ||| (bits instr 11 8 <<< 1)
  if imm &&& 0x1000 ≠ 0 then imm ||| 0xFFFFE000 else imm

/-- Four pieces of an even offset, then sign extension from bit 20. -/
def decodeJImm (instr : Word) : Word :=
  let imm := (bits instr 31 31 <<< 20) ||| (bits instr 19 12 <<< 12) |||
    (bits instr 20 20 <<< 11) ||| (bits instr 30 21 <<< 1)
  if imm &&& 0x100000 ≠ 0 then imm ||| 0xFFE00000 else imm

namespace Decoder

/-- `funct3` 010 and 011 are reserved. -/
def decodeBranch (d : DecodedInstr) : DecodedInstr :=
  if d.funct3 = 0b000 then { d with type := .beq }
  else if d.funct3 = 0b001 then { d with type := .bne }
  else if d.funct3 = 0b100 then { d with type := .blt }
  else if d.funct3 = 0b101 then { d with type := .bge }
  else if d.funct3 = 0b110 then { d with type := .bltu }
  else if d.funct3 = 0b111 then { d with type := .bgeu }
  else d

/-- `funct3` 011, 110 and 111 are reserved. -/
def decodeLoad (d : DecodedInstr) : DecodedInstr :=
  if d.funct3 = 0b000 then { d with type := .lb }
  else if d.funct3 = 0b001 then { d with type := .lh }
  else if d.funct3 = 0b010 then { d with type := .lw }
  else if d.funct3 = 0b100 then { d with type := .lbu }
  else if d.funct3 = 0b101 then { d with type := .lhu }
  else d

/-- `funct3` from 011 on is reserved. -/
def decodeStore (d : DecodedInstr) : DecodedInstr :=
  if d.funct3 = 0b000 then { d with type := .sb }
  else if d.funct3 = 0b001 then { d with type := .sh }
  else if d.funct3 = 0b010 then { d with type := .sw }
  else d

/-- The shift immediates need `funct7` to be 0000000 (SLLI, SRLI) or 0100000
(SRAI); every other value is reserved on RV32. -/
def decodeOpImm (d : DecodedInstr) : DecodedInstr :=
  if d.funct3 = 0b000 then { d with type := .addi }
  else if d.funct3 = 0b010 then { d with type := .slti }
  else if d.funct3 = 0b011 then { d with type := .sltiu }
  else if d.funct3 = 0b100 then { d with type := .xori }
  else if d.funct3 = 0b110 then { d with type := .ori }
  else if d.funct3 = 0b111 then { d with type := .andi }
  else if d.funct3 = 0b001 then
    if d.funct7 = 0b0000000 then { d with type := .slli, imm := d.rs2.setWidth 32 } else d
  else if d.funct3 = 0b101 then
    if d.funct7 = 0b0000000 then { d with type := .srli, imm := d.rs2.setWidth 32 }
    else if d.funct7 = 0b0100000 then { d with type := .srai, imm := d.rs2.setWidth 32 }
    else d
  else d

/-- `funct7` 0100000 is SUB and SRA; other values belong to other extensions. -/
def decodeOp (d : DecodedInstr) : DecodedInstr :=
  if d.funct7 = 0b0000000 then
    if d.funct3 = 0b000 then { d with type := .add }
    else if d.funct3 = 0b001 then { d with type := .sll }
    else if d.funct3 = 0b010 then { d with type := .slt }
    else if d.funct3 = 0b011 then { d with type := .sltu }
    else if d.funct3 = 0b100 then { d with type := .xor }
    else if d.funct3 = 0b101 then { d with type := .srl }
    else if d.funct3 = 0b110 then { d with type := .or }
    else if d.funct3 = 0b111 then { d with type := .and }
    else d
  else if d.funct7 = 0b0100000 then
    if d.funct3 = 0b000 then { d with type := .sub }
    else if d.funct3 = 0b101 then { d with type := .sra }
    else d
  else d

/-- `funct3` 001 is FENCE.I; the rest of MISC-MEM is reserved. -/
def decodeFence (d : DecodedInstr) : DecodedInstr :=
  if d.funct3 = 0b000 then { d with type := .fence } else d

/-- Whole words are compared, but for the registers of SFENCE.VMA. -/
def decodeSystem (dec : Decoder) (d : DecodedInstr) : DecodedInstr :=
  if d.funct3 = 0 then
    if d.raw = 0x00000073 then { d with type := .ecall }
    else if d.raw = 0x00100073 then { d with type := .ebreak }
    else if d.raw = 0x30200073 then { d with type := .mret }
    else if d.raw = 0x10500073 then { d with type := .wfi }
    else if dec.sModeEnabled then
      if d.raw = 0x10200073 then { d with type := .sret }
      else if d.raw &&& 0xFE007FFF = 0x12000073 then { d with type := .sfenceVma }
      else d
    else d
  else d

/-- The word is illegal until a case claims it. -/
def decode (dec : Decoder) (instr : Word) : DecodedInstr :=
  let d : DecodedInstr :=
    { raw := instr
      type := .illegal
      format := .unknown
      rd := u8 (bits instr 11 7)
      rs1 := u8 (bits instr 19 15)
      rs2 := u8 (bits instr 24 20)
      funct3 := u8 (bits instr 14 12)
      funct7 := u8 (bits instr 31 25)
      imm := 0 }
  let op := u8 (bits instr 6 0)
  if op = Opcode.lui then
    { d with type := .lui, format := .uType, imm := instr &&& 0xFFFFF000 }
  else if op = Opcode.auipc then
    { d with type := .auipc, format := .uType, imm := instr &&& 0xFFFFF000 }
  else if op = Opcode.jal then
    { d with type := .jal, format := .jType, imm := decodeJImm instr }
  else if op = Opcode.jalr then
    -- the other funct3 values on this opcode are reserved
    let d := { d with format := .iType }
    if d.funct3 = 0b000 then { d with type := .jalr, imm := decodeIImm instr } else d
  else if op = Opcode.branch then
    decodeBranch { d with format := .bType, imm := decodeBImm instr }
  else if op = Opcode.load then
    decodeLoad { d with format := .iType, imm := decodeIImm instr }
  else if op = Opcode.store then
    decodeStore { d with format := .sType, imm := decodeSImm instr }
  else if op = Opcode.opImm then
    decodeOpImm { d with format := .iType, imm := decodeIImm instr }
  else if op = Opcode.op then
    decodeOp { d with format := .rType }
  else if op = Opcode.misc then
    decodeFence { d with format := .iType }
  else if op = Opcode.system then
    dec.decodeSystem { d with format := .system }
  else d

end Decoder

/-! ## Executor -/

/-- `cExtEnabled` selects IALIGN (16 when set), `priv` the ECALL cause. -/
structure Executor where
  cExtEnabled : Bool := true
  allowMisaligned : Bool := false
  priv : PrivilegeLevel := .machine
  deriving DecidableEq, Repr

namespace Executor

variable {β : Type} [Bus β]

/-- Only without C does bit 1 of a target matter. -/
def targetMisaligned (ex : Executor) (target : Word) : Bool :=
  !ex.cExtEnabled && decide (target &&& 0x2 ≠ 0)

/-- The trap of a jump reports its target. -/
def setFetchMisaligned (result : ExecResult) (target : Word) : ExecResult :=
  { result with
    trap := true
    trapCause := Exc.instrAddrMisaligned
    trapValue := target
    trapInfo := "Instruction address misaligned" }

/-- A branch that is taken checks its target as a jump does. -/
def takeBranch (ex : Executor) (result : ExecResult) (target : Word) : ExecResult :=
  if ex.targetMisaligned target then setFetchMisaligned result target
  else { result with nextPc := target, branchTaken := true }

/-- `do_load`: the value, or the trap the failed access becomes. -/
def doLoad (ex : Executor) (bus : β) (addr : Word) (size : Nat) (result : ExecResult) :
    Option Word × ExecResult × β :=
  match MemAccess.load bus addr size ex.allowMisaligned with
  | (.ok val, bus) => (some val, result, bus)
  | (.error e, bus) =>
    (none, { result with
      trap := true
      trapCause := e.cause
      trapValue := e.tval
      trapInfo := MemAccess.loadError e.cause }, bus)

/-- `do_store`: a failed access becomes a trap. -/
def doStore (ex : Executor) (bus : β) (addr : Word) (size : Nat) (data : Word)
    (result : ExecResult) : ExecResult × β :=
  match MemAccess.store bus addr size data ex.allowMisaligned with
  | (.ok _, bus) => (result, bus)
  | (.error e, bus) =>
    ({ result with
      trap := true
      trapCause := e.cause
      trapValue := e.tval
      trapInfo := MemAccess.storeError e.cause }, bus)

/-- A load that writes `f` of the value it reads to `rd`. -/
def loadInto (ex : Executor) (bus : β) (addr : Word) (size : Nat) (result : ExecResult)
    (regs : RegFile) (rd : BitVec 8) (f : Word → Word) : ExecResult × RegFile × β :=
  match ex.doLoad bus addr size result with
  | (some val, result, bus) => (result, regs.write rd (f val), bus)
  | (none, result, bus) => (result, regs, bus)

/-- The result of a comparison. -/
def ofBool (b : Bool) : Word := if b then 1 else 0

/-- One instruction at `pc`; it never writes the pc, but reports the next one. -/
def execute (ex : Executor) (instr : DecodedInstr) (regs : RegFile) (bus : β) (pc : Word) :
    ExecResult × RegFile × β :=
  let result : ExecResult := { nextPc := pc + 4 }
  let rs1Val := regs.read instr.rs1
  let rs2Val := regs.read instr.rs2
  match instr.type with
  | .lui => (result, regs.write instr.rd instr.imm, bus)
  | .auipc => (result, regs.write instr.rd (pc + instr.imm), bus)
  -- the target is checked before any register write
  | .jal =>
    let target := pc + instr.imm
    if ex.targetMisaligned target then (setFetchMisaligned result target, regs, bus)
    else
      ({ result with nextPc := target, branchTaken := true }, regs.write instr.rd (pc + 4), bus)
  | .jalr =>
    let target := (rs1Val + instr.imm) &&& ~~~1
    if ex.targetMisaligned target then (setFetchMisaligned result target, regs, bus)
    else
      ({ result with nextPc := target, branchTaken := true }, regs.write instr.rd (pc + 4), bus)
  | .beq =>
    (if rs1Val = rs2Val then ex.takeBranch result (pc + instr.imm) else result, regs, bus)
  | .bne =>
    (if rs1Val ≠ rs2Val then ex.takeBranch result (pc + instr.imm) else result, regs, bus)
  | .blt =>
    (if rs1Val.slt rs2Val then ex.takeBranch result (pc + instr.imm) else result, regs, bus)
  | .bge =>
    (if !rs1Val.slt rs2Val then ex.takeBranch result (pc + instr.imm) else result, regs, bus)
  | .bltu =>
    (if rs1Val.ult rs2Val then ex.takeBranch result (pc + instr.imm) else result, regs, bus)
  | .bgeu =>
    (if !rs1Val.ult rs2Val then ex.takeBranch result (pc + instr.imm) else result, regs, bus)
  | .lb =>
    ex.loadInto bus (rs1Val + instr.imm) 1 result regs instr.rd
      fun val => (val.setWidth 8).signExtend 32
  | .lh =>
    ex.loadInto bus (rs1Val + instr.imm) 2 result regs instr.rd
      fun val => (val.setWidth 16).signExtend 32
  | .lw => ex.loadInto bus (rs1Val + instr.imm) 4 result regs instr.rd fun val => val
  | .lbu => ex.loadInto bus (rs1Val + instr.imm) 1 result regs instr.rd fun val => val &&& 0xFF
  | .lhu => ex.loadInto bus (rs1Val + instr.imm) 2 result regs instr.rd fun val => val &&& 0xFFFF
  | .sb =>
    let (result, bus) := ex.doStore bus (rs1Val + instr.imm) 1 rs2Val result
    (result, regs, bus)
  | .sh =>
    let (result, bus) := ex.doStore bus (rs1Val + instr.imm) 2 rs2Val result
    (result, regs, bus)
  | .sw =>
    let (result, bus) := ex.doStore bus (rs1Val + instr.imm) 4 rs2Val result
    (result, regs, bus)
  | .addi => (result, regs.write instr.rd (rs1Val + instr.imm), bus)
  | .slti => (result, regs.write instr.rd (ofBool (rs1Val.slt instr.imm)), bus)
  | .sltiu => (result, regs.write instr.rd (ofBool (rs1Val.ult instr.imm)), bus)
  | .xori => (result, regs.write instr.rd (rs1Val ^^^ instr.imm), bus)
  | .ori => (result, regs.write instr.rd (rs1Val ||| instr.imm), bus)
  | .andi => (result, regs.write instr.rd (rs1Val &&& instr.imm), bus)
  | .slli => (result, regs.write instr.rd (rs1Val <<< (instr.imm &&& 0x1F)), bus)
  | .srli => (result, regs.write instr.rd (rs1Val >>> (instr.imm &&& 0x1F)), bus)
  | .srai => (result, regs.write instr.rd (rs1Val.sshiftRight' (instr.imm &&& 0x1F)), bus)
  | .add => (result, regs.write instr.rd (rs1Val + rs2Val), bus)
  | .sub => (result, regs.write instr.rd (rs1Val - rs2Val), bus)
  | .sll => (result, regs.write instr.rd (rs1Val <<< (rs2Val &&& 0x1F)), bus)
  | .slt => (result, regs.write instr.rd (ofBool (rs1Val.slt rs2Val)), bus)
  | .sltu => (result, regs.write instr.rd (ofBool (rs1Val.ult rs2Val)), bus)
  | .xor => (result, regs.write instr.rd (rs1Val ^^^ rs2Val), bus)
  | .srl => (result, regs.write instr.rd (rs1Val >>> (rs2Val &&& 0x1F)), bus)
  | .sra => (result, regs.write instr.rd (rs1Val.sshiftRight' (rs2Val &&& 0x1F)), bus)
  | .or => (result, regs.write instr.rd (rs1Val ||| rs2Val), bus)
  | .and => (result, regs.write instr.rd (rs1Val &&& rs2Val), bus)
  | .fence => (result, regs, bus)
  | .ecall =>
    let cause :=
      if ex.priv = .user then Exc.ecallFromU
      else if ex.priv = .supervisor then Exc.ecallFromS
      else Exc.ecallFromM
    ({ result with trap := true, trapCause := cause, trapValue := 0, trapInfo := "ECALL" },
      regs, bus)
  | .ebreak =>
    ({ result with
      trap := true
      trapCause := Exc.breakpoint
      trapValue := pc
      trapInfo := "EBREAK" }, regs, bus)
  -- the CPU performs the state changes of the privileged instructions
  | .mret => ({ result with mret := true }, regs, bus)
  | .sret => ({ result with sret := true }, regs, bus)
  | .sfenceVma => ({ result with sfenceVma := true }, regs, bus)
  | .wfi => ({ result with wfi := true }, regs, bus)
  | .illegal =>
    ({ result with
      trap := true
      trapCause := Exc.illegalInstruction
      trapValue := instr.raw
      trapInfo := "Illegal instruction" }, regs, bus)

end Executor

/-! ## Mnemonics -/

/-- `std::to_string` of an `int32_t`. -/
def immStr (imm : Word) : String := toString imm.toInt

namespace DecodedInstr

/-- `name rd, rs1, rs2`. -/
def rStr (d : DecodedInstr) (name : String) : String :=
  name ++ " " ++ regAbiName d.rd ++ ", " ++ regAbiName d.rs1 ++ ", " ++ regAbiName d.rs2

/-- `name rd, rs1, imm`. -/
def iStr (d : DecodedInstr) (name : String) : String :=
  name ++ " " ++ regAbiName d.rd ++ ", " ++ regAbiName d.rs1 ++ ", " ++ immStr d.imm

/-- `name rd, imm(rs1)`. -/
def loadStr (d : DecodedInstr) (name : String) : String :=
  name ++ " " ++ regAbiName d.rd ++ ", " ++ immStr d.imm ++ "(" ++ regAbiName d.rs1 ++ ")"

/-- `name rs2, imm(rs1)`. -/
def storeStr (d : DecodedInstr) (name : String) : String :=
  name ++ " " ++ regAbiName d.rs2 ++ ", " ++ immStr d.imm ++ "(" ++ regAbiName d.rs1 ++ ")"

/-- `name rs1, rs2, imm`; the offset, not the target. -/
def branchStr (d : DecodedInstr) (name : String) : String :=
  name ++ " " ++ regAbiName d.rs1 ++ ", " ++ regAbiName d.rs2 ++ ", " ++ immStr d.imm

/-- The upper immediates are shown as their twenty bits. -/
def mnemonic (d : DecodedInstr) : String :=
  match d.type with
  | .add => d.rStr "add"
  | .sub => d.rStr "sub"
  | .sll => d.rStr "sll"
  | .slt => d.rStr "slt"
  | .sltu => d.rStr "sltu"
  | .xor => d.rStr "xor"
  | .srl => d.rStr "srl"
  | .sra => d.rStr "sra"
  | .or => d.rStr "or"
  | .and => d.rStr "and"
  | .addi => d.iStr "addi"
  | .slti => d.iStr "slti"
  | .sltiu => d.iStr "sltiu"
  | .xori => d.iStr "xori"
  | .ori => d.iStr "ori"
  | .andi => d.iStr "andi"
  | .slli => d.iStr "slli"
  | .srli => d.iStr "srli"
  | .srai => d.iStr "srai"
  | .lb => d.loadStr "lb"
  | .lh => d.loadStr "lh"
  | .lw => d.loadStr "lw"
  | .lbu => d.loadStr "lbu"
  | .lhu => d.loadStr "lhu"
  | .sb => d.storeStr "sb"
  | .sh => d.storeStr "sh"
  | .sw => d.storeStr "sw"
  | .beq => d.branchStr "beq"
  | .bne => d.branchStr "bne"
  | .blt => d.branchStr "blt"
  | .bge => d.branchStr "bge"
  | .bltu => d.branchStr "bltu"
  | .bgeu => d.branchStr "bgeu"
  | .lui => "lui " ++ regAbiName d.rd ++ ", " ++ toString (d.imm >>> 12).toNat
  | .auipc => "auipc " ++ regAbiName d.rd ++ ", " ++ toString (d.imm >>> 12).toNat
  | .jal => "jal " ++ regAbiName d.rd ++ ", " ++ immStr d.imm
  | .jalr => d.iStr "jalr"
  | .ecall => "ecall"
  | .ebreak => "ebreak"
  | .mret => "mret"
  | .sret => "sret"
  | .sfenceVma => "sfence.vma"
  | .wfi => "wfi"
  | .fence => "fence"
  | .illegal => "ILLEGAL"

end DecodedInstr

end Riscv.Rv32i

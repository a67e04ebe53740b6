import Riscv.Common

/- RV32A: decoder and executor of LR.W, SC.W and the nine AMOs, and the load
   reservation they share with the CPU's trap entry (`riscv_rv32a.hpp`).

   The executor runs inside one `try` block: a throwing bus call abandons the
   instruction with whatever it did so far, which is nothing but the bus calls
   already made, since each body touches registers and reservation only after
   its last bus call. -/
namespace Riscv.Rv32a

/-- LR, SC and the nine read-modify-write operations. -/
inductive InstrType where
  | lrW | scW
  | amoswapW | amoaddW | amoxorW | amoandW | amoorW
  | amominW | amomaxW | amominuW | amomaxuW
  | illegal
  deriving DecidableEq, Repr

/-- The two ordering bits have no effect on one hart. -/
structure DecodedInstr where
  type : InstrType
  rd : BitVec 8
  rs1 : BitVec 8
  rs2 : BitVec 8
  aq : Bool
  rl : Bool
  funct5 : BitVec 8
  funct3 : BitVec 8
  raw : Word
  deriving DecidableEq, Repr

/-- A fault keeps its cause, so that the CPU can tell it from an illegal word. -/
structure ExecResult where
  valid : Bool := true
  loadedValue : Word := 0
  storedValue : Word := 0
  scSuccess : Bool := false
  memoryRead : Bool := false
  memoryWritten : Bool := false
  trapCause : Word := 0
  trapValue : Word := 0
  error : String := ""
  deriving DecidableEq, Repr

/-! ## Reservation -/

/-- One reservation, of a word. -/
structure ReservationSet where
  valid : Bool := false
  reservedAddr : Word := 0
  deriving DecidableEq, Repr

namespace ReservationSet

/-- A new reservation replaces the old one. -/
def reserve (_ : ReservationSet) (addr : Word) : ReservationSet :=
  { valid := true, reservedAddr := addr &&& ~~~0x3 }

/-- The reserved address stays behind, unused. -/
def clear (r : ReservationSet) : ReservationSet := { r with valid := false }

/-- SC asks for the very address LR reserved. -/
def check (r : ReservationSet) (addr : Word) : Bool :=
  r.valid && decide (addr &&& ~~~0x3 = r.reservedAddr)

/-- Whether LR was the last to touch the reservation. -/
def hasReservation (r : ReservationSet) : Bool := r.valid

def getAddress (r : ReservationSet) : Word := r.reservedAddr

end ReservationSet

namespace Opcode
def amo : BitVec 8 := 0b0101111
end Opcode

namespace Funct3
/-- The only width on RV32. -/
def w : BitVec 8 := 0b010
end Funct3

namespace Funct5
def lr : BitVec 8 := 0b00010
def sc : BitVec 8 := 0b00011
def amoswap : BitVec 8 := 0b00001
def amoadd : BitVec 8 := 0b00000
def amoxor : BitVec 8 := 0b00100
def amoand : BitVec 8 := 0b01100
def amoor : BitVec 8 := 0b01000
def amomin : BitVec 8 := 0b10000
def amomax : BitVec 8 := 0b10100
def amominu : BitVec 8 := 0b11000
def amomaxu : BitVec 8 := 0b11100
end Funct5

/-! ## Decoder -/

/-- The type `funct5` names. -/
def typeOf (funct5 : BitVec 8) : InstrType :=
  if funct5 = Funct5.lr then .lrW
  else if funct5 = Funct5.sc then .scW
  else if funct5 = Funct5.amoswap then .amoswapW
  else if funct5 = Funct5.amoadd then .amoaddW
  else if funct5 = Funct5.amoxor then .amoxorW
  else if funct5 = Funct5.amoand then .amoandW
  else if funct5 = Funct5.amoor then .amoorW
  else if funct5 = Funct5.amomin then .amominW
  else if funct5 = Funct5.amomax then .amomaxW
  else if funct5 = Funct5.amominu then .amominuW
  else if funct5 = Funct5.amomaxu then .amomaxuW
  else .illegal

/-- LR with an `rs2` that is not `x0` is illegal. -/
def decode (instr : Word) : DecodedInstr :=
  let d : DecodedInstr :=
    { raw := instr
      type := .illegal
      rd := u8 (bits instr 11 7)
      rs1 := u8 (bits instr 19 15)
      rs2 := u8 (bits instr 24 20)
      funct3 := u8 (bits instr 14 12)
      funct5 := u8 (bits instr 31 27)
      rl := instr.getLsbD 25
      aq := instr.getLsbD 26 }
  let op := u8 (bits instr 6 0)
  if op ≠ Opcode.amo ∨ d.funct3 ≠ Funct3.w then d
  else
    let d := { d with type := typeOf d.funct5 }
    -- LR.W requires rs2 = 0
    if d.type = .lrW ∧ d.rs2 ≠ 0 then { d with type := .illegal } else d

/-- Coarser than `decode`: the CPU claims the whole word-AMO space for A. -/
def isAtomicInstruction (instr : Word) : Bool :=
  decide (u8 (bits instr 6 0) = Opcode.amo) && decide (u8 (bits instr 14 12) = Funct3.w)

/-! ## Executor -/

variable {β : Type} [Bus β]

/-- The value an AMO stores, from the old memory word and the `rs2` value;
`none` for the types that are not AMOs. -/
def amoOp : InstrType → Option (Word → Word → Word)
  | .amoswapW => some fun _ rs2Val => rs2Val
  | .amoaddW => some fun oldVal rs2Val => oldVal + rs2Val
  | .amoxorW => some fun oldVal rs2Val => oldVal ^^^ rs2Val
  | .amoandW => some fun oldVal rs2Val => oldVal &&& rs2Val
  | .amoorW => some fun oldVal rs2Val => oldVal ||| rs2Val
  | .amominW => some fun oldVal rs2Val => if oldVal.slt rs2Val then oldVal else rs2Val
  | .amomaxW => some fun oldVal rs2Val => if rs2Val.slt oldVal then oldVal else rs2Val
  | .amominuW => some fun oldVal rs2Val => if oldVal.ult rs2Val then oldVal else rs2Val
  | .amomaxuW => some fun oldVal rs2Val => if rs2Val.ult oldVal then oldVal else rs2Val
  | .lrW | .scW | .illegal => none

/-- The `catch` block: LR.W faults as a load, everything else as a store. -/
def accessFault (instr : DecodedInstr) (addr : Word) : ExecResult :=
  { valid := false
    trapCause := if instr.type = .lrW then Exc.loadAccessFault else Exc.storeAccessFault
    trapValue := addr
    error := "Atomic access fault" }

/-- A load that fails reserves nothing. -/
def executeLr (instr : DecodedInstr) (regs : RegFile) (bus : β) (reservation : ReservationSet)
    (addr : Word) : ExecResult × RegFile × β × ReservationSet :=
  match Bus.read32 bus addr with
  | (.ok value, bus) =>
    ({ loadedValue := value, memoryRead := true },
      regs.write instr.rd value, bus, reservation.reserve addr)
  | (.error _, bus) => (accessFault instr addr, regs, bus, reservation)

/-- A bus error leaves the reservation standing; trap entry clears it. -/
def executeSc (instr : DecodedInstr) (regs : RegFile) (bus : β) (reservation : ReservationSet)
    (addr rs2Val : Word) : ExecResult × RegFile × β × ReservationSet :=
  if reservation.check addr then
    match Bus.write32 bus addr rs2Val with
    | (.ok _, bus) =>
      ({ scSuccess := true, storedValue := rs2Val, memoryWritten := true },
        regs.write instr.rd 0, bus, reservation.clear)
    | (.error _, bus) => (accessFault instr addr, regs, bus, reservation)
  else ({}, regs.write instr.rd 1, bus, reservation.clear)

/-- The read-modify-write body, one for the nine AMOs. -/
def executeAmo (op : Word → Word → Word) (instr : DecodedInstr) (regs : RegFile) (bus : β)
    (reservation : ReservationSet) (addr rs2Val : Word) :
    ExecResult × RegFile × β × ReservationSet :=
  match Bus.read32 bus addr with
  | (.error _, bus) => (accessFault instr addr, regs, bus, reservation)
  | (.ok oldVal, bus) =>
    match Bus.write32 bus addr (op oldVal rs2Val) with
    | (.error _, bus) => (accessFault instr addr, regs, bus, reservation)
    | (.ok _, bus) =>
      ({ loadedValue := oldVal
         storedValue := op oldVal rs2Val
         memoryRead := true
         memoryWritten := true },
        regs.write instr.rd oldVal, bus, reservation)

/-- The address is checked before the operation is chosen. -/
def execute (instr : DecodedInstr) (regs : RegFile) (bus : β) (reservation : ReservationSet) :
    ExecResult × RegFile × β × ReservationSet :=
  if instr.type = .illegal then
    ({ valid := false
       trapCause := Exc.illegalInstruction
       trapValue := instr.raw
       error := "Illegal A instruction" }, regs, bus, reservation)
  else
    let addr := regs.read instr.rs1
    -- atomics are never emulated when misaligned
    if addr &&& 0x3 ≠ 0 then
      ({ valid := false
         trapCause :=
           if instr.type = .lrW then Exc.loadAddrMisaligned else Exc.storeAddrMisaligned
         trapValue := addr
         error := "Misaligned atomic access" }, regs, bus, reservation)
    else
      let rs2Val := regs.read instr.rs2
      if instr.type = .lrW then executeLr instr regs bus reservation addr
      else if instr.type = .scW then executeSc instr regs bus reservation addr rs2Val
      else
        match amoOp instr.type with
        | some op => executeAmo op instr regs bus reservation addr rs2Val
        | none =>
          ({ valid := false
             trapCause := Exc.illegalInstruction
             trapValue := instr.raw
             error := "Unknown A instruction" }, regs, bus, reservation)

/-! ## Mnemonics -/

namespace DecodedInstr

/-- `.aq`, `.rl` or both. -/
def orderingSuffix (d : DecodedInstr) : String :=
  if d.aq && d.rl then ".aqrl" else if d.aq then ".aq" else if d.rl then ".rl" else ""

/-- `name rd, rs2, (rs1)`. -/
def amoStr (d : DecodedInstr) (name : String) : String :=
  name ++ d.orderingSuffix ++ " " ++ regAbiName d.rd ++ ", " ++ regAbiName d.rs2 ++
    ", (" ++ regAbiName d.rs1 ++ ")"

/-- LR.W shows no second source. -/
def mnemonic (d : DecodedInstr) : String :=
  match d.type with
  | .lrW =>
    "lr.w" ++ d.orderingSuffix ++ " " ++ regAbiName d.rd ++ ", (" ++ regAbiName d.rs1 ++ ")"
  | .scW => d.amoStr "sc.w"
  | .amoswapW => d.amoStr "amoswap.w"
  | .amoaddW => d.amoStr "amoadd.w"
  | .amoxorW => d.amoStr "amoxor.w"
  | .amoandW => d.amoStr "amoand.w"
  | .amoorW => d.amoStr "amoor.w"
  | .amominW => d.amoStr "amomin.w"
  | .amomaxW => d.amoStr "amomax.w"
  | .amominuW => d.amoStr "amominu.w"
  | .amomaxuW => d.amoStr "amomaxu.w"
  | .illegal => "ILLEGAL"

end DecodedInstr

end Riscv.Rv32a

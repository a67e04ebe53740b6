import Riscv.Rv32m
import Riscv.Rv32a
import Riscv.Rv32c
import Riscv.Rv32fc
import Riscv.Zicsr
import Riscv.Zext

/- The CPU: configuration, state, the dispatch of fetched and injected
   instructions to the executors, traps, interrupts and the counters
   (`riscv_cpu.hpp`).

   A method that changes the CPU and the result record returns both; a method
   that may use the bus returns the bus as well. The decoders and executors
   without state are the functions of their modules; those with flags are fields,
   synchronised from the configuration at the start of each step as in the
   source.

   Left out of the development as a whole: the read and write callbacks of the
   CSR file and the callback of FENCE.I, hooks the CPU leaves empty; the text of a
   bus fault; the random engine behind the opcode generators, whose results are
   about every draw; and the generators of A, F, Zcf, Zba, Zbb, Zbs, Zicond and
   Zifencei. -/
namespace Riscv

open Zicsr

/-! ## Configuration and result -/

/-- What is implemented, and where a reset starts; the base set is always there. -/
structure CPUConfig where
  enableMExtension : Bool := true
  enableAExtension : Bool := true
  enableFExtension : Bool := true
  enableCExtension : Bool := true
  enableZicsr : Bool := true
  enableZifencei : Bool := true
  enableZba : Bool := true
  enableZbb : Bool := true
  enableZbs : Bool := true
  enableZicond : Bool := true
  enableSMode : Bool := false
  enableUMode : Bool := false
  allowMisalignedData : Bool := false
  resetVector : Word := 0
  mtvecReset : Word := 0
  deriving DecidableEq, Repr

/-- What a step reports. -/
structure CPUExecResult where
  pc : Word
  nextPc : Word
  instruction : Word := 0
  /-- 2 for a compressed instruction, 4 for the others, 0 on an interrupt. -/
  instrSize : BitVec 8 := 4
  branchTaken : Bool := false
  /-- A synchronous exception was taken. -/
  trap : Bool := false
  /-- An interrupt was taken; no instruction was executed. -/
  interrupt : Bool := false
  trapCause : Word := 0
  trapValue : Word := 0
  trapInfo : String := ""
  mnemonic : String := ""
  deriving DecidableEq, Repr

/-- The architectural state of the hart, with the configuration its executors are given. -/
structure CPU where
  regs : RegFile := RegFile.zero
  fregs : Rv32f.FRegFile := Rv32f.FRegFile.zero
  csrs : CSRFile := CSRFile.new
  pc : Word := 0
  reservation : Rv32a.ReservationSet := {}
  config : CPUConfig
  iDecoder : Rv32i.Decoder := {}
  iExecutor : Rv32i.Executor := {}
  cExecutor : Rv32c.Executor := {}
  fExecutor : Rv32f.Executor := {}
  fcExecutor : Rv32fc.Executor := {}

namespace CPU

/-! ## Reset -/

/-- `sync_executor_config`: the executors get the flags of the configuration and the
privilege of the moment. -/
def syncExecutorConfig (cpu : CPU) : CPU :=
  { cpu with
    iDecoder := { sModeEnabled := cpu.config.enableSMode }
    iExecutor :=
      { cExtEnabled := cpu.config.enableCExtension
        allowMisaligned := cpu.config.allowMisalignedData
        priv := cpu.csrs.currentPrivilege }
    cExecutor := { allowMisaligned := cpu.config.allowMisalignedData }
    fExecutor := { allowMisaligned := cpu.config.allowMisalignedData }
    fcExecutor := { allowMisaligned := cpu.config.allowMisalignedData } }

/-- The misa word of a configuration: RV32, I and a bit for each enabled letter. -/
def misaValue (config : CPUConfig) : Word :=
  let misa : Word := 0x40000100
  let misa := if config.enableAExtension then misa ||| ((1 : Word) <<< 0) else misa
  let misa := if config.enableCExtension then misa ||| ((1 : Word) <<< 2) else misa
  let misa := if config.enableFExtension then misa ||| ((1 : Word) <<< 5) else misa
  let misa := if config.enableMExtension then misa ||| ((1 : Word) <<< 12) else misa
  let misa := if config.enableSMode then misa ||| ((1 : Word) <<< 18) else misa
  if config.enableUMode then misa ||| ((1 : Word) <<< 20) else misa

/-- The mask of mepc and sepc: IALIGN = 16 with C, 32 without. -/
def mepcMaskOf (config : CPUConfig) : Word :=
  if config.enableCExtension then ~~~1 else ~~~3

/-- The mode flags go in before `setFExtension`, which re-legalises mstatus with
the mask that depends on them. -/
def resetCsrs (csrs : CSRFile) (config : CPUConfig) : CSRFile :=
  let csrs := csrs.setSMode config.enableSMode
  let csrs := csrs.setUMode config.enableUMode
  let csrs := csrs.setFExtension config.enableFExtension
  let csrs := csrs.setMepcMask (mepcMaskOf config)
  let csrs := csrs.reset
  let csrs := csrs.write CsrAddr.mtvec config.mtvecReset
  csrs.setMisa (misaValue config)

/-- `reset`: everything but the configuration and the address of a cancelled reservation is
set anew. -/
def reset (cpu : CPU) : CPU :=
  { cpu with
    pc := cpu.config.resetVector
    regs := RegFile.zero
    fregs := Rv32f.FRegFile.zero
    reservation := cpu.reservation.clear
    csrs := resetCsrs cpu.csrs cpu.config }.syncExecutorConfig

/-- The constructor. -/
def new (config : CPUConfig) : CPU := reset { config := config }

/-! ## Interrupt lines -/

/-- A line drives its bit of mip directly, both ways. -/
def setMipBit (cpu : CPU) (bit : Word) (level : Bool) : CPU :=
  let mip := cpu.csrs.get CsrAddr.mip
  let mip := if level then mip ||| bit else mip &&& ~~~bit
  { cpu with csrs := cpu.csrs.set CsrAddr.mip mip }

def setExternalInterrupt (cpu : CPU) (level : Bool) : CPU := cpu.setMipBit CSRFile.miMei level
def setTimerInterrupt (cpu : CPU) (level : Bool) : CPU := cpu.setMipBit CSRFile.miMti level
def setSoftwareInterrupt (cpu : CPU) (level : Bool) : CPU := cpu.setMipBit CSRFile.miMsi level

def setSupervisorExternalInterrupt (cpu : CPU) (level : Bool) : CPU :=
  cpu.setMipBit CSRFile.miSei level

def setSupervisorTimerInterrupt (cpu : CPU) (level : Bool) : CPU :=
  cpu.setMipBit CSRFile.miSti level

def setSupervisorSoftwareInterrupt (cpu : CPU) (level : Bool) : CPU :=
  cpu.setMipBit CSRFile.miSsi level

/-! ## Trap entry -/

/-- Where a trap goes. In M-mode an exception is never delegated; interrupts are
kept from a lower target by `interruptGloballyEnabled`. -/
def delegateTarget (cpu : CPU) (cause : Word) (isInterrupt : Bool) : PrivilegeLevel :=
  if !cpu.config.enableSMode then .machine
  else if !isInterrupt ∧ cpu.csrs.currentPrivilege = .machine then .machine
  else
    let bit := (cause &&& 0x7FFFFFFF).toNat
    if bit ≥ 32 then .machine
    else
      let deleg := cpu.csrs.get (if isInterrupt then CsrAddr.mideleg else CsrAddr.medeleg)
      if (deleg >>> bit) &&& 1 ≠ 0 then .supervisor else .machine

/-- A level above the current one always takes its interrupts, one below never. -/
def interruptGloballyEnabled (cpu : CPU) (target : PrivilegeLevel) : Bool :=
  let cur := cpu.csrs.currentPrivilege
  if cur.toNat > target.toNat then false
  else if cur.toNat < target.toNat then true
  else
    let mstatus := cpu.csrs.get CsrAddr.mstatus
    if target = .machine then decide (mstatus &&& CSRFile.mstatusMie ≠ 0)
    else if target = .supervisor then decide (mstatus &&& CSRFile.mstatusSie ≠ 0)
    else false

/-- mstatus on entry to M: MPIE := MIE, MIE := 0, MPP := the old privilege. -/
def mTrapStatus (mstatus : Word) (priv : PrivilegeLevel) : Word :=
  let oldMie := decide (mstatus &&& CSRFile.mstatusMie ≠ 0)
  let mstatus :=
    mstatus &&& ~~~(CSRFile.mstatusMie ||| CSRFile.mstatusMpie ||| CSRFile.mstatusMpp)
  let mstatus := if oldMie then mstatus ||| CSRFile.mstatusMpie else mstatus
  let mpp := priv.toWord
  let mpp := if mpp > 3 then 3 else mpp
  mstatus ||| (mpp <<< 11)

/-- mstatus on entry to S: SPIE := SIE, SIE := 0, SPP := whether it was S. -/
def sTrapStatus (mstatus : Word) (priv : PrivilegeLevel) : Word :=
  let oldSie := decide (mstatus &&& CSRFile.mstatusSie ≠ 0)
  let mstatus :=
    mstatus &&& ~~~(CSRFile.mstatusSie ||| CSRFile.mstatusSpie ||| CSRFile.mstatusSpp)
  let mstatus := if oldSie then mstatus ||| CSRFile.mstatusSpie else mstatus
  let spp : Word := if priv = .supervisor then 1 else 0
  mstatus ||| (spp <<< 8)

/-- The CSR writes of `enter_m_trap`. -/
def enterMTrapCsrs (csrs : CSRFile) (cause tval trapPc : Word) : CSRFile :=
  let mstatus := mTrapStatus (csrs.get CsrAddr.mstatus) csrs.currentPrivilege
  let csrs := csrs.set CsrAddr.mstatus mstatus
  let csrs := csrs.setPrivilege .machine
  let csrs := csrs.write CsrAddr.mepc trapPc
  let csrs := csrs.set CsrAddr.mcause cause
  csrs.set CsrAddr.mtval tval

/-- The CSR writes of `enter_s_trap`. -/
def enterSTrapCsrs (csrs : CSRFile) (cause tval trapPc : Word) : CSRFile :=
  let mstatus := sTrapStatus (csrs.get CsrAddr.mstatus) csrs.currentPrivilege
  let csrs := csrs.set CsrAddr.mstatus mstatus
  let csrs := csrs.setPrivilege .supervisor
  let csrs := csrs.write CsrAddr.sepc trapPc
  let csrs := csrs.set CsrAddr.scause cause
  csrs.set CsrAddr.stval tval

/-- `enter_m_trap`: a trap cancels the reservation. -/
def enterMTrap (cpu : CPU) (cause tval trapPc : Word) : CPU :=
  { cpu with
    reservation := cpu.reservation.clear
    csrs := enterMTrapCsrs cpu.csrs cause tval trapPc }

/-- `enter_s_trap`: the same for S. -/
def enterSTrap (cpu : CPU) (cause tval trapPc : Word) : CPU :=
  { cpu with
    reservation := cpu.reservation.clear
    csrs := enterSTrapCsrs cpu.csrs cause tval trapPc }

/-- An exception goes to BASE, also in vectored mode. -/
def takeException (cpu : CPU) (result : CPUExecResult) (cause tval : Word) (info : String) :
    CPUExecResult × CPU :=
  let result :=
    { result with trap := true, trapCause := cause, trapValue := tval, trapInfo := info }
  if cpu.delegateTarget cause false = .supervisor then
    let cpu := cpu.enterSTrap cause tval cpu.pc
    ({ result with nextPc := cpu.csrs.get CsrAddr.stvec &&& ~~~3 }, cpu)
  else
    let cpu := cpu.enterMTrap cause tval cpu.pc
    ({ result with nextPc := cpu.csrs.get CsrAddr.mtvec &&& ~~~3 }, cpu)

/-! ## Interrupts -/

/-- The scan order: MEI, MSI, MTI, SEI, SSI, STI. -/
def interruptPriority : List Nat := [11, 3, 7, 9, 1, 5]

/-- The mcause word of an interrupt. -/
def interruptCause (code : Nat) : Word := Exc.interruptBit ||| BitVec.ofNat 32 code

/-- BASE, or BASE + 4 * code in vectored mode. -/
def vectorTarget (tvec : Word) (code : Nat) : Word :=
  let base := tvec &&& ~~~3
  if tvec &&& 0x3 = 1 then base + 4 * BitVec.ofNat 32 code else base

/-- The pc saved is that of the instruction that was not executed. -/
def deliverInterrupt (cpu : CPU) (result : CPUExecResult) (code : Nat)
    (target : PrivilegeLevel) : CPUExecResult × CPU :=
  let cause := interruptCause code
  let result :=
    { result with
      interrupt := true
      trapCause := cause
      trapValue := 0
      trapInfo := "Interrupt"
      instrSize := 0 }
  if target = .supervisor then
    let cpu := cpu.enterSTrap cause 0 cpu.pc
    ({ result with nextPc := vectorTarget (cpu.csrs.get CsrAddr.stvec) code }, cpu)
  else
    let cpu := cpu.enterMTrap cause 0 cpu.pc
    ({ result with nextPc := vectorTarget (cpu.csrs.get CsrAddr.mtvec) code }, cpu)

/-- One pass over the codes: the first passes over those targeting M, the second
over those targeting S. -/
def scanInterrupts (cpu : CPU) (result : CPUExecResult) (pending : Word) (pass : Nat) :
    List Nat → Option (CPUExecResult × CPU)
  | [] => none
  | code :: codes =>
    let target := cpu.delegateTarget (interruptCause code) true
    if pending &&& ((1 : Word) <<< code) = 0 then cpu.scanInterrupts result pending pass codes
    else if decide (pass = 0) != decide (target = .machine) then
      cpu.scanInterrupts result pending pass codes
    else if !cpu.interruptGloballyEnabled target then
      cpu.scanInterrupts result pending pass codes
    else some (cpu.deliverInterrupt result code target)

/-- `take_pending_interrupt`: the interrupts for M are looked at before those for S. -/
def takePendingInterrupt (cpu : CPU) (result : CPUExecResult) : Option (CPUExecResult × CPU) :=
  let pending := cpu.csrs.get CsrAddr.mip &&& cpu.csrs.get CsrAddr.mie
  if pending = 0 then none
  else
    match cpu.scanInterrupts result pending 0 interruptPriority with
    | some taken => some taken
    | none => cpu.scanInterrupts result pending 1 interruptPriority

/-! ## Returns from traps -/

/-- mstatus after MRET: MIE := MPIE, MPIE := 1, MPP := the least privileged mode;
MPRV := 0 unless MPP was M. -/
def mretStatus (mstatus : Word) (hasUMode : Bool) : Word :=
  let mpp := (mstatus >>> 11) &&& 3
  let mpie := decide (mstatus &&& CSRFile.mstatusMpie ≠ 0)
  let mstatus := mstatus &&& ~~~CSRFile.mstatusMie
  let mstatus := if mpie then mstatus ||| CSRFile.mstatusMie else mstatus
  let mstatus := mstatus ||| CSRFile.mstatusMpie
  let mstatus := mstatus &&& ~~~CSRFile.mstatusMpp
  let mppReset : Word := if hasUMode then 0 else 3
  let mstatus := mstatus ||| (mppReset <<< 11)
  if mpp ≠ 3 then mstatus &&& ~~~CSRFile.mstatusMprv else mstatus

/-- The privilege MRET returns to. -/
def mretPrivilege (mstatus : Word) : PrivilegeLevel :=
  let mpp := (mstatus >>> 11) &&& 3
  if mpp = 0 then .user else if mpp = 1 then .supervisor else .machine

/-- mstatus after SRET: SIE := SPIE, SPIE := 1, SPP := U, MPRV := 0. -/
def sretStatus (mstatus : Word) : Word :=
  let spie := decide (mstatus &&& CSRFile.mstatusSpie ≠ 0)
  let mstatus := mstatus &&& ~~~CSRFile.mstatusSie
  let mstatus := if spie then mstatus ||| CSRFile.mstatusSie else mstatus
  let mstatus := mstatus ||| CSRFile.mstatusSpie
  let mstatus := mstatus &&& ~~~CSRFile.mstatusSpp
  mstatus &&& ~~~CSRFile.mstatusMprv

/-- SPP is one bit, so SRET goes to U or to S. -/
def sretPrivilege (mstatus : Word) : PrivilegeLevel :=
  if mstatus &&& CSRFile.mstatusSpp ≠ 0 then .supervisor else .user

/-- The CSR writes of `do_mret`. -/
def mretCsrs (csrs : CSRFile) : CSRFile :=
  let mstatus := csrs.get CsrAddr.mstatus
  (csrs.set CsrAddr.mstatus (mretStatus mstatus csrs.uModeEnabled)).setPrivilege
    (mretPrivilege mstatus)

/-- The CSR writes of `do_sret`. -/
def sretCsrs (csrs : CSRFile) : CSRFile :=
  let mstatus := csrs.get CsrAddr.mstatus
  (csrs.set CsrAddr.mstatus (sretStatus mstatus)).setPrivilege (sretPrivilege mstatus)

/-- `do_mret`: the target is mepc, read after the return was made. -/
def doMret (cpu : CPU) (result : CPUExecResult) : CPUExecResult × CPU :=
  let cpu := { cpu with csrs := mretCsrs cpu.csrs }
  ({ result with nextPc := cpu.csrs.get CsrAddr.mepc, branchTaken := true }, cpu)

/-- `do_sret`: the target is sepc. -/
def doSret (cpu : CPU) (result : CPUExecResult) : CPUExecResult × CPU :=
  let cpu := { cpu with csrs := sretCsrs cpu.csrs }
  ({ result with nextPc := cpu.csrs.get CsrAddr.sepc, branchTaken := true }, cpu)

/-! ## Counters -/

/-- A 64-bit counter kept in two CSRs, incremented. -/
def bumpCounter (csrs : CSRFile) (lo hi : BitVec 16) : CSRFile :=
  let count : BitVec 64 := ((csrs.get hi).setWidth 64 <<< 32) ||| (csrs.get lo).setWidth 64
  let count := count + 1
  (csrs.set lo (count.setWidth 32)).set hi ((count >>> 32).setWidth 32)

/-- Every step counts. -/
def bumpCycle (csrs : CSRFile) : CSRFile := bumpCounter csrs CsrAddr.mcycle CsrAddr.mcycleh

/-- A step that retires an instruction counts. -/
def bumpInstret (csrs : CSRFile) : CSRFile :=
  bumpCounter csrs CsrAddr.minstret CsrAddr.minstreth

/-- An instruction that traps does not retire. -/
def finishStep (cpu : CPU) (result : CPUExecResult) : CPU :=
  let csrs := bumpCycle cpu.csrs
  { cpu with
    pc := result.nextPc
    csrs := if result.trap then csrs else bumpInstret csrs }

/-! ## Dispatch -/

/-- The end of a dispatch branch: an invalid execution becomes an exception. -/
def trapUnless (cpu : CPU) (valid : Bool) (result : CPUExecResult) (cause tval : Word)
    (error : String) : CPUExecResult × CPU :=
  if valid then (result, cpu) else cpu.takeException result cause tval error

/-- As in the branches after it: decode, execute, and trap on an error. -/
def executeZifencei (cpu : CPU) (instr : Word) (result : CPUExecResult) : CPUExecResult × CPU :=
  let decoded := Zifencei.decode instr
  let result := { result with mnemonic := decoded.mnemonic }
  let exec := Zifencei.execute decoded
  cpu.trapUnless exec.valid result Exc.illegalInstruction instr exec.error

/-- satp is out of reach of S-mode while TVM is set. -/
def satpBlocked (cpu : CPU) (decoded : Zicsr.DecodedCSRInstr) : Bool :=
  decide (decoded.csr = CsrAddr.satp) && cpu.config.enableSMode &&
    decide (cpu.csrs.currentPrivilege = .supervisor) &&
    decide (cpu.csrs.get CsrAddr.mstatus &&& CSRFile.mstatusTvm ≠ 0)

/-- An error is an illegal instruction whose value is the word. -/
def executeZicsr (cpu : CPU) (instr : Word) (result : CPUExecResult) : CPUExecResult × CPU :=
  let decoded := Zicsr.decode instr
  if cpu.satpBlocked decoded then
    cpu.takeException result Exc.illegalInstruction instr "SATP access blocked by TVM"
  else
    let result := { result with mnemonic := decoded.mnemonic }
    let (exec, regs, csrs) := Zicsr.execute decoded cpu.regs cpu.csrs
    let cpu := { cpu with regs := regs, csrs := csrs }
    cpu.trapUnless exec.valid result exec.exceptionCause exec.trapValue exec.error

def executeM (cpu : CPU) (instr : Word) (result : CPUExecResult) : CPUExecResult × CPU :=
  let decoded := Rv32m.decode instr
  let result := { result with mnemonic := decoded.mnemonic }
  let (exec, regs) := Rv32m.execute decoded cpu.regs
  let cpu := { cpu with regs := regs }
  cpu.trapUnless exec.valid result Exc.illegalInstruction instr exec.error

def executeZba (cpu : CPU) (instr : Word) (result : CPUExecResult) : CPUExecResult × CPU :=
  let decoded := Zba.decode instr
  let result := { result with mnemonic := decoded.mnemonic }
  let (exec, regs) := Zba.execute decoded cpu.regs
  let cpu := { cpu with regs := regs }
  cpu.trapUnless exec.valid result Exc.illegalInstruction instr exec.error

def executeZbb (cpu : CPU) (instr : Word) (result : CPUExecResult) : CPUExecResult × CPU :=
  let decoded := Zbb.decode instr
  let result := { result with mnemonic := decoded.mnemonic }
  let (exec, regs) := Zbb.execute decoded cpu.regs
  let cpu := { cpu with regs := regs }
  cpu.trapUnless exec.valid result Exc.illegalInstruction instr exec.error

def executeZbs (cpu : CPU) (instr : Word) (result : CPUExecResult) : CPUExecResult × CPU :=
  let decoded := Zbs.decode instr
  let result := { result with mnemonic := decoded.mnemonic }
  let (exec, regs) := Zbs.execute decoded cpu.regs
  let cpu := { cpu with regs := regs }
  cpu.trapUnless exec.valid result Exc.illegalInstruction instr exec.error

def executeZicond (cpu : CPU) (instr : Word) (result : CPUExecResult) : CPUExecResult × CPU :=
  let decoded := Zicond.decode instr
  let result := { result with mnemonic := decoded.mnemonic }
  let (exec, regs) := Zicond.execute decoded cpu.regs
  let cpu := { cpu with regs := regs }
  cpu.trapUnless exec.valid result Exc.illegalInstruction instr exec.error

/-- What follows the base executor: the privilege checks and state changes of
MRET, SRET, SFENCE.VMA and WFI, and the executor's own traps. -/
def finishBase (cpu : CPU) (instr : Word) (exec : Rv32i.ExecResult) (result : CPUExecResult) :
    CPUExecResult × CPU :=
  let priv := cpu.csrs.currentPrivilege
  let mstatus := cpu.csrs.get CsrAddr.mstatus
  if exec.mret then
    if priv ≠ .machine then
      cpu.takeException result Exc.illegalInstruction instr "MRET executed outside M-mode"
    else cpu.doMret result
  else if exec.sret then
    if !cpu.config.enableSMode ∨ priv = .user ∨
        (priv = .supervisor ∧ mstatus &&& CSRFile.mstatusTsr ≠ 0) then
      cpu.takeException result Exc.illegalInstruction instr "SRET not allowed"
    else cpu.doSret result
  else if exec.sfenceVma then
    -- without an MMU a legal SFENCE.VMA does nothing
    if priv = .user ∨ (priv = .supervisor ∧ mstatus &&& CSRFile.mstatusTvm ≠ 0) then
      cpu.takeException result Exc.illegalInstruction instr "SFENCE.VMA not allowed"
    else (result, cpu)
  else if exec.wfi then
    if priv = .user ∨ (priv = .supervisor ∧ mstatus &&& CSRFile.mstatusTw ≠ 0) then
      cpu.takeException result Exc.illegalInstruction instr "WFI not allowed"
    else (result, cpu)
  else cpu.trapUnless (!exec.trap) result exec.trapCause exec.trapValue exec.trapInfo

/-- The decoder whose mnemonic `disasm` shows, in the dispatch order. -/
def mnemonic32 (cpu : CPU) (instr : Word) : String :=
  let config := cpu.config
  if config.enableZifencei && Zifencei.isZifenceiInstruction instr then
    (Zifencei.decode instr).mnemonic
  else if config.enableZicsr && Zicsr.isCsrInstruction instr then (Zicsr.decode instr).mnemonic
  else if config.enableMExtension && Rv32m.isMInstruction instr then (Rv32m.decode instr).mnemonic
  else if config.enableAExtension && Rv32a.isAtomicInstruction instr then
    (Rv32a.decode instr).mnemonic
  else if config.enableFExtension && Rv32f.isFInstruction instr then (Rv32f.decode instr).mnemonic
  else if config.enableZba && Zba.isZbaInstruction instr then (Zba.decode instr).mnemonic
  else if config.enableZbb && Zbb.isZbbInstruction instr then (Zbb.decode instr).mnemonic
  else if config.enableZbs && Zbs.isZbsInstruction instr then (Zbs.decode instr).mnemonic
  else if config.enableZicond && Zicond.isZicondInstruction instr then
    (Zicond.decode instr).mnemonic
  else (cpu.iDecoder.decode instr).mnemonic

section Bus
variable {β : Type} [Bus β]

/-- The executor decides between access faults and illegal instructions. -/
def executeA (cpu : CPU) (instr : Word) (bus : β) (result : CPUExecResult) :
    CPUExecResult × CPU × β :=
  let decoded := Rv32a.decode instr
  let result := { result with mnemonic := decoded.mnemonic }
  let (exec, regs, bus, reservation) := Rv32a.execute decoded cpu.regs bus cpu.reservation
  let cpu := { cpu with regs := regs, reservation := reservation }
  let (result, cpu) := cpu.trapUnless exec.valid result exec.trapCause exec.trapValue exec.error
  (result, cpu, bus)

/-- The last branch of the dispatch. -/
def executeBase (cpu : CPU) (instr : Word) (bus : β) (result : CPUExecResult) :
    CPUExecResult × CPU × β :=
  let decoded := cpu.iDecoder.decode instr
  let result := { result with mnemonic := decoded.mnemonic }
  let (exec, regs, bus) := cpu.iExecutor.execute decoded cpu.regs bus cpu.pc
  let cpu := { cpu with regs := regs }
  let result := { result with nextPc := exec.nextPc, branchTaken := exec.branchTaken }
  let (result, cpu) := cpu.finishBase instr exec result
  (result, cpu, bus)

/-- The executor computes the next pc, so its jumps need no case here. -/
def executeC (cpu : CPU) (cInstr : BitVec 16) (bus : β) (result : CPUExecResult) :
    CPUExecResult × CPU × β :=
  let decoded := Rv32c.decode cInstr
  let result := { result with mnemonic := decoded.mnemonic }
  let (exec, regs, bus) := cpu.cExecutor.execute decoded cpu.regs bus cpu.pc
  let cpu := { cpu with regs := regs }
  let result := { result with nextPc := exec.nextPc, branchTaken := exec.branchTaken }
  let (result, cpu) :=
    cpu.trapUnless (!exec.trap) result exec.trapCause exec.trapValue exec.trapInfo
  (result, cpu, bus)

/-- Zcf moves data only; the pc goes past the parcel. -/
def executeFc (cpu : CPU) (cInstr : BitVec 16) (bus : β) (result : CPUExecResult) :
    CPUExecResult × CPU × β :=
  let decoded := Rv32fc.decode cInstr
  let result := { result with mnemonic := decoded.mnemonic }
  let (exec, fregs, bus) := cpu.fcExecutor.execute decoded cpu.regs cpu.fregs bus
  let cpu := { cpu with fregs := fregs }
  let result := { result with nextPc := cpu.pc + 2 }
  let (result, cpu) := cpu.trapUnless exec.valid result exec.trapCause exec.trapValue exec.error
  (result, cpu, bus)

/-- Zcf is asked before C: their encodings share quadrants. -/
def executeCompressed (cpu : CPU) (cInstr : BitVec 16) (bus : β) (result : CPUExecResult) :
    CPUExecResult × CPU × β :=
  if cpu.config.enableFExtension && Rv32fc.isCompressedFloat cInstr then
    cpu.executeFc cInstr bus result
  else cpu.executeC cInstr bus result

variable [Rv32f.HostFloat]

/-- fcsr is read into the executor's view before and written back after, also
when the instruction traps. -/
def executeF (cpu : CPU) (instr : Word) (bus : β) (result : CPUExecResult) :
    CPUExecResult × CPU × β :=
  let decoded := Rv32f.decode instr
  let result := { result with mnemonic := decoded.mnemonic }
  let fcsr := Rv32f.FCSR.write {} (cpu.csrs.get CsrAddr.fcsr)
  let state : Rv32f.FState β := { iregs := cpu.regs, fregs := cpu.fregs, bus := bus }
  let (exec, state, fcsr) := cpu.fExecutor.execute decoded state fcsr
  let cpu :=
    { cpu with
      regs := state.iregs
      fregs := state.fregs
      csrs := cpu.csrs.set CsrAddr.fcsr (fcsr.read &&& 0xFF) }
  let (result, cpu) := cpu.trapUnless exec.valid result exec.trapCause exec.trapValue exec.error
  (result, cpu, state.bus)

/-- The dispatch order of the source; a disabled extension falls through. -/
def execute32bit (cpu : CPU) (instr : Word) (bus : β) (result : CPUExecResult) :
    CPUExecResult × CPU × β :=
  let result := { result with nextPc := cpu.pc + 4 }
  let config := cpu.config
  if config.enableZifencei && Zifencei.isZifenceiInstruction instr then
    let (result, cpu) := cpu.executeZifencei instr result
    (result, cpu, bus)
  else if config.enableZicsr && Zicsr.isCsrInstruction instr then
    let (result, cpu) := cpu.executeZicsr instr result
    (result, cpu, bus)
  else if config.enableMExtension && Rv32m.isMInstruction instr then
    let (result, cpu) := cpu.executeM instr result
    (result, cpu, bus)
  else if config.enableAExtension && Rv32a.isAtomicInstruction instr then
    cpu.executeA instr bus result
  else if config.enableFExtension && Rv32f.isFInstruction instr then
    cpu.executeF instr bus result
  else if config.enableZba && Zba.isZbaInstruction instr then
    let (result, cpu) := cpu.executeZba instr result
    (result, cpu, bus)
  else if config.enableZbb && Zbb.isZbbInstruction instr then
    let (result, cpu) := cpu.executeZbb instr result
    (result, cpu, bus)
  else if config.enableZbs && Zbs.isZbsInstruction instr then
    let (result, cpu) := cpu.executeZbs instr result
    (result, cpu, bus)
  else if config.enableZicond && Zicond.isZicondInstruction instr then
    let (result, cpu) := cpu.executeZicond instr result
    (result, cpu, bus)
  else cpu.executeBase instr bus result

/-- Execution of an instruction already fetched, before `finishStep`. -/
def executeParcels (cpu : CPU) (instr : Word) (is32bit : Bool) (bus : β)
    (result : CPUExecResult) : CPUExecResult × CPU × β :=
  if !is32bit then
    let result := { result with instrSize := 2 }
    if !cpu.config.enableCExtension then
      let (result, cpu) :=
        cpu.takeException { result with mnemonic := "ILLEGAL" } Exc.illegalInstruction
          (instr &&& 0xFFFF) "Illegal instruction (C disabled)"
      (result, cpu, bus)
    else cpu.executeCompressed (u16 instr) bus result
  else cpu.execute32bit instr bus result

/-- The instruction is executed and the step brought to its end. -/
def executeFetched (cpu : CPU) (instr : Word) (is32bit : Bool) (bus : β)
    (result : CPUExecResult) : CPUExecResult × CPU × β :=
  let (result, cpu, bus) := cpu.executeParcels instr is32bit bus result
  (result, cpu.finishStep result, bus)

/-! ## Stepping -/

/-- The result record at the start of a step. -/
def initResult (cpu : CPU) : CPUExecResult := { pc := cpu.pc, nextPc := cpu.pc }

/-- The prologue of both steps: `some` when an interrupt was taken and the step
is over. -/
def beginStep (cpu : CPU) : Option (CPUExecResult × CPU) :=
  let cpu := cpu.syncExecutorConfig
  match cpu.takePendingInterrupt cpu.initResult with
  | some (result, cpu) =>
    some (result, { cpu with pc := result.nextPc, csrs := bumpCycle cpu.csrs })
  | none => none

/-- The end of a step whose fetch failed at `addr`. -/
def fetchFault (cpu : CPU) (result : CPUExecResult) (addr : Word) : CPUExecResult × CPU :=
  let (result, cpu) :=
    cpu.takeException result Exc.instrAccessFault addr "Instruction access fault"
  (result, cpu.finishStep result)

/-- The two parcels of an instruction; the address when a fetch fails. The
second is fetched only for a 32-bit encoding. -/
def fetch (bus : β) (pc : Word) : Except Word (Word × Bool) × β :=
  match Bus.fetch16 bus pc with
  | (.error _, bus) => (.error pc, bus)
  | (.ok parcel0, bus) =>
    if parcel0 &&& 0x3 = 0x3 then
      match Bus.fetch16 bus (pc + 2) with
      | (.error _, bus) => (.error (pc + 2), bus)
      | (.ok parcel1, bus) =>
        (.ok (parcel0.setWidth 32 ||| (parcel1.setWidth 32 <<< 16), true), bus)
    else (.ok (parcel0.setWidth 32, false), bus)

/-- `step(bus)`. -/
def step (cpu : CPU) (bus : β) : CPUExecResult × CPU × β :=
  match cpu.beginStep with
  | some (result, cpu) => (result, cpu, bus)
  | none =>
    let cpu := cpu.syncExecutorConfig
    match fetch bus cpu.pc with
    | (.error addr, bus) =>
      let (result, cpu) := cpu.fetchFault cpu.initResult addr
      (result, cpu, bus)
    | (.ok (instr, is32bit), bus) =>
      cpu.executeFetched instr is32bit bus { cpu.initResult with instruction := instr }

/-- `step(bus, opcode)`: no fetch. -/
def stepOpcode (cpu : CPU) (bus : β) (opcode : Word) : CPUExecResult × CPU × β :=
  match cpu.beginStep with
  | some (result, cpu) => (result, cpu, bus)
  | none =>
    let cpu := cpu.syncExecutorConfig
    cpu.executeFetched opcode (decide (opcode &&& 0x3 = 0x3)) bus
      { cpu.initResult with instruction := opcode }

/-- `run`: the number of steps taken and the machine after them. -/
def run (cpu : CPU) (bus : β) (maxInstructions : Nat) (stopOnTrap : Bool) : Nat × CPU × β :=
  match maxInstructions with
  | 0 => (0, cpu, bus)
  | n + 1 =>
    let (result, cpu, bus) := cpu.step bus
    if stopOnTrap && (result.trap || result.interrupt) then (1, cpu, bus)
    else
      let (count, cpu, bus) := cpu.run bus n stopOnTrap
      (count + 1, cpu, bus)

/-- Reads with the data methods, and never faults. -/
def disasm (cpu : CPU) (bus : β) (addr : Word) : String × CPU × β :=
  let cpu := { cpu with iDecoder := { sModeEnabled := cpu.config.enableSMode } }
  match Bus.read16 bus addr with
  | (.error _, bus) => ("<fetch fault>", cpu, bus)
  | (.ok lo, bus) =>
    if lo &&& 0x3 ≠ 0x3 then
      if !cpu.config.enableCExtension then ("ILLEGAL", cpu, bus)
      else if cpu.config.enableFExtension && Rv32fc.isCompressedFloat lo then
        ((Rv32fc.decode lo).mnemonic, cpu, bus)
      else ((Rv32c.decode lo).mnemonic, cpu, bus)
    else
      match Bus.read16 bus (addr + 2) with
      | (.error _, bus) => ("<fetch fault>", cpu, bus)
      | (.ok hi, bus) =>
        (cpu.mnemonic32 (lo.setWidth 32 ||| (hi.setWidth 32 <<< 16)), cpu, bus)

end Bus

end CPU

end Riscv

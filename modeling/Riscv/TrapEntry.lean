import Riscv.CsrInvariant
import Riscv.BusCalls
import Riscv.PcAlign

/- Trap entry, once for both levels and both kinds of trap.

   A trap goes to M or to S. `TrapEntered` says what entering it does to the CSR
   file: the registers of the level are written, mstatus is pushed, nothing else
   moves. Exceptions and interrupts differ in how the level is chosen and in the
   address the pc goes to, and share this statement. -/
namespace Riscv

open Zicsr Warl

/-! ## The registers of a level -/

namespace PrivilegeLevel

/-- xepc; a trap goes to M or S only. -/
def epc : PrivilegeLevel → BitVec 16
  | supervisor => CsrAddr.sepc
  | _ => CsrAddr.mepc

/-- xcause. -/
def causeCsr : PrivilegeLevel → BitVec 16
  | supervisor => CsrAddr.scause
  | _ => CsrAddr.mcause

/-- xtval. -/
def tvalCsr : PrivilegeLevel → BitVec 16
  | supervisor => CsrAddr.stval
  | _ => CsrAddr.mtval

/-- xtvec. -/
def tvec : PrivilegeLevel → BitVec 16
  | supervisor => CsrAddr.stvec
  | _ => CsrAddr.mtvec

/-- The bit of mstatus that is xIE. -/
def ieBit : PrivilegeLevel → Nat
  | supervisor => 1
  | _ => 3

/-- The bit of mstatus that is xPIE. -/
def pieBit : PrivilegeLevel → Nat
  | supervisor => 5
  | _ => 7

/-- The value of the xPP field of mstatus. -/
def previous (target : PrivilegeLevel) (mstatus : Word) : Word :=
  match target with
  | supervisor => (mstatus >>> 8) &&& 1
  | _ => (mstatus >>> 11) &&& 3

/-- The mstatus fields a trap to the level changes: xIE, xPIE and xPP. -/
def trapFields : PrivilegeLevel → Word
  | supervisor => sTrapFields
  | _ => mTrapFields

/-- The CSRs a trap to the level writes. -/
def trapCsrs (target : PrivilegeLevel) : List (BitVec 16) :=
  [CsrAddr.mstatus, target.epc, target.causeCsr, target.tvalCsr]

end PrivilegeLevel

/-! ## The push of mstatus -/

/-- xPIE := xIE, xIE := 0, xPP := the old privilege, and no other bit moves. -/
structure StatusPushed (target priv : PrivilegeLevel) (old new : Word) : Prop where
  pie : new.getLsbD target.pieBit = old.getLsbD target.ieBit
  ie : new.getLsbD target.ieBit = false
  pp : target.previous new = priv.toWord
  others : Agree target.trapFields new old

/-- The bit of mstatus a one-bit test of the source reads. -/
theorem decide_mie (m : Word) : decide (m &&& CSRFile.mstatusMie ≠ 0) = m.getLsbD 3 :=
  BitVec.decide_and_twoPow_ne (by decide) m

theorem decide_sie (m : Word) : decide (m &&& CSRFile.mstatusSie ≠ 0) = m.getLsbD 1 :=
  BitVec.decide_and_twoPow_ne (by decide) m

theorem mTrapStatus_pushed (m : Word) (p : PrivilegeLevel) :
    StatusPushed .machine p m (CPU.mTrapStatus m p) := by
  refine ⟨?_, ?_, ?_, mTrapStatus_agree m p⟩ <;>
    unfold CPU.mTrapStatus <;>
    dsimp only [PrivilegeLevel.pieBit, PrivilegeLevel.ieBit, PrivilegeLevel.previous] <;>
    rw [decide_mie]
  · cases m.getLsbD 3 <;> cases p <;>
      simp [CSRFile.mstatusMie, CSRFile.mstatusMpie, CSRFile.mstatusMpp,
        PrivilegeLevel.toWord, PrivilegeLevel.toNat]
  · cases m.getLsbD 3 <;> cases p <;>
      simp [CSRFile.mstatusMie, CSRFile.mstatusMpie, CSRFile.mstatusMpp,
        PrivilegeLevel.toWord, PrivilegeLevel.toNat]
  · have hfield : ∀ x : Word, (x >>> 11) &&& 3 = _ := fun x => BitVec.ushiftRight_and_three x 11
    rw [hfield]
    cases m.getLsbD 3 <;> cases p <;>
      simp [CSRFile.mstatusMie, CSRFile.mstatusMpie, CSRFile.mstatusMpp,
        PrivilegeLevel.toWord, PrivilegeLevel.toNat]

/-- SPP is one bit: only U and S can be saved in it. -/
theorem sTrapStatus_pushed (m : Word) {p : PrivilegeLevel} (hp : p = .user ∨ p = .supervisor) :
    StatusPushed .supervisor p m (CPU.sTrapStatus m p) := by
  refine ⟨?_, ?_, ?_, sTrapStatus_agree m p⟩ <;>
    unfold CPU.sTrapStatus <;>
    dsimp only [PrivilegeLevel.pieBit, PrivilegeLevel.ieBit, PrivilegeLevel.previous] <;>
    rw [decide_sie]
  · cases m.getLsbD 1 <;> rcases hp with rfl | rfl <;>
      simp [CSRFile.mstatusSie, CSRFile.mstatusSpie, CSRFile.mstatusSpp]
  · cases m.getLsbD 1 <;> rcases hp with rfl | rfl <;>
      simp [CSRFile.mstatusSie, CSRFile.mstatusSpie, CSRFile.mstatusSpp]
  · have hfield : ∀ x : Word, (x >>> 8) &&& 1 = _ := fun x => BitVec.ushiftRight_and_one x 8
    rw [hfield]
    cases m.getLsbD 1 <;> rcases hp with rfl | rfl <;>
      simp [CSRFile.mstatusSie, CSRFile.mstatusSpie, CSRFile.mstatusSpp,
        PrivilegeLevel.toWord, PrivilegeLevel.toNat]

/-! ## Entering a trap -/

/-- The flags of a CSR file, fixed at reset. -/
structure SameFlags (old new : CSRFile) : Prop where
  fExtension : new.fExtension = old.fExtension
  sModeEnabled : new.sModeEnabled = old.sModeEnabled
  uModeEnabled : new.uModeEnabled = old.uModeEnabled
  mepcMask : new.mepcMask = old.mepcMask

/-- What entering a trap to `target` does to the CSR file. -/
structure TrapEntered (target : PrivilegeLevel) (cause tval pc : Word) (old new : CSRFile) :
    Prop where
  privilege : new.currentPrivilege = target
  epc : new.get target.epc = pc &&& old.mepcMask
  cause : new.get target.causeCsr = cause
  tval : new.get target.tvalCsr = tval
  status : StatusPushed target old.currentPrivilege (old.get CsrAddr.mstatus)
    (new.get CsrAddr.mstatus)
  flags : SameFlags old new
  others : ∀ a, a ∉ target.trapCsrs → new.csrs a = old.csrs a

theorem TrapEntered.epc_aligned {target : PrivilegeLevel} {cause tval pc : Word}
    {old new : CSRFile} {config : CPUConfig} (h : TrapEntered target cause tval pc old new)
    (hmask : old.mepcMask = CPU.mepcMaskOf config)
    (hpc : Aligned config.enableCExtension pc) : new.get target.epc = pc := by
  rw [h.epc, hmask]
  exact (legal_of_aligned hpc).and_eq

theorem enterMTrapCsrs_entered (csrs : CSRFile) (cause tval pc : Word) :
    TrapEntered .machine cause tval pc csrs (CPU.enterMTrapCsrs csrs cause tval pc) := by
  refine ⟨rfl, rfl, rfl, rfl, mTrapStatus_pushed _ _, ⟨rfl, rfl, rfl, rfl⟩, ?_⟩
  intro a ha
  simp only [PrivilegeLevel.trapCsrs, PrivilegeLevel.epc, PrivilegeLevel.causeCsr,
    PrivilegeLevel.tvalCsr, List.mem_cons, List.not_mem_nil, or_false, not_or] at ha
  unfold CPU.enterMTrapCsrs
  dsimp only
  rw [set_csrs_ne _ _ ha.2.2.2, set_csrs_ne _ _ ha.2.2.1, write_mepc, set_csrs_ne _ _ ha.2.1,
    CSRFile.setPrivilege_csrs, set_csrs_ne _ _ ha.1]

theorem enterSTrapCsrs_entered {csrs : CSRFile}
    (hpriv : csrs.currentPrivilege = .user ∨ csrs.currentPrivilege = .supervisor)
    (cause tval pc : Word) :
    TrapEntered .supervisor cause tval pc csrs (CPU.enterSTrapCsrs csrs cause tval pc) := by
  refine ⟨rfl, rfl, rfl, rfl, sTrapStatus_pushed _ hpriv, ⟨rfl, rfl, rfl, rfl⟩, ?_⟩
  intro a ha
  simp only [PrivilegeLevel.trapCsrs, PrivilegeLevel.epc, PrivilegeLevel.causeCsr,
    PrivilegeLevel.tvalCsr, List.mem_cons, List.not_mem_nil, or_false, not_or] at ha
  unfold CPU.enterSTrapCsrs
  dsimp only
  rw [set_csrs_ne _ _ ha.2.2.2, set_csrs_ne _ _ ha.2.2.1, write_sepc, set_csrs_ne _ _ ha.2.1,
    CSRFile.setPrivilege_csrs, set_csrs_ne _ _ ha.1]

/-! ## Choosing the level -/

namespace CPU

/-- `enter_s_trap` or `enter_m_trap`, by the level. -/
def enterTrap (cpu : CPU) (target : PrivilegeLevel) (cause tval : Word) : CPU :=
  if target = .supervisor then cpu.enterSTrap cause tval cpu.pc
  else cpu.enterMTrap cause tval cpu.pc

/-- The level an exception is taken to: S when S-mode is enabled, the exception
comes from below M and medeleg delegates it. -/
def exceptionTarget (cpu : CPU) (cause : Word) : PrivilegeLevel :=
  if cpu.config.enableSMode ∧ cpu.csrs.currentPrivilege ≠ .machine ∧
      (cpu.csrs.get CsrAddr.medeleg).getLsbD cause.toNat then .supervisor
  else .machine

/-- The level an interrupt is taken to: S when S-mode is enabled and mideleg
delegates it. -/
def interruptTarget (cpu : CPU) (code : Nat) : PrivilegeLevel :=
  if cpu.config.enableSMode ∧ (cpu.csrs.get CsrAddr.mideleg).getLsbD code then .supervisor
  else .machine

theorem exceptionTarget_cases (cpu : CPU) (cause : Word) :
    cpu.exceptionTarget cause = .machine ∨
      (cpu.exceptionTarget cause = .supervisor ∧ cpu.config.enableSMode = true ∧
        cpu.csrs.currentPrivilege ≠ .machine ∧
        (cpu.csrs.get CsrAddr.medeleg).getLsbD cause.toNat = true) := by
  unfold exceptionTarget
  split
  · exact .inr ⟨rfl, ‹_›⟩
  · exact .inl rfl

theorem interruptTarget_cases (cpu : CPU) (code : Nat) :
    cpu.interruptTarget code = .machine ∨
      (cpu.interruptTarget code = .supervisor ∧ cpu.config.enableSMode = true ∧
        (cpu.csrs.get CsrAddr.mideleg).getLsbD code = true) := by
  unfold interruptTarget
  split
  · exact .inr ⟨rfl, ‹_›⟩
  · exact .inl rfl

/-- What holds of a level a trap may be taken to: M, or S from below M. -/
def TrapTarget (cpu : CPU) (target : PrivilegeLevel) : Prop :=
  target = .machine ∨ (target = .supervisor ∧ cpu.config.enableSMode = true ∧
    cpu.csrs.currentPrivilege ≠ .machine)

theorem trapTarget_exception (cpu : CPU) (cause : Word) :
    cpu.TrapTarget (cpu.exceptionTarget cause) := by
  rcases cpu.exceptionTarget_cases cause with h | ⟨h, hs, hm, -⟩
  · exact .inl h
  · exact .inr ⟨h, hs, hm⟩

theorem shift_and_one_ne (x : Word) (k : Nat) : (x >>> k) &&& 1 ≠ 0 ↔ x.getLsbD k = true := by
  have hfield : (x >>> k) &&& 1 = _ := BitVec.ushiftRight_and_one x k
  rw [hfield]
  cases x.getLsbD k <;> simp

/-- The code bits of a cause below the interrupt bit. -/
theorem toNat_and_codeBits {w : Word} : (w &&& 0x7FFFFFFF).toNat = w.toNat % 0x80000000 := by
  rw [BitVec.toNat_and]
  exact Nat.and_two_pow_sub_one_eq_mod w.toNat 31

theorem delegateTarget_exception (cpu : CPU) {cause : Word} (hcode : ExceptionCode cause) :
    cpu.delegateTarget cause false = cpu.exceptionTarget cause := by
  unfold ExceptionCode at hcode
  have hbit : (cause &&& 0x7FFFFFFF).toNat = cause.toNat := by
    rw [toNat_and_codeBits]
    omega
  unfold delegateTarget exceptionTarget
  dsimp only
  rw [hbit, if_neg (show ¬ cause.toNat ≥ 32 by omega)]
  simp only [shift_and_one_ne, Bool.false_eq_true, if_false]
  cases cpu.config.enableSMode <;> by_cases hpriv : cpu.csrs.currentPrivilege = .machine <;>
    simp [hpriv]

theorem delegateTarget_interrupt (cpu : CPU) {code : Nat} (hcode : code < 32) :
    cpu.delegateTarget (interruptCause code) true = cpu.interruptTarget code := by
  have hbit : (interruptCause code &&& 0x7FFFFFFF).toNat = code := by
    revert code
    decide
  unfold delegateTarget interruptTarget
  dsimp only
  rw [hbit, if_neg (show ¬ code ≥ 32 by omega)]
  simp only [shift_and_one_ne, if_true]
  cases cpu.config.enableSMode <;> simp

/-! ## The two kinds of trap -/

theorem takeException_eq (cpu : CPU) (result : CPUExecResult) {cause : Word} (tval : Word)
    (info : String) (hcode : ExceptionCode cause) :
    cpu.takeException result cause tval info =
      ({ result with
          trap := true
          trapCause := cause
          trapValue := tval
          trapInfo := info
          nextPc := (cpu.enterTrap (cpu.exceptionTarget cause) cause tval).csrs.get
            (cpu.exceptionTarget cause).tvec &&& ~~~3 },
        cpu.enterTrap (cpu.exceptionTarget cause) cause tval) := by
  unfold takeException enterTrap
  rw [delegateTarget_exception cpu hcode]
  rcases cpu.exceptionTarget_cases cause with h | ⟨h, -⟩ <;> rw [h] <;> rfl

theorem deliverInterrupt_eq (cpu : CPU) (result : CPUExecResult) (code : Nat) :
    cpu.deliverInterrupt result code (cpu.interruptTarget code) =
      ({ result with
          interrupt := true
          trapCause := interruptCause code
          trapValue := 0
          trapInfo := "Interrupt"
          instrSize := 0
          nextPc := vectorTarget ((cpu.enterTrap (cpu.interruptTarget code) (interruptCause code)
            0).csrs.get (cpu.interruptTarget code).tvec) code },
        cpu.enterTrap (cpu.interruptTarget code) (interruptCause code) 0) := by
  unfold deliverInterrupt enterTrap
  rcases cpu.interruptTarget_cases code with h | ⟨h, -⟩ <;> rw [h] <;> rfl

/-- Entering a trap leaves the registers, the pc and the configuration alone and
clears the reservation. -/
structure TrapFrame (cpu cpu' : CPU) : Prop where
  regs : cpu'.regs = cpu.regs
  fregs : cpu'.fregs = cpu.fregs
  pc : cpu'.pc = cpu.pc
  config : cpu'.config = cpu.config
  reservation : cpu'.reservation = cpu.reservation.clear

theorem enterTrap_frame (cpu : CPU) (target : PrivilegeLevel) (cause tval : Word) :
    TrapFrame cpu (cpu.enterTrap target cause tval) := by
  unfold enterTrap
  split <;> exact ⟨rfl, rfl, rfl, rfl, rfl⟩

theorem enterTrap_machine (cpu : CPU) (cause tval : Word) :
    TrapEntered .machine cause tval cpu.pc cpu.csrs (cpu.enterTrap .machine cause tval).csrs :=
  enterMTrapCsrs_entered cpu.csrs cause tval cpu.pc

theorem enterTrap_supervisor (cpu : CPU) (cause tval : Word)
    (hpriv : cpu.csrs.currentPrivilege = .user ∨ cpu.csrs.currentPrivilege = .supervisor) :
    TrapEntered .supervisor cause tval cpu.pc cpu.csrs
      (cpu.enterTrap .supervisor cause tval).csrs :=
  enterSTrapCsrs_entered hpriv cause tval cpu.pc

theorem enterTrap_legal {cpu : CPU} (hlegal : CsrLegal cpu.config cpu.csrs)
    {target : PrivilegeLevel} (htarget : cpu.TrapTarget target) (cause tval : Word) :
    CsrLegal cpu.config (cpu.enterTrap target cause tval).csrs := by
  rcases htarget with rfl | ⟨rfl, hs, -⟩
  · exact hlegal.enterMTrap cause tval cpu.pc
  · exact hlegal.enterSTrap hs cause tval cpu.pc

end CPU

theorem TrapEntered.tvec {target : PrivilegeLevel} {cause tval pc : Word} {old new : CSRFile}
    (h : TrapEntered target cause tval pc old new) : new.get target.tvec = old.get target.tvec := by
  have hnot : target.tvec ∉ target.trapCsrs := by
    cases target <;> decide
  unfold CSRFile.get
  rw [h.others _ hnot]

end Riscv

import Riscv.Dispatch
import Riscv.Privilege

/- Steps that execute a return from a trap.

   MRET and SRET are executed as the privilege checks allow; a step that is allowed
   one leaves the state below. -/
namespace Riscv

open Zicsr

/-- A step that executed a return: the pc is xepc, the CSR file the one the return
leaves, and the rest is as before. -/
structure ReturnStep (cpu : CPU) (epc : Word) (csrs : CSRFile) (out : CPUExecResult × CPU) :
    Prop where
  trap : out.1.trap = false
  interrupt : out.1.interrupt = false
  pc : out.2.pc = epc
  csrs : out.2.csrs = countStep csrs false
  regs : out.2.regs = cpu.regs
  fregs : out.2.fregs = cpu.fregs
  config : out.2.config = cpu.config
  reservation : out.2.reservation = cpu.reservation

section
variable {β : Type} [Bus β] [Rv32f.HostFloat] {cpu : CPU} {bus : β} {stim : Stimulus}

theorem stepOn_supplies {instr : Word} (hselected : cpu.selected = none)
    (hsupplies : Supplies cpu bus stim instr)
    (haccepts : cpu.config.classifier.accepts .rv32i instr = true) :
    cpu.stepOn bus stim =
      let done := cpu.syncExecutorConfig.executeBase instr (cpu.supply bus stim).2
        { cpu.initResult with instruction := instr, nextPc := cpu.pc + 4 }
      (done.1, done.2.1.finishStep done.1, done.2.2) := by
  rcases hsup : cpu.supply bus stim with ⟨_ | ⟨instr', is32bit⟩, bus₁⟩
  · rw [Supplies, hsup] at hsupplies
    cases hsupplies
  · rw [Supplies, hsup] at hsupplies
    cases hsupplies
    exact stepOn_executeAs hselected hsup rfl haccepts

theorem stepOn_mret (hselected : cpu.selected = none)
    (hsupplies : Supplies cpu bus stim 0x30200073)
    (hpriv : cpu.csrs.currentPrivilege = .machine) :
    ReturnStep cpu (cpu.csrs.get CsrAddr.mepc) (CPU.mretCsrs cpu.csrs)
        ((cpu.stepOn bus stim).1, (cpu.stepOn bus stim).2.1) ∧
      (cpu.stepOn bus stim).2.2 = (cpu.supply bus stim).2 := by
  have haccepts : cpu.config.classifier.accepts .rv32i 0x30200073 = true := by
    unfold CPUConfig.classifier
    cases cpu.config.enableSMode <;> decide
  have hdecode : (cpu.syncExecutorConfig.iDecoder.decode 0x30200073).type = .mret := by
    show (Rv32i.Decoder.decode { sModeEnabled := cpu.config.enableSMode } 0x30200073).type = .mret
    cases cpu.config.enableSMode <;> decide
  have hexec := cpu.syncExecutorConfig.iExecutor.execute_privileged
    (d := cpu.syncExecutorConfig.iDecoder.decode 0x30200073) (by rw [hdecode]; rfl)
    cpu.syncExecutorConfig.regs (cpu.supply bus stim).2 cpu.syncExecutorConfig.pc
  have hallowed : ¬ cpu.syncExecutorConfig.csrs.currentPrivilege ≠ .machine := fun h => h hpriv
  rw [stepOn_supplies hselected hsupplies haccepts]
  unfold CPU.executeBase CPU.finishBase
  simp only [hexec, hdecode, reduceCtorEq, decide_true, if_true, if_neg hallowed]
  exact ⟨⟨rfl, rfl, rfl, rfl, rfl, rfl, rfl, rfl⟩, trivial⟩

theorem stepOn_sret (hs : cpu.config.enableSMode = true) (hselected : cpu.selected = none)
    (hsupplies : Supplies cpu bus stim 0x10200073)
    (hpriv : cpu.csrs.currentPrivilege ≠ .user)
    (htsr : ¬(cpu.csrs.currentPrivilege = .supervisor ∧
      cpu.csrs.get CsrAddr.mstatus &&& CSRFile.mstatusTsr ≠ 0)) :
    ReturnStep cpu (cpu.csrs.get CsrAddr.sepc) (CPU.sretCsrs cpu.csrs)
        ((cpu.stepOn bus stim).1, (cpu.stepOn bus stim).2.1) ∧
      (cpu.stepOn bus stim).2.2 = (cpu.supply bus stim).2 := by
  have haccepts : cpu.config.classifier.accepts .rv32i 0x10200073 = true := by
    unfold CPUConfig.classifier
    rw [hs]
    decide
  have hdecode : (cpu.syncExecutorConfig.iDecoder.decode 0x10200073).type = .sret := by
    show (Rv32i.Decoder.decode { sModeEnabled := cpu.config.enableSMode } 0x10200073).type = .sret
    rw [hs]
    decide
  have hexec := cpu.syncExecutorConfig.iExecutor.execute_privileged
    (d := cpu.syncExecutorConfig.iDecoder.decode 0x10200073) (by rw [hdecode]; rfl)
    cpu.syncExecutorConfig.regs (cpu.supply bus stim).2 cpu.syncExecutorConfig.pc
  -- the three tests the CPU makes before it returns
  have hallowed : ¬((!cpu.syncExecutorConfig.config.enableSMode) = true ∨
      cpu.syncExecutorConfig.csrs.currentPrivilege = .user ∨
        (cpu.syncExecutorConfig.csrs.currentPrivilege = .supervisor ∧
          cpu.syncExecutorConfig.csrs.get CsrAddr.mstatus &&& CSRFile.mstatusTsr ≠ 0)) := by
    rintro (h | h | h)
    · rw [show cpu.syncExecutorConfig.config.enableSMode = true from hs] at h
      cases h
    · exact hpriv h
    · exact htsr h
  rw [stepOn_supplies hselected hsupplies haccepts]
  unfold CPU.executeBase CPU.finishBase
  simp only [hexec, hdecode, reduceCtorEq, decide_false, decide_true, Bool.false_eq_true,
    if_false, if_true, if_neg hallowed]
  exact ⟨⟨rfl, rfl, rfl, rfl, rfl, rfl, rfl, rfl⟩, trivial⟩

end

end Riscv

import Riscv.Dispatch
import Riscv.Isolation
import Riscv.Memory

/- Machine-private state below M.

   Two states that differ in the trap registers of M, mscratch, mtvec and the M
   fields of mstatus only are indistinguishable below M: as long as no trap is taken
   into M, their steps report the same, make the same bus calls and lead to two such
   states again. The proof pairs every dispatch branch on one state with the same
   branch on the state with the other CSR file. -/
namespace Riscv

open Zicsr Warl Run

/-! ## The relation -/

/-- The registers private to M besides mstatus. -/
def privateCsrs : List (BitVec 16) :=
  [CsrAddr.mscratch, CsrAddr.mepc, CsrAddr.mcause, CsrAddr.mtval, CsrAddr.mtvec]

/-- Two CSR files that agree but for the private registers and mstatus.MIE, MPIE and
MPP. -/
structure CsrLow (f g : CSRFile) : Prop where
  privilege : g.currentPrivilege = f.currentPrivilege
  flags : SameFlags f g
  mstatus : Agree mTrapFields (g.get CsrAddr.mstatus) (f.get CsrAddr.mstatus)
  others : ∀ a, a ≠ CsrAddr.mstatus → a ∉ privateCsrs → g.csrs a = f.csrs a

/-- Two states that agree on everything else. -/
def LowEq (cpu cpu' : CPU) : Prop :=
  CsrLow cpu.csrs cpu'.csrs ∧ cpu' = { cpu with csrs := cpu'.csrs }

/-- The state with another CSR file. -/
def CPU.withCsrs (cpu : CPU) (csrs : CSRFile) : CPU := { cpu with csrs := csrs }

theorem LowEq.of_csrs {cpu : CPU} {g : CSRFile} (h : CsrLow cpu.csrs g) :
    LowEq cpu (cpu.withCsrs g) := ⟨h, rfl⟩

namespace CsrLow

variable {f g : CSRFile}

theorem get (h : CsrLow f g) {a : BitVec 16} (hm : a ≠ CsrAddr.mstatus) (ha : a ∉ privateCsrs) :
    g.get a = f.get a :=
  congrArg (·.getD 0) (h.others a hm ha)

theorem field (h : CsrLow f g) {s : Word} (hs : Within s (~~~mTrapFields)) :
    g.get CsrAddr.mstatus &&& s = f.get CsrAddr.mstatus &&& s :=
  h.mstatus.field hs

theorem legalMask (h : CsrLow f g) : g.mstatusLegalMask = f.mstatusLegalMask := by
  unfold CSRFile.mstatusLegalMask
  rw [h.flags.sModeEnabled, h.flags.uModeEnabled]

theorem hardwired (h : CsrLow f g) : g.mstatusHardwired = f.mstatusHardwired := by
  unfold CSRFile.mstatusHardwired
  rw [h.flags.fExtension]

/-! ## Writes -/

theorem set (h : CsrLow f g) {a : BitVec 16} (hm : a ≠ CsrAddr.mstatus) (v : Word) :
    CsrLow (f.set a v) (g.set a v) where
  privilege := h.privilege
  flags := ⟨h.flags.fExtension, h.flags.sModeEnabled, h.flags.uModeEnabled, h.flags.mepcMask⟩
  mstatus := by
    rw [CSRFile.get_set_ne _ _ hm.symm, CSRFile.get_set_ne _ _ hm.symm]
    exact h.mstatus
  others := by
    intro b hb hp
    unfold CSRFile.set
    dsimp only
    split
    · rfl
    · exact h.others b hb hp

theorem setPrivate (f : CSRFile) {a : BitVec 16} (ha : a ∈ privateCsrs) (v u : Word) :
    CsrLow (f.set a v) (f.set a u) where
  privilege := rfl
  flags := ⟨rfl, rfl, rfl, rfl⟩
  mstatus := by
    have hne : a ≠ CsrAddr.mstatus := by
      rintro rfl
      exact absurd ha (by decide)
    rw [CSRFile.get_set_ne _ _ hne.symm, CSRFile.get_set_ne _ _ hne.symm]
    exact .refl _ _
  others := by
    intro b _ hp
    have hne : b ≠ a := fun hb => hp (hb ▸ ha)
    rw [set_csrs_ne _ _ hne, set_csrs_ne _ _ hne]

theorem setMstatus (h : CsrLow f g) {v u : Word} (hv : Agree mTrapFields u v) :
    CsrLow (f.set CsrAddr.mstatus v) (g.set CsrAddr.mstatus u) where
  privilege := h.privilege
  flags := ⟨h.flags.fExtension, h.flags.sModeEnabled, h.flags.uModeEnabled, h.flags.mepcMask⟩
  mstatus := by
    rw [CSRFile.get_set_same, CSRFile.get_set_same]
    exact hv
  others := by
    intro b hb hp
    rw [set_csrs_ne _ _ hb, set_csrs_ne _ _ hb]
    exact h.others b hb hp

theorem setPrivilege (h : CsrLow f g) (p : PrivilegeLevel) :
    CsrLow (f.setPrivilege p) (g.setPrivilege p) :=
  ⟨rfl, ⟨h.flags.fExtension, h.flags.sModeEnabled, h.flags.uModeEnabled, h.flags.mepcMask⟩,
    h.mstatus, h.others⟩

theorem ite {c : Prop} [Decidable c] {f' g' : CSRFile} (ht : c → CsrLow f g)
    (he : ¬c → CsrLow f' g') : CsrLow (if c then f else f') (if c then g else g') := by
  split
  · exact ht ‹_›
  · exact he ‹_›

theorem legalizeSstatus (h : CsrLow f g) (v : Word) :
    Agree mTrapFields (g.legalizeSstatus v) (f.legalizeSstatus v) := by
  unfold CSRFile.legalizeSstatus
  rw [h.legalMask, h.hardwired]
  exact ((((h.mstatus.and _).or _).and _).and _).or _

/-- **A write that names no private register** stores the same in both files. -/
theorem write (h : CsrLow f g) {a : BitVec 16} (ha : a ≠ CsrAddr.mstatus) (hp : a ∉ privateCsrs)
    (v : Word) : CsrLow (f.write a v) (g.write a v) := by
  have hget : ∀ b, b ≠ CsrAddr.mstatus → b ∉ privateCsrs → g.get b = f.get b :=
    fun b hb hpb => h.get hb hpb
  have hmip : g.mipWritableMask = f.mipWritableMask := by
    unfold CSRFile.mipWritableMask
    rw [h.flags.sModeEnabled]
  -- one line a rule of `write`: what a rule reads is visible, and what it writes too
  unfold CSRFile.write
  dsimp only
  rw [hget CsrAddr.fcsr (by decide) (by decide), hget CsrAddr.mip (by decide) (by decide),
    hget CsrAddr.mie (by decide) (by decide), hget CsrAddr.mideleg (by decide) (by decide), hmip,
    h.flags.sModeEnabled]
  refine ite (fun _ => h.set (by decide) _) fun _ => ?_
  refine ite (fun _ => h.set (by decide) _) fun _ => ?_
  refine ite (fun _ => h.set (by decide) _) fun _ => ?_
  refine ite (fun hc => absurd hc ha) fun _ => ?_
  refine ite (fun hc => absurd (hc ▸ by decide) hp) fun _ => ?_
  refine ite (fun hc => absurd (hc ▸ by decide) hp) fun _ => ?_
  refine ite (fun _ => h) fun _ => ?_
  refine ite (fun _ => h) fun _ => ?_
  refine ite (fun _ => h.set (by decide) _) fun _ => ?_
  refine ite (fun _ => h.set (by decide) _) fun _ => ?_
  refine ite (fun _ => h.set (by decide) _) fun _ => ?_
  refine ite (fun _ => h.set (by decide) _) fun _ => ?_
  refine ite (fun _ => h.set (by decide) _) fun _ => ?_
  refine ite (fun _ => h.setMstatus (h.legalizeSstatus v)) fun _ => ?_
  refine ite (fun _ => ite (fun _ => h) fun _ => h.set (by decide) _) fun _ => ?_
  refine ite (fun _ => ite (fun _ => h) fun _ => h.set (by decide) _) fun _ => ?_
  refine ite (fun _ => h.set (by decide) _) fun _ => ?_
  refine ite (fun _ => ?_) fun _ => ?_
  · rw [h.flags.mepcMask]
    exact h.set (by decide) _
  refine ite (fun _ => h.set (by decide) _) fun _ => ?_
  refine ite (fun _ => h.set (by decide) _) fun _ => ?_
  refine ite (fun _ => h.set (by decide) _) fun _ => ?_
  refine ite (fun _ => h.set (by decide) _) fun _ => ?_
  refine ite (fun _ => h.set (by decide) _) fun _ => ?_
  exact h.set ha v

/-! ## Reads -/

/-- Below M, no private register can be read or written. -/
theorem below_private {a : BitVec 16} (hbelow : f.currentPrivilege.toNat < PrivilegeLevel.machine.toNat)
    (hread : f.canRead a = true) : a ≠ CsrAddr.mstatus ∧ a ∉ privateCsrs := by
  have hlevel : ((CsrAddr.mstatus :: privateCsrs).all fun b =>
      decide ((CSRPermissions.fromAddress b).minPrivilege = .machine)) = true := by decide
  have hnot : a ∉ CsrAddr.mstatus :: privateCsrs := by
    intro hmem
    have hmin := of_decide_eq_true (List.all_eq_true.mp hlevel a hmem)
    unfold CSRFile.canRead at hread
    rw [hmin, if_pos hbelow] at hread
    cases hread
  simpa using hnot

theorem read (h : CsrLow f g) {a : BitVec 16} (ha : a ≠ CsrAddr.mstatus) (hp : a ∉ privateCsrs) :
    g.read a = f.read a := by
  have hget : ∀ b, b ≠ CsrAddr.mstatus → b ∉ privateCsrs → g.get b = f.get b :=
    fun b hb hpb => h.get hb hpb
  unfold CSRFile.read
  rw [hget CsrAddr.fcsr (by decide) (by decide), hget CsrAddr.mcycle (by decide) (by decide),
    hget CsrAddr.mcycleh (by decide) (by decide), hget CsrAddr.minstret (by decide) (by decide),
    hget CsrAddr.minstreth (by decide) (by decide), hget CsrAddr.mie (by decide) (by decide),
    hget CsrAddr.mip (by decide) (by decide), hget CsrAddr.mideleg (by decide) (by decide),
    h.field (s := CSRFile.sstatusReadMask) (by decide), hget a ha hp]

theorem canRead (h : CsrLow f g) (a : BitVec 16) : g.canRead a = f.canRead a := by
  unfold CSRFile.canRead CSRFile.counterReadable
  rw [h.privilege, h.flags.sModeEnabled, h.get (a := CsrAddr.mcounteren) (by decide) (by decide),
    h.get (a := CsrAddr.scounteren) (by decide) (by decide)]

theorem canWrite (h : CsrLow f g) (a : BitVec 16) : g.canWrite a = f.canWrite a := by
  unfold CSRFile.canWrite
  rw [h.privilege]

theorem exists' (h : CsrLow f g) {config : CPUConfig} (hf : CsrLegal config f)
    (hg : CsrLegal config g) (a : BitVec 16) : g.exists' a = f.exists' a := by
  unfold CSRFile.exists'
  rw [h.flags.fExtension, hf.stored, hg.stored]

theorem bumpCounter (h : CsrLow f g) {lo hi : BitVec 16}
    (hlo : lo ∉ CsrAddr.mstatus :: privateCsrs) (hhi : hi ∉ CsrAddr.mstatus :: privateCsrs) :
    CsrLow (CPU.bumpCounter f lo hi) (CPU.bumpCounter g lo hi) := by
  rw [List.mem_cons, not_or] at hlo hhi
  unfold CPU.bumpCounter
  dsimp only
  rw [h.get hlo.1 hlo.2, h.get hhi.1 hhi.2]
  exact (h.set hlo.1 _).set hhi.1 _

theorem counted (h : CsrLow f g) (trap : Bool) :
    CsrLow (countStep f trap) (countStep g trap) := by
  have hcycle : CsrLow (CPU.bumpCycle f) (CPU.bumpCycle g) :=
    h.bumpCounter (by decide) (by decide)
  cases trap with
  | true => exact hcycle
  | false => exact hcycle.bumpCounter (by decide) (by decide)

end CsrLow

/-! ## Traps -/

/-- Two results of the same computation: the first entered M by a trap, or they
report the same and lead to indistinguishable states. -/
def Coupled (out out' : CPUExecResult × CPU) : Prop :=
  ((out.1.trap = true ∨ out.1.interrupt = true) ∧ out.2.csrs.currentPrivilege = .machine) ∨
    (out'.1 = out.1 ∧ LowEq out.2 out'.2)

theorem Coupled.ite {c : Prop} {i j : Decidable c} {a a' b b' : CPUExecResult × CPU}
    (ht : c → Coupled a a') (he : ¬c → Coupled b b') :
    Coupled (@ite _ c i a b) (@ite _ c j a' b') := by
  by_cases hc : c
  · rw [if_pos hc, if_pos hc]
    exact ht hc
  · rw [if_neg hc, if_neg hc]
    exact he hc

theorem Coupled.after {out out' : CPUExecResult × CPU} (h : Coupled out out')
    (trapped : CPUExecResult → Bool) :
    Coupled
      (out.1, { out.2 with pc := out.1.nextPc, csrs := countStep out.2.csrs (trapped out.1) })
      (out'.1,
        { out'.2 with pc := out'.1.nextPc, csrs := countStep out'.2.csrs (trapped out'.1) }) := by
  rcases h with ⟨hflag, hpriv⟩ | ⟨hresult, hlow, hrest⟩
  · exact .inl ⟨hflag, (countStep_currentPrivilege _ _).trans hpriv⟩
  · obtain ⟨r, c⟩ := out
    obtain ⟨r', c'⟩ := out'
    dsimp only at hresult hlow hrest
    subst hresult
    refine .inr ⟨rfl, hlow.counted _, ?_⟩
    rw [hrest]

/-- Entering S pushes the visible fields of mstatus only. -/
theorem sTrapStatus_low {m u : Word} (h : Agree mTrapFields u m) (p : PrivilegeLevel) :
    Agree mTrapFields (CPU.sTrapStatus u p) (CPU.sTrapStatus m p) := by
  have hsie : u &&& CSRFile.mstatusSie = m &&& CSRFile.mstatusSie := h.field (by decide)
  unfold CPU.sTrapStatus
  rw [hsie]
  dsimp only
  split
  · exact ((h.and _).or _).or _
  · exact (h.and _).or _

theorem sretStatus_low {m u : Word} (h : Agree mTrapFields u m) :
    Agree mTrapFields (CPU.sretStatus u) (CPU.sretStatus m) := by
  have hspie : u &&& CSRFile.mstatusSpie = m &&& CSRFile.mstatusSpie := h.field (by decide)
  unfold CPU.sretStatus
  rw [hspie]
  dsimp only
  split
  · exact ((((h.and _).or _).or _).and _).and _
  · exact (((h.and _).or _).and _).and _

theorem CsrLow.sret {f g : CSRFile} (h : CsrLow f g) :
    CsrLow (CPU.sretCsrs f) (CPU.sretCsrs g) := by
  have hspp : g.get CsrAddr.mstatus &&& CSRFile.mstatusSpp =
      f.get CsrAddr.mstatus &&& CSRFile.mstatusSpp := h.field (by decide)
  unfold CPU.sretCsrs CPU.sretPrivilege
  dsimp only
  rw [hspp]
  exact (h.setMstatus (sretStatus_low h.mstatus)).setPrivilege _

theorem CsrLow.enterSTrap {f g : CSRFile} (h : CsrLow f g) (cause tval pc : Word) :
    CsrLow (CPU.enterSTrapCsrs f cause tval pc) (CPU.enterSTrapCsrs g cause tval pc) := by
  unfold CPU.enterSTrapCsrs
  dsimp only
  rw [h.privilege]
  refine CsrLow.set (CsrLow.set ?_ (by decide) cause) (by decide) tval
  exact (((h.setMstatus (sTrapStatus_low h.mstatus _)).setPrivilege .supervisor).write (by decide)
    (by decide) pc)

section
variable {cpu : CPU} {g : CSRFile}

theorem delegateTarget_low (h : CsrLow cpu.csrs g) (cause : Word) (isInterrupt : Bool) :
    (cpu.withCsrs g).delegateTarget cause isInterrupt = cpu.delegateTarget cause isInterrupt := by
  have hdeleg : g.get (if isInterrupt then CsrAddr.mideleg else CsrAddr.medeleg) =
      cpu.csrs.get (if isInterrupt then CsrAddr.mideleg else CsrAddr.medeleg) := by
    cases isInterrupt <;> exact h.get (by decide) (by decide)
  unfold CPU.delegateTarget CPU.withCsrs
  dsimp only
  rw [h.privilege, hdeleg]

theorem enterSTrap_low (h : CsrLow cpu.csrs g) (cause tval pc : Word) :
    LowEq (cpu.enterSTrap cause tval pc) ((cpu.withCsrs g).enterSTrap cause tval pc) :=
  .of_csrs (h.enterSTrap cause tval pc)

theorem takeException_coupled (h : CsrLow cpu.csrs g) (result : CPUExecResult) (cause tval : Word)
    (info : String) : Coupled (cpu.takeException result cause tval info)
      ((cpu.withCsrs g).takeException result cause tval info) := by
  unfold CPU.takeException
  rw [delegateTarget_low h]
  dsimp only
  split
  · have hlow := enterSTrap_low h cause tval cpu.pc
    have hstvec := hlow.1.get (a := CsrAddr.stvec) (by decide) (by decide)
    refine .inr ⟨?_, hlow⟩
    exact congrArg (fun w => { result with
      trap := true, trapCause := cause, trapValue := tval, trapInfo := info, nextPc := w &&& ~~~3 })
      hstvec
  · exact .inl ⟨.inl rfl, rfl⟩

theorem deliverInterrupt_coupled (h : CsrLow cpu.csrs g) (result : CPUExecResult) (code : Nat)
    (target : PrivilegeLevel) : Coupled (cpu.deliverInterrupt result code target)
      ((cpu.withCsrs g).deliverInterrupt result code target) := by
  unfold CPU.deliverInterrupt
  dsimp only
  split
  · have hlow := enterSTrap_low h (CPU.interruptCause code) 0 cpu.pc
    have hstvec := hlow.1.get (a := CsrAddr.stvec) (by decide) (by decide)
    refine .inr ⟨?_, hlow⟩
    exact congrArg (fun w => { result with
      interrupt := true, trapCause := CPU.interruptCause code, trapValue := 0,
      trapInfo := "Interrupt", instrSize := 0, nextPc := CPU.vectorTarget w code }) hstvec
  · exact .inl ⟨.inr rfl, rfl⟩

theorem trapUnless_coupled (h : CsrLow cpu.csrs g) (valid : Bool) (result : CPUExecResult)
    (cause tval : Word) (error : String) : Coupled (cpu.trapUnless valid result cause tval error)
      ((cpu.withCsrs g).trapUnless valid result cause tval error) := by
  unfold CPU.trapUnless
  split
  · exact .inr ⟨rfl, .of_csrs h⟩
  · exact takeException_coupled h result cause tval error

/-! ## Interrupts -/

theorem interruptTarget_low (h : CsrLow cpu.csrs g) (c : Nat) :
    (cpu.withCsrs g).interruptTarget c = cpu.interruptTarget c := by
  unfold CPU.interruptTarget CPU.withCsrs
  dsimp only
  rw [h.get (a := CsrAddr.mideleg) (by decide) (by decide)]

/-- Below M the enable bit of M is not asked. -/
theorem eligible_low (h : CsrLow cpu.csrs g) (hbelow : cpu.csrs.currentPrivilege ≠ .machine)
    (c : Nat) : (cpu.withCsrs g).eligible c = cpu.eligible c := by
  have hpriv : (cpu.withCsrs g).csrs.currentPrivilege = cpu.csrs.currentPrivilege := h.privilege
  have hmip : (cpu.withCsrs g).csrs.get CsrAddr.mip = cpu.csrs.get CsrAddr.mip :=
    h.get (by decide) (by decide)
  have hmie : (cpu.withCsrs g).csrs.get CsrAddr.mie = cpu.csrs.get CsrAddr.mie :=
    h.get (by decide) (by decide)
  have hsie : ((cpu.withCsrs g).csrs.get CsrAddr.mstatus).getLsbD 1 =
      (cpu.csrs.get CsrAddr.mstatus).getLsbD 1 := by
    rw [← decide_sie, ← decide_sie]
    exact congrArg (fun w => decide (w ≠ 0)) (h.field (s := CSRFile.mstatusSie) (by decide))
  unfold CPU.eligible
  rw [interruptTarget_low h, hpriv, hmip, hmie]
  rcases cpu.interruptTarget_cases c with ht | ⟨ht, -⟩ <;> rw [ht]
  · simp only [decide_eq_false hbelow, Bool.false_and]
  · simp only [PrivilegeLevel.ieBit, hsie]

theorem selected_low (h : CsrLow cpu.csrs g) (hbelow : cpu.csrs.currentPrivilege ≠ .machine) :
    (cpu.withCsrs g).selected = cpu.selected := by
  unfold CPU.selected CPU.firstFor
  simp only [eligible_low h hbelow, interruptTarget_low h]

end

/-! ## Instructions -/

section
variable {cpu : CPU} {g : CSRFile}

theorem satpBlocked_low (h : CsrLow cpu.csrs g) (d : DecodedCSRInstr) :
    (cpu.withCsrs g).satpBlocked d = cpu.satpBlocked d := by
  have htvm : g.get CsrAddr.mstatus &&& CSRFile.mstatusTvm =
      cpu.csrs.get CsrAddr.mstatus &&& CSRFile.mstatusTvm := h.field (by decide)
  unfold CPU.satpBlocked CPU.withCsrs
  dsimp only
  rw [h.privilege, htvm]

theorem execute_low {f : CSRFile} (h : CsrLow f g) {config : CPUConfig} (hf : CsrLegal config f)
    (hg : CsrLegal config g) (hbelow : f.currentPrivilege.toNat < PrivilegeLevel.machine.toNat)
    (d : DecodedCSRInstr) (regs : RegFile) :
    (Zicsr.execute d regs g).1 = (Zicsr.execute d regs f).1 ∧
      (Zicsr.execute d regs g).2.1 = (Zicsr.execute d regs f).2.1 ∧
      CsrLow (Zicsr.execute d regs f).2.2 (Zicsr.execute d regs g).2.2 := by
  unfold Zicsr.execute
  rw [h.exists' hf hg, h.canRead, h.canWrite]
  split
  · exact ⟨rfl, rfl, h⟩
  split
  · exact ⟨rfl, rfl, h⟩
  split
  · exact ⟨rfl, rfl, h⟩
  split
  · exact ⟨rfl, rfl, h⟩
  · rename_i hread _
    -- what may be read below M is no private register
    obtain ⟨ha, hp⟩ := CsrLow.below_private hbelow (by simpa using hread)
    dsimp only
    rw [h.read ha hp]
    refine ⟨rfl, rfl, ?_⟩
    exact .ite (fun _ => h.write ha hp _) fun _ => h

theorem executeZicsr_eq (cpu : CPU) (instr : Word) (result : CPUExecResult) :
    cpu.executeZicsr instr result =
      if cpu.satpBlocked (Zicsr.decode instr) then
        cpu.takeException result Exc.illegalInstruction instr "SATP access blocked by TVM"
      else
        let out := Zicsr.execute (Zicsr.decode instr) cpu.regs cpu.csrs
        ({ cpu with regs := out.2.1, csrs := out.2.2 } : CPU).trapUnless out.1.valid
          { result with mnemonic := (Zicsr.decode instr).mnemonic } out.1.exceptionCause
          out.1.trapValue out.1.error := rfl

theorem executeZicsr_coupled (h : CsrLow cpu.csrs g) {config : CPUConfig}
    (hf : CsrLegal config cpu.csrs) (hg : CsrLegal config g)
    (hbelow : cpu.csrs.currentPrivilege.toNat < PrivilegeLevel.machine.toNat) (instr : Word)
    (result : CPUExecResult) :
    Coupled (cpu.executeZicsr instr result) ((cpu.withCsrs g).executeZicsr instr result) := by
  obtain ⟨hresult, hregs, hcsrs⟩ := execute_low h hf hg hbelow (Zicsr.decode instr) cpu.regs
  rw [executeZicsr_eq, executeZicsr_eq, satpBlocked_low h]
  refine .ite (fun _ => takeException_coupled h _ _ _ _) fun _ => ?_
  dsimp only [CPU.withCsrs]
  rw [hresult, hregs]
  generalize Zicsr.execute (Zicsr.decode instr) cpu.regs cpu.csrs = out at hcsrs
  exact @trapUnless_coupled { cpu with regs := out.2.1, csrs := out.2.2 } _ hcsrs _ _ _ _ _

/-- MRET does not execute below M; SRET pops visible fields only. -/
theorem finishBase_coupled (h : CsrLow cpu.csrs g) (hbelow : cpu.csrs.currentPrivilege ≠ .machine)
    (instr : Word) (exec : Rv32i.ExecResult) (result : CPUExecResult) :
    Coupled (cpu.finishBase instr exec result) ((cpu.withCsrs g).finishBase instr exec result) := by
  have hpriv : (cpu.withCsrs g).csrs.currentPrivilege = cpu.csrs.currentPrivilege := h.privilege
  have hconfig : (cpu.withCsrs g).config = cpu.config := rfl
  have hfield : ∀ {s : Word}, Within s (~~~mTrapFields) →
      (cpu.withCsrs g).csrs.get CsrAddr.mstatus &&& s = cpu.csrs.get CsrAddr.mstatus &&& s :=
    fun hs => h.field hs
  have hsret : Coupled (cpu.doSret result) ((cpu.withCsrs g).doSret result) := by
    refine .inr ⟨?_, h.sret, rfl⟩
    exact congrArg (fun w => { result with nextPc := w, branchTaken := true })
      (h.sret.get (a := CsrAddr.sepc) (by decide) (by decide))
  -- MRET is refused below M; SRET, SFENCE.VMA and WFI test visible fields
  unfold CPU.finishBase
  dsimp only
  rw [hpriv, hconfig, hfield (s := CSRFile.mstatusTsr) (by decide),
    hfield (s := CSRFile.mstatusTvm) (by decide), hfield (s := CSRFile.mstatusTw) (by decide)]
  refine .ite (fun _ => ?_) fun _ => ?_
  · exact .ite (fun _ => takeException_coupled h _ _ _ _) fun hm => absurd hbelow hm
  refine .ite (fun _ => ?_) fun _ => ?_
  · exact .ite (fun _ => takeException_coupled h _ _ _ _) fun _ => hsret
  refine .ite (fun _ => ?_) fun _ => ?_
  · exact .ite (fun _ => takeException_coupled h _ _ _ _) fun _ => .inr ⟨rfl, .of_csrs h⟩
  refine .ite (fun _ => ?_) fun _ => ?_
  · exact .ite (fun _ => takeException_coupled h _ _ _ _) fun _ => .inr ⟨rfl, .of_csrs h⟩
  · exact trapUnless_coupled h _ _ _ _ _

end

/-! ## The dispatch -/

section
variable {β : Type} [Bus β] {cpu : CPU} {g : CSRFile}

/-- Coupled results that used the bus alike. -/
def CoupledOn (out out' : CPUExecResult × CPU × β) : Prop :=
  Coupled (out.1, out.2.1) (out'.1, out'.2.1) ∧ out'.2.2 = out.2.2

theorem executeBase_coupled (h : CsrLow cpu.csrs g) (hbelow : cpu.csrs.currentPrivilege ≠ .machine)
    (instr : Word) (bus : β) (result : CPUExecResult) :
    CoupledOn (cpu.executeBase instr bus result)
      ((cpu.withCsrs g).executeBase instr bus result) := by
  refine ⟨?_, rfl⟩
  exact @finishBase_coupled { cpu with
    regs := (cpu.iExecutor.execute (cpu.iDecoder.decode instr) cpu.regs bus cpu.pc).2.1 } g h
    hbelow instr _ _

variable [Rv32f.HostFloat]

theorem executeF_coupled (h : CsrLow cpu.csrs g) (instr : Word) (bus : β)
    (result : CPUExecResult) :
    CoupledOn (cpu.executeF instr bus result) ((cpu.withCsrs g).executeF instr bus result) := by
  have hfcsr : (cpu.withCsrs g).csrs.get CsrAddr.fcsr = cpu.csrs.get CsrAddr.fcsr :=
    h.get (by decide) (by decide)
  unfold CPU.executeF
  dsimp only
  rw [hfcsr]
  dsimp only [CPU.withCsrs]
  generalize cpu.fExecutor.execute (Rv32f.decode instr)
    ({ iregs := cpu.regs, fregs := cpu.fregs, bus := bus } : Rv32f.FState β)
    (Rv32f.FCSR.write {} (cpu.csrs.get CsrAddr.fcsr)) = out
  refine ⟨?_, rfl⟩
  exact @trapUnless_coupled { cpu with
    regs := out.2.1.iregs
    fregs := out.2.1.fregs
    csrs := cpu.csrs.set CsrAddr.fcsr (out.2.2.read &&& 0xFF) } _ (h.set (by decide) _) _ _ _ _ _

/-- Every extension. -/
theorem executeAs_coupled (h : CsrLow cpu.csrs g) {config : CPUConfig}
    (hf : CsrLegal config cpu.csrs) (hg : CsrLegal config g)
    (hbelow : cpu.csrs.currentPrivilege.toNat < PrivilegeLevel.machine.toNat) (e : Extension)
    (instr : Word) (bus : β) (result : CPUExecResult) :
    CoupledOn (cpu.executeAs e instr bus result)
      ((cpu.withCsrs g).executeAs e instr bus result) := by
  have hne : cpu.csrs.currentPrivilege ≠ .machine := by
    intro hm
    rw [hm] at hbelow
    exact absurd hbelow (by decide)
  have hkept : ∀ {c : CPU} {valid : Bool} {r : CPUExecResult} {cause tval : Word} {error : String}
      {bus' : β}, c.csrs = cpu.csrs → CoupledOn
        ((c.trapUnless valid r cause tval error).1, (c.trapUnless valid r cause tval error).2, bus')
        (((c.withCsrs g).trapUnless valid r cause tval error).1,
          ((c.withCsrs g).trapUnless valid r cause tval error).2, bus') := by
    intro c valid r cause tval error bus' hc
    exact ⟨trapUnless_coupled (hc ▸ h) _ _ _ _ _, rfl⟩
  cases e
  case rv32i => exact executeBase_coupled h hne instr bus _
  case zicsr => exact ⟨executeZicsr_coupled h hf hg hbelow instr _, rfl⟩
  case rv32f => exact executeF_coupled h instr bus _
  all_goals exact hkept rfl

theorem executeParcels_coupled (h : CsrLow cpu.csrs g) {config : CPUConfig}
    (hf : CsrLegal config cpu.csrs) (hg : CsrLegal config g)
    (hbelow : cpu.csrs.currentPrivilege.toNat < PrivilegeLevel.machine.toNat)
    (instr : Word) (is32bit : Bool) (bus : β) (result : CPUExecResult) :
    CoupledOn (cpu.executeParcels instr is32bit bus result)
      ((cpu.withCsrs g).executeParcels instr is32bit bus result) := by
  have hconfig : (cpu.withCsrs g).config = cpu.config := rfl
  cases is32bit with
  | true =>
    show CoupledOn (cpu.execute32bit instr bus result)
      ((cpu.withCsrs g).execute32bit instr bus result)
    rw [execute32bit_eq, execute32bit_eq, hconfig]
    exact executeAs_coupled h hf hg hbelow _ instr bus result
  | false =>
    unfold CPU.executeParcels CPU.executeCompressed
    simp only [hconfig, Bool.not_false, if_true]
    split
    · exact ⟨takeException_coupled h _ _ _ _, rfl⟩
    split
    · exact executeAs_coupled h hf hg hbelow .rv32fc instr bus result
    · exact executeAs_coupled h hf hg hbelow .rv32c instr bus result

/-! ## Steps -/

/-- **One step** of two indistinguishable states below M. -/
theorem step_coupled {config : CPUConfig} {cpu cpu' : CPU} (hwell : cpu.WellFormed config)
    (hwell' : cpu'.WellFormed config) (h : LowEq cpu cpu')
    (hbelow : cpu.csrs.currentPrivilege ≠ .machine) (bus : β) (stim : Stimulus) :
    CoupledOn (cpu.stepOn bus stim) (cpu'.stepOn bus stim) := by
  obtain ⟨hlow, hrest⟩ := h
  have hlt : cpu.csrs.currentPrivilege.toNat < PrivilegeLevel.machine.toNat :=
    Nat.lt_of_le_of_lt (toNat_below hbelow hwell.privilege) (by decide)
  have hlegal := hwell'.legal
  generalize cpu'.csrs = g at hlow hrest hlegal
  obtain rfl : cpu' = cpu.withCsrs g := hrest
  have hsync : (cpu.withCsrs g).syncExecutorConfig = cpu.syncExecutorConfig.withCsrs g := by
    unfold CPU.syncExecutorConfig CPU.withCsrs
    dsimp only
    rw [hlow.privilege]
  -- below M the M trap fields decide no interrupt
  have hselected := selected_low hlow hbelow
  cases hsel : cpu.selected with
  | some c =>
    rw [CPU.stepOn_interrupt hsel, CPU.stepOn_interrupt (hselected.trans hsel), hsync,
      interruptTarget_low hlow]
    have hcoupled := @deliverInterrupt_coupled cpu.syncExecutorConfig g hlow cpu.initResult c
      (cpu.interruptTarget c)
    exact ⟨hcoupled.after fun _ => true, rfl⟩
  | none =>
    have hsupply : (cpu.withCsrs g).supply bus stim = cpu.supply bus stim := by
      cases stim <;> rfl
    rcases hsup : cpu.supply bus stim with ⟨addr | ⟨instr, is32bit⟩, bus'⟩
    · rw [CPU.stepOn_fault hsel hsup, CPU.stepOn_fault (hselected.trans hsel)
        (hsupply.trans hsup), hsync]
      have hcoupled := @takeException_coupled cpu.syncExecutorConfig g hlow cpu.initResult
        Exc.instrAccessFault addr "Instruction access fault"
      exact ⟨hcoupled.after (·.trap), rfl⟩
    · rw [CPU.stepOn_execute hsel hsup, CPU.stepOn_execute (hselected.trans hsel)
        (hsupply.trans hsup), hsync]
      obtain ⟨hcoupled, hbus⟩ := @executeParcels_coupled _ _ cpu.syncExecutorConfig g _ hlow config
        hwell.legal hlegal hlt instr is32bit bus' { cpu.initResult with instruction := instr }
      exact ⟨hcoupled.after (·.trap), hbus⟩

/-! ## Runs -/

/-- The pairs of states a run below M goes through. -/
structure Indistinguishable (config : CPUConfig) (s t : CPU × β) : Prop where
  reachable : Reachable config s.1
  reachable' : Reachable config t.1
  below : s.1.csrs.currentPrivilege ≠ .machine
  low : LowEq s.1 t.1
  bus_eq : t.2 = s.2

/-- The guard of the first run: the step takes no trap into M. -/
def StepsBelow (s : CPU × β) (stim : Stimulus) : Prop := StaysBelow s.1 (.step s.2 stim)

theorem Indistinguishable.step {config : CPUConfig} {s t : CPU × β} {stim : Stimulus}
    (h : Indistinguishable config s t) (hstays : StepsBelow s stim) :
    report s stim = report t stim ∧ StepsBelow t stim ∧
      Indistinguishable config (s.1.stepOn s.2 stim).2 (t.1.stepOn t.2 stim).2 := by
  obtain ⟨cpu, bus⟩ := s
  obtain ⟨cpu', bus'⟩ := t
  obtain rfl : bus' = bus := h.bus_eq
  obtain ⟨hcoupled, hbus⟩ := step_coupled h.reachable.wellFormed h.reachable'.wellFormed h.low
    h.below bus' stim
  rcases hcoupled with ⟨hflag, hpriv⟩ | ⟨hresult, hlow⟩
  · exact absurd hpriv (hstays hflag)
  have hkept := machineKept_step h.reachable.wellFormed h.reachable.mprvClear h.below hstays
  refine ⟨hresult.symm, fun hflag => ?_, ?_⟩
  · have hprivilege : (cpu'.stepOn bus' stim).2.1.csrs.currentPrivilege =
        (cpu.stepOn bus' stim).2.1.csrs.currentPrivilege := hlow.1.privilege
    rw [hprivilege]
    exact hkept.1
  · exact ⟨h.reachable.run [.step bus' stim], h.reachable'.run [.step bus' stim], hkept.1, hlow,
      hbus⟩

/-- **Noninterference.** Two reachable states below M that agree on everything but
the private registers and fields of M: while the run of the first takes no trap into
M, neither does that of the second on the same bus, both report the same, and they
end in states that agree so again, with the bus the same. -/
theorem noninterference_run (config : CPUConfig) (actions actions' : List Action) (bus : β)
    (stims : List Stimulus) :
    let cpu := (machine config).run (CPU.new config) actions
    let cpu' := (machine config).run (CPU.new config) actions'
    LowEq cpu cpu' → cpu.csrs.currentPrivilege ≠ .machine →
      (stepper cpu bus).Along StepsBelow (cpu, bus) stims →
        (stepper cpu' bus).Along StepsBelow (cpu', bus) stims ∧
          (stepper cpu' bus).answers report (cpu', bus) stims =
            (stepper cpu bus).answers report (cpu, bus) stims ∧
          LowEq ((stepper cpu bus).run (cpu, bus) stims).1
            ((stepper cpu' bus).run (cpu', bus) stims).1 ∧
          ((stepper cpu' bus).run (cpu', bus) stims).2 =
            ((stepper cpu bus).run (cpu, bus) stims).2 := by
  intro cpu cpu' hlow hbelow hstays
  have hstart : Indistinguishable config (cpu, bus) (cpu', bus) :=
    ⟨⟨actions, rfl⟩, ⟨actions', rfl⟩, hbelow, hlow, rfl⟩
  have hstep : ∀ s t stim, Indistinguishable config s t → StepsBelow s stim →
      report s stim = report t stim ∧ StepsBelow t stim ∧
        Indistinguishable config ((stepper cpu bus).next s stim)
          ((stepper cpu' bus).next t stim) := fun s t stim h hstep => h.step hstep
  -- the guard holds along the second run too, so the lockstep rule applies
  have hstays' := Machine.Along.lockstep
    (fun s t stim h hguard => (hstep s t stim h hguard).2) hstays hstart
  obtain ⟨hanswers, hend⟩ := Machine.lockstep (N := stepper cpu' bus) report report
    (fun s t stim h hguard => ⟨(hstep s t stim h hguard).1, (hstep s t stim h hguard).2.2⟩)
    hstart hstays
  exact ⟨hstays', hanswers.symm, hend.low, hend.bus_eq⟩

end

/-- Two values written to mscratch before the SRET into U. -/
theorem noninterference_run_mscratch :
    let _ := Rv32f.nanHost
    let mem := SimpleMemory.new 0
    let config : CPUConfig := { enableSMode := true, enableUMode := true }
    let enter := fun op => [op, 0x10200073].map fun op => Action.step mem (.inject op)
    let cpu := (machine config).run (CPU.new config) (enter 0x3402D073)
    let cpu' := (machine config).run (CPU.new config) (enter 0x34035073)
    let stims := [Stimulus.inject 0x00000013, .inject 0x00150513]
    cpu.csrs.get CsrAddr.mscratch = 5 ∧ cpu'.csrs.get CsrAddr.mscratch = 6 ∧
      (stepper cpu' mem).answers report (cpu', mem) stims =
        (stepper cpu mem).answers report (cpu, mem) stims ∧
      LowEq ((stepper cpu mem).run (cpu, mem) stims).1
        ((stepper cpu' mem).run (cpu', mem) stims).1 := by
  intro host mem config enter cpu cpu' stims
  have hlow : LowEq cpu cpu' := by
    have hscratch := (CsrLow.setPrivate (CPU.new config).csrs (a := CsrAddr.mscratch) (by decide)
      5 6).counted false
    have hsret := hscratch.sret.counted false
    dsimp only [cpu, cpu', enter, config, mem, List.map, Machine.run, List.foldl] at hsret ⊢
    subst host
    refine ⟨⟨by decide, ⟨by decide, by decide, by decide, by decide⟩, by decide, ?_⟩, ?_⟩
    · exact hsret.others
    · rfl
  have hstays : (stepper cpu mem).Along StepsBelow (cpu, mem) stims := by
    refine ⟨fun _ => ?_, fun _ => ?_, trivial⟩ <;> decide
  have h := noninterference_run config (enter 0x3402D073) (enter 0x34035073) mem stims hlow
    (by decide) hstays
  exact ⟨by decide, by decide, h.2.1, h.2.2.1⟩

end Riscv

import Riscv.Dispatch
import Riscv.Runs
import Riscv.Memory

/- The pc of every run.

   Every way a step ends leaves an aligned pc: instructions by `PcAlign`, traps
   because a vector is a multiple of four, MRET and SRET because xepc is masked.
   On an aligned pc the bit test of the base executor is exactly misalignment, so
   a taken jump traps when its target is misaligned and at no other time.

   `Transfer` is what a jump or branch asks for, read off the decoded instruction
   and the registers without executing it. -/
namespace Riscv

open Zicsr Run

/-! ## Jumps and branches -/

/-- What an instruction asks of the pc: nothing, or a branch not taken, or a jump
or branch to a target. -/
inductive Transfer where
  | sequential
  | untaken
  | taken (target : Word)
  deriving DecidableEq, Repr

/-- A branch not taken is no transfer. -/
def Transfer.branch (taken : Bool) (target : Word) : Transfer :=
  if taken then .taken target else .untaken

/-- Where a jump or a branch goes, if it is taken. -/
def Rv32i.DecodedInstr.transfer (d : Rv32i.DecodedInstr) (regs : RegFile) (pc : Word) : Transfer :=
  let rs1Val := regs.read d.rs1
  let rs2Val := regs.read d.rs2
  match d.type with
  | .jal => .taken (pc + d.imm)
  | .jalr => .taken ((rs1Val + d.imm) &&& ~~~1)
  | .beq => .branch (decide (rs1Val = rs2Val)) (pc + d.imm)
  | .bne => .branch (decide (rs1Val ≠ rs2Val)) (pc + d.imm)
  | .blt => .branch (rs1Val.slt rs2Val) (pc + d.imm)
  | .bge => .branch (!rs1Val.slt rs2Val) (pc + d.imm)
  | .bltu => .branch (rs1Val.ult rs2Val) (pc + d.imm)
  | .bgeu => .branch (!rs1Val.ult rs2Val) (pc + d.imm)
  | _ => .sequential

/-- The same for a parcel. -/
def Rv32c.DecodedInstr.transfer (d : Rv32c.DecodedInstr) (regs : RegFile) (pc : Word) : Transfer :=
  match d.type with
  | .cJ | .cJal => .taken (pc + d.imm)
  | .cJr | .cJalr => .taken (regs.read d.rs1 &&& ~~~1)
  | .cBeqz => .branch (decide (regs.read d.rs1 = 0)) (pc + d.imm)
  | .cBnez => .branch (decide (regs.read d.rs1 ≠ 0)) (pc + d.imm)
  | _ => .sequential

/-- What the instruction a step executes asks of the pc. -/
def CPU.transfer (cpu : CPU) (instr : Word) (is32bit : Bool) : Transfer :=
  if is32bit then
    (cpu.config.classifier.rv32iDec.decode instr).transfer cpu.regs cpu.pc
  else if cpu.config.enableCExtension then
    (Rv32c.decode (u16 instr)).transfer cpu.regs cpu.pc
  else .sequential

theorem Transfer.branch_eq_taken {taken : Bool} {target t : Word} :
    Transfer.branch taken target = .taken t ↔ taken = true ∧ target = t := by
  cases taken <;> simp [Transfer.branch]

theorem Transfer.branch_eq_untaken {taken : Bool} {target : Word} :
    Transfer.branch taken target = .untaken ↔ taken = false := by
  cases taken <;> simp [Transfer.branch]

namespace Rv32i

variable {d : DecodedInstr} {regs : RegFile} {pc target : Word}

/-- Only a jump or a branch asks for anything. -/
theorem DecodedInstr.transfer_type (h : d.transfer regs pc ≠ .sequential) :
    d.type = .jal ∨ d.type = .jalr ∨ d.type.isBranch = true := by
  unfold DecodedInstr.transfer at h
  cases htype : d.type <;> rw [htype] at h <;> first | exact absurd rfl h | simp [InstrType.isBranch]

theorem DecodedInstr.transfer_even (hd : d.EvenOffset) (hpc : IsEven pc)
    (h : d.transfer regs pc = .taken target) : IsEven target := by
  have hoffset : d.type = .jal ∨ d.type.isBranch = true → IsEven (pc + d.imm) :=
    fun ht => even_add hpc (hd ht)
  unfold DecodedInstr.transfer at h
  cases htype : d.type <;> rw [htype] at h hoffset <;> dsimp only at h
  case jal =>
    cases h
    exact hoffset (.inl rfl)
  case jalr =>
    cases h
    exact even_and_not_one _
  case beq | bne | blt | bge | bltu | bgeu =>
    rw [← (Transfer.branch_eq_taken.mp h).2]
    exact hoffset (.inr rfl)
  all_goals cases h

namespace Executor

variable {β : Type} [Bus β] (ex : Executor)

theorem execute_taken (h : d.transfer regs pc = .taken target) (bus : β) :
    ∃ regs', ex.execute d regs bus pc =
      if ex.targetMisaligned target then
        (setFetchMisaligned { nextPc := pc + 4 } target, regs, bus)
      else ({ nextPc := target, branchTaken := true }, regs', bus) := by
  have hbranch : ∀ {t : Word} {b : Prop} [Decidable b], b → t = target →
      (if b then ex.takeBranch { nextPc := pc + 4 } t else { nextPc := pc + 4 }, regs, bus) =
        if ex.targetMisaligned target then
          (setFetchMisaligned { nextPc := pc + 4 } target, regs, bus)
        else ({ nextPc := target, branchTaken := true }, regs, bus) := by
    intro t b _ hb ht
    rw [if_pos hb, ht]
    unfold takeBranch
    split <;> rfl
  unfold DecodedInstr.transfer at h
  unfold execute
  cases htype : d.type <;> rw [htype] at h <;> dsimp only at h ⊢
  case jal | jalr =>
    cases h
    exact ⟨_, rfl⟩
  case beq | bne | blt | bge | bltu | bgeu =>
    obtain ⟨htaken, htarget⟩ := Transfer.branch_eq_taken.mp h
    exact ⟨regs, hbranch (by simpa using htaken) htarget⟩
  all_goals cases h

theorem execute_untaken (h : d.transfer regs pc = .untaken) (bus : β) :
    ex.execute d regs bus pc = ({ nextPc := pc + 4 }, regs, bus) := by
  unfold DecodedInstr.transfer at h
  unfold execute
  cases htype : d.type <;> rw [htype] at h <;> dsimp only at h ⊢
  case beq | bne | blt | bge | bltu | bgeu =>
    have huntaken := Transfer.branch_eq_untaken.mp h
    rw [if_neg (by simpa using huntaken)]
  all_goals cases h

end Executor

end Rv32i

namespace Rv32c

variable {d : DecodedInstr} {regs : RegFile} {pc target : Word}

theorem DecodedInstr.transfer_type (h : d.transfer regs pc ≠ .sequential) :
    d.type ≠ .illegal := by
  intro htype
  unfold DecodedInstr.transfer at h
  rw [htype] at h
  exact h rfl

theorem DecodedInstr.transfer_even (hd : d.EvenOffset) (hpc : IsEven pc)
    (h : d.transfer regs pc = .taken target) : IsEven target := by
  have hoffset : d.type.isRelative = true → IsEven (pc + d.imm) :=
    fun ht => even_add hpc (hd ht)
  unfold DecodedInstr.transfer at h
  cases htype : d.type <;> rw [htype] at h hoffset <;> dsimp only at h
  case cJ | cJal =>
    cases h
    exact hoffset rfl
  case cJr | cJalr =>
    cases h
    exact even_and_not_one _
  case cBeqz | cBnez =>
    rw [← (Transfer.branch_eq_taken.mp h).2]
    exact hoffset rfl
  all_goals cases h

namespace Executor

variable {β : Type} [Bus β] (ex : Executor)

theorem execute_taken (h : d.transfer regs pc = .taken target) (bus : β) :
    ∃ regs', ex.execute d regs bus pc =
      ({ nextPc := target, branchTaken := true }, regs', bus) := by
  unfold DecodedInstr.transfer at h
  unfold execute
  cases htype : d.type <;> rw [htype] at h <;> dsimp only at h ⊢
  case cJ | cJal | cJr | cJalr =>
    cases h
    exact ⟨_, rfl⟩
  case cBeqz | cBnez =>
    obtain ⟨htaken, htarget⟩ := Transfer.branch_eq_taken.mp h
    rw [if_pos (by simpa using htaken), htarget]
    exact ⟨_, rfl⟩
  all_goals cases h

theorem execute_untaken (h : d.transfer regs pc = .untaken) (bus : β) :
    ex.execute d regs bus pc = ({ nextPc := pc + 2 }, regs, bus) := by
  unfold DecodedInstr.transfer at h
  unfold execute
  cases htype : d.type <;> rw [htype] at h <;> dsimp only at h ⊢
  case cBeqz | cBnez =>
    have huntaken := Transfer.branch_eq_untaken.mp h
    rw [if_neg (by simpa using huntaken)]
  all_goals cases h

end Executor

end Rv32c

/-! ## The invariant -/

theorem aligned_vectorTarget (c : Bool) (tvec : Word) (code : Nat) :
    Aligned c (CPU.vectorTarget tvec code) := by
  have hbase := aligned_and_not_three c tvec
  have hslot : Aligned c (4 * BitVec.ofNat 32 code) := by
    cases c
    · simp [Aligned, ialignBytes, BitVec.toNat_mul]
    · simp [Aligned, ialignBytes, BitVec.toNat_mul]
      omega
  unfold CPU.vectorTarget
  dsimp only
  split
  · exact aligned_add hbase hslot
  · exact hbase

variable [Rv32f.HostFloat] {config : CPUConfig} {cpu : CPU}

/-- One step keeps the pc aligned. -/
theorem aligned_step (h : cpu.WellFormed config) (hpc : Aligned config.enableCExtension cpu.pc)
    {β : Type} [Bus β] (bus : β) (stim : Stimulus) :
    Aligned config.enableCExtension (cpu.stepOn bus stim).2.1.pc := by
  have hconfig := h.config_eq
  subst hconfig
  cases step_outcome h bus stim with
  | interrupt _ step _ =>
    rw [step.pcAfter, step.nextPc]
    exact aligned_vectorTarget _ _ _
  | exception _ step _ =>
    rw [step.pcAfter, step.nextPc]
    exact aligned_and_not_three _ _
  | retire _ _ step _ _ _ aligned _ =>
    rw [step.pcAfter]
    exact aligned hpc
  | mret _ _ step _ _ _ nextPc _ =>
    rw [step.pcAfter, nextPc]
    exact aligned_of_legal (h.legal.legal CsrAddr.mepc)
  | sret _ _ step _ _ _ _ _ nextPc _ =>
    rw [step.pcAfter, nextPc]
    exact aligned_of_legal (h.legal.legal CsrAddr.sepc)

/-- **The pc of every run is aligned**, when the reset vector is. -/
theorem Reachable.aligned (hreset : Aligned config.enableCExtension config.resetVector)
    (h : Reachable config cpu) : Aligned config.enableCExtension cpu.pc := by
  refine Machine.Reachable.invariant (P := fun cpu => Aligned config.enableCExtension cpu.pc)
    hreset ?_ h
  intro cpu a hreach hpc
  have hwell := Reachable.wellFormed hreach
  cases a with
  | step bus stim => exact aligned_step hwell hpc bus stim
  | line line level => cases line <;> exact hpc
  | reset =>
    have hconfig := hwell.config_eq
    subst hconfig
    exact hreset

/-! ## Jumps and branches in a step -/

/-- How a step answers what its instruction asks of the pc. -/
def TransferSpec (cpu : CPU) (out : CPUExecResult × CPU) : Transfer → Prop
  | .sequential => True
  | .untaken => out.1.trap = false
  | .taken target =>
    if Aligned cpu.config.enableCExtension target then
      out.1.trap = false ∧ out.1.nextPc = target
    else
      out.1.trap = true ∧ out.1.trapCause = Exc.instrAddrMisaligned ∧
        out.1.trapValue = target ∧ out.2.regs = cpu.regs

section
variable {β : Type} [Bus β] {bus bus₁ : β} {stim : Stimulus} {instr : Word}

theorem transfer_base (h : cpu.WellFormed config)
    (hpc : Aligned cpu.config.enableCExtension cpu.pc) (hselected : cpu.selected = none)
    (hsupplied : cpu.supply bus stim = (.ok (instr, true), bus₁)) :
    TransferSpec cpu ((cpu.stepOn bus stim).1, (cpu.stepOn bus stim).2.1)
      ((cpu.config.classifier.rv32iDec.decode instr).transfer cpu.regs cpu.pc) := by
  have hspec := supply_spec cpu bus stim
  rw [hsupplied] at hspec
  have hsize : OpcodeClassifier.isCompressed instr = false := by
    simpa [OpcodeClassifier.isCompressed] using hspec.1.symm
  -- only a legal instruction transfers, and the step executes it
  have hstep : (cpu.config.classifier.rv32iDec.decode instr).transfer cpu.regs cpu.pc ≠
      .sequential → cpu.stepOn bus stim =
        let done := cpu.syncExecutorConfig.executeAs .rv32i instr bus₁
          { cpu.initResult with instruction := instr }
        (done.1, done.2.1.finishStep done.1, done.2.2) := by
    intro htransfer
    have hlegal : (cpu.config.classifier.rv32iDec.decode instr).type ≠ .illegal := by
      intro htype
      have hjump := Rv32i.DecodedInstr.transfer_type htransfer
      rw [htype] at hjump
      exact absurd hjump (by decide)
    exact stepOn_executeAs hselected hsupplied rfl
      (OpcodeClassifier.accepts_iff.mpr ⟨hsize, hlegal⟩)
  cases htransfer : (cpu.config.classifier.rv32iDec.decode instr).transfer cpu.regs cpu.pc with
  | sequential => trivial
  | untaken =>
    rw [hstep (by rw [htransfer]; simp)]
    have hexec : cpu.syncExecutorConfig.iExecutor.execute
        (cpu.syncExecutorConfig.iDecoder.decode instr) cpu.syncExecutorConfig.regs bus₁
          cpu.syncExecutorConfig.pc = _ :=
      Rv32i.Executor.execute_untaken _ htransfer bus₁
    unfold CPU.executeAs CPU.executeBase CPU.finishBase
    simp only [hexec]
    rfl
  | taken target =>
    rw [hstep (by rw [htransfer]; simp)]
    obtain ⟨regs', hexec⟩ : ∃ regs', cpu.syncExecutorConfig.iExecutor.execute
        (cpu.syncExecutorConfig.iDecoder.decode instr) cpu.syncExecutorConfig.regs bus₁
          cpu.syncExecutorConfig.pc = _ :=
      Rv32i.Executor.execute_taken _ htransfer bus₁
    have heven : IsEven target :=
      Rv32i.DecodedInstr.transfer_even (Rv32i.decode_evenOffset _ _) hpc.even htransfer
    have hcheck := Rv32i.Executor.targetMisaligned_iff cpu.syncExecutorConfig.iExecutor heven
    unfold CPU.executeAs CPU.executeBase CPU.finishBase TransferSpec
    simp only [hexec]
    -- the target is even, so the bit test of the executor is alignment
    by_cases halign : Aligned cpu.config.enableCExtension target
    · have hmis : cpu.syncExecutorConfig.iExecutor.targetMisaligned target = false :=
        Bool.eq_false_iff.mpr fun h => hcheck.mp h halign
      rw [if_pos halign]
      simp only [hmis, Bool.false_eq_true, if_false]
      exact ⟨rfl, rfl⟩
    · have hmis : cpu.syncExecutorConfig.iExecutor.targetMisaligned target = true :=
        hcheck.mpr halign
      rw [if_neg halign]
      simp only [hmis, if_true, Rv32i.Executor.setFetchMisaligned, Bool.false_eq_true, if_false,
        CPU.trapUnless, Bool.not_true]
      have hcode : ExceptionCode Exc.instrAddrMisaligned := by decide
      exact ⟨(exceptionStep h hcode rfl rfl).trap, (exceptionStep h hcode rfl rfl).trapCause,
        (exceptionStep h hcode rfl rfl).trapValue, (exceptionStep h hcode rfl rfl).regs⟩

theorem transfer_compressed (hc : cpu.config.enableCExtension = true)
    (hpc : Aligned cpu.config.enableCExtension cpu.pc) (hselected : cpu.selected = none)
    (hsupplied : cpu.supply bus stim = (.ok (instr, false), bus₁)) :
    TransferSpec cpu ((cpu.stepOn bus stim).1, (cpu.stepOn bus stim).2.1)
      ((Rv32c.decode (u16 instr)).transfer cpu.regs cpu.pc) := by
  have hspec := supply_spec cpu bus stim
  rw [hsupplied] at hspec
  have hsize : OpcodeClassifier.isCompressed instr = true := by
    simpa [OpcodeClassifier.isCompressed] using hspec.1.symm
  have hstep : (Rv32c.decode (u16 instr)).transfer cpu.regs cpu.pc ≠ .sequential →
      cpu.stepOn bus stim =
        let done := cpu.syncExecutorConfig.executeAs .rv32c instr bus₁
          { cpu.initResult with instruction := instr }
        (done.1, done.2.1.finishStep done.1, done.2.2) := by
    intro htransfer
    have hlegal := Rv32c.DecodedInstr.transfer_type htransfer
    exact stepOn_executeAs hselected hsupplied hc
      (OpcodeClassifier.accepts_iff.mpr ⟨hsize, hlegal⟩)
  cases htransfer : (Rv32c.decode (u16 instr)).transfer cpu.regs cpu.pc with
  | sequential => trivial
  | untaken =>
    rw [hstep (by rw [htransfer]; simp)]
    have hexec : cpu.syncExecutorConfig.cExecutor.execute (Rv32c.decode (u16 instr))
        cpu.syncExecutorConfig.regs bus₁ cpu.syncExecutorConfig.pc = _ :=
      Rv32c.Executor.execute_untaken _ htransfer bus₁
    unfold CPU.executeAs CPU.executeC
    simp only [hexec]
    rfl
  | taken target =>
    rw [hstep (by rw [htransfer]; simp)]
    obtain ⟨regs', hexec⟩ : ∃ regs', cpu.syncExecutorConfig.cExecutor.execute
        (Rv32c.decode (u16 instr)) cpu.syncExecutorConfig.regs bus₁ cpu.syncExecutorConfig.pc =
          ({ nextPc := target, branchTaken := true }, regs', bus₁) :=
      Rv32c.Executor.execute_taken _ htransfer bus₁
    -- with C on an even target is aligned, so there is nothing to check
    have htarget : Aligned cpu.config.enableCExtension target :=
      aligned_iff.mpr ⟨Rv32c.DecodedInstr.transfer_even (Rv32c.decode_evenOffset _) hpc.even
        htransfer, by simp [hc]⟩
    unfold CPU.executeAs CPU.executeC
    simp only [hexec, TransferSpec, if_pos htarget]
    exact ⟨rfl, rfl⟩

/-- A jump or branch in a step from an aligned pc. -/
theorem transfer_step (h : cpu.WellFormed config)
    (hpc : Aligned cpu.config.enableCExtension cpu.pc) (hselected : cpu.selected = none)
    {is32bit : Bool} (hsupplied : cpu.supply bus stim = (.ok (instr, is32bit), bus₁)) :
    TransferSpec cpu ((cpu.stepOn bus stim).1, (cpu.stepOn bus stim).2.1)
      (cpu.transfer instr is32bit) := by
  unfold CPU.transfer
  cases is32bit with
  | true => exact transfer_base h hpc hselected hsupplied
  | false =>
    simp only [Bool.false_eq_true, if_false]
    split
    · rename_i hc
      exact transfer_compressed hc hpc hselected hsupplied
    · trivial

end

/-- **Pc alignment.** With an aligned reset vector the pc is aligned after any
actions, and in a step that takes no interrupt a taken jump or branch to a
misaligned target traps with that target and writes no register, while a branch
not taken never traps. -/
theorem pc_aligned_run (config : CPUConfig)
    (hreset : Aligned config.enableCExtension config.resetVector) (actions : List Action) :
    let cpu := (machine config).run (CPU.new config) actions
    Aligned config.enableCExtension cpu.pc ∧
      ∀ {β : Type} [Bus β] (bus bus₁ : β) (stim : Stimulus) (instr : Word) (is32bit : Bool),
        cpu.beginStep = none → cpu.supply bus stim = (.ok (instr, is32bit), bus₁) →
          TransferSpec cpu ((cpu.stepOn bus stim).1, (cpu.stepOn bus stim).2.1)
            (cpu.transfer instr is32bit) := by
  intro cpu
  -- the reset vector is aligned, and every step keeps the pc so
  have hreach : Reachable config cpu := ⟨actions, rfl⟩
  have hpc := hreach.aligned hreset
  refine ⟨hpc, ?_⟩
  intro β _ bus bus₁ stim instr is32bit hbegin hsupplied
  have hwell := hreach.wellFormed
  rw [← hwell.config_eq] at hpc
  exact transfer_step hwell hpc (CPU.beginStep_eq_none.mp hbegin) hsupplied

omit [Rv32f.HostFloat] in
/-- JAL to a halfword, without C. -/
theorem pc_aligned_run_jal :
    let _ := Rv32f.nanHost
    let cpu := CPU.new { enableCExtension := false }
    Aligned false cpu.pc ∧
      TransferSpec cpu ((cpu.stepOpcode (SimpleMemory.new 0) 0x002000EF).1,
        (cpu.stepOpcode (SimpleMemory.new 0) 0x002000EF).2.1) (.taken 2) := by
  intro _ cpu
  have h := pc_aligned_run { enableCExtension := false } (by decide) []
  have hselected : cpu.selected = none := by decide
  exact ⟨h.1, h.2 (SimpleMemory.new 0) (SimpleMemory.new 0) (.inject 0x002000EF) 0x002000EF true
    (CPU.beginStep_eq_none.mpr hselected) rfl⟩

end Riscv

import Riscv.Dispatch
import Riscv.Runs

/- The CSR file across one step, by the instruction executed.

   `StepOutcome` says that an instruction that retires may write some CSR. Here the
   write is traced to its instruction: a step that retires a CSR instruction reads
   and writes as that instruction says, and any other instruction leaves the file
   as it is but for fcsr, MRET and SRET. What software can do to a register over a
   run is a case analysis of `CsrOutcome`. -/
namespace Riscv

open Zicsr

section
variable {β : Type} [Bus β]

/-! ## The CSR instruction of a step -/

/-- The CSR instruction a step executes. -/
def CPU.csrInstr (cpu : CPU) (bus : β) (stim : Stimulus) : Option DecodedCSRInstr :=
  if cpu.selected = none ∧ cpu.config.enableZicsr then
    match (cpu.supply bus stim).1 with
    | .ok (instr, true) =>
      if (Zicsr.decode instr).type = .illegal then none else some (Zicsr.decode instr)
    | _ => none
  else none

/-- The value a CSR instruction reads. -/
def CPU.csrRead (cpu : CPU) (d : DecodedCSRInstr) : Word :=
  if willRead d then cpu.csrs.read d.csr else 0

/-- The value it writes, if it writes. -/
def CPU.csrWritten (cpu : CPU) (d : DecodedCSRInstr) : Word :=
  newValue d (cpu.csrRead d) (sourceValue d cpu.regs)

/-- Whether a CSR instruction is executed rather than rejected. -/
def CPU.permits (cpu : CPU) (d : DecodedCSRInstr) : Bool :=
  !cpu.satpBlocked d && cpu.csrs.exists' d.csr && cpu.csrs.canRead d.csr &&
    (!willWrite d || cpu.csrs.canWrite d.csr)

/-- The register a step writes by a CSR instruction, and the value written. -/
def CPU.csrWrite (cpu : CPU) (bus : β) (stim : Stimulus) : Option (BitVec 16 × Word) :=
  match cpu.csrInstr bus stim with
  | some d => if cpu.permits d && willWrite d then some (d.csr, cpu.csrWritten d) else none
  | none => none

theorem csrInstr_eq_some {cpu : CPU} {bus : β} {stim : Stimulus} {d : DecodedCSRInstr}
    (h : cpu.csrInstr bus stim = some d) :
    cpu.selected = none ∧ cpu.config.enableZicsr = true ∧ d.type ≠ .illegal ∧
      ∃ instr bus₁, cpu.supply bus stim = (.ok (instr, true), bus₁) ∧ Zicsr.decode instr = d := by
  unfold CPU.csrInstr at h
  split at h
  · rename_i hcond
    rcases hsup : cpu.supply bus stim with ⟨_ | ⟨instr, _ | _⟩, bus₁⟩ <;> rw [hsup] at h
    · cases h
    · cases h
    · dsimp only at h
      split at h
      · cases h
      · rename_i htype
        cases h
        exact ⟨hcond.1, hcond.2, htype, instr, bus₁, rfl, rfl⟩
  · cases h

theorem csrWrite_eq_some {cpu : CPU} {bus : β} {stim : Stimulus} {a : BitVec 16} {v : Word} :
    cpu.csrWrite bus stim = some (a, v) ↔ ∃ d, cpu.csrInstr bus stim = some d ∧
      cpu.permits d = true ∧ willWrite d = true ∧ d.csr = a ∧ cpu.csrWritten d = v := by
  unfold CPU.csrWrite
  cases hd : cpu.csrInstr bus stim with
  | none => simp
  | some d => simp [and_assoc]

/-! ## What the instruction leaves -/

/-- A CSR instruction that retired: it was permitted, rd has the value read, and the
CSR the value written. -/
structure CsrDone (cpu : CPU) (d : DecodedCSRInstr) (out : CPUExecResult × CPU) : Prop where
  permitted : cpu.permits d = true
  regs : out.2.regs = cpu.regs.write d.rd (cpu.csrRead d)
  csrs : out.2.csrs =
    countStep (if willWrite d then cpu.csrs.write d.csr (cpu.csrWritten d) else cpu.csrs) false

/-- What an instruction that is no CSR instruction leaves of the CSR file. -/
inductive QuietCsrs (cpu : CPU) : CSRFile → Prop
  | same : QuietCsrs cpu cpu.csrs
  | fcsr (v : Word) : QuietCsrs cpu (cpu.csrs.set CsrAddr.fcsr (v &&& 0xFF))
  | mret (priv : cpu.csrs.currentPrivilege = .machine) : QuietCsrs cpu (CPU.mretCsrs cpu.csrs)
  | sret (enabled : cpu.config.enableSMode = true)
      (priv : cpu.csrs.currentPrivilege ≠ .user) : QuietCsrs cpu (CPU.sretCsrs cpu.csrs)

theorem QuietCsrs.of_sync {cpu : CPU} {csrs : CSRFile}
    (h : QuietCsrs cpu.syncExecutorConfig csrs) : QuietCsrs cpu csrs := by
  cases h with
  | same => exact .same
  | fcsr v => exact .fcsr v
  | mret priv => exact .mret priv
  | sret enabled priv => exact .sret enabled priv

theorem QuietCsrs.csrs_ne {cpu : CPU} {csrs : CSRFile} (h : QuietCsrs cpu csrs) {a : BitVec 16}
    (hfcsr : a ≠ CsrAddr.fcsr) (hmstatus : a ≠ CsrAddr.mstatus) :
    csrs.csrs a = cpu.csrs.csrs a := by
  cases h with
  | same => rfl
  | fcsr v => exact set_csrs_ne _ _ hfcsr
  | mret _ => exact set_csrs_ne _ _ hmstatus
  | sret _ _ => exact set_csrs_ne _ _ hmstatus

/-- The registers a step may change on its own: fcsr, the counters and the registers
of the trap levels. -/
def implicitCsrs : List (BitVec 16) :=
  CsrAddr.fcsr :: counterCsrs ++ PrivilegeLevel.machine.trapCsrs ++
    PrivilegeLevel.supervisor.trapCsrs

theorem not_mem_trapCsrs {a : BitVec 16} (ha : a ∉ implicitCsrs) (target : PrivilegeLevel) :
    a ∉ target.trapCsrs := by
  simp only [implicitCsrs, List.cons_append, List.mem_cons, List.mem_append, not_or] at ha
  cases target with
  | supervisor => exact ha.2.2
  | machine | user | reserved => exact ha.2.1.2

/-- The CSR file after a step. -/
inductive CsrOutcome (cpu : CPU) (bus : β) (stim : Stimulus) (out : CPUExecResult × CPU × β) :
    Prop
  | trap (flag : out.1.trap = true ∨ out.1.interrupt = true)
      (denied : ∀ d, cpu.csrInstr bus stim = some d → cpu.permits d = false ∧ out.1.trap = true)
      (taken : TrapTaken cpu out.2.1.csrs)
  | csr {d : DecodedCSRInstr} (executes : cpu.csrInstr bus stim = some d)
      (trap : out.1.trap = false) (interrupt : out.1.interrupt = false)
      (done : CsrDone cpu d (out.1, out.2.1))
  | quiet {csrs : CSRFile} (executes : cpu.csrInstr bus stim = none)
      (trap : out.1.trap = false) (interrupt : out.1.interrupt = false)
      (effect : QuietCsrs cpu csrs) (csrs_eq : out.2.1.csrs = countStep csrs false)

/-! ## Every instruction but the CSR instructions -/

theorem CPU.takeException_trap (cpu : CPU) (result : CPUExecResult) (cause tval : Word)
    (info : String) : (cpu.takeException result cause tval info).1.trap = true := by
  unfold takeException
  dsimp only
  split <;> rfl

theorem CPU.takeException_keeps (cpu : CPU) (result : CPUExecResult) (cause tval : Word)
    (info : String) :
    let out := cpu.takeException result cause tval info
    out.1.trapCause = cause ∧ out.1.trapValue = tval ∧ out.2.regs = cpu.regs ∧
      out.2.fregs = cpu.fregs ∧ out.2.csrs.get CsrAddr.fcsr = cpu.csrs.get CsrAddr.fcsr := by
  unfold takeException
  dsimp only
  split <;> exact ⟨rfl, rfl, rfl, rfl, rfl⟩

/-- A dispatch branch ends in a trap or leaves what the executor left. -/
theorem CPU.trapUnless_cases (cpu : CPU) (valid : Bool) (result : CPUExecResult)
    (cause tval : Word) (error : String) :
    (cpu.trapUnless valid result cause tval error).1.trap = true ∨
      (cpu.trapUnless valid result cause tval error).2.csrs = cpu.csrs := by
  unfold trapUnless
  split
  · exact .inr rfl
  · exact .inl (cpu.takeException_trap result cause tval error)

theorem executeBase_csrs (cpu : CPU) (instr : Word) (bus : β) (result : CPUExecResult) :
    (cpu.executeBase instr bus result).1.trap = true ∨
      QuietCsrs cpu (cpu.executeBase instr bus result).2.1.csrs := by
  unfold CPU.executeBase CPU.finishBase
  dsimp only
  -- MRET, SRET, SFENCE.VMA and WFI, then the instructions the executor does by itself
  split
  · split
    · exact .inl (CPU.takeException_trap _ _ _ _ _)
    · rename_i hpriv
      exact .inr (.mret (Classical.not_not.mp hpriv))
  split
  · split
    · exact .inl (CPU.takeException_trap _ _ _ _ _)
    · rename_i hallowed
      simp only [not_or, Bool.not_eq_true, Bool.not_eq_false'] at hallowed
      exact .inr (.sret hallowed.1 hallowed.2.1)
  split
  · split
    · exact .inl (CPU.takeException_trap _ _ _ _ _)
    · exact .inr .same
  split
  · split
    · exact .inl (CPU.takeException_trap _ _ _ _ _)
    · exact .inr .same
  · rcases CPU.trapUnless_cases _ _ _ _ _ _ with h | h
    · exact .inl h
    · rw [h]
      exact .inr .same

/-! ## The CSR instructions -/

/-- An instruction that is permitted returns the registers and the CSR file it asks
for. -/
theorem Zicsr.execute_permitted {d : DecodedCSRInstr} (regs : RegFile) {csrs : CSRFile}
    (htype : d.type ≠ .illegal) (hex : csrs.exists' d.csr = true)
    (hread : csrs.canRead d.csr = true) (hwrite : willWrite d = true → csrs.canWrite d.csr = true) :
    let csrVal := if willRead d then csrs.read d.csr else 0
    (Zicsr.execute d regs csrs).1.valid = true ∧
      (Zicsr.execute d regs csrs).2 = (regs.write d.rd csrVal,
        if willWrite d then csrs.write d.csr (newValue d csrVal (sourceValue d regs)) else csrs) := by
  have hdenied : ¬(willWrite d && !csrs.canWrite d.csr) = true := by
    cases hw : willWrite d with
    | false => simp
    | true => simp [hwrite hw]
  unfold Zicsr.execute
  simp only [if_neg htype, hex, hread, Bool.not_true, Bool.false_eq_true, if_false, if_neg hdenied,
    and_self]

theorem Zicsr.execute_denied (d : DecodedCSRInstr) (regs : RegFile) (csrs : CSRFile)
    (h : ¬(csrs.exists' d.csr = true ∧ csrs.canRead d.csr = true ∧
      (willWrite d = true → csrs.canWrite d.csr = true))) :
    (Zicsr.execute d regs csrs).1.valid = false := by
  unfold Zicsr.execute
  split
  · rfl
  split
  · rfl
  split
  · rfl
  split
  · rfl
  rename_i hex hread hwrite
  exact absurd ⟨by simpa using hex, by simpa using hread, fun hw => by simpa [hw] using hwrite⟩ h

theorem executeZicsr_permitted (cpu : CPU) {instr : Word} (result : CPUExecResult)
    (htype : (Zicsr.decode instr).type ≠ .illegal)
    (hpermits : cpu.permits (Zicsr.decode instr) = true) :
    cpu.executeZicsr instr result =
      ({ result with mnemonic := (Zicsr.decode instr).mnemonic },
        { cpu with
          regs := cpu.regs.write (Zicsr.decode instr).rd (cpu.csrRead (Zicsr.decode instr))
          csrs := if willWrite (Zicsr.decode instr) then
              cpu.csrs.write (Zicsr.decode instr).csr (cpu.csrWritten (Zicsr.decode instr))
            else cpu.csrs }) := by
  simp only [CPU.permits, Bool.and_eq_true, Bool.not_eq_true', Bool.or_eq_true] at hpermits
  obtain ⟨⟨⟨hblocked, hex⟩, hread⟩, hwrite⟩ := hpermits
  obtain ⟨hvalid, hout⟩ := Zicsr.execute_permitted cpu.regs htype hex hread fun hw => by
    simpa [hw] using hwrite
  unfold CPU.executeZicsr CPU.trapUnless
  simp only [hblocked, Bool.false_eq_true, if_false, hvalid, if_true, hout]
  rfl

/-- A CSR instruction the tests refuse is an illegal instruction, whatever the reason. -/
theorem executeZicsr_denied (cpu : CPU) {instr : Word} {result : CPUExecResult}
    (hpermits : cpu.permits (Zicsr.decode instr) = false) :
    IllegalTrap instr (cpu.executeZicsr instr result) := by
  unfold CPU.executeZicsr
  dsimp only
  split
  · exact illegalTrap_takeException _ _ _ _
  rename_i hblocked
  have hvalid := Zicsr.execute_denied (Zicsr.decode instr) cpu.regs cpu.csrs
    fun ⟨hex, hread, hwrite⟩ => by
      have hwrite' : (!willWrite (Zicsr.decode instr) ||
          cpu.csrs.canWrite (Zicsr.decode instr).csr) = true := by
        cases hw : willWrite (Zicsr.decode instr) with
        | false => rfl
        | true => simp [hwrite hw]
      simp [CPU.permits, hblocked, hex, hread, hwrite'] at hpermits
  rcases Zicsr.execute_cases (Zicsr.decode instr) cpu.regs cpu.csrs with
    ⟨error, hexec⟩ | ⟨haccepted, -⟩
  · rw [hexec]
    simp only [CPU.trapUnless, rejected, Bool.false_eq_true, if_false, raw_zicsr]
    exact illegalTrap_takeException _ _ _ _
  · exact absurd (hvalid.symm.trans haccepted) (by decide)

/-- A CSR instruction of the configuration is one the classifier accepts. -/
theorem accepts_zicsr (config : CPUConfig) {instr : Word} (hlow : instr &&& 0x3 = 0x3)
    (htype : (Zicsr.decode instr).type ≠ .illegal) :
    config.classifier.accepts .zicsr instr = true := by
  refine OpcodeClassifier.accepts_iff.mpr ⟨?_, htype⟩
  exact decide_eq_false (not_not_intro hlow)

/-! ## Every other extension -/

variable [Rv32f.HostFloat]

theorem executeF_csrs (cpu : CPU) (instr : Word) (bus : β) (result : CPUExecResult) :
    (cpu.executeF instr bus result).1.trap = true ∨
      QuietCsrs cpu (cpu.executeF instr bus result).2.1.csrs := by
  unfold CPU.executeF
  dsimp only
  rcases CPU.trapUnless_cases _ _ _ _ _ _ with h | h
  · exact .inl h
  · rw [h]
    exact .inr (.fcsr _)

/-- An instruction of any other extension traps or is quiet. -/
theorem executeAs_csrs (cpu : CPU) {e : Extension} (he : e ≠ .zicsr) (instr : Word) (bus : β)
    (result : CPUExecResult) :
    (cpu.executeAs e instr bus result).1.trap = true ∨
      QuietCsrs cpu (cpu.executeAs e instr bus result).2.1.csrs := by
  have hkept : ∀ {c : CPU} {valid : Bool} {r : CPUExecResult} {cause tval : Word} {info : String},
      c.csrs = cpu.csrs → (c.trapUnless valid r cause tval info).1.trap = true ∨
        QuietCsrs cpu (c.trapUnless valid r cause tval info).2.csrs := by
    intro c valid r cause tval info hc
    rcases c.trapUnless_cases valid r cause tval info with h | h
    · exact .inl h
    · rw [h, hc]
      exact .inr .same
  cases e
  case zicsr => exact absurd rfl he
  case rv32i => exact executeBase_csrs cpu instr bus _
  case rv32f => exact executeF_csrs cpu instr bus _
  all_goals exact hkept rfl

/-! ## Every step -/

section
variable {cpu : CPU} {bus : β} {stim : Stimulus} {d : DecodedCSRInstr}

theorem stepOn_zicsr (hd : cpu.csrInstr bus stim = some d) :
    ∃ instr, Zicsr.decode instr = d ∧ cpu.stepOn bus stim =
      let done := cpu.syncExecutorConfig.executeZicsr instr
        { cpu.initResult with instruction := instr, nextPc := cpu.pc + 4 }
      (done.1, done.2.finishStep done.1, (cpu.supply bus stim).2) := by
  obtain ⟨hselected, henabled, htype, instr, bus₁, hsupplied, rfl⟩ := csrInstr_eq_some hd
  have hspec := supply_spec cpu bus stim
  rw [hsupplied] at hspec
  refine ⟨instr, rfl, ?_⟩
  rw [stepOn_executeAs hselected hsupplied (e := .zicsr) henabled
    (accepts_zicsr cpu.config (of_decide_eq_true hspec.1.symm) htype), hsupplied]
  rfl

theorem stepOn_denied (hd : cpu.csrInstr bus stim = some d) (hpermits : cpu.permits d = false) :
    IllegalTrap d.raw ((cpu.stepOn bus stim).1, (cpu.stepOn bus stim).2.1) ∧
      (cpu.stepOn bus stim).2.2 = (cpu.supply bus stim).2 := by
  obtain ⟨instr, rfl, hstep⟩ := stepOn_zicsr hd
  rw [hstep, raw_zicsr]
  exact ⟨(executeZicsr_denied cpu.syncExecutorConfig hpermits).finishStep, rfl⟩

end

/-- A step that executes a CSR instruction does what it says, or traps. -/
theorem csr_outcome_some {config : CPUConfig} {cpu : CPU} (h : cpu.WellFormed config) {bus : β}
    {stim : Stimulus} {d : DecodedCSRInstr} (hd : cpu.csrInstr bus stim = some d) :
    CsrOutcome cpu bus stim (cpu.stepOn bus stim) := by
  have htype := (csrInstr_eq_some hd).2.2.1
  cases hpermits : cpu.permits d with
  | true =>
    obtain ⟨instr, rfl, hstep⟩ := stepOn_zicsr hd
    have hexec := executeZicsr_permitted cpu.syncExecutorConfig
      { cpu.initResult with instruction := instr, nextPc := cpu.pc + 4 } htype hpermits
    refine .csr hd ?_ ?_ ⟨hpermits, ?_, ?_⟩ <;> rw [hstep]
    · exact congrArg (fun out => out.1.trap) hexec
    · exact congrArg (fun out => out.1.interrupt) hexec
    · exact congrArg (fun out => out.2.regs) hexec
    · exact congrArg (fun out => countStep out.2.csrs out.1.trap) hexec
  | false =>
    have htrap : (cpu.stepOn bus stim).1.trap = true := (stepOn_denied hd hpermits).1.trap
    have hdenied : ∀ d, cpu.csrInstr bus stim = some d →
        cpu.permits d = false ∧ (cpu.stepOn bus stim).1.trap = true := by
      intro d hd'
      rw [hd] at hd'
      cases hd'
      exact ⟨hpermits, htrap⟩
    obtain ⟨cause, tval, -, step, -⟩ := (step_outcome h bus stim).exceptional htrap
    exact .trap (.inl htrap) hdenied step.taken

theorem retired_accepts {cpu : CPU} {bus bus₁ : β} {stim : Stimulus} {instr : Word}
    {is32bit : Bool} (hselected : cpu.selected = none)
    (hsupplied : cpu.supply bus stim = (.ok (instr, is32bit), bus₁))
    (htrap : (cpu.stepOn bus stim).1.trap = false) : cpu.config.Legal instr := by
  apply Classical.byContradiction
  intro hillegal
  have hspec := supply_spec cpu bus stim
  rw [hsupplied] at hspec
  have hraised := executeParcels_illegal cpu.syncExecutorConfig rfl hillegal bus₁
    { cpu.initResult with instruction := instr }
  rw [CPU.stepOn_execute hselected hsupplied, hspec.1] at htrap
  exact absurd (hraised.illegalTrap.trap.symm.trans htrap) (by decide)

omit [Rv32f.HostFloat] in
theorem csrInstr_of_accepts {cpu : CPU} {bus bus₁ : β} {stim : Stimulus} {instr : Word}
    {is32bit : Bool} (hselected : cpu.selected = none)
    (hsupplied : cpu.supply bus stim = (.ok (instr, is32bit), bus₁))
    (henabled : cpu.config.enables .zicsr = true)
    (haccepts : cpu.config.classifier.accepts .zicsr instr = true) :
    cpu.csrInstr bus stim = some (Zicsr.decode instr) := by
  have hspec := supply_spec cpu bus stim
  rw [hsupplied] at hspec
  obtain ⟨hsize, htype⟩ := OpcodeClassifier.accepts_iff.mp haccepts
  have hlow : instr &&& 0x3 = 0x3 := Decidable.not_not.mp (of_decide_eq_false hsize)
  unfold CPU.csrInstr
  rw [hsupplied, hspec.1, decide_eq_true hlow, if_pos ⟨hselected, henabled⟩]
  exact if_neg htype

/-- An instruction that retires and is no CSR instruction is quiet. -/
theorem csr_quiet {cpu : CPU} {bus bus₁ : β} {stim : Stimulus} {instr : Word} {is32bit : Bool}
    (hnone : cpu.csrInstr bus stim = none) (hselected : cpu.selected = none)
    (hsupplied : cpu.supply bus stim = (.ok (instr, is32bit), bus₁))
    (htrap : (cpu.stepOn bus stim).1.trap = false)
    (hinterrupt : (cpu.stepOn bus stim).1.interrupt = false) :
    CsrOutcome cpu bus stim (cpu.stepOn bus stim) := by
  obtain ⟨e, henabled, haccepts⟩ := retired_accepts hselected hsupplied htrap
  have he : e ≠ .zicsr := by
    rintro rfl
    rw [csrInstr_of_accepts hselected hsupplied henabled haccepts] at hnone
    cases hnone
  have hstep := stepOn_executeAs hselected hsupplied henabled haccepts
  rw [hstep] at htrap hinterrupt ⊢
  rcases executeAs_csrs cpu.syncExecutorConfig he instr bus₁
    { cpu.initResult with instruction := instr } with htaken | hquiet
  · exact absurd (htaken.symm.trans htrap) (by decide)
  · exact .quiet hnone htrap hinterrupt hquiet.of_sync (congrArg (countStep _) htrap)

/-- **The CSR file after a step.** -/
theorem csr_outcome {config : CPUConfig} {cpu : CPU} (h : cpu.WellFormed config) (bus : β)
    (stim : Stimulus) : CsrOutcome cpu bus stim (cpu.stepOn bus stim) := by
  cases hd : cpu.csrInstr bus stim with
  | some d => exact csr_outcome_some h hd
  | none =>
    have hdenied : ∀ d, cpu.csrInstr bus stim = some d →
        cpu.permits d = false ∧ (cpu.stepOn bus stim).1.trap = true := by
      intro d hd'
      rw [hd] at hd'
      cases hd'
    cases step_outcome h bus stim with
    | interrupt selected step _ => exact .trap (.inr step.interrupt) hdenied (step.taken selected)
    | exception _ step _ => exact .trap (.inl step.trap) hdenied step.taken
    | retire selected supplied step _ _ _ _ _ =>
      exact csr_quiet hd selected supplied step.trap step.interrupt
    | mret selected supplied step _ _ _ _ _ =>
      exact csr_quiet hd selected supplied step.trap step.interrupt
    | sret selected supplied step _ _ _ _ _ _ _ =>
      exact csr_quiet hd selected supplied step.trap step.interrupt

/-- A CSR instruction that did not trap did what it says. -/
theorem csr_done {config : CPUConfig} {cpu : CPU} (h : cpu.WellFormed config) {bus : β}
    {stim : Stimulus} {d : DecodedCSRInstr} (hd : cpu.csrInstr bus stim = some d)
    (htrap : (cpu.stepOn bus stim).1.trap = false) :
    CsrDone cpu d ((cpu.stepOn bus stim).1, (cpu.stepOn bus stim).2.1) := by
  cases csr_outcome h bus stim with
  | trap _ denied _ => exact absurd ((denied d hd).2.symm.trans htrap) (by decide)
  | csr executes _ _ done =>
    rw [hd] at executes
    cases executes
    exact done
  | quiet executes _ _ _ _ =>
    rw [hd] at executes
    cases executes

/-- A step that writes a CSR, as it leaves the file. -/
theorem csrWrite_some {config : CPUConfig} {cpu : CPU} (h : cpu.WellFormed config) {bus : β}
    {stim : Stimulus} {a : BitVec 16} {v : Word} (hwrite : cpu.csrWrite bus stim = some (a, v)) :
    cpu.csrs.exists' a = true ∧ cpu.csrs.canWrite a = true ∧
      (cpu.stepOn bus stim).1.trap = false ∧ (cpu.stepOn bus stim).1.interrupt = false ∧
      (cpu.stepOn bus stim).2.1.csrs = countStep (cpu.csrs.write a v) false := by
  obtain ⟨d, hd, hpermits, hwill, rfl, rfl⟩ := csrWrite_eq_some.mp hwrite
  have hallowed := hpermits
  simp only [CPU.permits, Bool.and_eq_true, hwill, Bool.not_true, Bool.false_or] at hallowed
  cases csr_outcome h bus stim with
  | trap _ denied _ =>
    have hdenied := (denied d hd).1
    rw [hpermits] at hdenied
    cases hdenied
  | csr executes trap interrupt done =>
    rw [hd] at executes
    cases executes
    have hcsrs := done.csrs
    rw [hwill] at hcsrs
    exact ⟨hallowed.1.1.2, hallowed.2, trap, interrupt, hcsrs⟩
  | quiet executes _ _ _ _ =>
    rw [hd] at executes
    cases executes

/-- A step that writes none traps, or changes nothing but by fcsr, MRET and SRET. -/
theorem csrWrite_none {config : CPUConfig} {cpu : CPU} (h : cpu.WellFormed config) {bus : β}
    {stim : Stimulus} (hwrite : cpu.csrWrite bus stim = none) :
    ((cpu.stepOn bus stim).1.trap = true ∨ (cpu.stepOn bus stim).1.interrupt = true) ∧
        TrapTaken cpu (cpu.stepOn bus stim).2.1.csrs ∨
      ((cpu.stepOn bus stim).1.trap = false ∧ (cpu.stepOn bus stim).1.interrupt = false) ∧
        ∃ csrs, QuietCsrs cpu csrs ∧ (cpu.stepOn bus stim).2.1.csrs = countStep csrs false := by
  cases csr_outcome h bus stim with
  | trap flag _ taken => exact .inl ⟨flag, taken⟩
  | @csr d executes trap interrupt done =>
    have hw : willWrite d = false := by
      unfold CPU.csrWrite at hwrite
      rw [executes] at hwrite
      dsimp only at hwrite
      rw [done.permitted] at hwrite
      cases hw : willWrite d with
      | false => rfl
      | true =>
        rw [hw] at hwrite
        cases hwrite
    have hcsrs := done.csrs
    rw [hw] at hcsrs
    exact .inr ⟨⟨trap, interrupt⟩, _, .same, hcsrs⟩
  | quiet _ trap interrupt effect csrs_eq => exact .inr ⟨⟨trap, interrupt⟩, _, effect, csrs_eq⟩

/-! ## The registers no step writes by itself -/

/-- The CSR file after the write of a step's CSR instruction, before its count. -/
def CPU.writtenCsrs (cpu : CPU) (bus : β) (stim : Stimulus) : CSRFile :=
  match cpu.csrWrite bus stim with
  | some (a, v) => cpu.csrs.write a v
  | none => cpu.csrs

/-- **Any other register** is changed by CSR instructions only. -/
theorem step_csr {config : CPUConfig} {cpu : CPU} (h : cpu.WellFormed config) (bus : β)
    (stim : Stimulus) {a : BitVec 16} (ha : a ∉ implicitCsrs) :
    (cpu.stepOn bus stim).2.1.csrs.csrs a = (cpu.writtenCsrs bus stim).csrs a := by
  have hcounter : a ∉ counterCsrs := by
    simp only [implicitCsrs, List.cons_append, List.mem_cons, List.mem_append, not_or] at ha
    exact ha.2.1.1
  unfold CPU.writtenCsrs
  cases hw : cpu.csrWrite bus stim with
  | some write =>
    rw [(csrWrite_some h hw).2.2.2.2]
    exact countStep_csrs _ _ hcounter
  | none =>
    -- the rest writes fcsr, mstatus, the counters and what a trap writes
    rcases csrWrite_none h hw with ⟨-, taken⟩ | ⟨-, csrs, hquiet, hcsrs⟩
    · obtain ⟨target, cause, tval, csrs, -, hentered, hcsrs⟩ := taken
      rw [hcsrs, countStep_csrs _ _ hcounter]
      exact hentered.others a (not_mem_trapCsrs ha target)
    · rw [hcsrs, countStep_csrs _ _ hcounter]
      have hfcsr : a ≠ CsrAddr.fcsr := by
        rintro rfl
        exact ha (by decide)
      have hmstatus : a ≠ CsrAddr.mstatus := by
        rintro rfl
        exact ha (by decide)
      exact hquiet.csrs_ne hfcsr hmstatus

end

end Riscv

import Riscv.CsrStep

/- The step of an F instruction.

   The CPU hands the executor a view of fcsr and stores the view back, also when the
   instruction traps. Here the trip is shown to lose nothing: the word is the old one
   with the raised flags or-ed in, and the rest of the step is what the executor
   returns. -/
namespace Riscv

open Zicsr

/-! ## fcsr and its view -/

namespace Rv32f

theorem FFlags.toBits_merge (f g : FFlags) : (f.merge g).toBits = f.toBits ||| g.toBits := by
  have hbit : ∀ a b : Bool, BitVec.ofBool (a || b) = BitVec.ofBool a ||| BitVec.ofBool b := by
    decide
  simp only [merge, toBits, hbit, BitVec.setWidth_or, BitVec.shiftLeft_or_distrib]
  ac_rfl

theorem FFlags.toBits_low (f : FFlags) : f.toBits &&& 0xFF = f.toBits := by
  rcases f with ⟨nx, uf, of, dz, nv⟩
  cases nx <;> cases uf <;> cases of <;> cases dz <;> cases nv <;> rfl

theorem FCSR.read_merge (f : FCSR) (flags : FFlags) :
    { f with fflags := f.fflags.merge flags }.read = f.read ||| flags.toBits := by
  simp only [read, FFlags.toBits_merge, BitVec.or_assoc]

theorem fcsr_raised {v : Word} (h : Warl.Legal 0xFF 0 v) (flags : FFlags) :
    { FCSR.write {} v with fflags := (FCSR.write {} v).fflags.merge flags }.read &&& 0xFF =
      v ||| flags.toBits := by
  rw [FCSR.read_merge, BitVec.and_or_distrib_right, fcsr_roundtrip h, FFlags.toBits_low]

/-! ## The executor -/

/-- The instruction is refused: its type is illegal, or it rounds in a mode that is
none. -/
def Refused (d : DecodedInstr) (fcsr : FCSR) : Prop :=
  d.type = .illegal ∨
    (usesRm d.type = true ∧ (fcsr.effectiveRm d.roundingMode).toNat > RoundingMode.rmm.toNat)

instance (d : DecodedInstr) (fcsr : FCSR) : Decidable (Refused d fcsr) :=
  inferInstanceAs (Decidable (_ ∨ _))

namespace Executor

variable {β : Type} [Bus β] [HostFloat] (ex : Executor) {d : DecodedInstr} {s : FState β}
  {fcsr : FCSR}

/-- A refused instruction raises the illegal-instruction exception and nothing else. -/
theorem execute_refused (h : Refused d fcsr) :
    ∃ error, ex.execute d s fcsr =
      ({ valid := false
         trapCause := Exc.illegalInstruction
         trapValue := d.raw
         error := error }, s, fcsr) := by
  unfold execute
  by_cases htype : d.type = .illegal
  · exact ⟨_, if_pos htype⟩
  · have hrm := h.resolve_left htype
    refine ⟨"Invalid dynamic rounding mode", ?_⟩
    rw [if_neg htype]
    exact if_pos hrm

/-- Any other is executed in its mode, and its flags are merged. -/
theorem execute_accepted (h : ¬Refused d fcsr) :
    ex.execute d s fcsr =
      let out := ex.executeOp d (fcsr.effectiveRm d.roundingMode) s
      (out.1, out.2, { fcsr with fflags := fcsr.fflags.merge out.1.flags }) := by
  unfold execute
  rw [if_neg fun htype => h (.inl htype)]
  exact if_neg fun hrm => h (.inr hrm)

theorem execute_fcsr (d : DecodedInstr) (s : FState β) (fcsr : FCSR) :
    (ex.execute d s fcsr).2.2 =
      { fcsr with fflags := fcsr.fflags.merge (ex.execute d s fcsr).1.flags } := by
  by_cases h : Refused d fcsr
  · obtain ⟨error, hexec⟩ := ex.execute_refused (s := s) h
    rw [hexec]
    dsimp only
    rw [FFlags.merge_empty]
  · rw [ex.execute_accepted h]

end Executor

end Rv32f

/-! ## The step -/

section
variable {β : Type} [Bus β]

/-- The F instruction a step executes, as decoded; of type `illegal` if the word is one
of the F space that is no instruction. -/
def CPU.floatInstr (cpu : CPU) (bus : β) (stim : Stimulus) : Option Rv32f.DecodedInstr :=
  if cpu.selected = none ∧ cpu.config.enableFExtension then
    match (cpu.supply bus stim).1 with
    | .ok (instr, true) =>
      if Rv32f.isFInstruction instr then some (Rv32f.decode instr) else none
    | _ => none
  else none

/-- fcsr as the executor sees it. -/
def CPU.fcsrView (cpu : CPU) : Rv32f.FCSR := Rv32f.FCSR.write {} (cpu.csrs.get CsrAddr.fcsr)

/-- The state the executor starts from. -/
def CPU.floatState (cpu : CPU) (bus : β) (stim : Stimulus) : Rv32f.FState β :=
  { iregs := cpu.regs, fregs := cpu.fregs, bus := (cpu.supply bus stim).2 }

theorem floatInstr_eq_some {cpu : CPU} {bus : β} {stim : Stimulus} {d : Rv32f.DecodedInstr} :
    cpu.floatInstr bus stim = some d ↔
      cpu.selected = none ∧ cpu.config.enableFExtension = true ∧
        ∃ instr bus₁, cpu.supply bus stim = (.ok (instr, true), bus₁) ∧
          Rv32f.isFInstruction instr = true ∧ Rv32f.decode instr = d := by
  unfold CPU.floatInstr
  rcases hsup : cpu.supply bus stim with ⟨_ | ⟨instr, _ | _⟩, bus₁⟩
  · simp
  · simp
  · simp only [Prod.mk.injEq, Except.ok.injEq, and_true]
    grind

variable [Rv32f.HostFloat]

/-- What the executor returns for the F instruction of a step. -/
def CPU.floatExec (cpu : CPU) (bus : β) (stim : Stimulus) (d : Rv32f.DecodedInstr) :
    Rv32f.ExecResult × Rv32f.FState β × Rv32f.FCSR :=
  Rv32f.Executor.execute { allowMisaligned := cpu.config.allowMisalignedData } d
    (cpu.floatState bus stim) cpu.fcsrView

/-- What the step reports of it, unless it traps. -/
def CPU.floatResult (cpu : CPU) (d : Rv32f.DecodedInstr) : CPUExecResult :=
  { cpu.initResult with
    instruction := d.raw
    nextPc := cpu.pc + 4
    mnemonic := d.mnemonic }

variable {cpu : CPU} {bus : β} {stim : Stimulus} {d : Rv32f.DecodedInstr}

theorem stepOn_float (h : cpu.floatInstr bus stim = some d) :
    cpu.stepOn bus stim =
      let exec := cpu.floatExec bus stim d
      let done := CPU.trapUnless
        { cpu.syncExecutorConfig with
          regs := exec.2.1.iregs
          fregs := exec.2.1.fregs
          csrs := cpu.csrs.set CsrAddr.fcsr (exec.2.2.read &&& 0xFF) }
        exec.1.valid (cpu.floatResult d) exec.1.trapCause exec.1.trapValue exec.1.error
      (done.1, done.2.finishStep done.1, exec.2.1.bus) := by
  obtain ⟨hselected, henabled, instr, bus₁, hsup, hclaimed, rfl⟩ := floatInstr_eq_some.mp h
  have hspec := supply_spec cpu bus stim
  rw [hsup] at hspec
  -- the F space is tested by the CPU before the word is decoded
  have hdispatch : cpu.config.dispatch32 instr = .rv32f :=
    dispatch32_of_test (by decide) henabled hclaimed
  rw [CPU.stepOn_execute hselected hsup]
  unfold CPU.executeFetched CPU.executeParcels
  simp only [Bool.not_true, Bool.false_eq_true, if_false]
  have hexec := execute32bit_eq cpu.syncExecutorConfig instr bus₁
    { cpu.initResult with instruction := instr }
  have hsame : cpu.syncExecutorConfig.config.dispatch32 instr = .rv32f := hdispatch
  rw [hsame] at hexec
  rw [hexec]
  unfold CPU.floatExec CPU.floatState CPU.floatResult
  rw [hsup, raw_rv32f]
  rfl

/-- The step of an F instruction that completes. -/
structure FloatDone (cpu : CPU) (exec : Rv32f.ExecResult × Rv32f.FState β × Rv32f.FCSR)
    (out : CPUExecResult × CPU × β) : Prop where
  trap : out.1.trap = false
  regs : out.2.1.regs = exec.2.1.iregs
  fregs : out.2.1.fregs = exec.2.1.fregs
  csrs : out.2.1.csrs = countStep
    (cpu.csrs.set CsrAddr.fcsr (cpu.csrs.get CsrAddr.fcsr ||| exec.1.flags.toBits)) false
  pc : out.2.1.pc = cpu.pc + 4
  bus : out.2.2 = exec.2.1.bus

omit [Bus β] [Rv32f.HostFloat] in
theorem FloatDone.fcsr {exec : Rv32f.ExecResult × Rv32f.FState β × Rv32f.FCSR}
    {out : CPUExecResult × CPU × β} (h : FloatDone cpu exec out) :
    out.2.1.csrs.get CsrAddr.fcsr = cpu.csrs.get CsrAddr.fcsr ||| exec.1.flags.toBits := by
  rw [h.csrs, countStep_get _ _ (by decide), CSRFile.get_set_same]

theorem float_done {config : CPUConfig} (hwell : cpu.WellFormed config)
    (h : cpu.floatInstr bus stim = some d) (hvalid : (cpu.floatExec bus stim d).1.valid = true) :
    FloatDone cpu (cpu.floatExec bus stim d) (cpu.stepOn bus stim) := by
  have hstep := stepOn_float h
  have hfcsr : (cpu.floatExec bus stim d).2.2.read &&& 0xFF =
      cpu.csrs.get CsrAddr.fcsr ||| (cpu.floatExec bus stim d).1.flags.toBits := by
    unfold CPU.floatExec
    rw [Rv32f.Executor.execute_fcsr]
    exact Rv32f.fcsr_raised hwell.legal.fcsr _
  rw [hstep]
  simp only [CPU.trapUnless, hvalid, if_true, hfcsr]
  exact {
    trap := rfl
    regs := rfl
    fregs := rfl
    csrs := rfl
    pc := rfl
    bus := rfl }

/-- The step of an F instruction that traps: the exception is the executor's, and no
register has changed. -/
structure FloatTrapped (cpu : CPU) (exec : Rv32f.ExecResult × Rv32f.FState β × Rv32f.FCSR)
    (out : CPUExecResult × CPU × β) : Prop where
  trap : out.1.trap = true
  cause : out.1.trapCause = exec.1.trapCause
  tval : out.1.trapValue = exec.1.trapValue
  regs : out.2.1.regs = cpu.regs
  fregs : out.2.1.fregs = cpu.fregs
  fcsr : out.2.1.csrs.get CsrAddr.fcsr = cpu.csrs.get CsrAddr.fcsr

theorem float_trapped {config : CPUConfig} (hwell : cpu.WellFormed config)
    (h : cpu.floatInstr bus stim = some d) (hvalid : (cpu.floatExec bus stim d).1.valid = false) :
    FloatTrapped cpu (cpu.floatExec bus stim d) (cpu.stepOn bus stim) := by
  have hstep := stepOn_float h
  have hspec := Rv32f.Executor.execute_spec { allowMisaligned := cpu.config.allowMisalignedData } d
    (cpu.floatState bus stim) cpu.fcsrView
  obtain ⟨⟨hiregs, hfregs, hfcsr⟩, -⟩ := hspec.trapped (by
    show (!(cpu.floatExec bus stim d).1.valid) = true
    rw [hvalid]
    rfl)
  -- the flags of a refused instruction are not stored: the word goes out and back
  have hback : (cpu.floatExec bus stim d).2.2.read &&& 0xFF = cpu.csrs.get CsrAddr.fcsr := by
    unfold CPU.floatExec
    rw [hfcsr]
    exact fcsr_roundtrip hwell.legal.fcsr
  rw [hstep]
  simp only [CPU.trapUnless, hvalid, Bool.false_eq_true, if_false]
  obtain ⟨hcause, htval, hregs, hfregs', hfcsr'⟩ := CPU.takeException_keeps _
    (cpu.floatResult d) _ _ _
  exact {
    trap := CPU.takeException_trap _ _ _ _ _
    cause := hcause
    tval := htval
    regs := hregs.trans hiregs
    fregs := hfregs'.trans hfregs
    fcsr := by
      rw [CPU.finishStep_eq]
      dsimp only
      rw [countStep_get _ _ (by decide), hfcsr']
      simp only [CSRFile.get_set_same, hback] }

/-! ## Results in registers -/

/-- The step of an F instruction whose result `r` goes to a float register. -/
structure WroteFloat (cpu : CPU) (d : Rv32f.DecodedInstr) (r : Word × Rv32f.FFlags)
    (out : CPUExecResult × CPU) : Prop where
  trap : out.1.trap = false
  fregs : out.2.fregs = cpu.fregs.writeBits d.rd r.1
  regs : out.2.regs = cpu.regs
  fcsr : out.2.csrs.get CsrAddr.fcsr = cpu.csrs.get CsrAddr.fcsr ||| r.2.toBits
  pc : out.2.pc = cpu.pc + 4

/-- The step of an F instruction whose result `r` goes to an integer register. -/
structure WroteInt (cpu : CPU) (d : Rv32f.DecodedInstr) (r : Word × Rv32f.FFlags)
    (out : CPUExecResult × CPU) : Prop where
  trap : out.1.trap = false
  regs : out.2.regs = cpu.regs.write d.rd r.1
  fregs : out.2.fregs = cpu.fregs
  fcsr : out.2.csrs.get CsrAddr.fcsr = cpu.csrs.get CsrAddr.fcsr ||| r.2.toBits
  pc : out.2.pc = cpu.pc + 4

/-- The rounding mode of a step's instruction, its own or that in frm. -/
def CPU.floatRm (cpu : CPU) (d : Rv32f.DecodedInstr) : Rv32f.RoundingMode :=
  cpu.fcsrView.effectiveRm d.roundingMode

theorem floatExec_eq (cpu : CPU) (bus : β) (stim : Stimulus)
    (haccepted : ¬Rv32f.Refused d cpu.fcsrView) :
    ((cpu.floatExec bus stim d).1, (cpu.floatExec bus stim d).2.1) =
      Rv32f.Executor.executeOp { allowMisaligned := cpu.config.allowMisalignedData } d
        (cpu.floatRm d) (cpu.floatState bus stim) := by
  unfold CPU.floatExec
  rw [Rv32f.Executor.execute_accepted _ haccepted]
  rfl

theorem wroteFloat_arith {config : CPUConfig} (hwell : cpu.WellFormed config)
    (h : cpu.floatInstr bus stim = some d) (haccepted : ¬Rv32f.Refused d cpu.fcsrView)
    {r : Word × Rv32f.FFlags}
    (hop : Rv32f.Executor.executeOp { allowMisaligned := cpu.config.allowMisalignedData } d
      (cpu.floatRm d) (cpu.floatState bus stim) =
        Rv32f.Executor.writeArith d (cpu.floatState bus stim) r) :
    let out := cpu.stepOn bus stim
    WroteFloat cpu d (if Rv32f.F32.isnan r.1 then Rv32f.F32.canonicalNan else r.1, r.2)
      (out.1, out.2.1) := by
  have hexec := (floatExec_eq cpu bus stim haccepted).trans hop
  have hresult := congrArg (·.1) hexec
  have hstate := congrArg (·.2) hexec
  dsimp only at hresult hstate
  have hvalid : (cpu.floatExec bus stim d).1.valid = true := by rw [hresult]; rfl
  have hdone := float_done hwell h hvalid
  exact {
    trap := hdone.trap
    fregs := by
      rw [hdone.fregs, hstate]
      unfold Rv32f.Executor.writeArith Rv32f.writeCanonical
      dsimp only
      split <;> rfl
    regs := by rw [hdone.regs, hstate]; rfl
    fcsr := by rw [hdone.fcsr, hresult]; rfl
    pc := hdone.pc }

theorem wroteInt_of_op {config : CPUConfig} (hwell : cpu.WellFormed config)
    (h : cpu.floatInstr bus stim = some d) (haccepted : ¬Rv32f.Refused d cpu.fcsrView)
    {r : Word × Rv32f.FFlags}
    (hop : Rv32f.Executor.executeOp { allowMisaligned := cpu.config.allowMisalignedData } d
      (cpu.floatRm d) (cpu.floatState bus stim) =
        Rv32f.Executor.writeInt d (cpu.floatState bus stim) r.1 r.2) :
    let out := cpu.stepOn bus stim
    WroteInt cpu d r (out.1, out.2.1) := by
  have hexec := (floatExec_eq cpu bus stim haccepted).trans hop
  have hresult := congrArg (·.1) hexec
  have hstate := congrArg (·.2) hexec
  dsimp only at hresult hstate
  have hvalid : (cpu.floatExec bus stim d).1.valid = true := by rw [hresult]; rfl
  have hdone := float_done hwell h hvalid
  exact {
    trap := hdone.trap
    regs := by rw [hdone.regs, hstate]; rfl
    fregs := by rw [hdone.fregs, hstate]; rfl
    fcsr := by rw [hdone.fcsr, hresult]; rfl
    pc := hdone.pc }

end

end Riscv

import Riscv.RoundingModes

/- Accrual of fcsr.

   Between CSR writes of fflags, frm and fcsr, a step leaves fcsr alone unless it
   retires an F instruction, which or-s in the flags it raised; so frm stays and the
   flags only grow. What an F instruction does depends on frm through its rounding
   mode alone, and a rounding mode that is none makes it illegal. -/
namespace Riscv

open Zicsr Run

namespace Rv32f

theorem FFlags.toBits_within (f : FFlags) : f.toBits &&& 0x1F = f.toBits := by
  rcases f with ⟨nx, uf, of, dz, nv⟩
  cases nx <;> cases uf <;> cases of <;> cases dz <;> cases nv <;> rfl

theorem FFlags.toBits_shift (f : FFlags) : f.toBits >>> 5 = 0#32 := by
  rcases f with ⟨nx, uf, of, dz, nv⟩
  cases nx <;> cases uf <;> cases of <;> cases dz <;> cases nv <;> rfl

theorem or_toBits_empty (v : Word) : v ||| ({} : FFlags).toBits = v := BitVec.or_zero

end Rv32f

/-! ## Other instructions -/

theorem finishBase_fcsr (cpu : CPU) (instr : Word) (exec : Rv32i.ExecResult)
    (result : CPUExecResult) :
    (cpu.finishBase instr exec result).2.csrs.get CsrAddr.fcsr = cpu.csrs.get CsrAddr.fcsr := by
  have hraised := fun cause tval info => (cpu.takeException_keeps result cause tval info).2.2.2.2
  unfold CPU.finishBase
  dsimp only
  split
  · split
    · exact hraised _ _ _
    · rfl
  split
  · split
    · exact hraised _ _ _
    · rfl
  split
  · split
    · exact hraised _ _ _
    · rfl
  split
  · split
    · exact hraised _ _ _
    · rfl
  · exact cpu.trapUnless_fcsr _ _ _ _ _

section
variable {β : Type} [Bus β] [Rv32f.HostFloat]

/-- Outside the CSR and the F instructions nothing touches fcsr. -/
theorem executeAs_fcsr (cpu : CPU) {e : Extension} (hzicsr : e ≠ .zicsr) (hfloat : e ≠ .rv32f)
    (instr : Word) (bus : β) (result : CPUExecResult) :
    (cpu.executeAs e instr bus result).2.1.csrs.get CsrAddr.fcsr = cpu.csrs.get CsrAddr.fcsr := by
  cases e
  case zicsr => exact absurd rfl hzicsr
  case rv32f => exact absurd rfl hfloat
  case rv32i => exact finishBase_fcsr _ _ _ _
  all_goals exact CPU.trapUnless_fcsr _ _ _ _ _ _

/-! ## One step -/

/-- The flags the F instruction of a step raises, if it retires. -/
def CPU.raised (cpu : CPU) (bus : β) (stim : Stimulus) : Rv32f.FFlags :=
  match cpu.floatInstr bus stim with
  | some d =>
    if (cpu.stepOn bus stim).1.trap then {} else (cpu.floatExec bus stim d).1.flags
  | none => {}

/-- The step's CSR instruction writes fcsr, or a part of it. -/
def CPU.writesFcsr (cpu : CPU) (bus : β) (stim : Stimulus) : Prop :=
  ∃ a v, cpu.csrWrite bus stim = some (a, v) ∧
    (a = CsrAddr.fflags ∨ a = CsrAddr.frm ∨ a = CsrAddr.fcsr)

variable {config : CPUConfig} {cpu : CPU} {bus : β} {stim : Stimulus}

omit [Rv32f.HostFloat] in
theorem CPU.not_writesFcsr_of_none (h : cpu.csrWrite bus stim = none) : ¬cpu.writesFcsr bus stim := by
  rintro ⟨a, v, hwrite, -⟩
  rw [h] at hwrite
  cases hwrite

omit [Rv32f.HostFloat] in
theorem TrapTaken.fcsr {after : CSRFile} (h : TrapTaken cpu after) :
    after.get CsrAddr.fcsr = cpu.csrs.get CsrAddr.fcsr := by
  obtain ⟨target, cause, tval, csrs, -, hentered, rfl⟩ := h
  have hother : CsrAddr.fcsr ∉ target.trapCsrs := by cases target <;> decide
  rw [countStep_get _ _ (by decide)]
  unfold CSRFile.get
  rw [hentered.others _ hother]

theorem supplied_of_retired (h : cpu.WellFormed config)
    (htrap : (cpu.stepOn bus stim).1.trap = false)
    (hinterrupt : (cpu.stepOn bus stim).1.interrupt = false) :
    cpu.selected = none ∧ ∃ instr is32bit bus₁,
      cpu.supply bus stim = (.ok (instr, is32bit), bus₁) := by
  cases step_outcome h bus stim with
  | interrupt _ step _ => exact absurd (step.interrupt.symm.trans hinterrupt) (by decide)
  | exception _ step _ => exact absurd (step.trap.symm.trans htrap) (by decide)
  | retire selected supplied _ _ _ _ _ _ => exact ⟨selected, _, _, _, supplied⟩
  | mret selected supplied _ _ _ _ _ _ => exact ⟨selected, _, _, _, supplied⟩
  | sret selected supplied _ _ _ _ _ _ _ _ => exact ⟨selected, _, _, _, supplied⟩

omit [Rv32f.HostFloat] in
theorem floatInstr_of_accepts {bus₁ : β} {instr : Word} {is32bit : Bool}
    (hselected : cpu.selected = none)
    (hsupplied : cpu.supply bus stim = (.ok (instr, is32bit), bus₁))
    (henabled : cpu.config.enables .rv32f = true)
    (haccepts : cpu.config.classifier.accepts .rv32f instr = true) :
    cpu.floatInstr bus stim = some (Rv32f.decode instr) := by
  have hspec := supply_spec cpu bus stim
  rw [hsupplied] at hspec
  obtain ⟨hsize, htype⟩ := OpcodeClassifier.accepts_iff.mp haccepts
  have hlow : instr &&& 0x3 = 0x3 := Decidable.not_not.mp (of_decide_eq_false hsize)
  have h32 : is32bit = true := hspec.1.trans (decide_eq_true hlow)
  subst h32
  exact floatInstr_eq_some.mpr
    ⟨hselected, henabled, instr, bus₁, hsupplied, isF_of_decode htype, rfl⟩

/-- A step without an F instruction leaves fcsr alone, unless it writes it. -/
theorem fcsr_kept (h : cpu.WellFormed config) (hfloat : cpu.floatInstr bus stim = none)
    (hwrites : ¬cpu.writesFcsr bus stim) :
    (cpu.stepOn bus stim).2.1.csrs.get CsrAddr.fcsr = cpu.csrs.get CsrAddr.fcsr := by
  cases csr_outcome h bus stim with
  | trap _ _ taken => exact taken.fcsr
  | @csr d executes _ _ done =>
    have hcsrs := done.csrs
    dsimp only at hcsrs
    rw [hcsrs, countStep_get _ _ (by decide)]
    split
    · rename_i hw
      have hne : ¬(d.csr = CsrAddr.fflags ∨ d.csr = CsrAddr.frm ∨ d.csr = CsrAddr.fcsr) :=
        fun hd => hwrites ⟨d.csr, cpu.csrWritten d,
          csrWrite_eq_some.mpr ⟨d, executes, done.permitted, hw, rfl, rfl⟩, hd⟩
      have hother : d.csr ∉ [CsrAddr.fcsr, CsrAddr.fflags, CsrAddr.frm] := by
        simp only [List.mem_cons, List.not_mem_nil, or_false, not_or] at hne ⊢
        exact ⟨hne.2.2, hne.1, hne.2.1⟩
      exact write_get_kept _ _ hother
    · rfl
  | quiet executes trap interrupt _ _ =>
    -- a quiet step executes an extension other than Zicsr and F
    obtain ⟨hselected, instr, is32bit, bus₁, hsupplied⟩ := supplied_of_retired h trap interrupt
    obtain ⟨e, henabled, haccepts⟩ := retired_accepts hselected hsupplied trap
    have hzicsr : e ≠ .zicsr := by
      rintro rfl
      rw [csrInstr_of_accepts hselected hsupplied henabled haccepts] at executes
      cases executes
    have hrv32f : e ≠ .rv32f := by
      rintro rfl
      rw [floatInstr_of_accepts hselected hsupplied henabled haccepts] at hfloat
      cases hfloat
    rw [stepOn_executeAs hselected hsupplied henabled haccepts]
    dsimp only
    rw [CPU.finishStep_eq]
    dsimp only
    rw [countStep_get _ _ (by decide)]
    exact executeAs_fcsr cpu.syncExecutorConfig hzicsr hrv32f instr bus₁ _

/-- **One step** that does not write fcsr or-s in the flags it raised. -/
theorem fcsr_step (h : cpu.WellFormed config) (hwrites : ¬cpu.writesFcsr bus stim) :
    (cpu.stepOn bus stim).2.1.csrs.get CsrAddr.fcsr =
      cpu.csrs.get CsrAddr.fcsr ||| (cpu.raised bus stim).toBits := by
  unfold CPU.raised
  cases hfloat : cpu.floatInstr bus stim with
  | none =>
    rw [fcsr_kept h hfloat hwrites]
    exact (Rv32f.or_toBits_empty _).symm
  | some d =>
    dsimp only
    cases hvalid : (cpu.floatExec bus stim d).1.valid with
    | true =>
      have hdone := float_done h hfloat hvalid
      rw [hdone.trap, hdone.fcsr]
      rfl
    | false =>
      have htrapped := float_trapped h hfloat hvalid
      rw [htrapped.trap, htrapped.fcsr]
      exact (Rv32f.or_toBits_empty _).symm

end

/-! ## The two parts of fcsr -/

theorem read_fflags (f : CSRFile) : f.read CsrAddr.fflags = f.get CsrAddr.fcsr &&& 0x1F := rfl

theorem read_frm (f : CSRFile) : f.read CsrAddr.frm = (f.get CsrAddr.fcsr >>> 5) &&& 0x7 := rfl

/-- fflags and frm of `g` come from those of `f` by raising `flags`. -/
structure FcsrRaised (f : CSRFile) (flags : Rv32f.FFlags) (g : CSRFile) : Prop where
  frm : g.read CsrAddr.frm = f.read CsrAddr.frm
  fflags : g.read CsrAddr.fflags = f.read CsrAddr.fflags ||| flags.toBits

theorem FcsrRaised.of_get {f g : CSRFile} {flags : Rv32f.FFlags}
    (h : g.get CsrAddr.fcsr = f.get CsrAddr.fcsr ||| flags.toBits) : FcsrRaised f flags g where
  frm := by
    rw [read_frm, read_frm, h, BitVec.ushiftRight_or_distrib, flags.toBits_shift, BitVec.or_zero]
  fflags := by
    rw [read_fflags, read_fflags, h, BitVec.and_or_distrib_right, flags.toBits_within]

/-- frm is the same, and no flag was cleared. -/
structure FcsrGrown (f g : CSRFile) : Prop where
  frm : g.read CsrAddr.frm = f.read CsrAddr.frm
  fflags : ∀ i, (f.read CsrAddr.fflags).getLsbD i = true →
    (g.read CsrAddr.fflags).getLsbD i = true

theorem FcsrGrown.refl (f : CSRFile) : FcsrGrown f f := ⟨rfl, fun _ h => h⟩

theorem FcsrGrown.trans {f g h : CSRFile} (h₁ : FcsrGrown f g) (h₂ : FcsrGrown g h) :
    FcsrGrown f h :=
  ⟨h₂.frm.trans h₁.frm, fun i hi => h₂.fflags i (h₁.fflags i hi)⟩

theorem FcsrRaised.grown {f g : CSRFile} {flags : Rv32f.FFlags} (h : FcsrRaised f flags g) :
    FcsrGrown f g := by
  refine ⟨h.frm, fun i hi => ?_⟩
  rw [h.fflags, BitVec.getLsbD_or, hi, Bool.true_or]

theorem FcsrGrown.of_get {f g : CSRFile} (h : g.get CsrAddr.fcsr = f.get CsrAddr.fcsr) :
    FcsrGrown f g := by
  refine ⟨?_, fun i hi => ?_⟩
  · rw [read_frm, read_frm, h]
  · rw [read_fflags, h]
    exact hi

theorem setLine_fcsr (cpu : CPU) (line : InterruptLine) (level : Bool) :
    (cpu.setLine line level).csrs.get CsrAddr.fcsr = cpu.csrs.get CsrAddr.fcsr := by
  have hbit : ∀ bit, (cpu.setMipBit bit level).csrs.get CsrAddr.fcsr = cpu.csrs.get CsrAddr.fcsr :=
    fun _ => CSRFile.get_set_ne _ _ (by decide)
  cases line <;> exact hbit _

/-! ## Runs -/

section
variable [Rv32f.HostFloat] {config : CPUConfig} {cpu : CPU}

/-- The action does not write fcsr: it is no reset, and no step whose CSR instruction
writes it. -/
def FcsrUnwritten (cpu : CPU) : Action → Prop
  | @Action.step _ _ bus stim => ¬cpu.writesFcsr bus stim
  | .line _ _ => True
  | .reset => False

/-- An action that does not write fcsr keeps frm and the flags that are set. -/
theorem fcsr_grown (h : cpu.WellFormed config) {a : Action} (hunwritten : FcsrUnwritten cpu a) :
    FcsrGrown cpu.csrs (cpu.act a).csrs := by
  cases a with
  | step bus stim => exact (FcsrRaised.of_get (fcsr_step h hunwritten)).grown
  | line line level => exact .of_get (setLine_fcsr cpu line level)
  | reset => exact hunwritten.elim

omit [Rv32f.HostFloat] in
/-- Without F nothing writes fcsr. -/
theorem not_writesFcsr {β : Type} [Bus β] {bus : β} {stim : Stimulus} (h : cpu.WellFormed config)
    (hdisabled : config.enableFExtension = false) : ¬cpu.writesFcsr bus stim := by
  rintro ⟨a, v, hwrite, ha⟩
  obtain ⟨d, -, hpermits, -, rfl, -⟩ := csrWrite_eq_some.mp hwrite
  have hexists : cpu.csrs.exists' d.csr = cpu.csrs.fExtension := if_pos ha
  unfold CPU.permits at hpermits
  rw [hexists, h.legal.fExtension, hdisabled] at hpermits
  simp at hpermits

/-- With F disabled fcsr is 0 in every state of every run. -/
theorem Reachable.fcsr_zero (hdisabled : config.enableFExtension = false)
    (h : Reachable config cpu) : cpu.csrs.get CsrAddr.fcsr = 0 := by
  have hreset : ∀ cpu : CPU, cpu.reset.csrs.get CsrAddr.fcsr = 0 := by
    intro cpu
    show (CPU.resetCsrs cpu.csrs cpu.config).get CsrAddr.fcsr = 0
    rw [resetCsrs_eq, CSRFile.get_set_ne _ _ (by decide), CSRFile.get_set_ne _ _ (by decide),
      CSRFile.get_setPrivilege, initStorage_get _ (by decide) (by decide)]
  refine Machine.Reachable.invariant (P := fun cpu => cpu.csrs.get CsrAddr.fcsr = 0)
    (hreset _) (fun cpu a hreach hzero => ?_) h
  have hwell : cpu.WellFormed config := Reachable.wellFormed hreach
  cases a with
  | step bus stim =>
    have hnone : cpu.floatInstr bus stim = none := by
      unfold CPU.floatInstr
      rw [hwell.config_eq, hdisabled]
      simp
    exact (fcsr_kept hwell hnone (not_writesFcsr hwell hdisabled)).trans hzero
  | line line level => exact (setLine_fcsr cpu line level).trans hzero
  | reset => exact hreset cpu

/-- **Accrual of fcsr.** In every reachable state: with F disabled fcsr is 0; over any
actions that do not write fcsr frm stays and no flag is cleared; one such step or-s in
exactly the flags of the F instruction it retires; a word with a rounding mode is an
illegal instruction exactly when it names none, statically or through frm, and then
changes nothing; and a step of an F instruction without one does not depend on frm. -/
theorem fcsr_accrual_run (config : CPUConfig) (actions : List Action) :
    let cpu := (machine config).run (CPU.new config) actions
    (config.enableFExtension = false → cpu.csrs.get CsrAddr.fcsr = 0) ∧
      (∀ later, (machine config).Along FcsrUnwritten cpu later →
        FcsrGrown cpu.csrs ((machine config).run cpu later).csrs) ∧
      ∀ {β : Type} [Bus β] (bus : β) (stim : Stimulus),
        let out := cpu.stepOn bus stim
        (¬cpu.writesFcsr bus stim → FcsrRaised cpu.csrs (cpu.raised bus stim) out.2.1.csrs) ∧
          (∀ instr bus₁, cpu.selected = none → cpu.supply bus stim = (.ok (instr, true), bus₁) →
            config.enableFExtension = true →
            Rv32f.usesRm (Rv32f.decodeOpcode instr).type = true →
              (IllegalTrap instr (out.1, out.2.1) ↔
                RmInvalid instr (cpu.csrs.read CsrAddr.frm)) ∧
              (RmInvalid instr (cpu.csrs.read CsrAddr.frm) →
                out.2.1.regs = cpu.regs ∧ out.2.1.fregs = cpu.fregs ∧
                  out.2.1.csrs.get CsrAddr.fcsr = cpu.csrs.get CsrAddr.fcsr)) ∧
          (cpu.RmFree bus stim → FrmIgnored cpu bus stim) := by
  intro cpu
  have hreach : Reachable config cpu := ⟨actions, rfl⟩
  have hwell : cpu.WellFormed config := hreach.wellFormed
  refine ⟨fun hdisabled => hreach.fcsr_zero hdisabled, fun later hlater => ?_, ?_⟩
  -- the flags only grow: the invariant carries the comparison with the first state
  · have hend := hlater.preserves (P := fun s => s.WellFormed config ∧ FcsrGrown cpu.csrs s.csrs)
      (fun s a hs hunwritten => ⟨hs.1.act a, hs.2.trans (fcsr_grown hs.1 hunwritten)⟩)
      ⟨hwell, .refl _⟩
    exact hend.2
  · intro β _ bus stim out
    refine ⟨fun hunwritten => .of_get (fcsr_step hwell hunwritten), ?_, rmFree_frm hwell⟩
    intro instr bus₁ hselected hsupplied henabled hrm
    exact rm_illegal hwell hselected hsupplied (hwell.config_eq.symm ▸ henabled) hrm

end

/-- With a signaling NaN in f1 and 5 in frm: FMIN raises NV, also where an addition follows
it, and does not depend on frm; FADD in the mode of frm is illegal and keeps the float
registers. Without F, fcsr is 0 after an addition. -/
theorem fcsr_accrual_run_min :
    let _ := Rv32f.nanHost
    let mem := SimpleMemory.new 0
    let inject := List.map fun op => Action.step mem (.inject op)
    let actions := inject [0x7F8000B7, 0x00108093, 0xF00080D3, 0x0022D073]
    let cpu := (machine {}).run (CPU.new {}) actions
    let least := cpu.stepOn mem (.inject 0x282081D3)
    let sum := cpu.stepOn mem (.inject 0x0010F0D3)
    let off : CPUConfig := { enableFExtension := false }
    FcsrRaised cpu.csrs { nv := true } least.2.1.csrs ∧
      FcsrGrown cpu.csrs ((machine {}).run cpu (inject [0x282081D3, 0x00108093])).csrs ∧
      FrmIgnored cpu mem (.inject 0x282081D3) ∧
      IllegalTrap 0x0010F0D3 (sum.1, sum.2.1) ∧ sum.2.1.fregs = cpu.fregs ∧
      ((machine off).run (CPU.new off) (inject [0x00108093])).csrs.get CsrAddr.fcsr = 0 := by
  intro _ mem inject actions cpu least sum off
  obtain ⟨-, hgrown, hsteps⟩ := fcsr_accrual_run {} actions
  obtain ⟨hraised, -, hignored⟩ := hsteps mem (.inject 0x282081D3)
  obtain ⟨-, hsum, -⟩ := hsteps mem (.inject 0x0010F0D3)
  obtain ⟨hillegal, hkept⟩ := hsum 0x0010F0D3 mem (by decide) rfl rfl (by decide)
  have hunwritten : (machine {}).Along FcsrUnwritten cpu (inject [0x282081D3, 0x00108093]) := by
    refine ⟨CPU.not_writesFcsr_of_none ?_, CPU.not_writesFcsr_of_none ?_, trivial⟩ <;> decide
  have hflags : cpu.raised mem (.inject 0x282081D3) = { nv := true } := by decide
  have hinvalid : RmInvalid 0x0010F0D3 (cpu.csrs.read CsrAddr.frm) :=
    .inr (.inr ⟨by decide, .inl (by decide)⟩)
  exact ⟨hflags ▸ hraised hunwritten.1, hgrown _ hunwritten,
    hignored (.inl ⟨Rv32f.decodeOpcode 0x282081D3, by decide, by decide⟩),
    hillegal.mpr hinvalid, (hkept hinvalid).2.1,
    (fcsr_accrual_run off (inject [0x00108093])).1 rfl⟩

end Riscv

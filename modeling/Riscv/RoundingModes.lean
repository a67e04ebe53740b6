import Riscv.FloatStep

/- Rounding modes.

   An F instruction whose encoding has a rounding mode is illegal when the mode is none,
   in the decoder if it is static and in the executor if it comes from frm. One without a
   rounding mode does not depend on frm: its step commutes with a write of frm. -/
namespace Riscv

open Zicsr

/-! ## The state with another fcsr -/

/-- The state with the word `v` in fcsr. -/
def CPU.withFcsr (cpu : CPU) (v : Word) : CPU :=
  { cpu with csrs := cpu.csrs.set CsrAddr.fcsr v }

/-- The state with `m` written to frm. -/
def CPU.withFrm (cpu : CPU) (m : Word) : CPU :=
  { cpu with csrs := cpu.csrs.write CsrAddr.frm m }

/-- fcsr after `m` was written to frm. -/
def frmWritten (v m : Word) : Word := (v &&& ~~~(0xE0 : Word)) ||| ((m &&& 0x7) <<< 5)

theorem write_frm (f : CSRFile) (m : Word) : f.write CsrAddr.frm m =
    f.set CsrAddr.fcsr (frmWritten (f.get CsrAddr.fcsr) m) := rfl

theorem withFrm_eq (cpu : CPU) (m : Word) :
    cpu.withFrm m = cpu.withFcsr (frmWritten (cpu.csrs.get CsrAddr.fcsr) m) := rfl

namespace CPU

theorem trapUnless_fcsr (cpu : CPU) (valid : Bool) (result : CPUExecResult)
    (cause tval : Word) (error : String) :
    (cpu.trapUnless valid result cause tval error).2.csrs.get CsrAddr.fcsr =
      cpu.csrs.get CsrAddr.fcsr := by
  unfold trapUnless
  split
  · rfl
  · exact (cpu.takeException_keeps result cause tval error).2.2.2.2

/-- What a trap writes does not depend on fcsr. -/
theorem enterMTrapCsrs_set (f : CSRFile) (v cause tval pc : Word) :
    enterMTrapCsrs (f.set CsrAddr.fcsr v) cause tval pc =
      (enterMTrapCsrs f cause tval pc).set CsrAddr.fcsr v := by
  have hmepc : ∀ g : CSRFile, g.write CsrAddr.mepc pc = g.set CsrAddr.mepc (pc &&& g.mepcMask) :=
    fun _ => rfl
  have hpriv : ∀ g : CSRFile, (g.set CsrAddr.fcsr v).setPrivilege .machine =
      (g.setPrivilege .machine).set CsrAddr.fcsr v := fun _ => rfl
  have hcomm : ∀ (g : CSRFile) (a : BitVec 16) (w : Word), CsrAddr.fcsr ≠ a →
      (g.set CsrAddr.fcsr v).set a w = (g.set a w).set CsrAddr.fcsr v :=
    fun g a w ha => g.set_comm ha v w
  unfold enterMTrapCsrs
  dsimp only
  rw [CSRFile.get_set_ne f v (by decide), hcomm _ CsrAddr.mstatus _ (by decide), hpriv, hmepc,
    hmepc, hcomm _ CsrAddr.mepc _ (by decide), hcomm _ CsrAddr.mcause _ (by decide),
    hcomm _ CsrAddr.mtval _ (by decide)]
  rfl

theorem enterSTrapCsrs_set (f : CSRFile) (v cause tval pc : Word) :
    enterSTrapCsrs (f.set CsrAddr.fcsr v) cause tval pc =
      (enterSTrapCsrs f cause tval pc).set CsrAddr.fcsr v := by
  have hsepc : ∀ g : CSRFile, g.write CsrAddr.sepc pc = g.set CsrAddr.sepc (pc &&& g.mepcMask) :=
    fun _ => rfl
  have hpriv : ∀ g : CSRFile, (g.set CsrAddr.fcsr v).setPrivilege .supervisor =
      (g.setPrivilege .supervisor).set CsrAddr.fcsr v := fun _ => rfl
  have hcomm : ∀ (g : CSRFile) (a : BitVec 16) (w : Word), CsrAddr.fcsr ≠ a →
      (g.set CsrAddr.fcsr v).set a w = (g.set a w).set CsrAddr.fcsr v :=
    fun g a w ha => g.set_comm ha v w
  unfold enterSTrapCsrs
  dsimp only
  rw [CSRFile.get_set_ne f v (by decide), hcomm _ CsrAddr.mstatus _ (by decide), hpriv, hsepc,
    hsepc, hcomm _ CsrAddr.sepc _ (by decide), hcomm _ CsrAddr.scause _ (by decide),
    hcomm _ CsrAddr.stval _ (by decide)]
  rfl

theorem delegateTarget_withFcsr (cpu : CPU) (v cause : Word) (isInterrupt : Bool) :
    (cpu.withFcsr v).delegateTarget cause isInterrupt = cpu.delegateTarget cause isInterrupt := by
  cases isInterrupt <;> rfl

theorem takeException_withFcsr (cpu : CPU) (v : Word) (result : CPUExecResult)
    (cause tval : Word) (info : String) :
    (cpu.withFcsr v).takeException result cause tval info =
      let out := cpu.takeException result cause tval info
      (out.1, out.2.withFcsr v) := by
  have hs := enterSTrapCsrs_set cpu.csrs v cause tval cpu.pc
  have hm := enterMTrapCsrs_set cpu.csrs v cause tval cpu.pc
  unfold takeException
  rw [delegateTarget_withFcsr]
  dsimp only
  split
  · unfold enterSTrap withFcsr
    dsimp only
    rw [hs]
    rfl
  · unfold enterMTrap withFcsr
    dsimp only
    rw [hm]
    rfl

theorem trapUnless_withFcsr (cpu : CPU) (v : Word) (valid : Bool) (result : CPUExecResult)
    (cause tval : Word) (error : String) :
    (cpu.withFcsr v).trapUnless valid result cause tval error =
      let out := cpu.trapUnless valid result cause tval error
      (out.1, out.2.withFcsr v) := by
  unfold trapUnless
  split
  · rfl
  · exact cpu.takeException_withFcsr v result cause tval error

theorem bumpCounter_set (f : CSRFile) (v : Word) {lo hi : BitVec 16} (hlo : CsrAddr.fcsr ≠ lo)
    (hhi : CsrAddr.fcsr ≠ hi) :
    bumpCounter (f.set CsrAddr.fcsr v) lo hi = (bumpCounter f lo hi).set CsrAddr.fcsr v := by
  unfold bumpCounter
  dsimp only
  rw [CSRFile.get_set_ne f v hlo.symm, CSRFile.get_set_ne f v hhi.symm, CSRFile.set_comm f hlo,
    CSRFile.set_comm _ hhi]

theorem finishStep_withFcsr (cpu : CPU) (v : Word) (result : CPUExecResult) :
    (cpu.withFcsr v).finishStep result = (cpu.finishStep result).withFcsr v := by
  have hcycle : ∀ f : CSRFile, bumpCycle (f.set CsrAddr.fcsr v) =
      (bumpCycle f).set CsrAddr.fcsr v := fun f => bumpCounter_set f v (by decide) (by decide)
  have hinstret : ∀ f : CSRFile, bumpInstret (f.set CsrAddr.fcsr v) =
      (bumpInstret f).set CsrAddr.fcsr v := fun f => bumpCounter_set f v (by decide) (by decide)
  unfold finishStep withFcsr
  dsimp only
  rw [hcycle]
  split
  · rfl
  · rw [hinstret]

/-- The end of a dispatch branch and of the step commute with a write of frm. -/
theorem finish_withFrm (cpu : CPU) (m : Word) (valid : Bool) (result : CPUExecResult)
    (cause tval : Word) (error : String) :
    let out := cpu.trapUnless valid result cause tval error
    let out' := (cpu.withFrm m).trapUnless valid result cause tval error
    (out'.1, out'.2.finishStep out'.1) = (out.1, (out.2.finishStep out.1).withFrm m) := by
  intro out out'
  have hout : out' = (out.1, out.2.withFcsr (frmWritten (cpu.csrs.get CsrAddr.fcsr) m)) :=
    cpu.trapUnless_withFcsr _ valid result cause tval error
  have hfcsr : (out.2.finishStep out.1).csrs.get CsrAddr.fcsr = cpu.csrs.get CsrAddr.fcsr := by
    rw [finishStep_eq]
    dsimp only
    rw [countStep_get _ _ (by decide)]
    exact cpu.trapUnless_fcsr valid result cause tval error
  rw [hout, finishStep_withFcsr, withFrm_eq, hfcsr]

end CPU

/-! ## Instructions without a rounding mode -/

namespace Rv32f

theorem executeOp_rm {β : Type} [Bus β] [HostFloat] (ex : Executor) {d : DecodedInstr}
    (hrm : usesRm d.type = false) (rm rm' : RoundingMode) (s : FState β) :
    ex.executeOp d rm s = ex.executeOp d rm' s := by
  unfold Executor.executeOp
  cases htype : d.type
  case faddS | fsubS | fmulS | fdivS | fsqrtS | fmaddS | fmsubS | fnmaddS | fnmsubS | fcvtWS |
      fcvtWuS | fcvtSW | fcvtSWu =>
    rw [htype] at hrm
    cases hrm
  all_goals rfl

theorem view_frmWritten (v m : Word) :
    (FCSR.write {} (frmWritten v m)).fflags = (FCSR.write {} v).fflags := by
  have hshift : (m &&& 0x7) <<< 5 = (m <<< 5) &&& 0xE0 := by
    rw [BitVec.shiftLeft_and_distrib]
    rfl
  have hagree : Warl.Agree 0xE0 (frmWritten v m) v := by
    unfold frmWritten
    rw [hshift]
    exact Warl.agree_merge _ _ (by decide)
  have hflags : frmWritten v m &&& 0x1F = v &&& 0x1F := hagree.field (by decide)
  show FFlags.fromBits _ = FFlags.fromBits _
  rw [hflags]

/-- Raised flags and the mode are stored side by side. -/
theorem frmWritten_or (v m : Word) (flags : FFlags) :
    frmWritten (v ||| flags.toBits) m = frmWritten v m ||| flags.toBits := by
  have hlow : flags.toBits &&& ~~~(0xE0 : Word) = flags.toBits := by
    rcases flags with ⟨nx, uf, of, dz, nv⟩
    cases nx <;> cases uf <;> cases of <;> cases dz <;> cases nv <;> rfl
  unfold frmWritten
  rw [BitVec.and_or_distrib_right, hlow, BitVec.or_assoc, BitVec.or_assoc,
    BitVec.or_comm flags.toBits]

theorem Executor.execute_frm {β : Type} [Bus β] [HostFloat] (ex : Executor) {d : DecodedInstr}
    (hrm : usesRm d.type = false) (s : FState β) (flags : FFlags) (frm frm' : RoundingMode) :
    (ex.execute d s { fflags := flags, frm := frm' }).1 =
        (ex.execute d s { fflags := flags, frm := frm }).1 ∧
      (ex.execute d s { fflags := flags, frm := frm' }).2.1 =
        (ex.execute d s { fflags := flags, frm := frm }).2.1 := by
  have hrefused : ∀ fcsr, Refused d fcsr ↔ d.type = .illegal := by
    intro fcsr
    unfold Refused
    rw [hrm]
    simp
  by_cases htype : d.type = .illegal
  · unfold execute
    rw [if_pos htype, if_pos htype]
    exact ⟨rfl, rfl⟩
  · rw [ex.execute_accepted (mt (hrefused _).mp htype),
      ex.execute_accepted (mt (hrefused _).mp htype)]
    dsimp only
    rw [executeOp_rm ex hrm _ (FCSR.effectiveRm { fflags := flags, frm := frm } d.roundingMode)]
    exact ⟨rfl, rfl⟩

end Rv32f

section
variable {β : Type} [Bus β] [Rv32f.HostFloat] {config : CPUConfig} {cpu : CPU} {bus : β}
  {stim : Stimulus}

/-- What a step does does not depend on frm: with any word written to frm before it, it
reports the same, makes the same bus calls and leaves the same state but for frm. -/
def FrmIgnored (cpu : CPU) (bus : β) (stim : Stimulus) : Prop :=
  ∀ m, (cpu.withFrm m).stepOn bus stim =
    let out := cpu.stepOn bus stim
    (out.1, out.2.1.withFrm m, out.2.2)

theorem float_frm (h : cpu.WellFormed config) {d : Rv32f.DecodedInstr}
    (hfloat : cpu.floatInstr bus stim = some d) (hrm : Rv32f.usesRm d.type = false) :
    FrmIgnored cpu bus stim := by
  intro m
  have hfloat' : (cpu.withFrm m).floatInstr bus stim = some d := hfloat
  have henabled := (floatInstr_eq_some.mp hfloat).2.1
  have hexists : cpu.csrs.exists' CsrAddr.frm = true :=
    h.legal.fExtension.trans (h.config_eq ▸ henabled)
  have hlegal := h.legal.write_of_writable hexists (by decide) m
  -- the executor reads the mode only through the view, and this type does not
  have hsame := Rv32f.Executor.execute_frm
    { allowMisaligned := cpu.config.allowMisalignedData } hrm (cpu.floatState bus stim)
    cpu.fcsrView.fflags cpu.fcsrView.frm (cpu.withFrm m).fcsrView.frm
  have hview : (cpu.withFrm m).fcsrView =
      { fflags := cpu.fcsrView.fflags, frm := (cpu.withFrm m).fcsrView.frm } := by
    rw [show cpu.fcsrView.fflags = (cpu.withFrm m).fcsrView.fflags from
      (Rv32f.view_frmWritten (cpu.csrs.get CsrAddr.fcsr) m).symm]
  have hexec : (cpu.withFrm m).floatExec bus stim d =
      Rv32f.Executor.execute { allowMisaligned := cpu.config.allowMisalignedData } d
        (cpu.floatState bus stim) (cpu.withFrm m).fcsrView := rfl
  have hres : ((cpu.withFrm m).floatExec bus stim d).1 = (cpu.floatExec bus stim d).1 := by
    rw [hexec, hview]
    exact hsame.1
  have hstate : ((cpu.withFrm m).floatExec bus stim d).2.1 = (cpu.floatExec bus stim d).2.1 := by
    rw [hexec, hview]
    exact hsame.2
  -- both CPUs store back the word they read with the raised flags, each with its own mode
  have hback : (cpu.floatExec bus stim d).2.2.read &&& 0xFF =
      cpu.csrs.get CsrAddr.fcsr ||| (cpu.floatExec bus stim d).1.flags.toBits := by
    unfold CPU.floatExec
    rw [Rv32f.Executor.execute_fcsr]
    exact Rv32f.fcsr_raised h.legal.fcsr _
  have hback' : ((cpu.withFrm m).floatExec bus stim d).2.2.read &&& 0xFF =
      frmWritten (cpu.csrs.get CsrAddr.fcsr ||| (cpu.floatExec bus stim d).1.flags.toBits) m := by
    rw [Rv32f.frmWritten_or, ← hres]
    unfold CPU.floatExec
    rw [Rv32f.Executor.execute_fcsr]
    exact Rv32f.fcsr_raised hlegal.fcsr _
  rw [stepOn_float hfloat', stepOn_float hfloat]
  dsimp only
  rw [hres, hstate, hback, hback']
  -- the executor's result with the mode written into it
  have hleft : { (cpu.withFrm m).syncExecutorConfig with
        regs := (cpu.floatExec bus stim d).2.1.iregs
        fregs := (cpu.floatExec bus stim d).2.1.fregs
        csrs := (cpu.withFrm m).csrs.set CsrAddr.fcsr (frmWritten
          (cpu.csrs.get CsrAddr.fcsr ||| (cpu.floatExec bus stim d).1.flags.toBits) m) } =
      CPU.withFrm { cpu.syncExecutorConfig with
        regs := (cpu.floatExec bus stim d).2.1.iregs
        fregs := (cpu.floatExec bus stim d).2.1.fregs
        csrs := cpu.csrs.set CsrAddr.fcsr
          (cpu.csrs.get CsrAddr.fcsr ||| (cpu.floatExec bus stim d).1.flags.toBits) } m := by
    unfold CPU.withFrm
    dsimp only
    rw [write_frm, write_frm, CSRFile.set_set, CSRFile.set_set, CSRFile.get_set_same]
    rfl
  have hfinish := CPU.finish_withFrm { cpu.syncExecutorConfig with
      regs := (cpu.floatExec bus stim d).2.1.iregs
      fregs := (cpu.floatExec bus stim d).2.1.fregs
      csrs := cpu.csrs.set CsrAddr.fcsr
        (cpu.csrs.get CsrAddr.fcsr ||| (cpu.floatExec bus stim d).1.flags.toBits) }
    m (cpu.floatExec bus stim d).1.valid (cpu.floatResult d) (cpu.floatExec bus stim d).1.trapCause
    (cpu.floatExec bus stim d).1.trapValue (cpu.floatExec bus stim d).1.error
  rw [hleft]
  exact congrArg (fun p => (p.1, p.2, (cpu.floatExec bus stim d).2.1.bus)) hfinish

theorem floatC_frm {instr : Word} {is32bit : Bool} {bus₁ : β} (hselected : cpu.selected = none)
    (hsupplied : cpu.supply bus stim = (.ok (instr, is32bit), bus₁))
    (henabled : cpu.config.enables .rv32fc = true)
    (haccepts : cpu.config.classifier.accepts .rv32fc instr = true) :
    FrmIgnored cpu bus stim := by
  intro m
  have hselected' : (cpu.withFrm m).selected = none := hselected
  have hsupplied' : (cpu.withFrm m).supply bus stim = (.ok (instr, is32bit), bus₁) := hsupplied
  rw [stepOn_executeAs hselected hsupplied henabled haccepts,
    stepOn_executeAs hselected' hsupplied' henabled haccepts]
  let exec := cpu.syncExecutorConfig.fcExecutor.execute (Rv32fc.decode (u16 instr)) cpu.regs
    cpu.fregs bus₁
  have hfinish := CPU.finish_withFrm { cpu.syncExecutorConfig with fregs := exec.2.1 } m
    exec.1.valid
    { cpu.initResult with
      instruction := instr
      instrSize := 2
      mnemonic := (Rv32fc.decode (u16 instr)).mnemonic
      nextPc := cpu.pc + 2 }
    exec.1.trapCause exec.1.trapValue exec.1.error
  exact congrArg (fun p => (p.1, p.2, exec.2.2)) hfinish

/-- The step executes an F instruction, 32-bit or compressed, without a rounding mode. -/
def CPU.RmFree (cpu : CPU) (bus : β) (stim : Stimulus) : Prop :=
  (∃ d, cpu.floatInstr bus stim = some d ∧ Rv32f.usesRm d.type = false) ∨
    (cpu.selected = none ∧ ∃ instr is32bit bus₁,
      cpu.supply bus stim = (.ok (instr, is32bit), bus₁) ∧
        cpu.config.enables .rv32fc = true ∧
        cpu.config.classifier.accepts .rv32fc instr = true)

theorem rmFree_frm (h : cpu.WellFormed config) (hfree : cpu.RmFree bus stim) :
    FrmIgnored cpu bus stim := by
  rcases hfree with ⟨d, hfloat, hrm⟩ | ⟨hselected, instr, is32bit, bus₁, hsupplied, henabled, haccepts⟩
  · exact float_frm h hfloat hrm
  · exact floatC_frm hselected hsupplied henabled haccepts

/-! ## Instructions with a rounding mode -/

/-- The rm field of a word and frm name no rounding mode: 101, 110, or DYN with a
reserved or a dynamic frm. -/
def RmInvalid (instr : Word) (frm : Word) : Prop :=
  bits instr 14 12 = 5 ∨ bits instr 14 12 = 6 ∨
    (bits instr 14 12 = 7 ∧ (frm = 5 ∨ frm = 6 ∨ frm = 7))

namespace Rv32f

omit [HostFloat] in
theorem and_seven (w : Word) : w &&& 0x7 = (w.setWidth 3).setWidth 32 :=
  BitVec.and_low w 3 (by decide)

omit [HostFloat] in
/-- Once the type is known to have a rounding mode, a word is refused exactly when it
names none. -/
theorem refused_iff {instr v : Word} (hrm : usesRm (decodeOpcode instr).type = true) :
    Refused (decode instr) (FCSR.write {} v) ↔ RmInvalid instr ((v >>> 5) &&& 0x7) := by
  have hfield : bits instr 14 12 = ((instr >>> 12).setWidth 3).setWidth 32 := and_seven _
  have hlegal : (decodeOpcode instr).type ≠ .illegal := by
    intro h
    rw [h] at hrm
    cases hrm
  have hmodes : ∀ b frm : BitVec 3,
      (((u8 (b.setWidth 32) = 0b101 ∨ u8 (b.setWidth 32) = 0b110) ∨
          (FCSR.effectiveRm { frm := RoundingMode.ofBits frm }
            (RoundingMode.ofBits ((u8 (b.setWidth 32)).setWidth 3))).toNat > 4) ↔
        (b.setWidth 32 = (5 : Word) ∨ b.setWidth 32 = (6 : Word) ∨
          (b.setWidth 32 = (7 : Word) ∧ (frm.setWidth 32 = (5 : Word) ∨
            frm.setWidth 32 = (6 : Word) ∨ frm.setWidth 32 = (7 : Word))))) := by decide
  have hread := hmodes ((instr >>> 12).setWidth 3) ((v >>> 5).setWidth 3)
  unfold RmInvalid
  rw [and_seven, hfield, ← hread, ← hfield, ← decodeOpcode_rm]
  unfold Refused decode
  by_cases hres : (decodeOpcode instr).rm = 0b101 ∨ (decodeOpcode instr).rm = 0b110
  · simp only [hrm, hres, and_self, if_true, true_or]
  · simp only [hrm, hres, and_false, if_false, hlegal, false_or, true_and]
    exact Iff.rfl

theorem executeOp_valid {β : Type} [Bus β] (ex : Executor) {d : DecodedInstr}
    (hrm : usesRm d.type = true) (rm : RoundingMode) (s : FState β) :
    (ex.executeOp d rm s).1.valid = true := by
  unfold Executor.executeOp
  cases htype : d.type
  case faddS | fsubS | fmulS | fdivS | fsqrtS | fmaddS | fmsubS | fnmaddS | fnmsubS | fcvtWS |
      fcvtWuS | fcvtSW | fcvtSWu => rfl
  all_goals
    rw [htype] at hrm
    cases hrm

omit [HostFloat] in
/-- An instruction that is executed is of the type the opcode switch read. -/
theorem type_of_accepted {instr : Word} {fcsr : FCSR} (h : ¬Refused (decode instr) fcsr) :
    (decode instr).type = (decodeOpcode instr).type := by
  have hlegal : (decode instr).type ≠ .illegal := fun htype => h (.inl htype)
  unfold decode at hlegal ⊢
  dsimp only at hlegal ⊢
  split
  · rename_i hres
    rw [if_pos hres] at hlegal
    exact absurd rfl hlegal
  · rfl

end Rv32f

/-- A word whose rounding mode is none is an illegal instruction, and changes no register
and not fcsr. -/
theorem rm_illegal {instr : Word} {bus₁ : β} (h : cpu.WellFormed config)
    (hselected : cpu.selected = none) (hsupplied : cpu.supply bus stim = (.ok (instr, true), bus₁))
    (henabled : cpu.config.enableFExtension = true)
    (hrm : Rv32f.usesRm (Rv32f.decodeOpcode instr).type = true) :
    let out := cpu.stepOn bus stim
    (IllegalTrap instr (out.1, out.2.1) ↔ RmInvalid instr (cpu.csrs.read CsrAddr.frm)) ∧
      (RmInvalid instr (cpu.csrs.read CsrAddr.frm) →
        out.2.1.regs = cpu.regs ∧ out.2.1.fregs = cpu.fregs ∧
          out.2.1.csrs.get CsrAddr.fcsr = cpu.csrs.get CsrAddr.fcsr) := by
  intro out
  -- a type with a mode is a type, so the executor is the one of F
  have hopcode : (Rv32f.decodeOpcode instr).type ≠ .illegal := by
    intro hillegal
    rw [hillegal] at hrm
    cases hrm
  have hfloat : cpu.floatInstr bus stim = some (Rv32f.decode instr) :=
    floatInstr_eq_some.mpr
      ⟨hselected, henabled, instr, bus₁, hsupplied, isF_of_decodeOpcode hopcode, rfl⟩
  have hrule : Rv32f.Refused (Rv32f.decode instr) cpu.fcsrView ↔
      RmInvalid instr (cpu.csrs.read CsrAddr.frm) := Rv32f.refused_iff hrm
  by_cases hrefused : Rv32f.Refused (Rv32f.decode instr) cpu.fcsrView
  · obtain ⟨error, hexec⟩ := Rv32f.Executor.execute_refused
      { allowMisaligned := cpu.config.allowMisalignedData } (s := cpu.floatState bus stim) hrefused
    have hvalid : (cpu.floatExec bus stim (Rv32f.decode instr)).1.valid = false :=
      congrArg (·.1.valid) hexec
    have htrapped := float_trapped h hfloat hvalid
    refine ⟨⟨fun _ => hrule.mp hrefused, fun _ => ?_⟩,
      fun _ => ⟨htrapped.regs, htrapped.fregs, htrapped.fcsr⟩⟩
    have hcause : (cpu.floatExec bus stim (Rv32f.decode instr)).1.trapCause =
        Exc.illegalInstruction := congrArg (·.1.trapCause) hexec
    have htval : (cpu.floatExec bus stim (Rv32f.decode instr)).1.trapValue = instr :=
      (congrArg (·.1.trapValue) hexec).trans (raw_rv32f instr)
    show IllegalTrap instr ((cpu.stepOn bus stim).1, (cpu.stepOn bus stim).2.1)
    rw [stepOn_float hfloat]
    simp only [CPU.trapUnless, hvalid, hcause, htval, Bool.false_eq_true, if_false]
    exact (illegalTrap_takeException _ _ instr _).finishStep
  · have hvalid : (cpu.floatExec bus stim (Rv32f.decode instr)).1.valid = true := by
      unfold CPU.floatExec
      rw [Rv32f.Executor.execute_accepted _ hrefused]
      refine Rv32f.executeOp_valid _ ?_ _ _
      rw [Rv32f.type_of_accepted hrefused]
      exact hrm
    have hinvalid := mt hrule.mpr hrefused
    refine ⟨⟨fun hillegal => ?_, fun hno => absurd hno hinvalid⟩, fun hno => absurd hno hinvalid⟩
    have hdone := (float_done h hfloat hvalid).trap
    exact absurd (hillegal.trap.symm.trans hdone) (by decide)

end

end Riscv

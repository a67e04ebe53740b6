import Riscv.IllegalSound
import Riscv.Traps

/- Injecting what the illegal-opcode generator gives.

   A word no decoder accepts is refused at dispatch, and a CSR instruction on an absent
   address by the access rule. Either way the step is an illegal-instruction trap that
   reports the word and touches neither the registers nor the bus. -/
namespace Riscv.IllegalOpgen

open Sample Zicsr

/-! ## The class table -/

/-- Every value of a class is refused, and a compressed one is a parcel. -/
def ClassInfo.Sound (c : ClassInfo) : Prop :=
  c.gen.Yields fun w => (c.compressed = true → w &&& 0xFFFF = w) ∧ (Illegal w ∨ AbsentCsr w)

theorem sound_wide {name : String} {g : Gen Word} (h : g.Yields Illegal) :
    ClassInfo.Sound ⟨name, g, false⟩ :=
  .mono h fun _ hw => ⟨nofun, .inl hw⟩

theorem sound_csr {name : String} {g : Gen Word} (h : g.Yields AbsentCsr) :
    ClassInfo.Sound ⟨name, g, false⟩ :=
  .mono h fun _ hw => ⟨nofun, .inr hw⟩

theorem sound_parcel {name : String} {g : Gen Word} (h : g.Yields IllegalParcel) :
    ClassInfo.Sound ⟨name, g, true⟩ :=
  .mono h fun _ hw => ⟨fun _ => hw.low, .inl hw.illegal⟩

theorem classes_sound : ∀ c ∈ classes, c.Sound := by
  unfold classes
  simp only [List.forall_mem_cons]
  -- in the order of the table
  exact ⟨sound_parcel genAllZeros_illegal, sound_wide genAllOnes_illegal,
    sound_wide genReservedMajorOpcode_illegal, sound_wide genBadLoad_illegal,
    sound_wide genBadStore_illegal, sound_wide genBadBranch_illegal,
    sound_wide genBadJalr_illegal, sound_wide genBadSlliSlot_illegal,
    sound_wide genBadSrliSlot_illegal, sound_wide genBadOp_illegal,
    sound_wide genBadMiscMem_illegal, sound_wide genBadSystemF30_illegal,
    sound_wide genBadSystemF34_illegal, sound_csr genBadCsrAddr_absent,
    sound_wide genBadFpFunct7_illegal, sound_wide genBadFpRm_illegal,
    sound_wide genBadFsqrt_illegal, sound_wide genBadFcvt_illegal,
    sound_wide genBadFmvFclass_illegal, sound_wide genBadFcmp_illegal,
    sound_wide genBadFminmax_illegal, sound_wide genBadFsgnj_illegal,
    sound_wide genBadFmvWx_illegal, sound_wide genBadLoadFp_illegal,
    sound_wide genBadStoreFp_illegal, sound_wide genBadMaddFmt_illegal,
    sound_wide genBadAmoFunct3_illegal, sound_wide genBadAmoFunct5_illegal,
    sound_wide genBadLr_illegal, sound_parcel genCQuad0BadFunct3_illegal,
    sound_parcel genCAddi4spnZero_illegal, sound_parcel genCLwspRd0_illegal,
    sound_parcel genCJrRs10_illegal, sound_parcel genCShiftShamt5_illegal,
    sound_parcel genCAluFunct1_illegal, sound_parcel genCLuiZero_illegal,
    sound_parcel genCAddi16spZero_illegal, sound_parcel genCQuad2BadFunct3_illegal,
    fun c hc => absurd hc List.not_mem_nil⟩

/-! ## The step -/

/-- An injected word trapped as an illegal instruction and did nothing else. -/
structure IllegalStep {β : Type} (w : Word) (cpu : CPU) (bus : β) (out : CPUExecResult × CPU × β) :
    Prop where
  trap : IllegalTrap w (out.1, out.2.1)
  regs : out.2.1.regs = cpu.regs
  fregs : out.2.1.fregs = cpu.fregs
  fcsr : out.2.1.csrs.get CsrAddr.fcsr = cpu.csrs.get CsrAddr.fcsr
  bus_eq : out.2.2 = bus

section
variable {β : Type} [Bus β] [Rv32f.HostFloat] {config : CPUConfig} {cpu : CPU} {bus : β} {w : Word}

/-- A step that traps leaves the registers alone. -/
theorem illegalStep_of_trap (hwell : cpu.WellFormed config)
    (htrap : IllegalTrap w ((cpu.stepOn bus (.inject w)).1, (cpu.stepOn bus (.inject w)).2.1))
    (hbus : (cpu.stepOn bus (.inject w)).2.2 = bus) :
    IllegalStep w cpu bus (cpu.stepOn bus (.inject w)) := by
  obtain ⟨cause, tval, -, step, -⟩ := (step_outcome hwell bus (.inject w)).exceptional htrap.trap
  have hstate := step.trapState hwell
  exact ⟨htrap, hstate.regs, hstate.fregs, hstate.fcsr, hbus⟩

/-- A word no enabled extension accepts. -/
theorem illegalStep_of_not_legal (hwell : cpu.WellFormed config) (hselected : cpu.selected = none)
    (hreports : illegalValue w = w) (hlegal : ¬cpu.config.Legal w) :
    IllegalStep w cpu bus (cpu.stepOn bus (.inject w)) := by
  have hrefused := executeParcels_illegal cpu.syncExecutorConfig rfl hlegal bus
    { cpu.initResult with instruction := w }
  rw [hreports] at hrefused
  have hstep : cpu.stepOn bus (.inject w) = _ := CPU.stepOn_execute hselected rfl
  refine illegalStep_of_trap hwell ?_ ?_ <;> rw [hstep]
  · exact hrefused.illegalTrap.finishStep
  · exact hrefused.bus_eq

/-- A CSR instruction on an absent address; without Zicsr no extension accepts it. -/
theorem illegalStep_of_absent (hwell : cpu.WellFormed config) (hselected : cpu.selected = none)
    (h : AbsentCsr w) : IllegalStep w cpu bus (cpu.stepOn bus (.inject w)) := by
  have haccepts := accepts_zicsr cpu.config h.wide h.decodes
  cases henabled : cpu.config.enableZicsr with
  | false =>
    have hsize : OpcodeClassifier.isCompressed w = false := decide_eq_false (not_not_intro h.wide)
    refine illegalStep_of_not_legal hwell hselected ?_ ?_
    · unfold illegalValue
      rw [hsize]
      rfl
    · rintro ⟨e, henables, haccepts'⟩
      have he : e = .zicsr :=
        (accepts_extensionOf haccepts').symm.trans (accepts_extensionOf haccepts)
      subst he
      exact absurd (henabled.symm.trans henables) (by decide)
  | true =>
    have hd : cpu.csrInstr bus (.inject w) = some (Zicsr.decode w) :=
      csrInstr_of_accepts hselected rfl henabled haccepts
    have hdenied := (permits_eq_false hwell (Zicsr.decode w)).mpr (.absent (h.absent _))
    obtain ⟨htrap, hbus⟩ := stepOn_denied hd hdenied
    rw [raw_zicsr] at htrap
    exact illegalStep_of_trap hwell htrap hbus

/-- **The generator is sound.** In every state of every run, a value of a class that is
injected traps as an illegal instruction and reports itself; the registers, fcsr and the
bus are as they were. A compressed class gives a word of the low half. -/
theorem illegal_opgen_run (config : CPUConfig) (actions : List Action) (bus : β) (c : ClassInfo)
    (draws rest : List Nat) (w : Word) :
    let cpu := (machine config).run (CPU.new config) actions
    c ∈ classes → c.gen draws = some (w, rest) → cpu.selected = none →
      (c.compressed = true → w &&& 0xFFFF = w) ∧
        IllegalStep w cpu bus (cpu.stepOn bus (.inject w)) := by
  intro cpu hc hdraws hselected
  have hwell : cpu.WellFormed config := Reachable.wellFormed ⟨actions, rfl⟩
  -- a word no extension accepts, or a CSR instruction on an absent register
  obtain ⟨hlow, hillegal | habsent⟩ := classes_sound c hc draws w rest hdraws
  · exact ⟨hlow, illegalStep_of_not_legal hwell hselected hillegal.reports
      (hillegal.unclaimed.not_legal _)⟩
  · exact ⟨hlow, illegalStep_of_absent hwell hselected habsent⟩

end

/-- A load of funct3 011, given to a fresh CPU. -/
theorem illegal_opgen_run_load :
    let _ := Rv32f.nanHost
    IllegalStep 0x0010B103 (CPU.new {}) (SimpleMemory.new 0)
      ((CPU.new {}).stepOn (SimpleMemory.new 0) (.inject 0x0010B103)) := by
  intro _
  exact (illegal_opgen_run {} [] (SimpleMemory.new 0) ⟨"LOAD bad funct3", genBadLoad, false⟩
    [1, 1, 0, 2] [] 0x0010B103 (by simp [classes]) (by decide) (by decide)).2

end Riscv.IllegalOpgen

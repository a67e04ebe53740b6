import Riscv.Runs

/- The CSR rules of every run.

   The invariant of `CsrInvariant` read register by register, as the reference of
   the repository lists them: which bits of a register can ever be set, which are
   fixed, and that the set of registers is the one of reset. -/
namespace Riscv

open Zicsr Warl

/-- What a CSR file of the configuration obeys in every state of every run. -/
structure CsrRules (config : CPUConfig) (f : CSRFile) : Prop where
  fsSd : f.get CsrAddr.mstatus &&& (CSRFile.mstatusFs ||| CSRFile.mstatusSd) =
    if config.enableFExtension then CSRFile.mstatusFs ||| CSRFile.mstatusSd else 0
  mstatusLegal : f.get CsrAddr.mstatus &&&
    ~~~(CSRFile.mstatusFs ||| CSRFile.mstatusSd ||| legalMaskOf config) = 0
  mtvecMode : f.get CsrAddr.mtvec &&& 3 = 0 ∨ f.get CsrAddr.mtvec &&& 3 = 1
  stvecMode : f.get CsrAddr.stvec &&& 3 = 0 ∨ f.get CsrAddr.stvec &&& 3 = 1
  mepcLow : f.get CsrAddr.mepc &&& (if config.enableCExtension then 1 else 3) = 0
  sepcLow : f.get CsrAddr.sepc &&& (if config.enableCExtension then 1 else 3) = 0
  interruptBits : ∀ a ∈ [CsrAddr.mie, CsrAddr.mip, CsrAddr.mideleg],
    f.get a &&& ~~~CSRFile.miMask = 0
  medelegBits : f.get CsrAddr.medeleg &&& 0xFFFF0800 = 0
  fcsrBits : (f.get CsrAddr.fcsr).toNat < 256
  zero : ∀ a ∈ [CsrAddr.mstatush, CsrAddr.menvcfg, CsrAddr.menvcfgh, CsrAddr.mvendorid,
    CsrAddr.marchid, CsrAddr.mimpid, CsrAddr.mhartid, CsrAddr.mconfigptr], f.get a = 0
  misa : f.get CsrAddr.misa = CPU.misaValue config
  present : ∀ a, f.exists' a = (CPU.new config).csrs.exists' a

theorem tvecMode_of_legal {v : Word} (h : Legal (~~~2) 0 v) : v &&& 3 = 0 ∨ v &&& 3 = 1 := by
  have hclear : v &&& BitVec.twoPow 32 1 = 0 := by
    rw [← BitVec.two_eq_twoPow]
    simpa [Legal] using h
  have hbit : v.getLsbD 1 = false := (BitVec.and_twoPow_eq_zero (by decide) v).mp hclear
  have hfield : (v >>> 0) &&& 3 = _ := BitVec.ushiftRight_and_three v 0
  rw [BitVec.ushiftRight_zero] at hfield
  rw [hfield, hbit]
  cases v.getLsbD 0 <;> decide

theorem CsrLegal.exists_eq {config : CPUConfig} {f g : CSRFile} (hf : CsrLegal config f)
    (hg : CsrLegal config g) (a : BitVec 16) : f.exists' a = g.exists' a := by
  unfold CSRFile.exists'
  rw [hf.fExtension, hg.fExtension, hf.stored, hg.stored]

/-- **A legal CSR file obeys the rules.** -/
theorem CsrLegal.rules {config : CPUConfig} {f : CSRFile} (h : CsrLegal config f) :
    CsrRules config f where
  fsSd := by
    -- FS and SD are no writable bits, so they are those of the constant
    have hfixed : ∀ s u, Within (CSRFile.mstatusFs ||| CSRFile.mstatusSd)
        (~~~(legalMaskWith s u)) := by decide
    rw [h.mstatus.field (hfixed config.enableSMode config.enableUMode)]
    unfold hardwiredOf
    cases config.enableFExtension <;> decide
  mstatusLegal := by
    have hfixed : ∀ f, Within (hardwiredWith f) (CSRFile.mstatusFs ||| CSRFile.mstatusSd) := by
      decide
    exact h.mstatus.within (hfixed config.enableFExtension)
  mtvecMode := tvecMode_of_legal (h.legal CsrAddr.mtvec)
  stvecMode := tvecMode_of_legal (h.legal CsrAddr.stvec)
  mepcLow := by
    have hlegal : f.get CsrAddr.mepc &&& ~~~CPU.mepcMaskOf config = 0 := h.legal CsrAddr.mepc
    unfold CPU.mepcMaskOf at hlegal
    split <;> simp_all
  sepcLow := by
    have hlegal : f.get CsrAddr.sepc &&& ~~~CPU.mepcMaskOf config = 0 := h.legal CsrAddr.sepc
    unfold CPU.mepcMaskOf at hlegal
    split <;> simp_all
  interruptBits := by
    intro a ha
    simp only [List.mem_cons, List.not_mem_nil, or_false] at ha
    rcases ha with rfl | rfl | rfl
    · exact h.mie
    · exact h.mip
    · exact h.mideleg
  medelegBits := by
    have hlegal : f.get CsrAddr.medeleg &&& ~~~0xF7FF = 0 := h.legal CsrAddr.medeleg
    simpa using hlegal
  fcsrBits := by
    rw [← h.fcsr.and_eq, BitVec.toNat_and]
    exact Nat.and_lt_two_pow _ (by decide : (0xFF : Nat) < 2 ^ 8)
  zero := by
    intro a ha
    have hlegal : Legal 0 0 (f.get a) := by
      have hl := h.legal a
      simp only [List.mem_cons, List.not_mem_nil, or_false] at ha
      rcases ha with rfl | rfl | rfl | rfl | rfl | rfl | rfl | rfl <;> exact hl
    exact hlegal.eq_const
  misa := Legal.eq_const (h.legal CsrAddr.misa)
  present := h.exists_eq (resetCsrs_legal _ config)

/-- **The CSR rules hold throughout every run**: after any steps, fetched or
injected, changes of interrupt lines and resets. -/
theorem csrRules_run [Rv32f.HostFloat] (config : CPUConfig) (actions : List Action) :
    CsrRules config ((machine config).run (CPU.new config) actions).csrs :=
  (Reachable.wellFormed ⟨actions, rfl⟩).legal.rules

end Riscv

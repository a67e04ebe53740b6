import Riscv.Memory
import Riscv.Returns

/- The modes a run enters and records.

   CSR writes legalise MPP, a trap into M records the mode it came from, MRET
   returns to the recorded mode and leaves the least privileged one behind. SRET
   alone names a mode without asking: SPP = 0 means U whether U-mode is there or
   not. A run stays within the implemented modes exactly as long as no step
   executes such an SRET. -/
namespace Riscv

open Zicsr Run Warl

/-! ## Implemented modes -/

/-- Whether the configuration has the mode. -/
def CPUConfig.implements (config : CPUConfig) : PrivilegeLevel → Bool
  | .user => config.enableUMode
  | .supervisor => config.enableSMode
  | .reserved => false
  | .machine => true

/-- mstatus.MPP. -/
def mppOf (mstatus : Word) : Word := (mstatus >>> 11) &&& 3

/-- The current privilege and the one in MPP are implemented modes. -/
structure ModesImplemented (config : CPUConfig) (f : CSRFile) : Prop where
  current : config.implements f.currentPrivilege = true
  previous : ∃ p, config.implements p = true ∧ mppOf (f.get CsrAddr.mstatus) = p.toWord

/-- The step executes an SRET that returns to U in a configuration with S-mode and
without U-mode. -/
def ReturnsToAbsentUser (cpu : CPU) : Action → Prop
  | @Action.step _ _ bus stim =>
    cpu.config.enableSMode = true ∧ cpu.config.enableUMode = false ∧ cpu.selected = none ∧
      Supplies cpu bus stim 0x10200073 ∧ cpu.csrs.currentPrivilege ≠ .user ∧
      ¬(cpu.csrs.currentPrivilege = .supervisor ∧
        cpu.csrs.get CsrAddr.mstatus &&& CSRFile.mstatusTsr ≠ 0) ∧
      cpu.csrs.get CsrAddr.mstatus &&& CSRFile.mstatusSpp = 0
  | _ => False

/-! ## MPP across the writes of mstatus -/

/-- MPP as a field under a mask. -/
theorem mppOf_eq_of_agree {m v u : Word} (h : Agree m v u)
    (hm : Within CSRFile.mstatusMpp (~~~m)) : mppOf v = mppOf u := by
  have hfield := h.field hm
  have hshift : ∀ x : Word, mppOf x = (x &&& CSRFile.mstatusMpp) >>> 11 := by
    intro x
    unfold mppOf CSRFile.mstatusMpp
    rw [BitVec.ushiftRight_and_distrib]
    rfl
  rw [hshift, hshift, hfield]

theorem mppOf_put (x : Word) {mpp : Word} (h : mpp = 0 ∨ mpp = 1 ∨ mpp = 3) (f : Bool) :
    mppOf (((x &&& ~~~CSRFile.mstatusMpp) ||| (mpp <<< 11)) ||| hardwiredWith f) = mpp := by
  have hfield : ∀ x : Word, (x >>> 11) &&& 3 = _ := fun x => BitVec.ushiftRight_and_three x 11
  unfold mppOf
  rw [hfield]
  rcases h with rfl | rfl | rfl <;> cases f <;>
    simp [CSRFile.mstatusMpp, hardwiredWith, CSRFile.mstatusHardwired, CSRFile.mstatusFs,
      CSRFile.mstatusSd]

theorem mppOf_legalizeMstatus {config : CPUConfig} {f : CSRFile} (h : CsrLegal config f)
    (v : Word) :
    ∃ p, config.implements p = true ∧ mppOf (f.legalizeMstatus v) = p.toWord := by
  have hcases := legalizeMpp_cases f ((v &&& f.mstatusLegalMask) >>> 11)
  have hput := @mppOf_put (v &&& f.mstatusLegalMask)
    (f.legalizeMpp (((v &&& f.mstatusLegalMask) >>> 11) &&& 3)) (by
      rcases hcases with ⟨hm, -⟩ | ⟨hm, -⟩ | hm
      · exact .inl hm
      · exact .inr (.inl hm)
      · exact .inr (.inr hm)) config.enableFExtension
  have hword : mppOf (f.legalizeMstatus v) =
      f.legalizeMpp (((v &&& f.mstatusLegalMask) >>> 11) &&& 3) := by
    unfold CSRFile.legalizeMstatus
    rw [h.hardwired]
    exact hput
  rw [hword]
  rcases hcases with ⟨hm, hu⟩ | ⟨hm, hs⟩ | hm <;> rw [hm]
  · exact ⟨.user, h.uModeEnabled.symm.trans hu, rfl⟩
  · exact ⟨.supervisor, h.sModeEnabled.symm.trans hs, rfl⟩
  · exact ⟨.machine, rfl, rfl⟩

/-- Any write leaves an implemented mode in MPP. -/
theorem mpp_write {config : CPUConfig} {f : CSRFile} (h : CsrLegal config f)
    (hmpp : ∃ p, config.implements p = true ∧ mppOf (f.get CsrAddr.mstatus) = p.toWord)
    (a : BitVec 16) (v : Word) :
    ∃ p, config.implements p = true ∧ mppOf ((f.write a v).get CsrAddr.mstatus) = p.toWord := by
  by_cases hm : a = CsrAddr.mstatus
  · subst hm
    rw [write_mstatus, CSRFile.get_set_same]
    exact mppOf_legalizeMstatus h v
  by_cases hs : a = CsrAddr.sstatus
  · subst hs
    rw [write_sstatus, CSRFile.get_set_same, mppOf_eq_of_agree (legalizeSstatus_agree h v) (by decide)]
    exact hmpp
  · rw [write_get_of_view f v hm hs rfl]
    exact hmpp

theorem mppOf_mretStatus (m : Word) (u : Bool) :
    mppOf (CPU.mretStatus m u) = if u then 0 else 3 := by
  have hfield : ∀ x : Word, (x >>> 11) &&& 3 = _ := fun x => BitVec.ushiftRight_and_three x 11
  unfold mppOf CPU.mretStatus
  dsimp only
  split <;> split <;> rw [hfield] <;> cases u <;>
    simp [CSRFile.mstatusMpp, CSRFile.mstatusMpie, CSRFile.mstatusMie, CSRFile.mstatusMprv]

theorem sretStatus_agree (m : Word) :
    Agree (sTrapFields ||| CSRFile.mstatusMprv) (CPU.sretStatus m) m := by
  obtain ⟨v, hv, heq⟩ := sretStatus_cases m
  rw [heq]
  exact (agree_clear v (by decide)).trans (hv.mono (by decide))

/-! ## Steps -/

namespace ModesImplemented

variable {config : CPUConfig} {f g : CSRFile}

theorem congr (h : ModesImplemented config f) (hpriv : g.currentPrivilege = f.currentPrivilege)
    (hmpp : mppOf (g.get CsrAddr.mstatus) = mppOf (f.get CsrAddr.mstatus)) :
    ModesImplemented config g :=
  ⟨hpriv ▸ h.current, hmpp ▸ h.previous⟩

theorem countStep (h : ModesImplemented config f) (trap : Bool) :
    ModesImplemented config (countStep f trap) := by
  refine h.congr (countStep_currentPrivilege f trap) ?_
  rw [countStep_get f trap (by decide)]

/-- Trap entry records the mode it came from. -/
theorem entered {target : PrivilegeLevel} {cause tval pc : Word}
    (h : ModesImplemented config f) (hentered : TrapEntered target cause tval pc f g)
    (htarget : target = .machine ∨ (target = .supervisor ∧ config.enableSMode = true)) :
    ModesImplemented config g := by
  have hstatus := hentered.status
  rcases htarget with rfl | ⟨rfl, hs⟩
  · refine ⟨?_, _, h.current, hstatus.pp⟩
    rw [hentered.privilege]
    rfl
  · refine ⟨?_, ?_⟩
    · rw [hentered.privilege]
      exact hs
    · have hmpp := mppOf_eq_of_agree hstatus.others (by decide)
      rw [hmpp]
      exact h.previous

theorem taken {cpu : CPU} (h : ModesImplemented cpu.config cpu.csrs) (htaken : TrapTaken cpu g) :
    ModesImplemented cpu.config g := by
  obtain ⟨target, cause, tval, csrs, htarget, hentered, rfl⟩ := htaken
  refine (h.entered hentered ?_).countStep true
  rcases htarget with ht | ⟨ht, hs, -⟩
  · exact .inl ht
  · exact .inr ⟨ht, hs⟩

/-- A CSR instruction or an F instruction leaves an implemented mode in MPP. -/
theorem effect (h : ModesImplemented config f) (hlegal : CsrLegal config f)
    (heffect : CsrEffect config f g) : ModesImplemented config g := by
  refine ⟨heffect.privilege ▸ h.current, ?_⟩
  cases heffect with
  | same => exact h.previous
  | fcsr v _ =>
    rw [CSRFile.get_set_ne _ _ (by decide)]
    exact h.previous
  | write a v _ _ => exact mpp_write hlegal h.previous a v

/-- MRET returns to the recorded mode and records the least privileged one. -/
theorem mret (h : ModesImplemented config f) (hlegal : CsrLegal config f) :
    ModesImplemented config (CPU.mretCsrs f) := by
  obtain ⟨p, hp, hmpp⟩ := h.previous
  unfold mppOf at hmpp
  refine ⟨?_, ?_⟩
  · have hpriv : (CPU.mretCsrs f).currentPrivilege = p := by
      show CPU.mretPrivilege (f.get CsrAddr.mstatus) = p
      unfold CPU.mretPrivilege
      rw [hmpp]
      cases p with
      | reserved => cases hp
      | user | supervisor | machine => rfl
    rw [hpriv]
    exact hp
  · have hget : (CPU.mretCsrs f).get CsrAddr.mstatus =
        CPU.mretStatus (f.get CsrAddr.mstatus) f.uModeEnabled := rfl
    rw [hget, mppOf_mretStatus, hlegal.uModeEnabled]
    cases hu : config.enableUMode with
    | true => exact ⟨.user, hu, rfl⟩
    | false => exact ⟨.machine, rfl, rfl⟩

/-- SRET, when it returns to S or U-mode is there. -/
theorem sret (h : ModesImplemented config f) (hs : config.enableSMode = true)
    (hspp : f.get CsrAddr.mstatus &&& CSRFile.mstatusSpp = 0 → config.enableUMode = true) :
    ModesImplemented config (CPU.sretCsrs f) := by
  refine ⟨?_, ?_⟩
  · show config.implements (CPU.sretPrivilege (f.get CsrAddr.mstatus)) = true
    unfold CPU.sretPrivilege
    split
    · exact hs
    · rename_i hzero
      exact hspp (Classical.not_not.mp hzero)
  · have hget : (CPU.sretCsrs f).get CsrAddr.mstatus =
        CPU.sretStatus (f.get CsrAddr.mstatus) := rfl
    rw [hget, mppOf_eq_of_agree (sretStatus_agree _) (by decide)]
    exact h.previous

theorem reset (f : CSRFile) (config : CPUConfig) :
    ModesImplemented config (CPU.resetCsrs f config) := by
  refine ⟨rfl, .machine, rfl, ?_⟩
  rw [resetCsrs_mstatus]
  have h : ∀ f, mppOf (hardwiredWith f ||| CSRFile.mstatusMpp) =
      PrivilegeLevel.machine.toWord := by decide
  exact h config.enableFExtension

end ModesImplemented

/-- The CSR file after SRET in a configuration without U-mode, with SPP = 0. -/
theorem not_modesImplemented_sret {config : CPUConfig} {f : CSRFile}
    (hu : config.enableUMode = false) (hspp : f.get CsrAddr.mstatus &&& CSRFile.mstatusSpp = 0)
    (trap : Bool) : ¬ModesImplemented config (countStep (CPU.sretCsrs f) trap) := by
  intro h
  have hcurrent := h.current
  have hpriv : (CPU.sretCsrs f).currentPrivilege = .user := by
    show CPU.sretPrivilege (f.get CsrAddr.mstatus) = .user
    unfold CPU.sretPrivilege
    exact if_neg fun hne => hne hspp
  rw [countStep_currentPrivilege, hpriv] at hcurrent
  exact absurd (hu.symm.trans hcurrent) (by decide)

variable [Rv32f.HostFloat] {config : CPUConfig} {cpu : CPU}

/-- One action keeps to the implemented modes, unless it is such an SRET. -/
theorem ModesImplemented.act (h : cpu.WellFormed config) (hmodes : ModesImplemented config cpu.csrs)
    (a : Action) (hgood : ¬ReturnsToAbsentUser cpu a) :
    ModesImplemented config (cpu.act a).csrs := by
  have hconfig := h.config_eq
  subst hconfig
  cases a with
  | reset => exact .reset _ _
  | line line level =>
    refine hmodes.congr ?_ ?_ <;> cases line <;> rfl
  | step bus stim =>
    show ModesImplemented cpu.config (cpu.stepOn bus stim).2.1.csrs
    cases step_outcome h bus stim with
    | interrupt selected step _ => exact hmodes.taken (step.taken selected)
    | exception _ step _ => exact hmodes.taken step.taken
    | retire _ _ _ effect csrs_eq _ _ _ =>
      rw [csrs_eq]
      exact (hmodes.effect h.legal effect).countStep false
    | mret _ _ _ _ csrs_eq _ _ _ =>
      rw [csrs_eq]
      exact (hmodes.mret h.legal).countStep false
    | sret selected supplied _ enabled priv tsr csrs_eq _ _ _ =>
      rw [csrs_eq]
      -- SRET takes its mode from one bit: 0 is U, which has to be implemented
      refine (hmodes.sret enabled fun hspp => ?_).countStep false
      cases hu : cpu.config.enableUMode with
      | true => rfl
      | false =>
        have hsupplies : Supplies cpu bus stim 0x10200073 := by
          unfold Supplies
          rw [supplied]
          rfl
        exact absurd ⟨enabled, hu, selected, hsupplies, priv, tsr, hspp⟩ hgood

/-- **Implemented modes.** A run stays within the implemented modes, in every state
it passes through, exactly when no step of it executes an SRET that returns to an
absent U-mode. -/
theorem modesImplemented_run (config : CPUConfig) (actions : List Action) :
    (∀ pre, pre <+: actions →
      ModesImplemented config ((machine config).run (CPU.new config) pre).csrs) ↔
    (machine config).Along (fun cpu a => ¬ReturnsToAbsentUser cpu a) (CPU.new config)
      actions := by
  constructor
  · intro h
    rw [Machine.along_iff]
    intro pre a post hsplit hbad
    have hreach : Reachable config ((machine config).run (CPU.new config) pre) := ⟨pre, rfl⟩
    have hconfig := hreach.wellFormed.config_eq
    -- one such SRET leaves the hart in U, so the prefix that ends with it is not good
    have hafter := h (pre ++ [a]) ⟨post, by simp [hsplit]⟩
    rw [Machine.run_append] at hafter
    cases a with
    | reset => exact hbad
    | line line level => exact hbad
    | step bus stim =>
      obtain ⟨hs, hu, hselected, hsupplies, hpriv, htsr, hspp⟩ := hbad
      rw [hconfig] at hu
      refine not_modesImplemented_sret hu hspp false ?_
      rw [← (stepOn_sret hs hselected hsupplies hpriv htsr).1.csrs]
      exact hafter
  · intro halong pre hpre
    have hinv := halong.prefixes
      (P := fun cpu => cpu.WellFormed config ∧ ModesImplemented config cpu.csrs)
      (fun cpu a hcpu hgood => ⟨hcpu.1.act a, hcpu.2.act hcpu.1 a hgood⟩)
      ⟨CPU.wellFormed_reset { config := config }, .reset _ config⟩ hpre
    exact hinv.2

omit [Rv32f.HostFloat] in
/-- From reset with S-mode and without U-mode, SRET enters U-mode. -/
theorem sret_enters_absent_user :
    let _ := Rv32f.nanHost
    ¬∀ (config : CPUConfig) (actions : List Action),
      ModesImplemented config ((machine config).run (CPU.new config) actions).csrs := by
  intro _ h
  have hcurrent := (h { enableSMode := true }
    [.step (SimpleMemory.new 0) (.inject 0x10200073)]).current
  exact absurd hcurrent (by decide)

end Riscv

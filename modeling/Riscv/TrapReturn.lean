import Riscv.Isolation
import Riscv.Modes
import Riscv.Returns
import Riscv.Traps

/- A trap and the return from it.

   Entering a trap pushes mstatus and blocks the interrupts of its level, so the
   next step executes. A return executed there pops what the trap pushed, and only
   the cells it resets, xPIE and xPP, may differ from before. Below M the return
   clears MPRV, which is clear already. -/
namespace Riscv

open Zicsr Warl Run

/-! ## The pop of mstatus -/

theorem decide_mpie (m : Word) : decide (m &&& CSRFile.mstatusMpie ≠ 0) = m.getLsbD 7 :=
  BitVec.decide_and_twoPow_ne (by decide) m

theorem decide_spie (m : Word) : decide (m &&& CSRFile.mstatusSpie ≠ 0) = m.getLsbD 5 :=
  BitVec.decide_and_twoPow_ne (by decide) m

theorem mretStatus_mie (m : Word) (u : Bool) :
    (CPU.mretStatus m u).getLsbD 3 = m.getLsbD 7 := by
  unfold CPU.mretStatus
  dsimp only
  rw [decide_mpie]
  cases m.getLsbD 7 <;> split <;> cases u <;>
    simp [CSRFile.mstatusMpp, CSRFile.mstatusMpie, CSRFile.mstatusMie, CSRFile.mstatusMprv]

theorem mretStatus_mpie (m : Word) (u : Bool) : (CPU.mretStatus m u).getLsbD 7 = true := by
  unfold CPU.mretStatus
  dsimp only
  split <;> cases u <;>
    simp [CSRFile.mstatusMpp, CSRFile.mstatusMpie, CSRFile.mstatusMie, CSRFile.mstatusMprv]

theorem sretStatus_sie (m : Word) : (CPU.sretStatus m).getLsbD 1 = m.getLsbD 5 := by
  unfold CPU.sretStatus
  dsimp only
  rw [decide_spie]
  cases m.getLsbD 5 <;>
    simp [CSRFile.mstatusSpp, CSRFile.mstatusSpie, CSRFile.mstatusSie, CSRFile.mstatusMprv]

theorem sretStatus_spie (m : Word) : (CPU.sretStatus m).getLsbD 5 = true := by
  unfold CPU.sretStatus
  simp [CSRFile.mstatusSpp, CSRFile.mstatusSpie, CSRFile.mstatusMprv]

theorem sretStatus_spp (m : Word) : (CPU.sretStatus m).getLsbD 8 = false := by
  unfold CPU.sretStatus
  simp [CSRFile.mstatusSpp, CSRFile.mstatusSpie, CSRFile.mstatusMprv]

/-- MRET pops what a trap into M pushed. -/
theorem mretStatus_pops {priv : PrivilegeLevel} {old new : Word}
    (h : StatusPushed .machine priv old new)
    (hmprv : priv ≠ .machine → old &&& CSRFile.mstatusMprv = 0) (u : Bool) :
    Agree (CSRFile.mstatusMpie ||| CSRFile.mstatusMpp) (CPU.mretStatus new u) old := by
  have hfields : ∀ i (hi : i < 32), mTrapFields[i] = true →
      (CSRFile.mstatusMpie ||| CSRFile.mstatusMpp)[i] = false → i = 3 := by decide
  obtain ⟨v, hv, heq⟩ := mretStatus_cases new u
  have hall : Agree mTrapFields (CPU.mretStatus new u) new := by
    rw [heq]
    split
    · -- the trap came from below M, where MPRV is clear
      rename_i hmpp
      have hpriv : priv ≠ .machine := by
        rintro rfl
        exact hmpp h.pp
      have hclear : v &&& CSRFile.mstatusMprv = 0 := by
        rw [hv.field (by decide), h.others.field (by decide)]
        exact hmprv hpriv
      rw [clear_eq_self hclear]
      exact hv
    · exact hv
  refine (hall.trans h.others).narrow fun i hi hm hn => ?_
  obtain rfl := hfields i hi hm hn
  exact (mretStatus_mie new u).trans h.pie

/-- SRET pops what a trap into S pushed. -/
theorem sretStatus_pops {priv : PrivilegeLevel} {old new : Word}
    (h : StatusPushed .supervisor priv old new) (hmprv : old &&& CSRFile.mstatusMprv = 0) :
    Agree (CSRFile.mstatusSpie ||| CSRFile.mstatusSpp) (CPU.sretStatus new) old := by
  have hfields : ∀ i (hi : i < 32), sTrapFields[i] = true →
      (CSRFile.mstatusSpie ||| CSRFile.mstatusSpp)[i] = false → i = 1 := by decide
  obtain ⟨v, hv, heq⟩ := sretStatus_cases new
  have hall : Agree sTrapFields (CPU.sretStatus new) new := by
    have hclear : v &&& CSRFile.mstatusMprv = 0 := by
      rw [hv.field (by decide), h.others.field (by decide)]
      exact hmprv
    rw [heq, clear_eq_self hclear]
    exact hv
  refine (hall.trans h.others).narrow fun i hi hm hn => ?_
  obtain rfl := hfields i hi hm hn
  exact (sretStatus_sie new).trans h.pie

/-- The mode MRET returns to is the one the trap saved. -/
theorem mretPrivilege_pops {priv : PrivilegeLevel} {old new : Word}
    (h : StatusPushed .machine priv old new) (hres : priv ≠ .reserved) :
    CPU.mretPrivilege new = priv := by
  have hpp : (new >>> 11) &&& 3 = priv.toWord := h.pp
  unfold CPU.mretPrivilege
  dsimp only
  rw [hpp]
  cases priv with
  | user | supervisor | machine => decide
  | reserved => exact absurd rfl hres

theorem sretPrivilege_pops {priv : PrivilegeLevel} {old new : Word}
    (h : StatusPushed .supervisor priv old new) (hm : priv ≠ .machine) (hres : priv ≠ .reserved) :
    CPU.sretPrivilege new = priv := by
  have hpp : (new >>> 8) &&& 1 = priv.toWord := h.pp
  have hfield : (new >>> 8) &&& 1 = _ := BitVec.ushiftRight_and_one new 8
  have hbit : new &&& CSRFile.mstatusSpp ≠ 0 ↔ new.getLsbD 8 = true :=
    BitVec.and_twoPow_ne_zero (by decide) new
  unfold CPU.sretPrivilege
  simp only [hbit]
  rw [hfield] at hpp
  cases hspp : new.getLsbD 8 <;> rw [hspp] at hpp <;> cases priv <;>
    first | rfl | exact absurd rfl hm | exact absurd rfl hres | exact absurd hpp (by decide)

theorem mretCsrs_mstatus (f : CSRFile) : (CPU.mretCsrs f).get CsrAddr.mstatus =
    CPU.mretStatus (f.get CsrAddr.mstatus) f.uModeEnabled :=
  CSRFile.get_set_same f CsrAddr.mstatus _

theorem sretCsrs_mstatus (f : CSRFile) :
    (CPU.sretCsrs f).get CsrAddr.mstatus = CPU.sretStatus (f.get CsrAddr.mstatus) :=
  CSRFile.get_set_same f CsrAddr.mstatus _

/-! ## The step after a trap -/

theorem TrapState.get {target : PrivilegeLevel} {cause tval : Word} {cpu cpu' : CPU}
    (h : TrapState target cause tval cpu cpu') {a : BitVec 16} (ha : a ∉ target.trapCsrs)
    (hcycle : a ∉ [CsrAddr.mcycle, CsrAddr.mcycleh]) : cpu'.csrs.get a = cpu.csrs.get a :=
  congrArg (·.getD 0) (h.others a ha hcycle)

/-- **No interrupt intervenes**: the trap blocks those of its own level, and those of
a higher one would have been taken instead of it. -/
theorem TrapState.selected {target : PrivilegeLevel} {cause tval : Word} {cpu cpu' : CPU}
    (h : TrapState target cause tval cpu cpu') (htarget : cpu.TrapTarget target)
    (hconfig : cpu'.config = cpu.config)
    (hnone : target = .supervisor → cpu.firstFor .machine [11, 3, 7, 9, 1, 5] = none) :
    cpu'.selected = none := by
  apply Option.not_isSome_iff_eq_none.mp
  rw [CPU.selected_isSome]
  rintro ⟨c, hc, heligible⟩
  have hkept : ∀ a ∈ [CsrAddr.mip, CsrAddr.mie, CsrAddr.mideleg],
      cpu'.csrs.get a = cpu.csrs.get a := by
    intro a ha
    simp only [List.mem_cons, List.not_mem_nil, or_false] at ha
    rcases ha with rfl | rfl | rfl <;> exact h.get (by cases target <;> decide) (by decide)
  have hlevel : cpu'.interruptTarget c = cpu.interruptTarget c := by
    unfold CPU.interruptTarget
    rw [hconfig, hkept _ (by decide)]
  unfold CPU.eligible at heligible
  rw [hlevel, hkept CsrAddr.mip (by decide), hkept CsrAddr.mie (by decide), h.privilege]
    at heligible
  simp only [Bool.and_eq_true, Bool.or_eq_true, decide_eq_true_eq] at heligible
  obtain ⟨⟨hmip, hmie⟩, henabled⟩ := heligible
  -- entering the trap cleared the enable bit of its level
  have hown : ¬ (target = cpu.interruptTarget c ∧
      (cpu'.csrs.get CsrAddr.mstatus).getLsbD (cpu.interruptTarget c).ieBit = true) := by
    rintro ⟨heq, hie⟩
    rw [← heq, h.status.ie] at hie
    cases hie
  have hlt := henabled.resolve_right hown
  rcases htarget with rfl | ⟨rfl, -, hm⟩
  · exact absurd (PrivilegeLevel.toNat_le (cpu.interruptTarget c)) (Nat.not_le.mpr hlt)
  · -- the code is eligible for M before the trap already
    rcases cpu.interruptTarget_cases c with ht | ⟨ht, -⟩
    · have hbelow : cpu.csrs.currentPrivilege.toNat < PrivilegeLevel.machine.toNat := by
        cases hp : cpu.csrs.currentPrivilege with
        | user | supervisor | reserved => decide
        | machine => exact absurd hp hm
      have hbefore := List.find?_eq_none.mp (hnone rfl) c hc
      apply hbefore
      simp [CPU.eligible, ht, hmip, hmie, hbelow]
    · rw [ht] at hlt
      exact absurd hlt (by decide)

theorem supply_mem {β : Type} [Bus β] (cpu : CPU) (bus : β) (stim : Stimulus) {μ : Type} {mem : β → μ}
    (hquiet : QuietMemory mem) : mem (cpu.supply bus stim).2 = mem bus := by
  have hspec := supply_spec cpu bus stim
  have hfetch : ∀ {es : List BusEvent}, FetchCalls cpu.pc es →
      ∀ e ∈ es, e.ok = true → e.op.isWrite = false := by
    intro es hes e he _
    rcases hes e he with hop | hop <;> rw [hop] <;> rfl
  rcases hsup : cpu.supply bus stim with ⟨addr | ⟨instr, is32bit⟩, bus'⟩ <;> rw [hsup] at hspec
  · obtain ⟨-, es, hes, hcalls, -⟩ := hspec
    exact hes.mem_eq hquiet (hfetch hcalls)
  · obtain ⟨-, es, hes, hcalls, -⟩ := hspec
    exact hes.mem_eq hquiet (hfetch hcalls)

section
variable [Rv32f.HostFloat] {config : CPUConfig} {cpu : CPU} {β : Type} [Bus β]

/-- What a step that reported a trap or an interrupt left. -/
structure Trapped (cpu : CPU) (bus : β) (target : PrivilegeLevel) (out : CPUExecResult × CPU × β) :
    Prop where
  allowed : cpu.TrapTarget target
  state : ∃ cause tval, TrapState target cause tval cpu out.2.1
  config : out.2.1.config = cpu.config
  selected : out.2.1.selected = none
  memory : ∀ {μ : Type} (mem : β → μ), QuietMemory mem → mem out.2.2 = mem bus

theorem step_trapped (h : cpu.WellFormed config) (bus : β) (stim : Stimulus)
    (htrap : (cpu.stepOn bus stim).1.trap = true ∨ (cpu.stepOn bus stim).1.interrupt = true) :
    Trapped cpu bus (cpu.stepOn bus stim).2.1.csrs.currentPrivilege (cpu.stepOn bus stim) := by
  rcases htrap with htrap | hinterrupt
  · obtain ⟨cause, tval, selected, step, calls⟩ := (step_outcome h bus stim).exceptional htrap
    have hstate := step.trapState h
    have hnone : cpu.exceptionTarget cause = .supervisor →
        cpu.firstFor .machine [11, 3, 7, 9, 1, 5] = none :=
      fun _ => (Option.or_eq_none_iff.mp selected).1
    have hconfig := step.wellFormed.config_eq
    rw [show (cpu.stepOn bus stim).2.1.csrs.currentPrivilege = _ from step.privilege]
    refine {
      allowed := cpu.trapTarget_exception cause
      state := ⟨_, _, hstate⟩
      config := hconfig
      selected := hstate.selected (cpu.trapTarget_exception cause) hconfig hnone
      memory := fun mem hquiet => ?_ }
    obtain ⟨es, hes, hall⟩ := calls
    exact hes.mem_eq hquiet fun e he => (hall e he).1
  · obtain ⟨c, selected, step, bus_eq⟩ := (step_outcome h bus stim).interrupted hinterrupt
    have hstate := step.trapState h
    -- the scan for M comes first: an interrupt for S was taken with none for M
    have hnone : cpu.interruptTarget c = .supervisor →
        cpu.firstFor .machine [11, 3, 7, 9, 1, 5] = none := by
      intro ht
      cases hfirst : cpu.firstFor .machine [11, 3, 7, 9, 1, 5] with
      | none => rfl
      | some c' =>
        have hselected : cpu.selected = some c' := by
          unfold CPU.selected
          rw [hfirst]
          rfl
        rw [selected] at hselected
        cases hselected
        have hmachine := List.find?_some hfirst
        simp [ht] at hmachine
    have hconfig := step.wellFormed.config_eq
    rw [show (cpu.stepOn bus stim).2.1.csrs.currentPrivilege = _ from step.privilege]
    exact {
      allowed := CPU.trapTarget_selected selected
      state := ⟨_, _, hstate⟩
      config := hconfig
      selected := hstate.selected (CPU.trapTarget_selected selected) hconfig hnone
      memory := fun mem _ => congrArg mem bus_eq }

/-! ## The round trip -/

/-- The state before a trap, but for the fields `reset` of mstatus, the registers of
the level the trap wrote and the counters. -/
structure Restored (target : PrivilegeLevel) (reset : Word) (cpu cpu' : CPU) : Prop where
  pc : cpu'.pc = cpu.pc
  privilege : cpu'.csrs.currentPrivilege = cpu.csrs.currentPrivilege
  mstatus : Agree reset (cpu'.csrs.get CsrAddr.mstatus) (cpu.csrs.get CsrAddr.mstatus)
  regs : cpu'.regs = cpu.regs
  fregs : cpu'.fregs = cpu.fregs
  others : ∀ a, a ∉ target.trapCsrs → a ∉ counterCsrs → cpu'.csrs.csrs a = cpu.csrs.csrs a

omit [Rv32f.HostFloat] in
theorem ReturnStep.restored (target : PrivilegeLevel) {cause tval reset : Word} {cpu' : CPU}
    {csrs : CSRFile} {out : CPUExecResult × CPU}
    (step : ReturnStep cpu' (cpu'.csrs.get target.epc) csrs out)
    (state : TrapState target cause tval cpu cpu')
    (hpc : Aligned cpu.config.enableCExtension cpu.pc)
    (hpriv : csrs.currentPrivilege = cpu.csrs.currentPrivilege)
    (hstatus : Agree reset (csrs.get CsrAddr.mstatus) (cpu.csrs.get CsrAddr.mstatus))
    (hothers : ∀ a, a ≠ CsrAddr.mstatus → csrs.csrs a = cpu'.csrs.csrs a) :
    Restored target reset cpu out.2 where
  pc := step.pc.trans (state.epc hpc)
  privilege := by
    rw [step.csrs, countStep_currentPrivilege]
    exact hpriv
  mstatus := by
    rw [step.csrs, countStep_get csrs false (by decide)]
    exact hstatus
  regs := step.regs.trans state.regs
  fregs := step.fregs.trans state.fregs
  others := by
    intro a ha hcounter
    have hmstatus : a ≠ CsrAddr.mstatus := by
      rintro rfl
      exact ha (by cases target <;> decide)
    -- the two steps write mstatus, the trap registers and the counters
    have hcycle : a ∉ [CsrAddr.mcycle, CsrAddr.mcycleh] := by
      intro hmem
      apply hcounter
      simp only [List.mem_cons, List.not_mem_nil, or_false] at hmem
      rcases hmem with rfl | rfl <;> decide
    rw [step.csrs, countStep_csrs csrs false hcounter, hothers a hmstatus]
    exact state.others a ha hcycle

theorem Trapped.mret {bus : β} {out : CPUExecResult × CPU × β} (hwell : cpu.WellFormed config)
    (hmprv : MprvClear cpu.csrs) (hpc : Aligned cpu.config.enableCExtension cpu.pc)
    (hafter : out.2.1.WellFormed config) (h : Trapped cpu bus .machine out) {stim : Stimulus}
    (hsupplies : Supplies out.2.1 out.2.2 stim 0x30200073) :
    let ret := out.2.1.stepOn out.2.2 stim
    (ret.1.trap = false ∧ ret.1.interrupt = false) ∧
      Restored .machine (CSRFile.mstatusMpie ||| CSRFile.mstatusMpp) cpu ret.2.1 ∧
      (ret.2.1.csrs.get CsrAddr.mstatus).getLsbD 7 = true ∧
      mppOf (ret.2.1.csrs.get CsrAddr.mstatus) = (if config.enableUMode then 0 else 3) ∧
      ∀ {μ : Type} (mem : β → μ), QuietMemory mem → mem ret.2.2 = mem bus := by
  intro ret
  obtain ⟨cause, tval, hstate⟩ := h.state
  obtain ⟨hstep, hbus⟩ := stepOn_mret h.selected hsupplies hstate.privilege
  have hstatus := mretStatus_pops hstate.status (fun hp => hmprv hp) out.2.1.csrs.uModeEnabled
  have hmret : ret.2.1.csrs.get CsrAddr.mstatus =
      CPU.mretStatus (out.2.1.csrs.get CsrAddr.mstatus) out.2.1.csrs.uModeEnabled := by
    rw [show ret.2.1.csrs = _ from hstep.csrs, countStep_get _ _ (by decide)]
    exact mretCsrs_mstatus _
  refine ⟨⟨hstep.trap, hstep.interrupt⟩, ?_, ?_, ?_, fun mem hquiet => ?_⟩
  · refine hstep.restored .machine hstate hpc ?_ ?_ fun a ha => set_csrs_ne _ _ ha
    · exact mretPrivilege_pops hstate.status hwell.privilege
    · rw [mretCsrs_mstatus]
      exact hstatus
  · rw [hmret]
    exact mretStatus_mpie _ _
  · rw [hmret, mppOf_mretStatus, hafter.legal.uModeEnabled]
  · rw [show ret.2.2 = _ from hbus, supply_mem _ _ _ hquiet]
    exact h.memory mem hquiet

theorem Trapped.sret {bus : β} {out : CPUExecResult × CPU × β} (hwell : cpu.WellFormed config)
    (hmprv : MprvClear cpu.csrs) (hpc : Aligned cpu.config.enableCExtension cpu.pc)
    (htsr : cpu.csrs.get CsrAddr.mstatus &&& CSRFile.mstatusTsr = 0)
    (h : Trapped cpu bus .supervisor out) {stim : Stimulus}
    (hsupplies : Supplies out.2.1 out.2.2 stim 0x10200073) :
    let ret := out.2.1.stepOn out.2.2 stim
    (ret.1.trap = false ∧ ret.1.interrupt = false) ∧
      Restored .supervisor (CSRFile.mstatusSpie ||| CSRFile.mstatusSpp) cpu ret.2.1 ∧
      (ret.2.1.csrs.get CsrAddr.mstatus).getLsbD 5 = true ∧
      (ret.2.1.csrs.get CsrAddr.mstatus).getLsbD 8 = false ∧
      ∀ {μ : Type} (mem : β → μ), QuietMemory mem → mem ret.2.2 = mem bus := by
  intro ret
  obtain ⟨cause, tval, hstate⟩ := h.state
  obtain ⟨hs, hm⟩ : cpu.config.enableSMode = true ∧ cpu.csrs.currentPrivilege ≠ .machine := by
    rcases h.allowed with ht | ⟨-, hs, hm⟩
    · cases ht
    · exact ⟨hs, hm⟩
  -- TSR is as before the trap, and the trap left the hart in S
  have hallowed : ¬(out.2.1.csrs.currentPrivilege = .supervisor ∧
      out.2.1.csrs.get CsrAddr.mstatus &&& CSRFile.mstatusTsr ≠ 0) := by
    rintro ⟨-, hset⟩
    rw [hstate.status.others.field (by decide)] at hset
    exact hset htsr
  have huser : out.2.1.csrs.currentPrivilege ≠ .user := by
    rw [hstate.privilege]
    decide
  obtain ⟨hstep, hbus⟩ :=
    stepOn_sret (h.config ▸ hs) h.selected hsupplies huser hallowed
  have hstatus := sretStatus_pops hstate.status (hmprv hm)
  have hsret : ret.2.1.csrs.get CsrAddr.mstatus =
      CPU.sretStatus (out.2.1.csrs.get CsrAddr.mstatus) := by
    rw [show ret.2.1.csrs = _ from hstep.csrs, countStep_get _ _ (by decide)]
    exact sretCsrs_mstatus _
  refine ⟨⟨hstep.trap, hstep.interrupt⟩, ?_, ?_, ?_, fun mem hquiet => ?_⟩
  · refine hstep.restored .supervisor hstate hpc ?_ ?_ fun a ha => set_csrs_ne _ _ ha
    · exact sretPrivilege_pops hstate.status hm hwell.privilege
    · rw [sretCsrs_mstatus]
      exact hstatus
  · rw [hsret]
    exact sretStatus_spie _
  · rw [hsret]
    exact sretStatus_spp _
  · rw [show ret.2.2 = _ from hbus, supply_mem _ _ _ hquiet]
    exact h.memory mem hquiet

/-- **Trap and return.** With an aligned reset vector, in every state of every run: an
MRET that is the next instruction after a trap into M, or an SRET after a trap into S
while TSR is clear, executes at once and restores the state before the trap but for
the cells it resets. -/
theorem trap_return_run (config : CPUConfig)
    (hreset : Aligned config.enableCExtension config.resetVector) (actions : List Action)
    (bus : β) (stim : Stimulus) :
    let cpu := (machine config).run (CPU.new config) actions
    let out := cpu.stepOn bus stim
    out.1.trap = true ∨ out.1.interrupt = true →
      (out.2.1.csrs.currentPrivilege = .machine → ∀ stim',
        Supplies out.2.1 out.2.2 stim' 0x30200073 →
          let ret := out.2.1.stepOn out.2.2 stim'
          (ret.1.trap = false ∧ ret.1.interrupt = false) ∧
            Restored .machine (CSRFile.mstatusMpie ||| CSRFile.mstatusMpp) cpu ret.2.1 ∧
            (ret.2.1.csrs.get CsrAddr.mstatus).getLsbD 7 = true ∧
            mppOf (ret.2.1.csrs.get CsrAddr.mstatus) = (if config.enableUMode then 0 else 3) ∧
            ∀ {μ : Type} (mem : β → μ), QuietMemory mem → mem ret.2.2 = mem bus) ∧
      (out.2.1.csrs.currentPrivilege = .supervisor →
        cpu.csrs.get CsrAddr.mstatus &&& CSRFile.mstatusTsr = 0 → ∀ stim',
        Supplies out.2.1 out.2.2 stim' 0x10200073 →
          let ret := out.2.1.stepOn out.2.2 stim'
          (ret.1.trap = false ∧ ret.1.interrupt = false) ∧
            Restored .supervisor (CSRFile.mstatusSpie ||| CSRFile.mstatusSpp) cpu ret.2.1 ∧
            (ret.2.1.csrs.get CsrAddr.mstatus).getLsbD 5 = true ∧
            (ret.2.1.csrs.get CsrAddr.mstatus).getLsbD 8 = false ∧
            ∀ {μ : Type} (mem : β → μ), QuietMemory mem → mem ret.2.2 = mem bus) := by
  intro cpu out htrap
  have hreach : Reachable config cpu := ⟨actions, rfl⟩
  have hwell := hreach.wellFormed
  have hmprv := hreach.mprvClear
  have hpc := hreach.aligned hreset
  rw [← hwell.config_eq] at hpc
  -- what the trap left, whichever of the two kinds it was
  have htrapped := step_trapped hwell bus stim htrap
  refine ⟨fun hpriv stim' hsupplies => ?_, fun hpriv htsr stim' hsupplies => ?_⟩
  · rw [hpriv] at htrapped
    exact htrapped.mret hwell hmprv hpc (hwell.step bus stim) hsupplies
  · rw [hpriv] at htrapped
    exact htrapped.sret hwell hmprv hpc htsr hsupplies

end

/-- ECALL at reset and the MRET after it; in S-mode, an illegal instruction delegated
to S and the SRET after it. -/
theorem trap_return_run_ecall :
    let _ := Rv32f.nanHost
    let mem := SimpleMemory.new 0
    let cpu := (machine {}).run (CPU.new {}) []
    let out := cpu.stepOn mem (.inject 0x00000073)
    let ret := out.2.1.stepOn out.2.2 (.inject 0x30200073)
    let config : CPUConfig := { enableSMode := true }
    let enterS := [0x30225073, 0x000010B7, 0x3000B073, 0x30200073].map fun op =>
      Action.step mem (.inject op)
    let cpuS := (machine config).run (CPU.new config) enterS
    let outS := cpuS.stepOn mem (.inject 0)
    let retS := outS.2.1.stepOn outS.2.2 (.inject 0x10200073)
    Restored .machine (CSRFile.mstatusMpie ||| CSRFile.mstatusMpp) cpu ret.2.1 ∧
      ret.2.2 = mem ∧ cpuS.csrs.currentPrivilege = .supervisor ∧
      Restored .supervisor (CSRFile.mstatusSpie ||| CSRFile.mstatusSpp) cpuS retS.2.1 := by
  intro _ mem cpu out ret config enterS cpuS outS retS
  have htrap := trap_return_run {} (by decide) [] mem (.inject 0x00000073) (.inl (by decide))
  have hret := htrap.1 (by decide) (.inject 0x30200073) rfl
  have htrapS := trap_return_run config (by decide) enterS mem (.inject 0) (.inl (by decide))
  have hretS := htrapS.2 (by decide) (by decide) (.inject 0x10200073) rfl
  exact ⟨hret.2.1, hret.2.2.2.2 _ SimpleMemory.quiet, by decide, hretS.2.1⟩

end Riscv

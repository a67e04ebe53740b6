import Riscv.Memory
import Riscv.Privilege

/- Machine state below M.

   Below M the CPU writes mstatus, mie and mip only through their S-mode views, on
   entry to S and on SRET. SRET clears MPRV, so that MPRV is kept rests on its being
   clear already: it is, in every state below M, because only a CSR write in M sets
   it and MRET to a lower mode clears it. -/
namespace Riscv

open Zicsr Run Warl

/-! ## What is kept -/

/-- The machine registers without an S-mode view. -/
def machineRegisters : List (BitVec 16) :=
  [CsrAddr.mtvec, CsrAddr.mscratch, CsrAddr.mepc, CsrAddr.mcause, CsrAddr.mtval,
   CsrAddr.medeleg, CsrAddr.mideleg, CsrAddr.mcounteren, CsrAddr.misa]

/-- The bits of mstatus that S-mode has. -/
def supervisorStatus : Word :=
  CSRFile.mstatusSie ||| CSRFile.mstatusSpie ||| CSRFile.mstatusSpp ||| CSRFile.mstatusSum |||
    CSRFile.mstatusMxr

/-- The machine registers are unchanged, mie outside mideleg, mip outside a
delegated SSIP and mstatus outside its S-mode bits. -/
structure MachineKept (old new : CSRFile) : Prop where
  registers : ∀ r ∈ machineRegisters, new.get r = old.get r
  mie : Agree (old.get CsrAddr.mideleg) (new.get CsrAddr.mie) (old.get CsrAddr.mie)
  mip : Agree (CSRFile.miSsi &&& old.get CsrAddr.mideleg) (new.get CsrAddr.mip)
    (old.get CsrAddr.mip)
  mstatus : Agree supervisorStatus (new.get CsrAddr.mstatus) (old.get CsrAddr.mstatus)

/-- What U-mode changes: fcsr and the counters. -/
def userCsrs : List (BitVec 16) := CsrAddr.fcsr :: counterCsrs

/-- No other register changes. -/
def UserKept (old new : CSRFile) : Prop := ∀ a, a ∉ userCsrs → new.csrs a = old.csrs a

namespace MachineKept

variable {f g h : CSRFile}

theorem refl (f : CSRFile) : MachineKept f f :=
  ⟨fun _ _ => rfl, .refl _ _, .refl _ _, .refl _ _⟩

theorem trans (h₁ : MachineKept f g) (h₂ : MachineKept g h) : MachineKept f h := by
  have hdeleg : g.get CsrAddr.mideleg = f.get CsrAddr.mideleg := h₁.registers _ (by decide)
  have hmie := h₂.mie
  have hmip := h₂.mip
  rw [hdeleg] at hmie hmip
  exact ⟨fun r hr => (h₂.registers r hr).trans (h₁.registers r hr), hmie.trans h₁.mie,
    hmip.trans h₁.mip, h₂.mstatus.trans h₁.mstatus⟩

theorem of_others (hothers : ∀ r, r ∈ CsrAddr.mie :: CsrAddr.mip :: machineRegisters →
    g.csrs r = f.csrs r)
    (hstatus : Agree supervisorStatus (g.get CsrAddr.mstatus) (f.get CsrAddr.mstatus)) :
    MachineKept f g := by
  have hget : ∀ r, r ∈ CsrAddr.mie :: CsrAddr.mip :: machineRegisters → g.get r = f.get r := by
    intro r hr
    unfold CSRFile.get
    rw [hothers r hr]
  refine ⟨fun r hr => hget r (.tail _ (.tail _ hr)), ?_, ?_, hstatus⟩
  · rw [hget _ (.head _)]
    exact .refl _ _
  · rw [hget _ (.tail _ (.head _))]
    exact .refl _ _

theorem countStep (f : CSRFile) (trap : Bool) : MachineKept f (countStep f trap) := by
  have hcounters : ∀ r, r ∈ CsrAddr.mie :: CsrAddr.mip :: machineRegisters →
      r ∉ counterCsrs := by
    intro r hr
    have hall : (CsrAddr.mie :: CsrAddr.mip :: machineRegisters).all
        (fun r => decide (r ∉ counterCsrs)) = true := by decide
    exact of_decide_eq_true (List.all_eq_true.mp hall r hr)
  refine of_others (fun r hr => countStep_csrs f trap (hcounters r hr)) ?_
  rw [countStep_get f trap (by decide)]
  exact .refl _ _

end MachineKept

/-! ## CSR instructions below M -/

theorem canWrite_privilege {f : CSRFile} {a : BitVec 16} (h : f.canWrite a = true) :
    (CSRPermissions.fromAddress a).minPrivilege.toNat ≤ f.currentPrivilege.toNat := by
  unfold CSRFile.canWrite at h
  split at h
  · cases h
  · exact of_decide_eq_true h

theorem toNat_below {p : PrivilegeLevel} (hm : p ≠ .machine) (hr : p ≠ .reserved) :
    p.toNat ≤ 1 := by
  cases p with
  | user | supervisor => decide
  | reserved => exact absurd rfl hr
  | machine => exact absurd rfl hm

/-- Below M a CSR instruction does not write a machine register at its own
address. -/
theorem backing_below {f : CSRFile} {a r : BitVec 16} (hw : f.canWrite a = true)
    (hbelow : f.currentPrivilege.toNat ≤ 1)
    (hr : (CSRPermissions.fromAddress r).minPrivilege = .machine) : a ≠ r := by
  rintro rfl
  have hle := canWrite_privilege hw
  rw [hr] at hle
  have h3 : PrivilegeLevel.machine.toNat = 3 := rfl
  omega

theorem write_mie_agree (f : CSRFile) {a : BitVec 16} (hown : a ≠ CsrAddr.mie) (v : Word) :
    Agree (f.get CsrAddr.mideleg) ((f.write a v).get CsrAddr.mie) (f.get CsrAddr.mie) := by
  by_cases hsie : a = CsrAddr.sie
  · subst hsie
    rw [write_sie]
    split
    · exact .refl _ _
    · rw [CSRFile.get_set_same, BitVec.and_assoc, BitVec.and_comm (f.get CsrAddr.mideleg),
        ← BitVec.and_assoc]
      exact agree_merge _ _ (Within.refl _)
  · rw [write_get_of_view f v hown hsie rfl]
    exact .refl _ _

theorem write_mip_agree (f : CSRFile) {a : BitVec 16} (hown : a ≠ CsrAddr.mip) (v : Word) :
    Agree (CSRFile.miSsi &&& f.get CsrAddr.mideleg) ((f.write a v).get CsrAddr.mip)
      (f.get CsrAddr.mip) := by
  by_cases hsip : a = CsrAddr.sip
  · subst hsip
    rw [write_sip]
    split
    · exact .refl _ _
    · rw [CSRFile.get_set_same]
      exact agree_merge _ _ (Within.refl _)
  · rw [write_get_of_view f v hown hsip rfl]
    exact .refl _ _

theorem write_mstatus_agree {config : CPUConfig} {f : CSRFile} (hlegal : CsrLegal config f)
    {a : BitVec 16} (hown : a ≠ CsrAddr.mstatus) (v : Word) :
    Agree supervisorStatus ((f.write a v).get CsrAddr.mstatus) (f.get CsrAddr.mstatus) := by
  by_cases hsstatus : a = CsrAddr.sstatus
  · subst hsstatus
    rw [write_sstatus, CSRFile.get_set_same]
    exact (legalizeSstatus_agree hlegal v).mono (by decide)
  · rw [write_get_of_view f v hown hsstatus rfl]
    exact .refl _ _

theorem machineKept_write {config : CPUConfig} {f : CSRFile} (hlegal : CsrLegal config f)
    {a : BitVec 16} (hw : f.canWrite a = true) (hbelow : f.currentPrivilege.toNat ≤ 1)
    (v : Word) : MachineKept f (f.write a v) := by
  have hown : ∀ r, (CSRPermissions.fromAddress r).minPrivilege = .machine → a ≠ r :=
    fun r hr => backing_below hw hbelow hr
  have hall : machineRegisters.all (fun r => decide
      ((CSRPermissions.fromAddress r).minPrivilege = .machine ∧ viewsOf r = [])) = true := by
    decide
  refine ⟨fun r hr => write_get_kept f v ?_, write_mie_agree f (hown _ rfl) v,
    write_mip_agree f (hown _ rfl) v, write_mstatus_agree hlegal (hown _ rfl) v⟩
  obtain ⟨hprivilege, hviews⟩ := of_decide_eq_true (List.all_eq_true.mp hall r hr)
  rw [hviews, List.mem_singleton]
  exact hown r hprivilege

/-- What a retired instruction does below M. -/
theorem machineKept_effect {config : CPUConfig} {f g : CSRFile} (hlegal : CsrLegal config f)
    (hbelow : f.currentPrivilege.toNat ≤ 1) (heffect : CsrEffect config f g) :
    MachineKept f g := by
  cases heffect with
  | same => exact .refl f
  | write a v _ hw => exact machineKept_write hlegal hw hbelow v
  | fcsr v _ =>
    have hfcsr : ∀ r, r ∈ CsrAddr.mie :: CsrAddr.mip :: machineRegisters → r ≠ CsrAddr.fcsr := by
      intro r hr
      have hall : (CsrAddr.mie :: CsrAddr.mip :: machineRegisters).all
          (fun r => decide (r ≠ CsrAddr.fcsr)) = true := by decide
      exact of_decide_eq_true (List.all_eq_true.mp hall r hr)
    refine .of_others (fun r hr => set_csrs_ne f _ (hfcsr r hr)) ?_
    rw [CSRFile.get_set_ne _ _ (by decide)]
    exact .refl _ _

theorem TrapEntered.machineKept {cause tval pc : Word} {f g : CSRFile}
    (h : TrapEntered .supervisor cause tval pc f g) : MachineKept f g := by
  have htrapCsrs : ∀ r, r ∈ CsrAddr.mie :: CsrAddr.mip :: machineRegisters →
      r ∉ PrivilegeLevel.supervisor.trapCsrs := by
    intro r hr
    have hall : (CsrAddr.mie :: CsrAddr.mip :: machineRegisters).all
        (fun r => decide (r ∉ PrivilegeLevel.supervisor.trapCsrs)) = true := by decide
    exact of_decide_eq_true (List.all_eq_true.mp hall r hr)
  exact .of_others (fun r hr => h.others r (htrapCsrs r hr)) (h.status.others.mono (by decide))

theorem machineKept_sret {f : CSRFile}
    (hmprv : f.get CsrAddr.mstatus &&& CSRFile.mstatusMprv = 0) :
    MachineKept f (CPU.sretCsrs f) := by
  have hne : ∀ r, r ∈ CsrAddr.mie :: CsrAddr.mip :: machineRegisters → r ≠ CsrAddr.mstatus := by
    intro r hr
    have hall : (CsrAddr.mie :: CsrAddr.mip :: machineRegisters).all
        (fun r => decide (r ≠ CsrAddr.mstatus)) = true := by decide
    exact of_decide_eq_true (List.all_eq_true.mp hall r hr)
  refine .of_others (fun r hr => set_csrs_ne f _ (hne r hr)) ?_
  obtain ⟨v, hv, heq⟩ := sretStatus_cases (f.get CsrAddr.mstatus)
  have hget : (CPU.sretCsrs f).get CsrAddr.mstatus = CPU.sretStatus (f.get CsrAddr.mstatus) := rfl
  rw [hget, heq, clear_eq_self]
  · exact hv.mono (by decide)
  · rw [hv.field (by decide)]
    exact hmprv

/-- In U a CSR instruction writes fcsr, at one of its three addresses. -/
theorem backing_user {f : CSRFile} (hlegal : CsrLegal config f)
    (huser : f.currentPrivilege = .user) {a : BitVec 16} (hex : f.exists' a = true)
    (hw : f.canWrite a = true) : backing a = CsrAddr.fcsr := by
  by_cases hflags : a = CsrAddr.fflags
  · subst hflags
    rfl
  by_cases hfrm : a = CsrAddr.frm
  · subst hfrm
    rfl
  have hstored := hlegal.stored_of_exists hex hflags hfrm
    (counter_of_writable (writable_of_canWrite hw))
  -- every stored register is in one of three lists, and none of them is open to U
  have hmem : a ∈ machineCsrs ++ delegationCsrs ++ supervisorCsrs := by
    unfold stored at hstored
    simp only [Bool.or_eq_true, Bool.and_eq_true, decide_eq_true_eq] at hstored
    simp only [List.mem_append]
    rcases hstored with (h | h) | h
    · exact .inl (.inl h)
    · exact .inl (.inr h.2)
    · exact .inr h.2
  have hle := canWrite_privilege hw
  have hall : (machineCsrs ++ delegationCsrs ++ supervisorCsrs).all (fun a => decide
      ((CSRPermissions.fromAddress a).minPrivilege.toNat ≤ PrivilegeLevel.user.toNat →
        backing a = CsrAddr.fcsr)) = true := by decide
  rw [huser] at hle
  exact of_decide_eq_true (List.all_eq_true.mp hall a hmem) hle

/-- What an instruction that retires in U writes. -/
theorem userKept_effect {f g : CSRFile} (hlegal : CsrLegal config f)
    (huser : f.currentPrivilege = .user) (heffect : CsrEffect config f g) : UserKept f g := by
  intro a ha
  have hfcsr : a ≠ CsrAddr.fcsr := fun h => ha (h ▸ .head _)
  cases heffect with
  | same => rfl
  | fcsr v _ => exact set_csrs_ne f _ hfcsr
  | write b v hex hw =>
    refine write_csrs_ne f v fun hb => hfcsr ?_
    rw [hb]
    exact backing_user hlegal huser hex hw

/-! ## MPRV -/

/-- MPRV is clear below M. -/
def MprvClear (f : CSRFile) : Prop :=
  f.currentPrivilege ≠ .machine → f.get CsrAddr.mstatus &&& CSRFile.mstatusMprv = 0

/-- MPRV is not among the bits S-mode has. -/
theorem MachineKept.mprv {f g : CSRFile} (h : MachineKept f g) :
    g.get CsrAddr.mstatus &&& CSRFile.mstatusMprv =
      f.get CsrAddr.mstatus &&& CSRFile.mstatusMprv :=
  h.mstatus.field (by decide)

theorem and_clear_self {w : Nat} (v c : BitVec w) : v &&& ~~~c &&& c = 0 := by
  ext i hi
  simp

theorem mprvClear_countStep {f : CSRFile} (h : MprvClear f) (trap : Bool) :
    MprvClear (countStep f trap) := by
  unfold MprvClear
  rw [countStep_currentPrivilege, countStep_get f trap (by decide)]
  exact h

theorem mprvClear_mret (f : CSRFile) : MprvClear (CPU.mretCsrs f) := by
  intro hpriv
  have hmpp : (f.get CsrAddr.mstatus >>> 11) &&& 3 ≠ 3 := by
    intro h3
    apply hpriv
    show CPU.mretPrivilege (f.get CsrAddr.mstatus) = .machine
    unfold CPU.mretPrivilege
    rw [h3]
    rfl
  show CPU.mretStatus (f.get CsrAddr.mstatus) f.uModeEnabled &&& CSRFile.mstatusMprv = 0
  unfold CPU.mretStatus
  dsimp only
  rw [if_pos hmpp]
  exact and_clear_self _ _

theorem mprvClear_sret (f : CSRFile) : MprvClear (CPU.sretCsrs f) := by
  intro _
  show CPU.sretStatus (f.get CsrAddr.mstatus) &&& CSRFile.mstatusMprv = 0
  exact and_clear_self _ _

theorem mprvClear_taken {cpu : CPU} {g : CSRFile} (h : MprvClear cpu.csrs)
    (htaken : TrapTaken cpu g) : MprvClear g := by
  obtain ⟨target, cause, tval, csrs, htarget, hentered, rfl⟩ := htaken
  refine mprvClear_countStep (fun hpriv => ?_) true
  rw [hentered.privilege] at hpriv
  rcases htarget with rfl | ⟨rfl, -, hm⟩
  · exact absurd rfl hpriv
  · rw [hentered.machineKept.mprv]
    exact h hm

/-- A trap that is not taken into M keeps the machine state. -/
theorem machineKept_taken {cpu : CPU} {g : CSRFile} (htaken : TrapTaken cpu g)
    (hpriv : g.currentPrivilege ≠ .machine) : MachineKept cpu.csrs g := by
  obtain ⟨target, cause, tval, csrs, htarget, hentered, rfl⟩ := htaken
  rw [countStep_currentPrivilege, hentered.privilege] at hpriv
  rcases htarget with ht | ⟨rfl, -⟩
  · exact absurd ht hpriv
  · exact hentered.machineKept.trans (.countStep csrs true)

section
variable [Rv32f.HostFloat] {config : CPUConfig} {cpu : CPU}

/-- One action keeps MPRV clear below M. -/
theorem mprvClear_act (h : cpu.WellFormed config) (hmprv : MprvClear cpu.csrs) (a : Action) :
    MprvClear (cpu.act a).csrs := by
  cases a with
  | reset => exact fun hpriv => absurd rfl hpriv
  | line line level =>
    cases line <;> exact fun hpriv => hmprv hpriv
  | step bus stim =>
    show MprvClear (cpu.stepOn bus stim).2.1.csrs
    cases step_outcome h bus stim with
    | interrupt selected step _ => exact mprvClear_taken hmprv (step.taken selected)
    | exception _ step _ => exact mprvClear_taken hmprv step.taken
    | retire _ _ _ effect csrs_eq _ _ _ =>
      rw [csrs_eq]
      refine mprvClear_countStep (fun hpriv => ?_) false
      rw [effect.privilege] at hpriv
      rw [h.config_eq] at effect
      -- below M an instruction keeps MPRV; in M there is nothing to show
      have hkept := machineKept_effect h.legal (toNat_below hpriv h.privilege) effect
      rw [hkept.mprv]
      exact hmprv hpriv
    | mret _ _ _ _ csrs_eq _ _ _ =>
      rw [csrs_eq]
      exact mprvClear_countStep (mprvClear_mret _) false
    | sret _ _ _ _ _ _ csrs_eq _ _ _ =>
      rw [csrs_eq]
      exact mprvClear_countStep (mprvClear_sret _) false

/-- **Below M, MPRV is clear**, in every state of every run. -/
theorem Reachable.mprvClear (h : Reachable config cpu) : MprvClear cpu.csrs := by
  refine Machine.Reachable.invariant (P := fun cpu => MprvClear cpu.csrs) ?_ ?_ h
  · exact fun hpriv => absurd rfl hpriv
  · exact fun cpu a hreach hmprv => mprvClear_act (Reachable.wellFormed hreach) hmprv a

/-! ## Runs below M -/

/-- The action is a step that takes no trap into M. -/
def StaysBelow (cpu : CPU) : Action → Prop
  | @Action.step _ _ bus stim =>
    let out := cpu.stepOn bus stim
    out.1.trap = true ∨ out.1.interrupt = true → out.2.1.csrs.currentPrivilege ≠ .machine
  | _ => False

/-- The action is a step from U to U. -/
def StaysUser (cpu : CPU) : Action → Prop
  | @Action.step _ _ bus stim =>
    cpu.csrs.currentPrivilege = .user ∧ (cpu.stepOn bus stim).2.1.csrs.currentPrivilege = .user
  | _ => False

/-- A step below M that takes no trap into M stays below M and keeps the machine
state. -/
theorem machineKept_step (h : cpu.WellFormed config) (hmprv : MprvClear cpu.csrs)
    (hbelow : cpu.csrs.currentPrivilege ≠ .machine) {a : Action} (hstays : StaysBelow cpu a) :
    (cpu.act a).csrs.currentPrivilege ≠ .machine ∧ MachineKept cpu.csrs (cpu.act a).csrs := by
  cases a with
  | reset => exact hstays.elim
  | line line level => exact hstays.elim
  | step bus stim =>
    show (cpu.stepOn bus stim).2.1.csrs.currentPrivilege ≠ .machine ∧
      MachineKept cpu.csrs (cpu.stepOn bus stim).2.1.csrs
    cases step_outcome h bus stim with
    | interrupt selected step _ =>
      have hpriv := hstays (.inr step.interrupt)
      exact ⟨hpriv, machineKept_taken (step.taken selected) hpriv⟩
    | exception _ step _ =>
      have hpriv := hstays (.inl step.trap)
      exact ⟨hpriv, machineKept_taken step.taken hpriv⟩
    | retire _ _ _ effect csrs_eq _ _ _ =>
      rw [csrs_eq, countStep_currentPrivilege, effect.privilege]
      rw [h.config_eq] at effect
      exact ⟨hbelow, (machineKept_effect h.legal (toNat_below hbelow h.privilege) effect).trans
        (.countStep _ false)⟩
    -- only a trap into M or an MRET changes what belongs to M, and MRET needs M
    | mret _ _ _ priv _ _ _ _ => exact absurd priv hbelow
    | sret _ _ _ _ _ _ csrs_eq _ _ _ =>
      rw [csrs_eq, countStep_currentPrivilege]
      refine ⟨?_, (machineKept_sret (hmprv hbelow)).trans (.countStep _ false)⟩
      show CPU.sretPrivilege (cpu.csrs.get CsrAddr.mstatus) ≠ .machine
      unfold CPU.sretPrivilege
      split <;> decide

theorem userKept_step (h : cpu.WellFormed config) {a : Action} (hstays : StaysUser cpu a) :
    UserKept cpu.csrs (cpu.act a).csrs := by
  cases a with
  | reset => exact hstays.elim
  | line line level => exact hstays.elim
  | step bus stim =>
    obtain ⟨huser, hafter⟩ := hstays
    show UserKept cpu.csrs (cpu.stepOn bus stim).2.1.csrs
    cases step_outcome h bus stim with
    | interrupt selected step _ => exact absurd hafter (step.taken selected).ne_user
    | exception _ step _ => exact absurd hafter step.taken.ne_user
    | retire _ _ _ effect csrs_eq _ _ _ =>
      intro r hr
      have hcounter : r ∉ counterCsrs := fun h => hr (.tail _ h)
      rw [csrs_eq, countStep_csrs _ _ hcounter]
      exact userKept_effect (h.config_eq ▸ h.legal) huser effect r hr
    | mret _ _ _ priv _ _ _ _ =>
      rw [huser] at priv
      cases priv
    | sret _ _ _ _ priv _ _ _ _ _ => exact absurd huser priv

/-- **Machine state is out of reach below M.** In a run of steps from a reachable
state below M that takes no trap into M, the machine state at the end is that of
the start; and while the run stays in U, fcsr and the counters are all that
changes. -/
theorem machine_state_run (config : CPUConfig) (actions steps : List Action)
    (hbelow : ((machine config).run (CPU.new config) actions).csrs.currentPrivilege ≠ .machine)
    (hstays : (machine config).Along StaysBelow ((machine config).run (CPU.new config) actions)
      steps) :
    let cpu := (machine config).run (CPU.new config) actions
    let cpu' := (machine config).run cpu steps
    MachineKept cpu.csrs cpu'.csrs ∧
      ((machine config).Along StaysUser cpu steps → UserKept cpu.csrs cpu'.csrs) := by
  intro cpu cpu'
  have hreach : Reachable config cpu := ⟨actions, rfl⟩
  refine ⟨?_, fun huser => ?_⟩
  -- MPRV clear goes into the invariant: SRET clears it, so it must be clear already
  · have hinv := hstays.preserves
      (P := fun s => s.WellFormed config ∧ MprvClear s.csrs ∧
        s.csrs.currentPrivilege ≠ .machine ∧ MachineKept cpu.csrs s.csrs)
      (fun s a ⟨hwell, hmprv, hpriv, hkept⟩ hstay => by
        have hstep := machineKept_step hwell hmprv hpriv hstay
        exact ⟨hwell.act a, mprvClear_act hwell hmprv a, hstep.1, hkept.trans hstep.2⟩)
      ⟨hreach.wellFormed, hreach.mprvClear, hbelow, .refl _⟩
    exact hinv.2.2.2
  · have hinv := huser.preserves
      (P := fun s => s.WellFormed config ∧ UserKept cpu.csrs s.csrs)
      (fun s a ⟨hwell, hkept⟩ hstay => ⟨hwell.act a, fun r hr =>
        (userKept_step hwell hstay r hr).trans (hkept r hr)⟩)
      ⟨hreach.wellFormed, fun _ _ => rfl⟩
    exact hinv.2

end

/-- In S-mode: writes of sscratch, stvec and sstatus, an illegal instruction delegated to S
and the SRET after it. In U-mode: a write of fcsr and an addition. -/
theorem machine_state_run_supervisor :
    let _ := Rv32f.nanHost
    let config : CPUConfig := { enableSMode := true, enableUMode := true }
    let inject := List.map fun op => Action.step (SimpleMemory.new 0) (.inject op)
    let enterS := inject [0x30225073, 0x000010B7, 0x3000B073, 0x30200073]
    let stepsS := inject [0x1402D073, 0x10545073, 0x10016073, 0, 0x10200073]
    let enterU := inject [0x10200073]
    let stepsU := inject [0x0031D073, 0x00150513]
    let cpuS := (machine config).run (CPU.new config) enterS
    let cpuU := (machine config).run (CPU.new config) enterU
    let endS := (machine config).run cpuS stepsS
    let endU := (machine config).run cpuU stepsU
    (endS.csrs.get CsrAddr.sscratch = 5 ∧ endS.csrs.get CsrAddr.scause = 2 ∧
      endS.pc = cpuS.pc + 12 ∧ MachineKept cpuS.csrs endS.csrs) ∧
    endU.csrs.get CsrAddr.fcsr = 3 ∧ UserKept cpuU.csrs endU.csrs := by
  intro _ config inject enterS stepsS enterU stepsU cpuS cpuU endS endU
  have hstaysS : (machine config).Along StaysBelow cpuS stepsS := by
    refine ⟨?_, ?_, ?_, ?_, ?_, trivial⟩ <;> intro _ <;> decide
  have hstaysU : (machine config).Along StaysBelow cpuU stepsU := by
    refine ⟨?_, ?_, trivial⟩ <;> intro _ <;> decide
  have huser : (machine config).Along StaysUser cpuU stepsU := by
    refine ⟨⟨?_, ?_⟩, ⟨?_, ?_⟩, trivial⟩ <;> decide
  have hS := machine_state_run config enterS stepsS (by decide) hstaysS
  have hU := machine_state_run config enterU stepsU (by decide) hstaysU
  exact ⟨⟨by decide, by decide, by decide, hS.1⟩, by decide, hU.2 huser⟩

end Riscv

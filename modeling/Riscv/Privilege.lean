import Riscv.Runs

/- The privilege of every run.

   A step raises the privilege only by a trap, to the level the trap is delegated
   to, and lowers it only by MRET or SRET. Both kinds of trap leave M for M: an
   exception because `delegate_target` says so, an interrupt because a level below
   the current one is never eligible. -/
namespace Riscv

open Zicsr Run

/-! ## Traps -/

theorem InterruptStep.privilege {cpu : CPU} {c : Nat} {out : CPUExecResult × CPU}
    (h : InterruptStep cpu c out) : out.2.csrs.currentPrivilege = cpu.interruptTarget c := by
  obtain ⟨csrs, hentered, hcsrs⟩ := h.entered
  rw [hcsrs]
  exact hentered.privilege

theorem ExceptionStep.privilege {cpu : CPU} {cause tval : Word} {out : CPUExecResult × CPU}
    (h : ExceptionStep cpu cause tval out) :
    out.2.csrs.currentPrivilege = cpu.exceptionTarget cause := by
  obtain ⟨csrs, hentered, hcsrs⟩ := h.entered
  rw [hcsrs, countStep_currentPrivilege]
  exact hentered.privilege

/-- An exception goes to its own level or a higher one. -/
theorem exceptionTarget_ge {cpu : CPU} (h : cpu.csrs.currentPrivilege ≠ .reserved)
    (cause : Word) :
    cpu.csrs.currentPrivilege.toNat ≤ (cpu.exceptionTarget cause).toNat := by
  rcases cpu.exceptionTarget_cases cause with ht | ⟨ht, -, hm, -⟩ <;> rw [ht]
  · exact PrivilegeLevel.toNat_le _
  · cases hp : cpu.csrs.currentPrivilege with
    | user | supervisor => decide
    | reserved => exact absurd hp h
    | machine => exact absurd hp hm

/-- The bit of a cause in a delegation register. -/
def causeBit (cause : Word) : Nat := (cause &&& 0x7FFFFFFF).toNat

/-- The delegation register of the trap's kind delegates its cause. -/
def Delegated (cpu : CPU) (r : CPUExecResult) : Prop :=
  (cpu.csrs.get (if r.interrupt then CsrAddr.mideleg else CsrAddr.medeleg)).getLsbD
    (causeBit r.trapCause) = true

theorem causeBit_exception {cause : Word} (h : ExceptionCode cause) :
    causeBit cause = cause.toNat := by
  unfold ExceptionCode at h
  unfold causeBit
  rw [CPU.toNat_and_codeBits]
  omega

theorem causeBit_interrupt {c : Nat} (h : c < 32) : causeBit (CPU.interruptCause c) = c := by
  revert c
  decide

theorem selected_lt {cpu : CPU} {c : Nat} (h : cpu.selected = some c) : c < 32 := by
  have hcodes : ∀ c ∈ [11, 3, 7, 9, 1, 5], c < 32 := by decide
  exact hcodes c (CPU.selected_spec h).1

/-! ## Returns -/

theorem sretPrivilege_le (m : Word) {p : PrivilegeLevel} (h : p ≠ .user) :
    (CPU.sretPrivilege m).toNat ≤ p.toNat := by
  unfold CPU.sretPrivilege
  split <;> cases p <;> first | exact absurd rfl h | decide

/-! ## The gates -/

/-- The step has obtained the 32-bit instruction `instr` to execute. -/
def Supplies {β : Type} [Bus β] (cpu : CPU) (bus : β) (stim : Stimulus) (instr : Word) : Prop :=
  (cpu.supply bus stim).1.toOption = some (instr, true)

/-- What a step may do to the privilege. -/
structure PrivilegeGates {β : Type} [Bus β] (cpu : CPU) (bus : β) (stim : Stimulus)
    (out : CPUExecResult × CPU) : Prop where
  /-- Without a trap the privilege does not rise. -/
  ordinary : out.1.trap = false → out.1.interrupt = false →
    out.2.csrs.currentPrivilege.toNat ≤ cpu.csrs.currentPrivilege.toNat
  /-- It falls by MRET from M and by SRET from S or M only. -/
  returns : out.1.trap = false → out.1.interrupt = false →
    out.2.csrs.currentPrivilege.toNat < cpu.csrs.currentPrivilege.toNat →
      (Supplies cpu bus stim 0x30200073 ∧ cpu.csrs.currentPrivilege = .machine) ∨
        (Supplies cpu bus stim 0x10200073 ∧ (cpu.csrs.currentPrivilege = .supervisor ∨
          cpu.csrs.currentPrivilege = .machine))
  /-- A trap does not lower it, and goes to M or by delegation to S. -/
  trapped : out.1.trap = true ∨ out.1.interrupt = true →
    cpu.csrs.currentPrivilege.toNat ≤ out.2.csrs.currentPrivilege.toNat ∧
      (out.2.csrs.currentPrivilege = .machine ∨
        (out.2.csrs.currentPrivilege = .supervisor ∧ cpu.config.enableSMode = true ∧
          Delegated cpu out.1))
  /-- From M it goes to M. -/
  fromMachine : out.1.trap = true ∨ out.1.interrupt = true →
    cpu.csrs.currentPrivilege = .machine → out.2.csrs.currentPrivilege = .machine

section
variable {β : Type} [Bus β] {cpu : CPU} {bus : β} {stim : Stimulus} {out : CPUExecResult × CPU}

theorem PrivilegeGates.of_trap (htrap : out.1.trap = true ∨ out.1.interrupt = true)
    (hle : cpu.csrs.currentPrivilege.toNat ≤ out.2.csrs.currentPrivilege.toNat)
    (hlevel : out.2.csrs.currentPrivilege = .machine ∨
      (out.2.csrs.currentPrivilege = .supervisor ∧ cpu.config.enableSMode = true ∧
        Delegated cpu out.1)) : PrivilegeGates cpu bus stim out where
  ordinary := by
    intro ht hi
    simp [ht, hi] at htrap
  returns := by
    intro ht hi
    simp [ht, hi] at htrap
  trapped := fun _ => ⟨hle, hlevel⟩
  fromMachine := by
    intro _ hm
    rcases hlevel with h | ⟨h, -⟩
    · exact h
    · rw [hm, h] at hle
      exact absurd hle (by decide)

theorem PrivilegeGates.of_completed (ht : out.1.trap = false) (hi : out.1.interrupt = false)
    (hle : out.2.csrs.currentPrivilege.toNat ≤ cpu.csrs.currentPrivilege.toNat)
    (hreturn : out.2.csrs.currentPrivilege.toNat < cpu.csrs.currentPrivilege.toNat →
      (Supplies cpu bus stim 0x30200073 ∧ cpu.csrs.currentPrivilege = .machine) ∨
        (Supplies cpu bus stim 0x10200073 ∧ (cpu.csrs.currentPrivilege = .supervisor ∨
          cpu.csrs.currentPrivilege = .machine))) : PrivilegeGates cpu bus stim out where
  ordinary := fun _ _ => hle
  returns := fun _ _ => hreturn
  trapped := by simp [ht, hi]
  fromMachine := by simp [ht, hi]

end

variable [Rv32f.HostFloat]

/-- One step keeps to the gates. -/
theorem privilegeGates_step {config : CPUConfig} {cpu : CPU} (h : cpu.WellFormed config)
    {β : Type} [Bus β] (bus : β) (stim : Stimulus) :
    PrivilegeGates cpu bus stim ((cpu.stepOn bus stim).1, (cpu.stepOn bus stim).2.1) := by
  -- a trap goes to its own level or a higher one, a retirement stays, a return is allowed
  -- where its instruction is
  cases step_outcome h bus stim with
  | @interrupt c selected step _ =>
    have hlt := selected_lt selected
    have hpriv := step.privilege
    refine .of_trap (.inr step.interrupt) ?_ ?_ <;> rw [hpriv]
    · exact CPU.eligible_privilege (CPU.selected_spec selected).2
    · rcases cpu.interruptTarget_cases c with ht | ⟨ht, hs, hbit⟩
      · exact .inl ht
      · refine .inr ⟨ht, hs, ?_⟩
        unfold Delegated
        rw [step.interrupt, step.trapCause, causeBit_interrupt hlt]
        exact hbit
  | @exception cause tval _ step _ =>
    have hpriv := step.privilege
    refine .of_trap (.inl step.trap) ?_ ?_ <;> rw [hpriv]
    · exact exceptionTarget_ge h.privilege cause
    · rcases cpu.exceptionTarget_cases cause with ht | ⟨ht, hs, -, hbit⟩
      · exact .inl ht
      · refine .inr ⟨ht, hs, ?_⟩
        unfold Delegated
        rw [step.interrupt, step.trapCause, causeBit_exception step.code]
        exact hbit
  | retire _ _ step effect csrs_eq _ _ _ =>
    have hpriv : (cpu.stepOn bus stim).2.1.csrs.currentPrivilege = cpu.csrs.currentPrivilege := by
      rw [csrs_eq, countStep_currentPrivilege, effect.privilege]
    refine .of_completed step.trap step.interrupt (Nat.le_of_eq (congrArg _ hpriv)) fun hlt => ?_
    rw [hpriv] at hlt
    exact absurd hlt (Nat.lt_irrefl _)
  | mret _ supplied step priv _ _ _ _ =>
    refine .of_completed step.trap step.interrupt ?_ fun _ => .inl ⟨?_, priv⟩
    · rw [priv]
      exact PrivilegeLevel.toNat_le _
    · unfold Supplies
      rw [supplied]
      rfl
  | sret _ supplied step _ priv _ csrs_eq _ _ _ =>
    refine .of_completed step.trap step.interrupt ?_ fun _ => .inr ⟨?_, ?_⟩
    · rw [csrs_eq, countStep_currentPrivilege]
      exact sretPrivilege_le _ priv
    · unfold Supplies
      rw [supplied]
      rfl
    · have hres := h.privilege
      cases hp : cpu.csrs.currentPrivilege <;> simp_all

/-- **Privilege gates.** In every state of every run, every step keeps to the
gates. -/
theorem privilegeGates_run (config : CPUConfig) (actions : List Action) {β : Type} [Bus β]
    (bus : β) (stim : Stimulus) :
    let cpu := (machine config).run (CPU.new config) actions
    PrivilegeGates cpu bus stim ((cpu.stepOn bus stim).1, (cpu.stepOn bus stim).2.1) :=
  privilegeGates_step (Reachable.wellFormed ⟨actions, rfl⟩) bus stim

end Riscv

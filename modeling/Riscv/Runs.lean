import Riscv.Step
import Riscv.Lib.Run

/- Runs of the CPU.

   The actions are those of a caller: a step on some bus, fetched or injected, a
   change of an interrupt line, a reset. Every step may be given another bus, so
   the runs on one bus, however its owner changes it between steps, are among
   these. -/
namespace Riscv

open Zicsr Run

/-! ## Actions -/

/-- The interrupt lines of the CPU. -/
inductive InterruptLine where
  | external | timer | software
  | supervisorExternal | supervisorTimer | supervisorSoftware
  deriving DecidableEq, Repr

/-- The setter of a line. -/
def CPU.setLine (cpu : CPU) (line : InterruptLine) (level : Bool) : CPU :=
  match line with
  | .external => cpu.setExternalInterrupt level
  | .timer => cpu.setTimerInterrupt level
  | .software => cpu.setSoftwareInterrupt level
  | .supervisorExternal => cpu.setSupervisorExternalInterrupt level
  | .supervisorTimer => cpu.setSupervisorTimerInterrupt level
  | .supervisorSoftware => cpu.setSupervisorSoftwareInterrupt level

/-- What a caller may do with the CPU between two of its states. -/
inductive Action : Type 1 where
  | step {β : Type} [Bus β] (bus : β) (stim : Stimulus)
  | line (line : InterruptLine) (level : Bool)
  | reset

section
variable [Rv32f.HostFloat]

/-- The state an action leaves. -/
def CPU.act (cpu : CPU) : Action → CPU
  | @Action.step _ _ bus stim => (cpu.stepOn bus stim).2.1
  | .line line level => cpu.setLine line level
  | .reset => cpu.reset

/-- The CPU of a configuration, from its constructor on. -/
def machine (config : CPUConfig) : Machine CPU Action where
  init := CPU.new config
  next := CPU.act

/-- The states runs of the configuration reach. -/
def Reachable (config : CPUConfig) (cpu : CPU) : Prop := (machine config).Reachable cpu

end

/-! ## The invariant of every run -/

theorem CsrEffect.privilege {config : CPUConfig} {csrs csrs' : CSRFile}
    (h : CsrEffect config csrs csrs') : csrs'.currentPrivilege = csrs.currentPrivilege := by
  cases h with
  | same => rfl
  | fcsr v enabled => rfl
  | write a v _ _ => exact write_currentPrivilege csrs a v

theorem mretPrivilege_ne (m : Word) : CPU.mretPrivilege m ≠ .reserved := by
  unfold CPU.mretPrivilege
  dsimp only
  repeat' split
  all_goals decide

theorem sretPrivilege_ne (m : Word) : CPU.sretPrivilege m ≠ .reserved := by
  unfold CPU.sretPrivilege
  split <;> decide

namespace CPU

theorem wellFormed_reset (cpu : CPU) : cpu.reset.WellFormed cpu.config :=
  ⟨rfl, resetCsrs_legal cpu.csrs cpu.config, by
    show (resetCsrs cpu.csrs cpu.config).currentPrivilege ≠ .reserved
    simp⟩

variable {config : CPUConfig} {cpu : CPU}

theorem WellFormed.setLine (h : cpu.WellFormed config) (line : InterruptLine) (level : Bool) :
    (cpu.setLine line level).WellFormed config := by
  have hbit : ∀ bit, Warl.Within bit CSRFile.miMask →
      (cpu.setMipBit bit level).WellFormed config := fun bit hb =>
    ⟨h.config_eq, h.legal.driveMip hb level, h.privilege⟩
  cases line <;> exact hbit _ (by decide)

variable [Rv32f.HostFloat]

theorem WellFormed.step (h : cpu.WellFormed config) {β : Type} [Bus β] (bus : β)
    (stim : Stimulus) : (cpu.stepOn bus stim).2.1.WellFormed config := by
  have hconfig := h.config_eq
  subst hconfig
  cases step_outcome h bus stim with
  | interrupt _ step _ => exact step.wellFormed
  | exception _ step _ => exact step.wellFormed
  | retire _ _ step effect csrs_eq _ _ _ =>
    refine ⟨step.config_eq, ?_, ?_⟩ <;> rw [csrs_eq]
    · exact countStep_legal (effect.legal h.legal) false
    · rw [countStep_currentPrivilege, effect.privilege]
      exact h.privilege
  | mret _ _ step _ csrs_eq _ _ _ =>
    refine ⟨step.config_eq, ?_, ?_⟩ <;> rw [csrs_eq]
    · exact countStep_legal h.legal.mret false
    · rw [countStep_currentPrivilege]
      exact mretPrivilege_ne _
  | sret _ _ step enabled _ _ csrs_eq _ _ _ =>
    refine ⟨step.config_eq, ?_, ?_⟩ <;> rw [csrs_eq]
    · exact countStep_legal (h.legal.sret enabled) false
    · rw [countStep_currentPrivilege]
      exact sretPrivilege_ne _

theorem WellFormed.act (h : cpu.WellFormed config) (a : Action) :
    (cpu.act a).WellFormed config := by
  cases a with
  | step bus stim => exact h.step bus stim
  | line line level => exact h.setLine line level
  | reset =>
    have hconfig := h.config_eq
    subst hconfig
    exact cpu.wellFormed_reset

end CPU

/-- **Every state of a run is well formed.** -/
theorem Reachable.wellFormed [Rv32f.HostFloat] {config : CPUConfig} {cpu : CPU} (h : Reachable config cpu) :
    cpu.WellFormed config :=
  Machine.Reachable.invariant (CPU.wellFormed_reset { config := config })
    (fun _ a _ hw => hw.act a) h

/-! ## A CPU on one bus -/

section
variable [Rv32f.HostFloat] {β : Type} [Bus β]

/-- A CPU on a bus, driven by fetching and injecting steps. -/
def stepper (cpu : CPU) (bus : β) : Machine (CPU × β) Stimulus where
  init := (cpu, bus)
  next := fun s stim => (s.1.stepOn s.2 stim).2

/-- The result of a step of a CPU on a bus. -/
def report (s : CPU × β) (stim : Stimulus) : CPUExecResult := (s.1.stepOn s.2 stim).1

/-- A CPU driven on a bus stays in the states of its runs. -/
theorem reachable_stepper {config : CPUConfig} {cpu : CPU} (h : Reachable config cpu) (bus : β)
    (stims : List Stimulus) : Reachable config ((stepper cpu bus).run (cpu, bus) stims).1 := by
  have hall : (stepper cpu bus).Along (fun _ _ => True) (cpu, bus) stims :=
    Machine.along_iff.mpr fun _ _ _ _ => trivial
  refine hall.preserves (P := fun s => Reachable config s.1) ?_ h
  intro s stim hs _
  exact Machine.Reachable.run hs [.step s.2 stim]

/-- What `run` reports: the results of its first `count` fetching steps. -/
def CPU.runReports (cpu : CPU) (bus : β) (count : Nat) : List CPUExecResult :=
  (stepper cpu bus).answers report (cpu, bus) (List.replicate count .fetch)

theorem CPU.runReports_succ (cpu : CPU) (bus : β) (count : Nat) :
    cpu.runReports bus (count + 1) = (cpu.stepOn bus .fetch).1 ::
      (cpu.stepOn bus .fetch).2.1.runReports (cpu.stepOn bus .fetch).2.2 count := by
  let out := cpu.stepOn bus .fetch
  have hrest : (stepper cpu bus).answers report out.2 (List.replicate count .fetch) =
      (stepper out.2.1 out.2.2).answers report out.2 (List.replicate count .fetch) := by
    apply Machine.answers_congr
    rfl
  exact congrArg (List.cons out.1) hrest

/-- What `run` leaves, allowed `limit` steps: the machine after the steps it counts. It
stops early only to stop at a trap, which is then the last step's, and, so told, it
passes over none. -/
structure RunSpec (cpu : CPU) (bus : β) (limit : Nat) (stopOnTrap : Bool) (out : Nat × CPU × β) :
    Prop where
  steps : out.2 = (stepper cpu bus).run (cpu, bus) (List.replicate out.1 .fetch)
  le : out.1 ≤ limit
  early : out.1 < limit → stopOnTrap = true ∧
    ∃ r, (cpu.runReports bus out.1).getLast? = some r ∧ (r.trap || r.interrupt) = true
  quiet : stopOnTrap = true →
    ∀ r ∈ (cpu.runReports bus out.1).dropLast, (r.trap || r.interrupt) = false

theorem CPU.run_succ (cpu : CPU) (bus : β) (n : Nat) (stopOnTrap : Bool) :
    let out := cpu.stepOn bus .fetch
    let rest := out.2.1.run out.2.2 n stopOnTrap
    cpu.run bus (n + 1) stopOnTrap =
      if (stopOnTrap && (out.1.trap || out.1.interrupt)) = true then (1, out.2)
      else (rest.1 + 1, rest.2) := rfl

/-- **`run` is the stepper**, up to its bound or to the first trap. -/
theorem CPU.run_spec (cpu : CPU) (bus : β) (limit : Nat) (stopOnTrap : Bool) :
    RunSpec cpu bus limit stopOnTrap (cpu.run bus limit stopOnTrap) := by
  induction limit generalizing cpu bus with
  | zero =>
    exact ⟨rfl, Nat.le_refl 0, fun h => absurd h (Nat.lt_irrefl 0), fun _ r hr => nomatch hr⟩
  | succ n ih =>
    let out := cpu.stepOn bus .fetch
    let rest := out.2.1.run out.2.2 n stopOnTrap
    have hrest : RunSpec out.2.1 out.2.2 n stopOnTrap rest := ih out.2.1 out.2.2
    have hreports : cpu.runReports bus (rest.1 + 1) =
        out.1 :: out.2.1.runReports out.2.2 rest.1 := cpu.runReports_succ bus rest.1
    rw [CPU.run_succ]
    show RunSpec cpu bus (n + 1) stopOnTrap
      (if (stopOnTrap && (out.1.trap || out.1.interrupt)) = true then (1, out.2)
        else (rest.1 + 1, rest.2))
    split
    next hstop =>
      rw [Bool.and_eq_true] at hstop
      exact ⟨rfl, Nat.succ_le_succ (Nat.zero_le n), fun _ => ⟨hstop.1, out.1, rfl, hstop.2⟩,
        fun _ r hr => nomatch hr⟩
    next hgo =>
      refine ⟨hrest.steps, Nat.succ_le_succ hrest.le, fun hlt => ?_, fun hstop => ?_⟩
      · obtain ⟨hstop, r, hlast, htrap⟩ := hrest.early (Nat.lt_of_succ_lt_succ hlt)
        refine ⟨hstop, r, ?_, htrap⟩
        rw [hreports, List.getLast?_cons, hlast, Option.getD_some]
      · rw [hstop, Bool.true_and, Bool.not_eq_true] at hgo
        have hquiet := hrest.quiet hstop
        rw [hreports]
        cases hlist : out.2.1.runReports out.2.2 rest.1 with
        | nil => exact fun r hr => nomatch hr
        | cons r' rs =>
          rw [hlist] at hquiet
          rintro r (_ | ⟨_, hr⟩)
          · exact hgo
          · exact hquiet r hr

/-- `run` leaves a state of a run. -/
theorem Reachable.ran {config : CPUConfig} {cpu : CPU} (h : Reachable config cpu) (bus : β)
    (limit : Nat) (stopOnTrap : Bool) : Reachable config (cpu.run bus limit stopOnTrap).2.1 := by
  rw [(cpu.run_spec bus limit stopOnTrap).steps]
  exact reachable_stepper h bus _

end

end Riscv

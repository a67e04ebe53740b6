import Riscv.Memory
import Riscv.PcInvariant
import Riscv.Privilege

/- Traps of every run.

   An exception and an interrupt leave the same kind of state: the registers of the
   level written, mstatus pushed, the reservation gone, and everything else,
   memory included, as before. `TrapState` is that state; the two main results add
   when each kind of trap happens and where the pc goes. -/
namespace Riscv

open Zicsr Run

/-! ## The state a trap leaves -/

/-- What a trap to `target` leaves of the state before it. xepc is masked, so it is
the pc when that is aligned. -/
structure TrapState (target : PrivilegeLevel) (cause tval : Word) (cpu cpu' : CPU) : Prop where
  regs : cpu'.regs = cpu.regs
  fregs : cpu'.fregs = cpu.fregs
  fcsr : cpu'.csrs.get CsrAddr.fcsr = cpu.csrs.get CsrAddr.fcsr
  privilege : cpu'.csrs.currentPrivilege = target
  epc : Aligned cpu.config.enableCExtension cpu.pc → cpu'.csrs.get target.epc = cpu.pc
  cause : cpu'.csrs.get target.causeCsr = cause
  tval : cpu'.csrs.get target.tvalCsr = tval
  status : StatusPushed target cpu.csrs.currentPrivilege (cpu.csrs.get CsrAddr.mstatus)
    (cpu'.csrs.get CsrAddr.mstatus)
  reservation : cpu'.reservation.hasReservation = false
  cycle : cycleCount cpu'.csrs = cycleCount cpu.csrs + 1
  instret : instretCount cpu'.csrs = instretCount cpu.csrs
  others : ∀ a, a ∉ target.trapCsrs → a ∉ [CsrAddr.mcycle, CsrAddr.mcycleh] →
    cpu'.csrs.csrs a = cpu.csrs.csrs a

theorem bumpCycle_csrs (f : CSRFile) {a : BitVec 16}
    (ha : a ∉ [CsrAddr.mcycle, CsrAddr.mcycleh]) : (CPU.bumpCycle f).csrs a = f.csrs a := by
  simp only [List.mem_cons, List.not_mem_nil, or_false, not_or] at ha
  exact bumpCounter_csrs f ha.1 ha.2

/-- The counting of the step leaves the registers a trap writes alone. -/
theorem TrapState.of_entered {target : PrivilegeLevel} {cause tval : Word} {cpu cpu' : CPU}
    {csrs : CSRFile} (hmask : cpu.csrs.mepcMask = CPU.mepcMaskOf cpu.config)
    (hentered : TrapEntered target cause tval cpu.pc cpu.csrs csrs)
    (hcsrs : cpu'.csrs = CPU.bumpCycle csrs) (hregs : cpu'.regs = cpu.regs)
    (hfregs : cpu'.fregs = cpu.fregs) (hres : cpu'.reservation = cpu.reservation.clear) :
    TrapState target cause tval cpu cpu' := by
  -- the step counts a cycle after the trap was entered, in two registers no trap writes
  have hget : ∀ a, a ∉ [CsrAddr.mcycle, CsrAddr.mcycleh] → cpu'.csrs.get a = csrs.get a := by
    intro a ha
    unfold CSRFile.get
    rw [hcsrs, bumpCycle_csrs csrs ha]
  have hepc : target.epc ∉ [CsrAddr.mcycle, CsrAddr.mcycleh] := by
    cases target <;> decide
  have hcause : target.causeCsr ∉ [CsrAddr.mcycle, CsrAddr.mcycleh] := by
    cases target <;> decide
  have htval : target.tvalCsr ∉ [CsrAddr.mcycle, CsrAddr.mcycleh] := by
    cases target <;> decide
  have hkept : ∀ a, a ∈ [CsrAddr.mcycle, CsrAddr.mcycleh, CsrAddr.minstret, CsrAddr.minstreth,
      CsrAddr.fcsr] → csrs.csrs a = cpu.csrs.csrs a := by
    intro a ha
    apply hentered.others
    simp only [List.mem_cons, List.not_mem_nil, or_false] at ha
    rcases ha with rfl | rfl | rfl | rfl | rfl <;> cases target <;> decide
  have hcycle : cycleCount csrs = cycleCount cpu.csrs :=
    counter_congr (hkept _ (by decide)) (hkept _ (by decide))
  have hinstret : instretCount csrs = instretCount cpu.csrs :=
    counter_congr (hkept _ (by decide)) (hkept _ (by decide))
  refine {
    regs := hregs
    fregs := hfregs
    fcsr := ?_
    privilege := ?_
    epc := fun hpc => ?_
    cause := ?_
    tval := ?_
    status := ?_
    reservation := ?_
    cycle := ?_
    instret := ?_
    others := fun a ha hne => ?_ }
  · rw [hget _ (by decide)]
    unfold CSRFile.get
    rw [hkept _ (by decide)]
  · rw [hcsrs]
    exact hentered.privilege
  · rw [hget _ hepc]
    exact hentered.epc_aligned hmask hpc
  · rw [hget _ hcause]
    exact hentered.cause
  · rw [hget _ htval]
    exact hentered.tval
  · rw [hget _ (by decide)]
    exact hentered.status
  · rw [hres]
    rfl
  · rw [hcsrs, ← hcycle]
    exact countStep_cycle csrs true
  · rw [hcsrs, ← hinstret]
    exact countStep_instret csrs true
  · rw [hcsrs, bumpCycle_csrs csrs hne]
    exact hentered.others a ha

section
variable {config : CPUConfig} {cpu : CPU} {out : CPUExecResult × CPU}

theorem InterruptStep.trapState (h : cpu.WellFormed config) {c : Nat}
    (hstep : InterruptStep cpu c out) :
    TrapState (cpu.interruptTarget c) (CPU.interruptCause c) 0 cpu out.2 := by
  have hconfig := h.config_eq
  subst hconfig
  obtain ⟨csrs, hentered, hcsrs⟩ := hstep.entered
  exact .of_entered h.legal.mepcMask hentered hcsrs hstep.regs hstep.fregs hstep.reservation

theorem ExceptionStep.trapState (h : cpu.WellFormed config) {cause tval : Word}
    (hstep : ExceptionStep cpu cause tval out) :
    TrapState (cpu.exceptionTarget cause) cause tval cpu out.2 := by
  have hconfig := h.config_eq
  subst hconfig
  obtain ⟨csrs, hentered, hcsrs⟩ := hstep.entered
  exact .of_entered h.legal.mepcMask hentered hcsrs hstep.regs hstep.fregs hstep.reservation

end

/-! ## Interrupts -/

/-- A step that delivered interrupt `c` and did nothing else. -/
structure Delivered {β : Type} (cpu : CPU) (bus : β) (c : Nat) (out : CPUExecResult × CPU × β) :
    Prop where
  state : TrapState (cpu.interruptTarget c) (0x80000000 ||| BitVec.ofNat 32 c) 0 cpu out.2.1
  bus_eq : out.2.2 = bus
  pcAfter : out.2.1.pc = out.1.nextPc
  direct : cpu.csrs.get (cpu.interruptTarget c).tvec &&& 3 = 0 →
    out.2.1.pc = cpu.csrs.get (cpu.interruptTarget c).tvec &&& ~~~3
  vectored : cpu.csrs.get (cpu.interruptTarget c).tvec &&& 3 = 1 →
    out.2.1.pc = (cpu.csrs.get (cpu.interruptTarget c).tvec &&& ~~~3) + 4 * BitVec.ofNat 32 c

section
variable {cpu : CPU} {c : Nat} {out : CPUExecResult × CPU}

theorem InterruptStep.direct (h : InterruptStep cpu c out)
    (hmode : cpu.csrs.get (cpu.interruptTarget c).tvec &&& 3 = 0) :
    out.2.pc = cpu.csrs.get (cpu.interruptTarget c).tvec &&& ~~~3 := by
  rw [h.pcAfter, h.nextPc]
  unfold CPU.vectorTarget
  dsimp only
  rw [hmode]
  exact if_neg (by decide)

theorem InterruptStep.vectored (h : InterruptStep cpu c out)
    (hmode : cpu.csrs.get (cpu.interruptTarget c).tvec &&& 3 = 1) :
    out.2.pc =
      (cpu.csrs.get (cpu.interruptTarget c).tvec &&& ~~~3) + 4 * BitVec.ofNat 32 c := by
  rw [h.pcAfter, h.nextPc]
  unfold CPU.vectorTarget
  dsimp only
  rw [hmode]
  exact if_pos rfl

end

section
variable [Rv32f.HostFloat]

/-- **Interrupt selection.** In every state of every run a step delivers an
interrupt exactly when a code is eligible, and then the selected one: the first
eligible for M in the order, or else the first eligible for S. -/
theorem interrupt_selection_run (config : CPUConfig) (actions : List Action) {β : Type} [Bus β]
    (bus : β) (stim : Stimulus) :
    let cpu := (machine config).run (CPU.new config) actions
    let out := cpu.stepOn bus stim
    (out.1.interrupt = true ↔ ∃ c ∈ [11, 3, 7, 9, 1, 5], cpu.eligible c = true) ∧
      (out.1.interrupt = true → ∃ c, cpu.selected = some c ∧ Delivered cpu bus c out) := by
  intro cpu out
  have hwell : cpu.WellFormed config := Reachable.wellFormed ⟨actions, rfl⟩
  rw [← cpu.selected_isSome]
  -- without a selected code both sides are false
  have hquiet : cpu.selected = none → out.1.interrupt = false →
      (out.1.interrupt = true ↔ cpu.selected.isSome = true) ∧
        (out.1.interrupt = true → ∃ c, cpu.selected = some c ∧ Delivered cpu bus c out) := by
    intro hnone hint
    simp [hnone, hint]
  cases step_outcome hwell bus stim with
  | @interrupt c selected step bus_eq =>
    have hint : out.1.interrupt = true := step.interrupt
    refine ⟨by simp [selected, hint], fun _ => ⟨c, selected, ?_⟩⟩
    exact ⟨step.trapState hwell, bus_eq, step.pcAfter, step.direct, step.vectored⟩
  | exception selected step _ => exact hquiet selected step.interrupt
  | retire selected _ step _ _ _ _ _ => exact hquiet selected step.interrupt
  | mret selected _ step _ _ _ _ _ => exact hquiet selected step.interrupt
  | sret selected _ step _ _ _ _ _ _ _ => exact hquiet selected step.interrupt

end

/-! ## Exceptions -/

/-- A step that took an exception and did nothing else; `target` is the level the
exception is delegated to. -/
structure PreciseTrap (cpu : CPU) (target : PrivilegeLevel) (out : CPUExecResult × CPU) :
    Prop where
  state : TrapState target out.1.trapCause out.1.trapValue cpu out.2
  delegated : target = cpu.delegateTarget out.1.trapCause false
  pc : out.1.pc = cpu.pc
  epc : out.2.csrs.get target.epc = out.1.pc
  pcAfter : out.2.pc = out.1.nextPc
  base : out.2.pc = cpu.csrs.get target.tvec &&& ~~~3

theorem ExceptionStep.precise {config : CPUConfig} {cpu : CPU} (h : cpu.WellFormed config)
    (hpc : Aligned cpu.config.enableCExtension cpu.pc) {cause tval : Word}
    {out : CPUExecResult × CPU} (hstep : ExceptionStep cpu cause tval out) :
    PreciseTrap cpu (cpu.exceptionTarget cause) out where
  state := by
    rw [hstep.trapCause, hstep.trapValue]
    exact hstep.trapState h
  delegated := by
    rw [hstep.trapCause]
    exact (cpu.delegateTarget_exception hstep.code).symm
  pc := hstep.pc
  epc := by
    rw [hstep.pc]
    exact (hstep.trapState h).epc hpc
  pcAfter := hstep.pcAfter
  base := hstep.pcAfter.trans hstep.nextPc

section
variable {β : Type} [Bus β]

/-- The calls of a step that completed all returned. -/
theorem completed_calls {cpu : CPU} {bus bus₁ bus₂ : β} {stim : Stimulus} {instr : Word}
    {is32bit : Bool} (hsupplied : cpu.supply bus stim = (.ok (instr, is32bit), bus₁))
    (hclean : Clean bus₁ bus₂) : ∃ es, Calls bus es bus₂ ∧ ∀ e ∈ es, e.ok = true := by
  have hspec := supply_spec cpu bus stim
  rw [hsupplied] at hspec
  obtain ⟨-, es, hes, -, hok⟩ := hspec
  obtain ⟨fs, hfs, hfs'⟩ := hclean
  refine ⟨es ++ fs, hes.append hfs, ?_⟩
  intro e he
  rcases List.mem_append.mp he with he | he
  · exact hok e he
  · exact (hfs' e he).2

variable [Rv32f.HostFloat]

/-- **No thrown call escapes a step**: it is the exception the step reports. -/
theorem step_faults {config : CPUConfig} {cpu : CPU} (h : cpu.WellFormed config) (bus : β)
    (stim : Stimulus) :
    let out := cpu.stepOn bus stim
    ∃ es, Calls bus es out.2.2 ∧ ∀ e ∈ es, e.ok = false → out.1.trap = true ∧
      FaultOf cpu.pc (cpu.suppliesAmo (cpu.supply bus stim).1) out.1.trapCause out.1.trapValue
        e := by
  intro out
  -- a step all whose calls returned has nothing to report
  have hnone : (∃ es, Calls bus es out.2.2 ∧ ∀ e ∈ es, e.ok = true) →
      ∃ es, Calls bus es out.2.2 ∧ ∀ e ∈ es, e.ok = false → out.1.trap = true ∧
        FaultOf cpu.pc (cpu.suppliesAmo (cpu.supply bus stim).1) out.1.trapCause
          out.1.trapValue e := by
    rintro ⟨es, hes, hok⟩
    refine ⟨es, hes, fun e he hfail => ?_⟩
    rw [hok e he] at hfail
    cases hfail
  cases step_outcome h bus stim with
  | interrupt _ _ bus_eq =>
    refine hnone ⟨[], ?_, by simp⟩
    rw [show out.2.2 = bus from bus_eq]
    exact .nil bus
  | exception _ step calls =>
    -- only an exception comes with a call that threw
    obtain ⟨es, hes, hall⟩ := calls
    refine ⟨es, hes, fun e he hfail => ⟨step.trap, ?_⟩⟩
    have hcause : out.1.trapCause = _ := step.trapCause
    have hvalue : out.1.trapValue = _ := step.trapValue
    rw [hcause, hvalue]
    exact (hall e he).2 hfail
  | retire _ supplied _ _ _ _ _ clean => exact hnone (completed_calls supplied clean)
  | mret _ supplied _ _ _ _ _ bus_eq =>
    exact hnone (completed_calls supplied (bus_eq ▸ .refl _))
  | sret _ supplied _ _ _ _ _ _ _ bus_eq =>
    exact hnone (completed_calls supplied (bus_eq ▸ .refl _))

/-- **Precise traps.** With an aligned reset vector, in every state of every run: a
step that reports a trap changed nothing but what the trap writes, memory
included if reads and failed calls leave it alone; and a bus call that throws in a
step is the trap the step reports, with the cause of its kind and its address. -/
theorem precise_traps_run (config : CPUConfig)
    (hreset : Aligned config.enableCExtension config.resetVector) (actions : List Action)
    (bus : β) (stim : Stimulus) :
    let cpu := (machine config).run (CPU.new config) actions
    let out := cpu.stepOn bus stim
    (out.1.trap = true →
      PreciseTrap cpu (cpu.exceptionTarget out.1.trapCause) (out.1, out.2.1) ∧
        ∀ {μ : Type} (mem : β → μ), QuietMemory mem → mem out.2.2 = mem bus) ∧
      ∀ log : List BusEvent,
        let traced := cpu.stepOn ({ bus := bus, log := log } : Traced β) stim
        ∃ es, traced.2.2.log = log ++ es ∧ ∀ e ∈ es, e.ok = false → traced.1.trap = true ∧
          FaultOf cpu.pc
            (cpu.suppliesAmo (cpu.supply ({ bus := bus, log := log } : Traced β) stim).1)
            traced.1.trapCause traced.1.trapValue e := by
  intro cpu out
  have hreach : Reachable config cpu := ⟨actions, rfl⟩
  have hwell := hreach.wellFormed
  have hpc := hreach.aligned hreset
  rw [← hwell.config_eq] at hpc
  refine ⟨fun htrap => ?_, fun log => ?_⟩
  · obtain ⟨cause, tval, -, step, es, hes, hall⟩ := (step_outcome hwell bus stim).exceptional htrap
    have hcause : out.1.trapCause = _ := step.trapCause
    rw [hcause]
    refine ⟨step.precise hwell hpc, fun mem hquiet => ?_⟩
    exact hes.mem_eq hquiet fun e he => (hall e he).1
  · obtain ⟨es, hes, hall⟩ := step_faults hwell ({ bus := bus, log := log } : Traced β) stim
    exact ⟨es, Traced.log_calls hes, hall⟩

end

/-! ## The memory of the test system -/

namespace SimpleMemory

theorem read8_mem (m : SimpleMemory) (addr : Word) : (m.read8 addr).2 = m := by
  unfold read8
  split <;> rfl

theorem read16_mem (m : SimpleMemory) (addr : Word) : (m.read16 addr).2 = m := by
  unfold read16
  split <;> rfl

theorem read32_mem (m : SimpleMemory) (addr : Word) : (m.read32 addr).2 = m := by
  unfold read32
  split <;> rfl

theorem guarded_mem {m m' : SimpleMemory} {addr : Word} {inBounds : Bool}
    (h : (if inBounds then ((.ok (), m') : Except BusFault Unit × SimpleMemory)
      else (.error ⟨addr⟩, m)).1.isOk = false) :
    (if inBounds then ((.ok (), m') : Except BusFault Unit × SimpleMemory)
      else (.error ⟨addr⟩, m)).2 = m := by
  cases inBounds
  · rfl
  · cases h

/-- Reads and calls that throw leave the memory of the test system alone. -/
theorem quiet : QuietMemory fun m : SimpleMemory => m := by
  intro op m h
  cases op with
  | read8 addr => exact m.read8_mem addr
  | read16 addr | fetch16 addr => exact m.read16_mem addr
  | read32 addr | fetch32 addr => exact m.read32_mem addr
  | write8 addr data =>
    rcases h with h | h
    · cases h
    · exact guarded_mem h
  | write16 addr data =>
    rcases h with h | h
    · cases h
    · exact guarded_mem h
  | write32 addr data =>
    rcases h with h | h
    · cases h
    · exact guarded_mem h

end SimpleMemory

/-- Load access faults delegated to S, and a load past the end of memory in U. -/
theorem precise_traps_run_delegated :
    let _ := Rv32f.nanHost
    let mem := SimpleMemory.new 8
    let config : CPUConfig := { enableSMode := true, enableUMode := true }
    let actions := [0x02000093, 0x30209073, 0x10509073, 0x10200073].map fun op =>
      Action.step mem (.inject op)
    let cpu := (machine config).run (CPU.new config) actions
    let out := cpu.stepOn mem (.inject 0x00802103)
    let traced := cpu.stepOn ({ bus := mem, log := [] } : Traced SimpleMemory)
      (.inject 0x00802103)
    cpu.csrs.currentPrivilege = .user ∧ PreciseTrap cpu .supervisor (out.1, out.2.1) ∧
      out.2.2 = mem ∧ traced.2.2.log = [⟨.read32 8, false⟩] ∧
        FaultOf cpu.pc false traced.1.trapCause traced.1.trapValue ⟨.read32 8, false⟩ := by
  intro _ mem config actions cpu out traced
  have hrun := precise_traps_run config (by decide) actions mem (.inject 0x00802103)
  obtain ⟨hprecise, hmem⟩ := hrun.1 (by decide)
  have htarget : cpu.exceptionTarget out.1.trapCause = .supervisor := by decide
  have hlog : traced.2.2.log = [⟨.read32 8, false⟩] := by decide
  have hamo : cpu.suppliesAmo (cpu.supply ({ bus := mem, log := [] } : Traced SimpleMemory)
    (.inject 0x00802103)).1 = false := by decide
  obtain ⟨es, hes, hfault⟩ := hrun.2 []
  have hfirst : es = [⟨.read32 8, false⟩] := hes.symm.trans hlog
  have hcause := (hfault ⟨.read32 8, false⟩ (hfirst ▸ .head _) rfl).2
  rw [hamo] at hcause
  exact ⟨by decide, htarget ▸ hprecise, hmem _ SimpleMemory.quiet, hlog, hcause⟩

end Riscv

import Riscv.Outcome
import Riscv.Interrupts

/- One step.

   A step takes an interrupt, or obtains an instruction, from the bus or from its
   caller, and executes it. `StepOutcome` lists the ways a step ends, in terms of
   the state before it; what a property needs to know of a step is a case analysis
   of `StepOutcome`, and no proof past this module unfolds `step`. -/
namespace Riscv

open Zicsr

/-! ## The counters -/

/-- The registers of a counter pair, as one number. -/
def counter (f : CSRFile) (lo hi : BitVec 16) : BitVec 64 :=
  ((f.get hi).setWidth 64 <<< 32) ||| (f.get lo).setWidth 64

/-- The 64-bit cycle counter, from its two halves. -/
def cycleCount (f : CSRFile) : BitVec 64 := counter f CsrAddr.mcycle CsrAddr.mcycleh

/-- The 64-bit count of retired instructions. -/
def instretCount (f : CSRFile) : BitVec 64 := counter f CsrAddr.minstret CsrAddr.minstreth

theorem join_halves (c : BitVec 64) :
    (((c >>> 32).setWidth 32 : Word).setWidth 64 <<< 32) ||| (c.setWidth 32 : Word).setWidth 64 =
      c := by
  apply BitVec.eq_of_getLsbD_eq
  intro i hi
  by_cases h : i < 32
  · simp [h, hi]
  · have hsum : 32 + (i - 32) = i := by omega
    simp [h, hi, hsum]
    omega

theorem counter_bumpCounter (f : CSRFile) {lo hi : BitVec 16} (h : lo ≠ hi) :
    counter (CPU.bumpCounter f lo hi) lo hi = counter f lo hi + 1 := by
  unfold CPU.bumpCounter
  dsimp only
  unfold counter
  rw [CSRFile.get_set_same, CSRFile.get_set_ne _ _ h, CSRFile.get_set_same]
  exact join_halves _

theorem bumpCounter_csrs (f : CSRFile) {lo hi a : BitVec 16} (hlo : a ≠ lo) (hhi : a ≠ hi) :
    (CPU.bumpCounter f lo hi).csrs a = f.csrs a := by
  unfold CPU.bumpCounter
  dsimp only
  rw [set_csrs_ne _ _ hhi, set_csrs_ne _ _ hlo]

/-- The registers a finished step counts in. -/
def counterCsrs : List (BitVec 16) :=
  [CsrAddr.mcycle, CsrAddr.mcycleh, CsrAddr.minstret, CsrAddr.minstreth]

theorem counter_congr {f g : CSRFile} {lo hi : BitVec 16} (hlo : f.csrs lo = g.csrs lo)
    (hhi : f.csrs hi = g.csrs hi) : counter f lo hi = counter g lo hi := by
  unfold counter CSRFile.get
  rw [hlo, hhi]

/-- The CSR file after the step's counting. -/
def countStep (f : CSRFile) (trap : Bool) : CSRFile :=
  if trap then CPU.bumpCycle f else CPU.bumpInstret (CPU.bumpCycle f)

theorem CPU.finishStep_eq (cpu : CPU) (r : CPUExecResult) :
    cpu.finishStep r = { cpu with pc := r.nextPc, csrs := countStep cpu.csrs r.trap } := rfl

theorem countStep_csrs (f : CSRFile) (trap : Bool) {a : BitVec 16} (ha : a ∉ counterCsrs) :
    (countStep f trap).csrs a = f.csrs a := by
  simp only [counterCsrs, List.mem_cons, List.not_mem_nil, or_false, not_or] at ha
  have hcycle : (CPU.bumpCycle f).csrs a = f.csrs a := bumpCounter_csrs f ha.1 ha.2.1
  unfold countStep
  split
  · exact hcycle
  · exact (bumpCounter_csrs _ ha.2.2.1 ha.2.2.2).trans hcycle

theorem countStep_get (f : CSRFile) (trap : Bool) {a : BitVec 16} (ha : a ∉ counterCsrs) :
    (countStep f trap).get a = f.get a := by
  unfold CSRFile.get
  rw [countStep_csrs f trap ha]

@[simp] theorem countStep_currentPrivilege (f : CSRFile) (trap : Bool) :
    (countStep f trap).currentPrivilege = f.currentPrivilege := by
  cases trap <;> rfl

theorem countStep_cycle (f : CSRFile) (trap : Bool) :
    cycleCount (countStep f trap) = cycleCount f + 1 := by
  have hcycle : cycleCount (CPU.bumpCycle f) = cycleCount f + 1 :=
    counter_bumpCounter f (by decide)
  cases trap with
  | true => exact hcycle
  | false =>
    rw [← hcycle]
    exact counter_congr (bumpCounter_csrs _ (by decide) (by decide))
      (bumpCounter_csrs _ (by decide) (by decide))

theorem countStep_instret (f : CSRFile) (trap : Bool) :
    instretCount (countStep f trap) = if trap then instretCount f else instretCount f + 1 := by
  have hsame : instretCount (CPU.bumpCycle f) = instretCount f :=
    counter_congr (bumpCounter_csrs _ (by decide) (by decide))
      (bumpCounter_csrs _ (by decide) (by decide))
  cases trap with
  | true => exact hsame
  | false =>
    have hbump : instretCount (CPU.bumpInstret (CPU.bumpCycle f)) =
        instretCount (CPU.bumpCycle f) + 1 := counter_bumpCounter _ (by decide)
    rw [hsame] at hbump
    exact hbump

theorem countStep_legal {config : CPUConfig} {f : CSRFile} (h : CsrLegal config f) (trap : Bool) :
    CsrLegal config (countStep f trap) := by
  cases trap with
  | true => exact h.bumpCycle
  | false => exact h.bumpCycle.bumpInstret

/-! ## Where a step takes its instruction from -/

/-- `step(bus)` fetches at the pc, `step(bus, opcode)` is given the word. -/
inductive Stimulus where
  | fetch
  | inject (opcode : Word)
  deriving DecidableEq, Repr

section
variable {β : Type} [Bus β]

/-- What a step executes: the word and whether it is a 32-bit encoding, or the
address at which its fetch failed. -/
def CPU.supply (cpu : CPU) (bus : β) : Stimulus → Except Word (Word × Bool) × β
  | .fetch => CPU.fetch bus cpu.pc
  | .inject opcode => (.ok (opcode, decide (opcode &&& 0x3 = 0x3)), bus)

/-- Every call is a fetch at the pc or two above it. -/
def FetchCalls (pc : Word) (es : List BusEvent) : Prop :=
  ∀ e ∈ es, e.op = .fetch16 pc ∨ e.op = .fetch16 (pc + 2)

/-- What obtaining the instruction does on the bus. -/
def SupplySpec (pc : Word) (bus : β) : Except Word (Word × Bool) × β → Prop
  | (.ok (instr, is32bit), bus') => is32bit = decide (instr &&& 0x3 = 0x3) ∧
      ∃ es, Calls bus es bus' ∧ FetchCalls pc es ∧ ∀ e ∈ es, e.ok = true
  | (.error addr, bus') => (addr = pc ∨ addr = pc + 2) ∧
      ∃ es, Calls bus es bus' ∧ FetchCalls pc es ∧ ∀ e ∈ es, e.ok = false → e.op.addr = addr

/-- The low bits of a word put together from two parcels. -/
theorem parcels_low (lo hi : BitVec 16) :
    ((lo.setWidth 32 ||| (hi.setWidth 32 <<< 16) : Word) &&& 0x3 = 0x3) ↔ lo &&& 0x3 = 0x3 := by
  have hword : ∀ x : Word, (x >>> 0) &&& 0x3 = _ := fun x => BitVec.ushiftRight_and_three x 0
  have hparcel : (lo >>> 0) &&& 0x3 = _ := BitVec.ushiftRight_and_three lo 0
  rw [BitVec.ushiftRight_zero] at hparcel
  rw [← BitVec.ushiftRight_zero (_ ||| _), hword, hparcel]
  simp only [BitVec.getLsbD_or, BitVec.getLsbD_setWidth, BitVec.getLsbD_shiftLeft]
  cases lo.getLsbD 0 <;> cases lo.getLsbD (0 + 1) <;> simp

theorem supply_spec (cpu : CPU) (bus : β) (stim : Stimulus) :
    SupplySpec cpu.pc bus (cpu.supply bus stim) := by
  cases stim with
  | inject opcode => exact ⟨rfl, [], .nil bus, by simp [FetchCalls], by simp⟩
  | fetch =>
    unfold CPU.supply CPU.fetch
    dsimp only
    rcases hcall : Bus.fetch16 bus cpu.pc with ⟨_ | parcel0, bus₁⟩
    · have hfirst := Calls.of_call (.fetch16 cpu.pc) rfl hcall
      exact ⟨.inl rfl, _, hfirst, by simp [FetchCalls], by simp [BusOp.addr]⟩
    have hfirst := Calls.of_call (.fetch16 cpu.pc) rfl hcall
    dsimp only
    split
    · rename_i hlow
      rcases hcall' : Bus.fetch16 bus₁ (cpu.pc + 2) with ⟨_ | parcel1, bus₂⟩
      · have hsecond := Calls.of_call (.fetch16 (cpu.pc + 2)) rfl hcall'
        refine ⟨.inr rfl, _, hfirst.append hsecond, by simp [FetchCalls], ?_⟩
        simp [BusOp.addr, Except.isOk, Except.toBool]
      · have hsecond := Calls.of_call (.fetch16 (cpu.pc + 2)) rfl hcall'
        refine ⟨?_, _, hfirst.append hsecond, by simp [FetchCalls], ?_⟩
        · exact (decide_eq_true ((parcels_low parcel0 parcel1).mpr hlow)).symm
        · simp [Except.isOk, Except.toBool]
    · rename_i hlow
      refine ⟨?_, _, hfirst, by simp [FetchCalls], by simp [Except.isOk, Except.toBool]⟩
      -- a word of 16 bits is too short for the two low bits of one of 32
      have hword : (parcel0.setWidth 32 : Word) &&& 0x3 = 0x3 ↔ parcel0 &&& 0x3 = 0x3 := by
        simpa using parcels_low parcel0 0
      exact (decide_eq_false fun h => hlow (hword.mp h)).symm

/-! ## What a step does -/

/-- What every state of a run satisfies, and a step needs to be described. -/
structure CPU.WellFormed (config : CPUConfig) (cpu : CPU) : Prop where
  config_eq : cpu.config = config
  legal : CsrLegal config cpu.csrs
  privilege : cpu.csrs.currentPrivilege ≠ .reserved

/-- A step that delivered interrupt `c`. -/
structure InterruptStep (cpu : CPU) (c : Nat) (out : CPUExecResult × CPU) : Prop where
  pc : out.1.pc = cpu.pc
  interrupt : out.1.interrupt = true
  trap : out.1.trap = false
  trapCause : out.1.trapCause = CPU.interruptCause c
  trapValue : out.1.trapValue = 0
  entered : ∃ csrs, TrapEntered (cpu.interruptTarget c) (CPU.interruptCause c) 0 cpu.pc cpu.csrs
    csrs ∧ out.2.csrs = CPU.bumpCycle csrs
  regs : out.2.regs = cpu.regs
  fregs : out.2.fregs = cpu.fregs
  reservation : out.2.reservation = cpu.reservation.clear
  nextPc : out.1.nextPc = CPU.vectorTarget (cpu.csrs.get (cpu.interruptTarget c).tvec) c
  pcAfter : out.2.pc = out.1.nextPc
  wellFormed : out.2.WellFormed cpu.config

/-- A step that took the exception `cause`. -/
structure ExceptionStep (cpu : CPU) (cause tval : Word) (out : CPUExecResult × CPU) : Prop where
  pc : out.1.pc = cpu.pc
  interrupt : out.1.interrupt = false
  trap : out.1.trap = true
  trapCause : out.1.trapCause = cause
  trapValue : out.1.trapValue = tval
  code : ExceptionCode cause
  entered : ∃ csrs, TrapEntered (cpu.exceptionTarget cause) cause tval cpu.pc cpu.csrs csrs ∧
    out.2.csrs = countStep csrs true
  regs : out.2.regs = cpu.regs
  fregs : out.2.fregs = cpu.fregs
  reservation : out.2.reservation = cpu.reservation.clear
  nextPc : out.1.nextPc = cpu.csrs.get (cpu.exceptionTarget cause).tvec &&& ~~~3
  pcAfter : out.2.pc = out.1.nextPc
  wellFormed : out.2.WellFormed cpu.config

/-- A trap was taken: the CSR file after the step is the one entry left, counted. -/
def TrapTaken (cpu : CPU) (after : CSRFile) : Prop :=
  ∃ target cause tval csrs, cpu.TrapTarget target ∧
    TrapEntered target cause tval cpu.pc cpu.csrs csrs ∧ after = countStep csrs true

/-- Both kinds of trap enter one way. -/
theorem InterruptStep.taken {cpu : CPU} {c : Nat} {out : CPUExecResult × CPU}
    (h : InterruptStep cpu c out) (hselected : cpu.selected = some c) :
    TrapTaken cpu out.2.csrs := by
  obtain ⟨csrs, hentered, hcsrs⟩ := h.entered
  exact ⟨_, _, _, csrs, CPU.trapTarget_selected hselected, hentered, hcsrs⟩

theorem ExceptionStep.taken {cpu : CPU} {cause tval : Word} {out : CPUExecResult × CPU}
    (h : ExceptionStep cpu cause tval out) : TrapTaken cpu out.2.csrs := by
  obtain ⟨csrs, hentered, hcsrs⟩ := h.entered
  exact ⟨_, _, _, csrs, cpu.trapTarget_exception cause, hentered, hcsrs⟩

theorem TrapTaken.ne_user {cpu : CPU} {after : CSRFile} (h : TrapTaken cpu after) :
    after.currentPrivilege ≠ .user := by
  obtain ⟨target, cause, tval, csrs, htarget, hentered, rfl⟩ := h
  rw [countStep_currentPrivilege, hentered.privilege]
  rcases htarget with rfl | ⟨rfl, -⟩ <;> decide

/-- A step that executed an instruction to its end. -/
structure CompletedStep (cpu : CPU) (instr : Word) (out : CPUExecResult × CPU) : Prop where
  pc : out.1.pc = cpu.pc
  instruction : out.1.instruction = instr
  interrupt : out.1.interrupt = false
  trap : out.1.trap = false
  pcAfter : out.2.pc = out.1.nextPc
  config_eq : out.2.config = cpu.config

/-- A call that threw became the exception: an instruction access fault at the
address of the parcel, or the access fault of its kind at its own address. -/
def FaultOf (pc : Word) (amo : Bool) (cause tval : Word) (e : BusEvent) : Prop :=
  tval = e.op.addr ∧
    ((e.op.isFetch = true ∧ (tval = pc ∨ tval = pc + 2) ∧ cause = Exc.instrAccessFault) ∨
      (e.op.isFetch = false ∧ cause = accessFaultCause amo e.op))

/-- Whether the word a step executes is an AMO. -/
def CPU.suppliesAmo (cpu : CPU) : Except Word (Word × Bool) → Bool
  | .ok (instr, is32bit) => amoAccess cpu instr is32bit
  | .error _ => false

/-- The bus calls of a step that took an exception: no write returned, and a call
that threw is the exception. -/
def ExceptionCalls (cpu : CPU) (bus : β) (stim : Stimulus) (cause tval : Word) (bus' : β) : Prop :=
  ∃ es, Calls bus es bus' ∧ ∀ e ∈ es, (e.ok = true → e.op.isWrite = false) ∧
    (e.ok = false → FaultOf cpu.pc (cpu.suppliesAmo (cpu.supply bus stim).1) cause tval e)

/-- The ways a step ends. -/
inductive StepOutcome (cpu : CPU) (bus : β) (stim : Stimulus) (out : CPUExecResult × CPU × β) :
    Prop
  | interrupt {c : Nat} (selected : cpu.selected = some c)
      (step : InterruptStep cpu c (out.1, out.2.1)) (bus_eq : out.2.2 = bus)
  | exception {cause tval : Word} (selected : cpu.selected = none)
      (step : ExceptionStep cpu cause tval (out.1, out.2.1))
      (calls : ExceptionCalls cpu bus stim cause tval out.2.2)
  | retire {instr : Word} {is32bit : Bool} {bus₁ : β} {csrs : CSRFile}
      (selected : cpu.selected = none)
      (supplied : cpu.supply bus stim = (.ok (instr, is32bit), bus₁))
      (step : CompletedStep cpu instr (out.1, out.2.1))
      (effect : CsrEffect cpu.config cpu.csrs csrs) (csrs_eq : out.2.1.csrs = countStep csrs false)
      (reserved : out.2.1.reservation = reservationAfter cpu instr is32bit)
      (aligned : Aligned cpu.config.enableCExtension cpu.pc →
        Aligned cpu.config.enableCExtension out.1.nextPc)
      (clean : Clean bus₁ out.2.2)
  | mret {bus₁ : β} (selected : cpu.selected = none)
      (supplied : cpu.supply bus stim = (.ok (0x30200073, true), bus₁))
      (step : CompletedStep cpu 0x30200073 (out.1, out.2.1))
      (priv : cpu.csrs.currentPrivilege = .machine)
      (csrs_eq : out.2.1.csrs = countStep (CPU.mretCsrs cpu.csrs) false)
      (reserved : out.2.1.reservation = cpu.reservation)
      (nextPc : out.1.nextPc = cpu.csrs.get CsrAddr.mepc) (bus_eq : out.2.2 = bus₁)
  | sret {bus₁ : β} (selected : cpu.selected = none)
      (supplied : cpu.supply bus stim = (.ok (0x10200073, true), bus₁))
      (step : CompletedStep cpu 0x10200073 (out.1, out.2.1))
      (enabled : cpu.config.enableSMode = true)
      (priv : cpu.csrs.currentPrivilege ≠ .user)
      (tsr : ¬(cpu.csrs.currentPrivilege = .supervisor ∧
        cpu.csrs.get CsrAddr.mstatus &&& CSRFile.mstatusTsr ≠ 0))
      (csrs_eq : out.2.1.csrs = countStep (CPU.sretCsrs cpu.csrs) false)
      (reserved : out.2.1.reservation = cpu.reservation)
      (nextPc : out.1.nextPc = cpu.csrs.get CsrAddr.sepc) (bus_eq : out.2.2 = bus₁)

/-! ## Traps -/

theorem CPU.WellFormed.sync {config : CPUConfig} {cpu : CPU} (h : cpu.WellFormed config) :
    cpu.syncExecutorConfig.WellFormed config :=
  ⟨h.config_eq, h.legal, h.privilege⟩

/-- Entering a trap, on a state of a run. -/
theorem CPU.WellFormed.entered {config : CPUConfig} {cpu : CPU} (h : cpu.WellFormed config)
    {target : PrivilegeLevel} (htarget : cpu.TrapTarget target) (cause tval : Word) :
    TrapEntered target cause tval cpu.pc cpu.csrs (cpu.enterTrap target cause tval).csrs := by
  rcases htarget with rfl | ⟨rfl, -, hm⟩
  · exact cpu.enterTrap_machine cause tval
  · apply cpu.enterTrap_supervisor cause tval
    have hres := h.privilege
    cases hp : cpu.csrs.currentPrivilege <;> simp_all

/-- The state a trap leaves is again one of a run, with any later counting. -/
theorem CPU.WellFormed.of_entered {config : CPUConfig} {cpu cpu' : CPU}
    (h : cpu.WellFormed config) {target : PrivilegeLevel} (htarget : cpu.TrapTarget target)
    (cause tval : Word) (trap : Bool) (hconfig : cpu'.config = cpu.config)
    (hcsrs : cpu'.csrs = countStep (cpu.enterTrap target cause tval).csrs trap) :
    cpu'.WellFormed config := by
  have hentered := h.entered htarget cause tval
  have hc := h.config_eq
  subst hc
  refine ⟨hconfig, ?_, ?_⟩ <;> rw [hcsrs]
  · exact countStep_legal (CPU.enterTrap_legal h.legal htarget cause tval) trap
  · rw [countStep_currentPrivilege, hentered.privilege]
    rcases htarget with rfl | ⟨rfl, -⟩ <;> decide

theorem exceptionStep {config : CPUConfig} {cpu : CPU} (h : cpu.WellFormed config)
    {r : CPUExecResult} {cause tval : Word} {info : String} (hcode : ExceptionCode cause)
    (hpc : r.pc = cpu.pc) (hint : r.interrupt = false) :
    ExceptionStep cpu cause tval
      ((cpu.syncExecutorConfig.takeException r cause tval info).1,
        (cpu.syncExecutorConfig.takeException r cause tval info).2.finishStep
          (cpu.syncExecutorConfig.takeException r cause tval info).1) := by
  have hconfig := h.config_eq
  subst hconfig
  have hframe := cpu.syncExecutorConfig.enterTrap_frame (cpu.exceptionTarget cause) cause tval
  have htarget := cpu.syncExecutorConfig.trapTarget_exception cause
  have hentered := h.sync.entered htarget cause tval
  rw [CPU.takeException_eq _ _ _ _ hcode, CPU.finishStep_eq]
  exact {
    pc := hpc
    interrupt := hint
    trap := rfl
    trapCause := rfl
    trapValue := rfl
    code := hcode
    entered := ⟨_, hentered, rfl⟩
    regs := hframe.regs
    fregs := hframe.fregs
    reservation := hframe.reservation
    nextPc := congrArg (· &&& ~~~3) hentered.tvec
    pcAfter := rfl
    wellFormed := h.sync.of_entered htarget cause tval true hframe.config rfl }

theorem interruptStep {config : CPUConfig} {cpu : CPU} (h : cpu.WellFormed config) {c : Nat}
    (hsel : cpu.selected = some c) :
    InterruptStep cpu c
      (let taken := cpu.syncExecutorConfig.deliverInterrupt cpu.initResult c (cpu.interruptTarget c)
      (taken.1, { taken.2 with pc := taken.1.nextPc, csrs := CPU.bumpCycle taken.2.csrs })) := by
  have hconfig := h.config_eq
  subst hconfig
  -- the entry of the trap, on the state after the configuration was synchronized
  have hframe := cpu.syncExecutorConfig.enterTrap_frame (cpu.interruptTarget c)
    (CPU.interruptCause c) 0
  have htarget : cpu.syncExecutorConfig.TrapTarget (cpu.interruptTarget c) :=
    CPU.trapTarget_selected hsel
  have hentered := h.sync.entered htarget (CPU.interruptCause c) 0
  have heq := cpu.syncExecutorConfig.deliverInterrupt_eq cpu.initResult c
  have hsync : cpu.syncExecutorConfig.interruptTarget c = cpu.interruptTarget c := rfl
  rw [hsync] at heq
  rw [heq]
  exact {
    pc := rfl
    interrupt := rfl
    trap := rfl
    trapCause := rfl
    trapValue := rfl
    entered := ⟨_, hentered, rfl⟩
    regs := hframe.regs
    fregs := hframe.fregs
    reservation := hframe.reservation
    nextPc := congrArg (CPU.vectorTarget · c) hentered.tvec
    pcAfter := rfl
    wellFormed := h.sync.of_entered htarget (CPU.interruptCause c) 0 true hframe.config rfl }

/-! ## Bus calls of an exception -/

theorem exceptionCalls_fetch {cpu : CPU} {bus bus' : β} {stim : Stimulus} {addr : Word}
    (hsup : cpu.supply bus stim = (.error addr, bus')) :
    ExceptionCalls cpu bus stim Exc.instrAccessFault addr bus' := by
  have hspec := supply_spec cpu bus stim
  rw [hsup] at hspec
  obtain ⟨haddr, es, hes, hfetch, hfail⟩ := hspec
  refine ⟨es, hes, fun e he => ⟨fun _ => ?_, fun hok => ?_⟩⟩
  · rcases hfetch e he with hop | hop <;> rw [hop] <;> rfl
  · refine ⟨(hfail e he hok).symm, .inl ⟨?_, haddr, rfl⟩⟩
    rcases hfetch e he with hop | hop <;> rw [hop] <;> rfl

/-- The calls of an instruction that raised an exception, after those of its
fetch. -/
theorem exceptionCalls_execute {cpu : CPU} {bus bus₁ bus' : β} {stim : Stimulus} {instr : Word}
    {is32bit : Bool} {cause tval : Word}
    (hsup : cpu.supply bus stim = (.ok (instr, is32bit), bus₁))
    (hfault : Faulted (amoAccess cpu instr is32bit) cause tval bus₁ bus') :
    ExceptionCalls cpu bus stim cause tval bus' := by
  have hspec := supply_spec cpu bus stim
  rw [hsup] at hspec
  obtain ⟨-, es, hes, hfetch, hok⟩ := hspec
  obtain ⟨fs, hfs, hfs'⟩ := hfault.calls
  refine ⟨es ++ fs, hes.append hfs, fun e he => ?_⟩
  rw [hsup]
  rcases List.mem_append.mp he with he | he
  · refine ⟨fun _ => ?_, fun hfail => ?_⟩
    · rcases hfetch e he with hop | hop <;> rw [hop] <;> rfl
    · rw [hok e he] at hfail
      cases hfail
  · obtain ⟨hdata, hwrite, hcause⟩ := hfs' e he
    refine ⟨hwrite, fun hfail => ?_⟩
    obtain ⟨hc, ht⟩ := hcause hfail
    exact ⟨ht, .inr ⟨hdata, hc⟩⟩

/-! ## The step by its three ways -/

/-- The prologue of a step delivers the selected interrupt. -/
theorem CPU.beginStep_eq (cpu : CPU) :
    cpu.beginStep = cpu.selected.map fun c =>
      let taken := cpu.syncExecutorConfig.deliverInterrupt cpu.initResult c (cpu.interruptTarget c)
      (taken.1, { taken.2 with pc := taken.1.nextPc, csrs := CPU.bumpCycle taken.2.csrs }) := by
  have hsync : cpu.syncExecutorConfig.selected = cpu.selected := rfl
  unfold CPU.beginStep
  dsimp only
  rw [CPU.takePendingInterrupt_eq, hsync]
  cases cpu.selected <;> rfl

theorem CPU.beginStep_eq_none {cpu : CPU} : cpu.beginStep = none ↔ cpu.selected = none := by
  rw [cpu.beginStep_eq]
  exact Option.map_eq_none_iff

variable [Rv32f.HostFloat]

/-- One step, fetched or injected. -/
def CPU.stepOn (cpu : CPU) (bus : β) : Stimulus → CPUExecResult × CPU × β
  | .fetch => cpu.step bus
  | .inject opcode => cpu.stepOpcode bus opcode

namespace CPU

variable {cpu : CPU} {bus : β} {stim : Stimulus}

theorem stepOn_interrupt {c : Nat} (h : cpu.selected = some c) (bus : β) (stim : Stimulus) :
    cpu.stepOn bus stim =
      let taken := cpu.syncExecutorConfig.deliverInterrupt cpu.initResult c (cpu.interruptTarget c)
      (taken.1, { taken.2 with pc := taken.1.nextPc, csrs := bumpCycle taken.2.csrs }, bus) := by
  have hbegin := cpu.beginStep_eq
  rw [h] at hbegin
  cases stim <;> simp only [stepOn, step, stepOpcode, hbegin, Option.map_some]

theorem stepOn_execute (h : cpu.selected = none) {instr : Word} {is32bit : Bool} {bus' : β}
    (hs : cpu.supply bus stim = (.ok (instr, is32bit), bus')) :
    cpu.stepOn bus stim = cpu.syncExecutorConfig.executeFetched instr is32bit bus'
      { cpu.initResult with instruction := instr } := by
  have hbegin := cpu.beginStep_eq
  rw [h] at hbegin
  cases stim with
  | inject opcode =>
    cases hs
    simp only [stepOn, stepOpcode, hbegin, Option.map_none]
    rfl
  | fetch =>
    have hfetch : fetch bus cpu.syncExecutorConfig.pc = (.ok (instr, is32bit), bus') := hs
    simp only [stepOn, step, hbegin, Option.map_none, hfetch]
    rfl

theorem stepOn_fault (h : cpu.selected = none) {addr : Word} {bus' : β}
    (hs : cpu.supply bus stim = (.error addr, bus')) :
    cpu.stepOn bus stim =
      ((cpu.syncExecutorConfig.fetchFault cpu.initResult addr).1,
        (cpu.syncExecutorConfig.fetchFault cpu.initResult addr).2, bus') := by
  have hbegin := cpu.beginStep_eq
  rw [h] at hbegin
  cases stim with
  | inject opcode => cases hs
  | fetch =>
    have hfetch : fetch bus cpu.syncExecutorConfig.pc = (.error addr, bus') := hs
    simp only [stepOn, step, hbegin, Option.map_none, hfetch]
    rfl

end CPU

/-! ## Every step ends in one of the ways -/

/-- **One step.** -/
theorem step_outcome {config : CPUConfig} {cpu : CPU} (h : cpu.WellFormed config) (bus : β)
    (stim : Stimulus) : StepOutcome cpu bus stim (cpu.stepOn bus stim) := by
  have hconfig := h.config_eq
  subst hconfig
  cases hsel : cpu.selected with
  | some c =>
    rw [CPU.stepOn_interrupt hsel]
    exact .interrupt hsel (interruptStep h hsel) rfl
  | none =>
    rcases hsup : cpu.supply bus stim with ⟨addr | ⟨instr, is32bit⟩, bus₁⟩
    · rw [CPU.stepOn_fault hsel hsup]
      exact .exception hsel (exceptionStep h (by decide) rfl rfl) (exceptionCalls_fetch hsup)
    rw [CPU.stepOn_execute hsel hsup]
    -- what an executor can do, as the CPU sees it after the dispatch
    have hout : Outcome cpu.syncExecutorConfig instr is32bit
        { cpu.initResult with instruction := instr } bus₁
        (cpu.syncExecutorConfig.executeParcels instr is32bit bus₁
          { cpu.initResult with instruction := instr }) :=
      executeParcels_outcome h.sync.legal rfl
    unfold CPU.executeFetched
    generalize cpu.syncExecutorConfig.executeParcels instr is32bit bus₁
      { cpu.initResult with instruction := instr } = out at hout
    cases hout with
    | trap same faulted =>
      exact .exception hsel (exceptionStep h faulted.code same.pc same.interrupt)
        (exceptionCalls_execute hsup faulted)
    | retire same effect reserved aligned clean =>
      refine .retire hsel hsup ⟨same.pc, same.instruction, same.interrupt, same.trap, rfl, rfl⟩
        effect ?_ reserved aligned clean
      exact congrArg (countStep _) same.trap
    | mret same is32 isMret priv =>
      subst is32 isMret
      refine .mret hsel hsup ⟨same.pc, same.instruction, same.interrupt, same.trap, rfl, rfl⟩
        priv ?_ rfl rfl rfl
      exact congrArg (countStep _) same.trap
    | sret same is32 isSret enabled priv tsr =>
      subst is32 isSret
      refine .sret hsel hsup ⟨same.pc, same.instruction, same.interrupt, same.trap, rfl, rfl⟩
        enabled priv tsr ?_ rfl rfl rfl
      exact congrArg (countStep _) same.trap

section
omit [Rv32f.HostFloat]
variable {cpu : CPU} {bus : β} {stim : Stimulus} {out : CPUExecResult × CPU × β}

/-- A step that trapped took an exception, -/
theorem StepOutcome.exceptional (h : StepOutcome cpu bus stim out) (htrap : out.1.trap = true) :
    ∃ cause tval, cpu.selected = none ∧ ExceptionStep cpu cause tval (out.1, out.2.1) ∧
      ExceptionCalls cpu bus stim cause tval out.2.2 := by
  have hcompleted : ¬out.1.trap = false := by
    rw [htrap]
    decide
  cases h with
  | interrupt _ step _ => exact absurd step.trap hcompleted
  | exception selected step calls => exact ⟨_, _, selected, step, calls⟩
  | retire _ _ step _ _ _ _ _ => exact absurd step.trap hcompleted
  | mret _ _ step _ _ _ _ _ => exact absurd step.trap hcompleted
  | sret _ _ step _ _ _ _ _ _ _ => exact absurd step.trap hcompleted

/-- and one that reports an interrupt took it. -/
theorem StepOutcome.interrupted (h : StepOutcome cpu bus stim out)
    (hinterrupt : out.1.interrupt = true) :
    ∃ c, cpu.selected = some c ∧ InterruptStep cpu c (out.1, out.2.1) ∧ out.2.2 = bus := by
  have hquiet : ¬out.1.interrupt = false := by
    rw [hinterrupt]
    decide
  cases h with
  | interrupt selected step bus_eq => exact ⟨_, selected, step, bus_eq⟩
  | exception _ step _ => exact absurd step.interrupt hquiet
  | retire _ _ step _ _ _ _ _ => exact absurd step.interrupt hquiet
  | mret _ _ step _ _ _ _ _ => exact absurd step.interrupt hquiet
  | sret _ _ step _ _ _ _ _ _ _ => exact absurd step.interrupt hquiet

end

end

end Riscv

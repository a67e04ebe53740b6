import Mathlib.Logic.Function.Iterate
import Riscv.InterruptLines

/- Reset and construction.

   A reset clears the CSR file and fills it again from the configuration, whatever the
   file held and whatever its flags were, and rewrites every other field of the CPU but
   one: the address of the reservation it cancels. Two CPUs that differ in the address
   of an absent reservation only are told apart by no step, line or CSR read, and a
   system whose memory is cleared too runs as a new one. -/
namespace Riscv

open Zicsr Run

/-! ## Reservations -/

/-- Two reservations that are both absent, or the same. -/
structure Rv32a.ReservationSet.Alike (r r' : Rv32a.ReservationSet) : Prop where
  valid : r'.valid = r.valid
  address : r.valid = true → r'.reservedAddr = r.reservedAddr

namespace Rv32a

variable {r r' : ReservationSet}

theorem ReservationSet.Alike.refl (r : ReservationSet) : r.Alike r := ⟨rfl, fun _ => rfl⟩

theorem ReservationSet.Alike.clear (r r' : ReservationSet) : r.clear.Alike r'.clear :=
  ⟨rfl, fun h => absurd h Bool.false_ne_true⟩

theorem ReservationSet.Alike.check (h : r.Alike r') (addr : Word) :
    r'.check addr = r.check addr := by
  unfold ReservationSet.check
  rw [h.valid]
  cases hvalid : r.valid with
  | false => rfl
  | true => rw [h.address hvalid]

variable {β : Type} [Bus β]

/-- The same results of an atomic instruction, with reservations alike. -/
def SameResult (out out' : ExecResult × RegFile × β × ReservationSet) : Prop :=
  out'.1 = out.1 ∧ out'.2.1 = out.2.1 ∧ out'.2.2.1 = out.2.2.1 ∧ out.2.2.2.Alike out'.2.2.2

theorem executeLr_alike (h : r.Alike r') (d : DecodedInstr) (regs : RegFile) (bus : β)
    (addr : Word) :
    SameResult (executeLr d regs bus r addr) (executeLr d regs bus r' addr) := by
  unfold executeLr
  split
  · exact ⟨rfl, rfl, rfl, .refl _⟩
  · exact ⟨rfl, rfl, rfl, h⟩

theorem executeSc_alike (h : r.Alike r') (d : DecodedInstr) (regs : RegFile) (bus : β)
    (addr rs2Val : Word) :
    SameResult (executeSc d regs bus r addr rs2Val) (executeSc d regs bus r' addr rs2Val) := by
  unfold executeSc
  rw [h.check]
  split
  · split
    · exact ⟨rfl, rfl, rfl, .clear r r'⟩
    · exact ⟨rfl, rfl, rfl, h⟩
  · exact ⟨rfl, rfl, rfl, .clear r r'⟩

theorem executeAmo_alike (h : r.Alike r') (op : Word → Word → Word) (d : DecodedInstr)
    (regs : RegFile) (bus : β) (addr rs2Val : Word) :
    SameResult (executeAmo op d regs bus r addr rs2Val)
      (executeAmo op d regs bus r' addr rs2Val) := by
  unfold executeAmo
  split
  · exact ⟨rfl, rfl, rfl, h⟩
  · split <;> exact ⟨rfl, rfl, rfl, h⟩

theorem execute_alike (h : r.Alike r') (d : DecodedInstr) (regs : RegFile) (bus : β) :
    SameResult (execute d regs bus r) (execute d regs bus r') := by
  unfold execute
  split
  · exact ⟨rfl, rfl, rfl, h⟩
  dsimp only
  split
  · exact ⟨rfl, rfl, rfl, h⟩
  split
  · exact executeLr_alike h d regs bus _
  split
  · exact executeSc_alike h d regs bus _ _
  split
  · exact executeAmo_alike h _ d regs bus _ _
  · exact ⟨rfl, rfl, rfl, h⟩

end Rv32a

/-! ## States -/

/-- The state with another reservation. -/
def CPU.withReservation (cpu : CPU) (r : Rv32a.ReservationSet) : CPU :=
  { cpu with reservation := r }

/-- Two states that differ at most in the address of an absent reservation. -/
def CPU.Alike (cpu cpu' : CPU) : Prop :=
  ∃ r, cpu.reservation.Alike r ∧ cpu' = cpu.withReservation r

/-- The same results, with states alike. -/
def SameStepOn {β : Type} (out out' : CPUExecResult × CPU × β) : Prop :=
  out'.1 = out.1 ∧ out.2.1.Alike out'.2.1 ∧ out'.2.2 = out.2.2

/-- The same results without a bus. -/
def SameOut (out out' : CPUExecResult × CPU) : Prop := out'.1 = out.1 ∧ out.2.Alike out'.2

theorem SameOut.after {out out' : CPUExecResult × CPU} (h : SameOut out out')
    (csrs : CSRFile → CPUExecResult → CSRFile) :
    SameOut (out.1, { out.2 with pc := out.1.nextPc, csrs := csrs out.2.csrs out.1 })
      (out'.1, { out'.2 with pc := out'.1.nextPc, csrs := csrs out'.2.csrs out'.1 }) := by
  obtain ⟨result, cpu⟩ := out
  obtain ⟨result', cpu'⟩ := out'
  obtain ⟨hresult, r, halike, hcpu⟩ := h
  dsimp only at hresult halike hcpu
  subst hresult hcpu
  exact ⟨rfl, r, halike, rfl⟩

section
variable {cpu : CPU} {r : Rv32a.ReservationSet}

theorem takeException_alike (result : CPUExecResult) (cause tval : Word) (info : String) :
    SameOut (cpu.takeException result cause tval info)
      ((cpu.withReservation r).takeException result cause tval info) := by
  have htarget : (cpu.withReservation r).delegateTarget cause false =
      cpu.delegateTarget cause false := rfl
  unfold CPU.takeException
  rw [htarget]
  dsimp only
  split
  · exact ⟨rfl, r.clear, .clear _ _, rfl⟩
  · exact ⟨rfl, r.clear, .clear _ _, rfl⟩

theorem deliverInterrupt_alike (result : CPUExecResult) (code : Nat) (target : PrivilegeLevel) :
    SameOut (cpu.deliverInterrupt result code target)
      ((cpu.withReservation r).deliverInterrupt result code target) := by
  unfold CPU.deliverInterrupt
  dsimp only
  split
  · exact ⟨rfl, r.clear, .clear _ _, rfl⟩
  · exact ⟨rfl, r.clear, .clear _ _, rfl⟩

variable (h : cpu.reservation.Alike r)
include h

theorem trapUnless_alike (valid : Bool) (result : CPUExecResult) (cause tval : Word)
    (error : String) : SameOut (cpu.trapUnless valid result cause tval error)
      ((cpu.withReservation r).trapUnless valid result cause tval error) := by
  unfold CPU.trapUnless
  split
  · exact ⟨rfl, r, h, rfl⟩
  · exact takeException_alike result cause tval error

theorem finishBase_alike (instr : Word) (exec : Rv32i.ExecResult) (result : CPUExecResult) :
    SameOut (cpu.finishBase instr exec result)
      ((cpu.withReservation r).finishBase instr exec result) := by
  have hcsrs : (cpu.withReservation r).csrs = cpu.csrs := rfl
  have hconfig : (cpu.withReservation r).config = cpu.config := rfl
  have hkept : ∀ (result : CPUExecResult) (csrs : CSRFile),
      SameOut (result, { cpu with csrs := csrs })
        (result, { cpu.withReservation r with csrs := csrs }) :=
    fun _ _ => ⟨rfl, r, h, rfl⟩
  unfold CPU.finishBase
  rw [hcsrs, hconfig]
  dsimp only
  split
  · split
    · exact takeException_alike _ _ _ _
    · exact hkept _ _
  split
  · split
    · exact takeException_alike _ _ _ _
    · exact hkept _ _
  split
  · split
    · exact takeException_alike _ _ _ _
    · exact hkept result cpu.csrs
  split
  · split
    · exact takeException_alike _ _ _ _
    · exact hkept result cpu.csrs
  · exact trapUnless_alike h _ _ _ _ _

end

/-! ## The dispatch -/

section
variable {β : Type} [Bus β] [Rv32f.HostFloat] {cpu : CPU} {r : Rv32a.ReservationSet}

/-- Every extension. -/
theorem executeAs_alike (h : cpu.reservation.Alike r) (e : Extension) (instr : Word) (bus : β)
    (result : CPUExecResult) : SameStepOn (cpu.executeAs e instr bus result)
      ((cpu.withReservation r).executeAs e instr bus result) := by
  -- every executor but that of A ignores the reservation
  have hbus : ∀ {out out' : CPUExecResult × CPU} (bus' : β), SameOut out out' →
      SameStepOn (out.1, out.2, bus') (out'.1, out'.2, bus') :=
    fun _ hout => ⟨hout.1, hout.2, rfl⟩
  have hkept : ∀ {c : CPU} {valid : Bool} {res : CPUExecResult} {cause tval : Word}
      {error : String} {bus' : β}, c.reservation = cpu.reservation → SameStepOn
        ((c.trapUnless valid res cause tval error).1, (c.trapUnless valid res cause tval error).2,
          bus')
        (((c.withReservation r).trapUnless valid res cause tval error).1,
          ((c.withReservation r).trapUnless valid res cause tval error).2, bus') := by
    intro c valid res cause tval error bus' hc
    exact hbus bus' (trapUnless_alike (hc ▸ h) _ _ _ _ _)
  cases e
  case rv32i =>
    exact hbus _ (@finishBase_alike { cpu with
      regs := (cpu.iExecutor.execute (cpu.iDecoder.decode instr) cpu.regs bus cpu.pc).2.1 } r h
      instr _ _)
  case zicsr =>
    refine hbus bus ?_
    unfold CPU.executeZicsr
    dsimp only
    have hblocked : (cpu.withReservation r).satpBlocked (Zicsr.decode instr) =
        cpu.satpBlocked (Zicsr.decode instr) := rfl
    rw [hblocked]
    split
    · exact takeException_alike _ _ _ _
    · exact @trapUnless_alike { cpu with
        regs := (Zicsr.execute (Zicsr.decode instr) cpu.regs cpu.csrs).2.1
        csrs := (Zicsr.execute (Zicsr.decode instr) cpu.regs cpu.csrs).2.2 } r h _ _ _ _ _
  case rv32a =>
    -- A reads the reservation, but not the address of an absent one
    obtain ⟨hexec, hregs, hbus', hreservation⟩ :=
      Rv32a.execute_alike h (Rv32a.decode instr) cpu.regs bus
    have hregs₀ : (cpu.withReservation r).regs = cpu.regs := rfl
    have hreservation₀ : (cpu.withReservation r).reservation = r := rfl
    show SameStepOn (cpu.executeA instr bus _) ((cpu.withReservation r).executeA instr bus _)
    unfold CPU.executeA
    dsimp only
    rw [hregs₀, hreservation₀, hexec, hregs, hbus']
    exact hbus _ (@trapUnless_alike { cpu with
      regs := (Rv32a.execute (Rv32a.decode instr) cpu.regs bus cpu.reservation).2.1
      reservation := (Rv32a.execute (Rv32a.decode instr) cpu.regs bus cpu.reservation).2.2.2 }
      _ hreservation _ _ _ _ _)
  all_goals exact hkept rfl

theorem executeParcels_alike (h : cpu.reservation.Alike r) (instr : Word) (is32bit : Bool)
    (bus : β) (result : CPUExecResult) : SameStepOn (cpu.executeParcels instr is32bit bus result)
      ((cpu.withReservation r).executeParcels instr is32bit bus result) := by
  have hconfig : (cpu.withReservation r).config = cpu.config := rfl
  cases is32bit with
  | true =>
    show SameStepOn (cpu.execute32bit instr bus result)
      ((cpu.withReservation r).execute32bit instr bus result)
    rw [execute32bit_eq, execute32bit_eq, hconfig]
    exact executeAs_alike h _ instr bus result
  | false =>
    unfold CPU.executeParcels CPU.executeCompressed
    simp only [hconfig, Bool.not_false, if_true]
    split
    · obtain ⟨hresult, hcpu⟩ := @takeException_alike cpu r
        { result with instrSize := 2, mnemonic := "ILLEGAL" } Exc.illegalInstruction
        (instr &&& 0xFFFF) "Illegal instruction (C disabled)"
      exact ⟨hresult, hcpu, rfl⟩
    split
    · exact executeAs_alike h .rv32fc instr bus result
    · exact executeAs_alike h .rv32c instr bus result

/-- **One step** of two states alike: the same report, the same bus, states alike. -/
theorem step_alike {cpu' : CPU} (halike : cpu.Alike cpu') (bus : β) (stim : Stimulus) :
    SameStepOn (cpu.stepOn bus stim) (cpu'.stepOn bus stim) := by
  obtain ⟨r, h, rfl⟩ := halike
  have hsync : (cpu.withReservation r).syncExecutorConfig =
      cpu.syncExecutorConfig.withReservation r := rfl
  have hselected : (cpu.withReservation r).selected = cpu.selected := rfl
  have hsupply : (cpu.withReservation r).supply bus stim = cpu.supply bus stim := by
    cases stim <;> rfl
  -- the prologue and the fetch do not look at the reservation
  cases hsel : cpu.selected with
  | some c =>
    have htarget : (cpu.withReservation r).interruptTarget c = cpu.interruptTarget c := rfl
    rw [CPU.stepOn_interrupt hsel, CPU.stepOn_interrupt (hselected.trans hsel), hsync, htarget]
    have hsame := (@deliverInterrupt_alike cpu.syncExecutorConfig r cpu.initResult c
      (cpu.interruptTarget c)).after fun f _ => CPU.bumpCycle f
    exact ⟨hsame.1, hsame.2, rfl⟩
  | none =>
    rcases hsup : cpu.supply bus stim with ⟨addr | ⟨instr, is32bit⟩, bus'⟩
    · rw [CPU.stepOn_fault hsel hsup, CPU.stepOn_fault (hselected.trans hsel)
        (hsupply.trans hsup), hsync]
      have hsame := (@takeException_alike cpu.syncExecutorConfig r cpu.initResult
        Exc.instrAccessFault addr "Instruction access fault").after
          fun f result => countStep f result.trap
      exact ⟨hsame.1, hsame.2, rfl⟩
    · rw [CPU.stepOn_execute hsel hsup, CPU.stepOn_execute (hselected.trans hsel)
        (hsupply.trans hsup), hsync]
      obtain ⟨hresult, hcpu, hbus⟩ := @executeParcels_alike _ _ _ cpu.syncExecutorConfig r h
        instr is32bit bus' { cpu.initResult with instruction := instr }
      have hsame := (show SameOut (_, _) (_, _) from ⟨hresult, hcpu⟩).after
        fun f result => countStep f result.trap
      exact ⟨hsame.1, hsame.2, hbus⟩

end

/-! ## Reset -/

/-- The CSR file after a reset does not depend on the one before. -/
theorem resetCsrs_fresh (f g : CSRFile) (config : CPUConfig) :
    CPU.resetCsrs f config = CPU.resetCsrs g config := by
  unfold CPU.resetCsrs
  cases hs : config.enableSMode <;> cases hu : config.enableUMode <;> rfl

/-- A reset leaves the state of a new CPU, but for the address of the reservation it
cancelled. -/
theorem reset_alike (cpu : CPU) : (CPU.new cpu.config).Alike cpu.reset := by
  refine ⟨cpu.reservation.clear, .clear _ _, ?_⟩
  unfold CPU.new CPU.reset CPU.withReservation
  rw [resetCsrs_fresh cpu.csrs ({ config := cpu.config } : CPU).csrs]
  rfl

/-! ## Observation -/

/-- What a caller may do with a CPU to tell it from another: step it on some bus, fetched
or injected, drive a line, read a CSR, and also change the configuration or reset. -/
inductive Probe (β : Type) where
  | step (bus : β) (stim : Stimulus)
  | line (line : InterruptLine) (level : Bool)
  | readCsr (addr : BitVec 16)
  | configure (config : CPUConfig)
  | reset

/-- What it is told: the result of a step and the bus after it; whether a CSR exists, and
its value. -/
inductive Answer (β : Type) where
  | stepped (result : CPUExecResult) (bus : β)
  | csr (present : Bool) (value : Word)
  | done

section
variable [Rv32f.HostFloat]

section
variable {β : Type} [Bus β]

/-- The state a probe leaves. -/
def CPU.probe (cpu : CPU) : Probe β → CPU
  | .step bus stim => (cpu.stepOn bus stim).2.1
  | .line line level => cpu.setLine line level
  | .readCsr _ => cpu
  | .configure config => { cpu with config := config }
  | .reset => cpu.reset

/-- What a probe is told. -/
def CPU.answer (cpu : CPU) : Probe β → Answer β
  | .step bus stim =>
    let out := cpu.stepOn bus stim
    .stepped out.1 out.2.2
  | .readCsr addr => .csr (cpu.csrs.exists' addr) (cpu.csrs.read addr)
  | .line _ _ | .configure _ | .reset => .done

/-- The CPU under observation. -/
def probed (β : Type) [Bus β] (cpu : CPU) : Machine CPU (Probe β) where
  init := cpu
  next := CPU.probe

/-- States alike answer every probe alike, and stay alike. -/
theorem probe_alike {cpu cpu' : CPU} (h : cpu.Alike cpu') (p : Probe β) :
    cpu.answer p = cpu'.answer p ∧ (cpu.probe p).Alike (cpu'.probe p) := by
  cases p with
  | step bus stim =>
    obtain ⟨hresult, hcpu, hbus⟩ := step_alike h bus stim
    refine ⟨?_, hcpu⟩
    unfold CPU.answer
    dsimp only
    rw [hresult, hbus]
  | line line level =>
    obtain ⟨r, hr, rfl⟩ := h
    refine ⟨rfl, r, ?_, ?_⟩ <;> cases line <;> first | exact hr | rfl
  | readCsr addr =>
    obtain ⟨r, hr, rfl⟩ := h
    exact ⟨rfl, r, hr, rfl⟩
  | configure config =>
    obtain ⟨r, hr, rfl⟩ := h
    exact ⟨rfl, r, hr, rfl⟩
  | reset =>
    obtain ⟨r, hr, rfl⟩ := h
    exact ⟨rfl, r.clear, .clear _ _, rfl⟩

end

/-- **Reset is a fresh start.** In whatever state a CPU is, reached in whatever way, its
configuration changed or not, a reset leaves the CSR file of a new CPU of its present
configuration, no reservation and no pending interrupt, and no sequence of probes tells
the two CPUs apart. -/
theorem reset_fresh (cpu : CPU) :
    let fresh := CPU.new cpu.config
    cpu.reset.csrs = fresh.csrs ∧ cpu.reset.reservation.hasReservation = false ∧
      (∀ line, cpu.reset.pending line = false) ∧
      ∀ {β : Type} [Bus β] (probes : List (Probe β)),
        (probed β cpu.reset).answers CPU.answer cpu.reset probes =
            (probed β fresh).answers CPU.answer fresh probes ∧
          ((probed β fresh).run fresh probes).Alike ((probed β cpu.reset).run cpu.reset probes) := by
  intro fresh
  refine ⟨resetCsrs_fresh _ _ _, rfl, reset_pending cpu, fun {β} _ probes => ?_⟩
  have hall : (probed β fresh).Along (fun _ _ => True) fresh probes :=
    Machine.along_iff.mpr fun _ _ _ _ => trivial
  obtain ⟨hanswers, hend⟩ := Machine.lockstep (N := probed β cpu.reset) CPU.answer CPU.answer
    (R := CPU.Alike) (fun _ _ p halike _ => probe_alike halike p) (reset_alike cpu) hall
  exact ⟨hanswers.symm, hend⟩

end

/-! ## The system -/

/-- Cleared memory is new memory at the same address. -/
theorem SimpleMemory.clear_eq {m : SimpleMemory} (h : m.mem.isSome = true) :
    m.clear = .new m.size m.baseAddr := by
  obtain ⟨buffer, hbuffer⟩ := Option.isSome_iff_exists.mp h
  unfold SimpleMemory.clear SimpleMemory.new SimpleMemory.size
  rw [hbuffer]
  rfl

section
variable [Rv32f.HostFloat]

/-- A `run` of two states alike: the same count, states alike, the same bus. -/
theorem run_alike {cpu cpu' : CPU} (halike : cpu.Alike cpu') {β : Type} [Bus β] (bus : β)
    (limit : Nat) (stopOnTrap : Bool) :
    let out := cpu.run bus limit stopOnTrap
    let out' := cpu'.run bus limit stopOnTrap
    out'.1 = out.1 ∧ out.2.1.Alike out'.2.1 ∧ out'.2.2 = out.2.2 := by
  induction limit generalizing cpu cpu' bus with
  | zero => exact ⟨rfl, halike, rfl⟩
  | succ n ih =>
    obtain ⟨hreport, hnext, hbus⟩ := step_alike halike bus .fetch
    rw [CPU.run_succ, CPU.run_succ]
    dsimp only
    rw [hreport, hbus]
    split
    · exact ⟨rfl, hnext, hbus⟩
    · obtain ⟨hcount, hend, hendBus⟩ := ih hnext (cpu.stepOn bus .fetch).2.2
      exact ⟨congrArg (· + 1) hcount, hend, hendBus⟩

namespace System

/-- Without stopping, `run` is that many times `step`. -/
theorem run_iterate (s : System) (limit : Nat) :
    (s.run limit).2 = (fun s : System => s.step.2)^[limit] s := by
  induction limit generalizing s with
  | zero => rfl
  | succ n ih => exact ih s.step.2

/-- **A reset system runs as a new one** of its configuration and memory size, as long as
its memory was not moved away and starts at address zero. -/
theorem reset_run (s : System) (hmem : s.memory.mem.isSome = true) (hbase : s.memory.baseAddr = 0)
    (limit : Nat) (stopOnTrap : Bool) :
    let out := s.reset.run limit stopOnTrap
    let fresh := (System.new s.memory.size s.cpu.config).run limit stopOnTrap
    out.1 = fresh.1 ∧ fresh.2.cpu.Alike out.2.cpu ∧ out.2.memory = fresh.2.memory := by
  have hclear : s.memory.clear = SimpleMemory.new s.memory.size := by
    rw [SimpleMemory.clear_eq hmem, hbase]
  show let out := s.cpu.reset.run s.memory.clear limit stopOnTrap
    let fresh := (CPU.new s.cpu.config).run (SimpleMemory.new s.memory.size) limit stopOnTrap
    out.1 = fresh.1 ∧ fresh.2.1.Alike out.2.1 ∧ out.2.2 = fresh.2.2
  rw [hclear]
  exact run_alike (reset_alike s.cpu) _ limit stopOnTrap

end System

end

end Riscv

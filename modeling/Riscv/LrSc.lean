import Riscv.Dispatch
import Riscv.Memory
import Riscv.Runs

/- LR.W and SC.W over whole runs.

   The reservation is a latch: a completed LR.W loads it, an SC.W of any kind, a
   trap and a reset clear it, and nothing else touches it. The latch rule of
   `Lib.Run` turns this into a statement about the history, and an SC.W that
   completes tests exactly that latch. -/
namespace Riscv

open Zicsr Run

section
variable {β : Type} [Bus β]

/-- The A instruction a step executes, as decoded; of type `illegal` if the word is
no A instruction. -/
def CPU.atomic (cpu : CPU) (bus : β) (stim : Stimulus) : Option Rv32a.DecodedInstr :=
  if cpu.selected = none ∧ cpu.config.enableAExtension then
    match (cpu.supply bus stim).1 with
    | .ok (instr, true) => some (Rv32a.decode instr)
    | _ => none
  else none

/-- The address in rs1 of the instruction. -/
def CPU.atomicAddr (cpu : CPU) (d : Rv32a.DecodedInstr) : Word := cpu.regs.read d.rs1

theorem atomic_eq_some {cpu : CPU} {bus : β} {stim : Stimulus} {d : Rv32a.DecodedInstr}
    (h : cpu.atomic bus stim = some d) :
    cpu.selected = none ∧ cpu.config.enableAExtension = true ∧
      ∃ instr bus₁, cpu.supply bus stim = (.ok (instr, true), bus₁) ∧ Rv32a.decode instr = d := by
  unfold CPU.atomic at h
  split at h
  · rename_i hcond
    rcases hsup : cpu.supply bus stim with ⟨_ | ⟨instr, _ | _⟩, bus₁⟩ <;> rw [hsup] at h
    · cases h
    · cases h
    · cases h
      exact ⟨hcond.1, hcond.2, instr, bus₁, rfl, rfl⟩
  · cases h

variable [Rv32f.HostFloat]

theorem stepOn_atomic {cpu : CPU} {bus : β} {stim : Stimulus} {d : Rv32a.DecodedInstr}
    (h : cpu.atomic bus stim = some d) (hlegal : d.type ≠ .illegal) :
    ∃ result : CPUExecResult, result.trap = false ∧ cpu.stepOn bus stim =
        let exec := Rv32a.execute d cpu.regs (cpu.supply bus stim).2 cpu.reservation
        let done := CPU.trapUnless
          { cpu.syncExecutorConfig with regs := exec.2.1, reservation := exec.2.2.2 }
          exec.1.valid result exec.1.trapCause exec.1.trapValue exec.1.error
        (done.1, done.2.finishStep done.1, exec.2.2.1) := by
  obtain ⟨hselected, henabled, instr, bus₁, hsup, rfl⟩ := atomic_eq_some h
  have hspec := supply_spec cpu bus stim
  rw [hsup] at hspec
  have hsize : OpcodeClassifier.isCompressed instr = false := by
    simpa [OpcodeClassifier.isCompressed] using hspec.1.symm
  have haccepts : cpu.config.classifier.accepts .rv32a instr = true :=
    OpcodeClassifier.accepts_iff.mpr ⟨hsize, hlegal⟩
  have henables : cpu.config.enables .rv32a = true := henabled
  refine ⟨{ cpu.initResult with
    instruction := instr
    nextPc := cpu.pc + 4
    mnemonic := (Rv32a.decode instr).mnemonic }, rfl, ?_⟩
  rw [stepOn_executeAs hselected hsup henables haccepts, hsup]
  rfl

/-- An A instruction that completed: the executor's result is the step's. -/
theorem atomic_completed {cpu : CPU} {bus : β} {stim : Stimulus} {d : Rv32a.DecodedInstr}
    (h : cpu.atomic bus stim = some d) (hlegal : d.type ≠ .illegal)
    (htrap : (cpu.stepOn bus stim).1.trap = false) :
    let exec := Rv32a.execute d cpu.regs (cpu.supply bus stim).2 cpu.reservation
    exec.1.valid = true ∧ (cpu.stepOn bus stim).2.1.regs = exec.2.1 ∧
      (cpu.stepOn bus stim).2.1.reservation = exec.2.2.2 ∧
        (cpu.stepOn bus stim).2.2 = exec.2.2.1 := by
  intro exec
  obtain ⟨result, -, hstep⟩ := stepOn_atomic h hlegal
  have hexec : Rv32a.execute d cpu.regs (cpu.supply bus stim).2 cpu.reservation = exec := rfl
  rw [hstep] at htrap ⊢
  dsimp only at htrap ⊢
  rw [hexec] at htrap ⊢
  cases hvalid : exec.1.valid with
  | true => exact ⟨rfl, rfl, rfl, rfl⟩
  | false =>
    rw [hvalid] at htrap
    have htaken : ∀ (c : CPU) (r : CPUExecResult) (cause tval : Word) (info : String),
        (c.takeException r cause tval info).1.trap = true := by
      intro c r cause tval info
      unfold CPU.takeException
      dsimp only
      split <;> rfl
    have htrue := htaken { cpu.syncExecutorConfig with regs := exec.2.1, reservation := exec.2.2.2 }
      result exec.1.trapCause exec.1.trapValue exec.1.error
    exact absurd (htrue.symm.trans htrap) (by decide)

end

/-! ## The reservation as a latch -/

/-- The reserved address. -/
def CPU.reserved (cpu : CPU) : Option Word :=
  if cpu.reservation.hasReservation then some cpu.reservation.getAddress else none

theorem reserved_clear {cpu : CPU} (h : cpu.reservation.hasReservation = false) :
    cpu.reserved = none := by
  unfold CPU.reserved
  rw [h]
  rfl

theorem reserved_congr {cpu cpu' : CPU} (h : cpu'.reservation = cpu.reservation) :
    cpu'.reserved = cpu.reserved := by
  unfold CPU.reserved
  rw [h]

theorem check_iff {cpu : CPU} {addr : Word} (halign : addr &&& 3 = 0) :
    cpu.reservation.check addr = true ↔ cpu.reserved = some addr := by
  have hclear : addr &&& ~~~3 = addr := Warl.clear_eq_self halign
  unfold CPU.reserved Rv32a.ReservationSet.check Rv32a.ReservationSet.hasReservation
    Rv32a.ReservationSet.getAddress
  rw [hclear]
  cases cpu.reservation.valid <;> simp [eq_comm]

section
variable [Rv32f.HostFloat]

/-- The address an action reserves: that of an LR.W that completes. -/
def CPU.reserves (cpu : CPU) : Action → Option Word
  | @Action.step _ _ bus stim =>
    match cpu.atomic bus stim with
    | some d =>
      if d.type = .lrW ∧ (cpu.stepOn bus stim).1.trap = false then some (cpu.atomicAddr d) else none
    | none => none
  | _ => none

/-- The actions that give a reservation up: an SC.W of any kind, an exception, an
interrupt, a reset. -/
def CPU.cancels (cpu : CPU) : Action → Prop
  | @Action.step _ _ bus stim =>
    (∃ d, cpu.atomic bus stim = some d ∧ d.type = .scW) ∨
      (cpu.stepOn bus stim).1.trap = true ∨ (cpu.stepOn bus stim).1.interrupt = true
  | .line _ _ => False
  | .reset => True

variable {config : CPUConfig} {cpu : CPU}

/-- A completed LR.W reserves its address, which is aligned. -/
theorem reserved_load {a : Action} {addr : Word} (h : cpu.reserves a = some addr) :
    (cpu.act a).reserved = some addr := by
  cases a with
  | reset => cases h
  | line line level => cases h
  | step bus stim =>
    unfold CPU.reserves at h
    dsimp only at h
    split at h
    · rename_i d hatomic
      split at h
      · rename_i hlr
        cases h
        obtain ⟨hvalid, -, hres, -⟩ := atomic_completed hatomic (by rw [hlr.1]; decide) hlr.2
        -- the latch holds the aligned address, which an LR that completed had
        have halign := (Rv32a.execute_valid hvalid).2
        have hreserve := Rv32a.execute_reservation hvalid
        rw [hlr.1] at hreserve
        show (cpu.stepOn bus stim).2.1.reserved = some (cpu.atomicAddr d)
        unfold CPU.reserved
        rw [hres, hreserve]
        show some (cpu.regs.read d.rs1 &&& ~~~3) = some (cpu.regs.read d.rs1)
        rw [Warl.clear_eq_self halign]
      · cases h
    · cases h

/-- SC.W leaves no reservation, however it ends. -/
theorem hasReservation_sc (h : cpu.WellFormed config) {β : Type} [Bus β] {bus : β}
    {stim : Stimulus} {d : Rv32a.DecodedInstr} (hatomic : cpu.atomic bus stim = some d)
    (hsc : d.type = .scW) : (cpu.stepOn bus stim).2.1.reservation.hasReservation = false := by
  obtain ⟨hselected, henabled, instr, bus₁, hsup, rfl⟩ := atomic_eq_some hatomic
  cases step_outcome h bus stim with
  | interrupt selected _ _ =>
    rw [hselected] at selected
    cases selected
  | exception _ step _ =>
    have hres : (cpu.stepOn bus stim).2.1.reservation = _ := step.reservation
    rw [hres]
    rfl
  | retire _ supplied _ _ _ reserved _ _ =>
    rw [hsup] at supplied
    cases supplied
    have hclaimed : Rv32a.isAtomicInstruction instr = true := by
      apply isAtomic_of_decode
      rw [hsc]
      decide
    rw [reserved]
    unfold reservationAfter
    rw [henabled, hclaimed, hsc]
    rfl
  | mret _ supplied _ _ _ _ _ _ =>
    rw [hsup] at supplied
    cases supplied
    exact absurd hsc (by decide)
  | sret _ supplied _ _ _ _ _ _ _ _ =>
    rw [hsup] at supplied
    cases supplied
    exact absurd hsc (by decide)

theorem reserved_cancel (h : cpu.WellFormed config) {a : Action} (hcancels : cpu.cancels a) :
    (cpu.act a).reserved = none := by
  cases a with
  | reset => rfl
  | line line level => exact hcancels.elim
  | step bus stim =>
    apply reserved_clear
    show (cpu.stepOn bus stim).2.1.reservation.hasReservation = false
    rcases hcancels with ⟨d, hatomic, hsc⟩ | htrap
    · exact hasReservation_sc h hatomic hsc
    have hres : (cpu.stepOn bus stim).2.1.reservation = cpu.reservation.clear := by
      rcases htrap with htrap | hinterrupt
      · obtain ⟨_, _, -, step, -⟩ := (step_outcome h bus stim).exceptional htrap
        exact step.reservation
      · obtain ⟨_, -, step, -⟩ := (step_outcome h bus stim).interrupted hinterrupt
        exact step.reservation
    rw [hres]
    rfl

theorem reserved_keep (h : cpu.WellFormed config) {a : Action} (hreserves : cpu.reserves a = none)
    (hcancels : ¬cpu.cancels a) : (cpu.act a).reserved = cpu.reserved := by
  cases a with
  | reset => exact absurd trivial hcancels
  | line line level => cases line <;> rfl
  | step bus stim =>
    apply reserved_congr
    show (cpu.stepOn bus stim).2.1.reservation = cpu.reservation
    cases step_outcome h bus stim with
    | interrupt _ step _ => exact absurd (.inr (.inr step.interrupt)) hcancels
    | exception _ step _ => exact absurd (.inr (.inl step.trap)) hcancels
    | mret _ _ _ _ _ reserved _ _ => exact reserved
    | sret _ _ _ _ _ _ _ reserved _ _ => exact reserved
    | @retire instr is32bit bus₁ _ selected supplied step _ _ reserved _ _ =>
      rw [reserved]
      unfold reservationAfter
      split
      · rename_i hclaimed
        simp only [Bool.and_eq_true] at hclaimed
        obtain ⟨rfl, henabled, -⟩ := hclaimed
        have hatomic : cpu.atomic bus stim = some (Rv32a.decode instr) := by
          unfold CPU.atomic
          rw [if_pos ⟨selected, henabled⟩, supplied]
        have htrap : (cpu.stepOn bus stim).1.trap = false := step.trap
        -- an LR would reserve and an SC would cancel, so what is left is an AMO
        have hlr : (Rv32a.decode instr).type ≠ .lrW := by
          intro hlr
          simp [CPU.reserves, hatomic, hlr, htrap] at hreserves
        have hsc : (Rv32a.decode instr).type ≠ .scW :=
          fun hsc => hcancels (.inl ⟨_, hatomic, hsc⟩)
        split
        · exact absurd ‹_› hlr
        · exact absurd ‹_› hsc
        · rfl
      · rfl

/-- **The reservation is a latch.** -/
def reservationLatch (config : CPUConfig) : (machine config).Latch Word where
  read := CPU.reserved
  loads := CPU.reserves
  clears := CPU.cancels
  read_init := rfl
  read_load := fun _ _ _ _ h => reserved_load h
  read_clear := fun _ _ hreach _ h => reserved_cancel (Reachable.wellFormed hreach) h
  read_keep := fun _ _ hreach h hc => reserved_keep (Reachable.wellFormed hreach) h hc

/-! ## SC.W -/

/-- What an SC.W that completes does, by the reservation. -/
structure ScDone {β : Type} [Bus β] (cpu : CPU) (d : Rv32a.DecodedInstr) (before after : β)
    (regs : RegFile) : Prop where
  success : cpu.reserved = some (cpu.atomicAddr d) →
    (Bus.write32 before (cpu.atomicAddr d) (cpu.regs.read d.rs2)).1.isOk = true ∧
      after = (Bus.write32 before (cpu.atomicAddr d) (cpu.regs.read d.rs2)).2 ∧
      regs = cpu.regs.write d.rd 0
  failure : cpu.reserved ≠ some (cpu.atomicAddr d) → after = before ∧ regs = cpu.regs.write d.rd 1

theorem sc_completed {β : Type} [Bus β] {bus : β} {stim : Stimulus} {d : Rv32a.DecodedInstr}
    (hatomic : cpu.atomic bus stim = some d) (hsc : d.type = .scW)
    (htrap : (cpu.stepOn bus stim).1.trap = false) :
    ScDone cpu d (cpu.supply bus stim).2 (cpu.stepOn bus stim).2.2
      (cpu.stepOn bus stim).2.1.regs := by
  obtain ⟨hvalid, hregs, -, hbus⟩ := atomic_completed hatomic (by rw [hsc]; decide) htrap
  have halign := (Rv32a.execute_valid hvalid).2
  -- an aligned address passes the check exactly if it is the reserved one
  have hcheck : cpu.reservation.check (cpu.regs.read d.rs1) = true ↔
      cpu.reserved = some (cpu.atomicAddr d) := check_iff halign
  rw [Rv32a.execute_sc hsc halign] at hvalid hregs hbus
  rw [hregs, hbus]
  unfold Rv32a.executeSc at hvalid ⊢
  cases hres : cpu.reservation.check (cpu.regs.read d.rs1) with
  | true =>
    rw [hres] at hvalid
    simp only [if_true] at hvalid ⊢
    refine ⟨fun _ => ?_, fun hne => absurd (hcheck.mp hres) hne⟩
    unfold CPU.atomicAddr
    rcases hwrite : Bus.write32 (cpu.supply bus stim).2 (cpu.regs.read d.rs1)
      (cpu.regs.read d.rs2) with ⟨_ | _, bus'⟩
    · rw [hwrite] at hvalid
      cases hvalid
    · exact ⟨rfl, rfl, rfl⟩
  | false =>
    simp only [Bool.false_eq_true, if_false]
    refine ⟨fun hsome => ?_, fun _ => ⟨rfl, rfl⟩⟩
    rw [hcheck.mpr hsome] at hres
    cases hres

/-- **LR/SC over whole runs.** An SC.W that completes after any actions stores rs2,
as its one data access, and writes 0 to rd exactly when the last LR.W that
completed reserved its address and no SC.W, trap or reset came since; otherwise it
makes no data access and writes 1. It leaves no reservation, however it ends. -/
theorem lr_sc_run (config : CPUConfig) (actions : List Action) {β : Type} [Bus β]
    (bus : Traced β) (stim : Stimulus) (d : Rv32a.DecodedInstr) :
    let cpu := (machine config).run (CPU.new config) actions
    let out := cpu.stepOn bus stim
    let before := (cpu.supply bus stim).2
    let addr := cpu.atomicAddr d
    let rs2Val := cpu.regs.read d.rs2
    cpu.atomic bus stim = some d → d.type = .scW →
      out.2.1.reservation.hasReservation = false ∧
        (out.1.trap = false →
          ((out.2.2.log = before.log ++ [⟨.write32 addr rs2Val, true⟩] ∧
              out.2.2.bus = (Bus.write32 before.bus addr rs2Val).2 ∧
              out.2.1.regs = cpu.regs.write d.rd 0) ↔
            (reservationLatch config).LastLoaded actions addr) ∧
          (¬(reservationLatch config).LastLoaded actions addr →
            out.2.2 = before ∧ out.2.1.regs = cpu.regs.write d.rd 1)) := by
  intro cpu out before addr rs2Val hatomic hsc
  have hwell : cpu.WellFormed config := Reachable.wellFormed ⟨actions, rfl⟩
  have hlatch : cpu.reserved = some addr ↔ (reservationLatch config).LastLoaded actions addr :=
    (reservationLatch config).read_run actions addr
  refine ⟨hasReservation_sc hwell hatomic hsc, fun htrap => ?_⟩
  have hdone := sc_completed hatomic hsc htrap
  rw [← hlatch]
  refine ⟨⟨fun ⟨hlog, _⟩ => ?_, fun hsome => ?_⟩, hdone.failure⟩
  · apply Classical.byContradiction
    intro hne
    -- a failed SC.W leaves the log as it is
    have hsame : before.log = before.log ++ [⟨.write32 addr rs2Val, true⟩] := by
      rw [← hlog, (hdone.failure hne).1]
    exact absurd (congrArg List.length hsame) (by simp)
  · obtain ⟨hok, hbus, hregs⟩ := hdone.success hsome
    refine ⟨?_, ?_, hregs⟩
    · rw [hbus, ← hok]
      rfl
    · rw [hbus]
      rfl

end

/-- An SC.W right after an LR.W of its address stores. -/
theorem lr_sc_run_pair :
    let _ := Rv32f.nanHost
    let lr := Action.step (SimpleMemory.new 16) (.inject 0x100020AF)
    let cpu := (CPU.new {}).act lr
    let bus : Traced SimpleMemory := { bus := SimpleMemory.new 16, log := [] }
    let out := cpu.stepOn bus (.inject 0x180020AF)
    out.2.1.reservation.hasReservation = false ∧ out.2.2.log = [⟨.write32 0 0, true⟩] ∧
      out.2.1.regs = cpu.regs.write 1 0 := by
  intro _ lr cpu bus out
  have h := lr_sc_run {} [lr] bus (.inject 0x180020AF) (Rv32a.decode 0x180020AF)
    (by decide) (by decide)
  have hloaded : (reservationLatch {}).LastLoaded [lr] 0 := ⟨[], lr, [], rfl, by decide, trivial⟩
  obtain ⟨hlog, -, hregs⟩ := (h.2 (by decide)).1.mpr hloaded
  exact ⟨h.1, hlog, hregs⟩

end Riscv

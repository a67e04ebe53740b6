import Riscv.BaseStimulus
import Riscv.GeneratorHalts
import Riscv.Memory
import Riscv.Runs
import Riscv.RvcStimulus

/- A HINT is a NOP.

   No executor knows of HINTs: they compute into `x0`, or into a register the value it has.
   A step that executes one moves the pc and counts, and leaves the rest of the state and
   the bus as they are. -/
namespace Riscv

open Sample

namespace Rv32c

/-! ## The decoded HINT -/

/-- A type that computes on a register in place has it as source and as destination. -/
def DecodedInstr.InPlace (d : DecodedInstr) : Prop :=
  d.type = .cAddi ∨ d.type = .cSlli ∨ d.type = .cSrli ∨ d.type = .cSrai → d.rs1 = d.rd

theorem decode_inPlace (p : BitVec 16) : (decode p).InPlace := by
  unfold decode decodeC0 decodeC1 decodeC2 decodeC1Alu decodeC2Reg
  repeat' refine iteInduction (motive := DecodedInstr.InPlace) (fun _ => ?_) fun _ => ?_
  all_goals simp [DecodedInstr.InPlace]

/-- The decoder takes no word of 32 bits for an instruction. -/
theorem isCompressed_of_decode {p : BitVec 16} (h : (decode p).type ≠ .illegal) :
    isCompressed p = true := by
  refine decide_eq_true fun hlow => ?_
  unfold decode at h
  rw [hlow] at h
  exact h rfl

theorem type_of_isHint {d : DecodedInstr} (h : d.isHint = true) : d.type ≠ .illegal := by
  intro htype
  unfold DecodedInstr.isHint at h
  rw [htype] at h
  cases h

/-- **The executor does nothing on a HINT**, whatever the registers hold. -/
theorem execute_hint {β : Type} [Bus β] (ex : Executor) {d : DecodedInstr} (h : d.isHint = true)
    (hplace : d.InPlace) (regs : RegFile) (bus : β) (pc : Word) :
    ex.execute d regs bus pc = ({ nextPc := pc + 2 }, regs, bus) := by
  have hadd : ∀ v : Word, v + 0 = v := BitVec.add_zero
  have hleft : ∀ v : Word, v <<< ((0 : Word) &&& 0x1F) = v := BitVec.shiftLeft_zero
  have hright : ∀ v : Word, v >>> ((0 : Word) &&& 0x1F) = v := BitVec.ushiftRight_zero
  have hsigned : ∀ v : Word, v.sshiftRight' ((0 : Word) &&& 0x1F) = v :=
    fun _ => BitVec.sshiftRight_zero
  have hsame : d.rs1 = d.rd → regs.write d.rd (regs.read d.rs1) = regs := by
    intro hrs1
    rw [hrs1, RegFile.write_read]
  unfold DecodedInstr.isHint at h
  unfold Executor.execute
  cases htype : d.type <;> rw [htype] at h <;> dsimp only at h ⊢
  case cAddi => rw [of_decide_eq_true h, hadd, hsame (hplace (.inl htype))]
  case cLi | cLui | cMv | cAdd => rw [of_decide_eq_true h, RegFile.write_zero]
  case cSlli =>
    rcases of_decide_eq_true h with hrd | himm
    · rw [hrd, RegFile.write_zero]
    · rw [himm, hleft, hsame (hplace (.inr (.inl htype)))]
  case cSrli =>
    rw [of_decide_eq_true h, hright, hsame (hplace (.inr (.inr (.inl htype))))]
  case cSrai =>
    rw [of_decide_eq_true h, hsigned, hsame (hplace (.inr (.inr (.inr htype))))]
  all_goals cases h

/-! ## The HINT generators -/

namespace Opgen

open RNG Riscv.Opgen

def IsHint (p : BitVec 16) : Prop := (decode p).isHint = true

instance : DecidablePred IsHint := fun p => inferInstanceAs (Decidable ((decode p).isHint = true))

/-- A HINT of one operand, known as a few bits that are extended. -/
theorem hint_of_draw {k : Nat} {g : Gen Word} {extend : BitVec k → Word} {good : BitVec k → Prop}
    {f : Word → BitVec 16} (hg : g.Yields fun v => ∃ x, v = extend x ∧ good x)
    (h : ∀ x, good x → IsHint (f (extend x))) : (do return f (← g) : Gen _).Yields IsHint := by
  refine .bind hg fun v hv => .pure ?_
  obtain ⟨x, rfl, hx⟩ := hv
  exact h x hx

theorem hint_of_any {k : Nat} {g : Gen Word} {extend : BitVec k → Word} {f : Word → BitVec 16}
    (hg : g.Yields fun v => ∃ x, v = extend x) (h : ∀ x, IsHint (f (extend x))) :
    (do return f (← g) : Gen _).Yields IsHint :=
  hint_of_draw (hg.mono fun _ ⟨x, hx⟩ => ⟨x, hx, trivial⟩) fun x _ => h x

/-- **The generators of the HINTs give HINTs.** -/
theorem generateHint_isHint (type : HintType) : (generateHint type).Yields IsHint := by
  cases type with
  | cAddiX0 => exact (hint_of_draw yields_imm6Nz (by decide) : genCAddiX0Hint.Yields IsHint)
  | cLiX0 => exact (hint_of_any yields_imm6 (by decide) : genCLiX0Hint.Yields IsHint)
  | cLuiX0 => exact (hint_of_draw yields_imm6Nz (by decide) : genCLuiX0Hint.Yields IsHint)
  | cMvX0 => exact (hint_of_draw yields_regNz (by decide) : genCMvX0Hint.Yields IsHint)
  | cAddX0 => exact (hint_of_draw yields_regNz (by decide) : genCAddX0Hint.Yields IsHint)
  | cSlliX0 => exact (hint_of_any (yields_range (k := 5) (by decide) (by decide)) (by decide) :
      genCSlliX0Hint.Yields IsHint)
  | cSlli64 => exact (hint_of_draw yields_regNz (by decide) : genCSlli64Hint.Yields IsHint)
  | cSrli64 => exact (hint_of_any yields_creg (by decide) : genCSrli64Hint.Yields IsHint)
  | cSrai64 => exact (hint_of_any yields_creg (by decide) : genCSrai64Hint.Yields IsHint)

end Opgen

end Rv32c

/-! ## What the generators produce -/

/-- A generator ends, and gives an encoding of the operands it draws. -/
structure Produces {α δ : Type} (g : Gen α) (drawn : Gen δ) (encodes : α → δ → Prop) : Prop where
  halts : ∀ values ≥ 64, g.Halts values
  alike : g.Alike drawn encodes

theorem Rv32i.Opgen.produces (dec : Decoder) (type : Rv32i.Opgen.InstrType) :
    Produces (generate type) (drawn type) (Encodes dec type.named) where
  halts := fun _ _ => .nth (by cases type <;> decide) generators_halt
  alike := generate_encodes dec type

theorem Rv32c.Opgen.produces (type : Rv32c.Opgen.InstrType) :
    Produces (generate type) (drawn type) fun p d => Encodes p d ∧ d.type = type.named where
  halts := fun _ hvalues => .nth (by cases type <;> decide) (generators_halt hvalues)
  alike := (generate_encodes type).yields_right (drawn_named type)

/-! ## The step -/

section
variable {β : Type} [Bus β] {cpu : CPU} {bus : β}

/-- A step that moves the pc by two and counts, and does nothing else; the executors'
copies of the configuration are brought up to date, as by every step. -/
structure NopStep (cpu : CPU) (bus : β) (out : CPUExecResult × CPU × β) : Prop where
  trap : out.1.trap = false
  interrupt : out.1.interrupt = false
  state : out.2.1 =
    { cpu.syncExecutorConfig with pc := cpu.pc + 2, csrs := countStep cpu.csrs false }
  cycle : cycleCount out.2.1.csrs = cycleCount cpu.csrs + 1
  instret : instretCount out.2.1.csrs = instretCount cpu.csrs + 1
  csrs : ∀ a ∉ counterCsrs, out.2.1.csrs.get a = cpu.csrs.get a
  bus_eq : out.2.2 = bus

omit [Bus β] in
/-- What the counting leaves follows from the state. -/
theorem nopStep_of_state {out : CPUExecResult × CPU × β} (htrap : out.1.trap = false)
    (hinterrupt : out.1.interrupt = false) (hstate : out.2.1 =
      { cpu.syncExecutorConfig with pc := cpu.pc + 2, csrs := countStep cpu.csrs false })
    (hbus : out.2.2 = bus) : NopStep cpu bus out where
  trap := htrap
  interrupt := hinterrupt
  state := hstate
  cycle := by
    rw [hstate]
    exact countStep_cycle cpu.csrs false
  instret := by
    rw [hstate]
    exact countStep_instret cpu.csrs false
  csrs := by
    intro a ha
    rw [hstate]
    exact countStep_get cpu.csrs false ha
  bus_eq := hbus

theorem executeC_hint {p : BitVec 16} (h : Rv32c.Opgen.IsHint p) (cpu : CPU) (bus : β)
    (result : CPUExecResult) : cpu.executeC p bus result =
      ({ result with
        mnemonic := (Rv32c.decode p).mnemonic
        nextPc := cpu.pc + 2
        branchTaken := false }, cpu, bus) := by
  unfold CPU.executeC
  dsimp only
  rw [Rv32c.execute_hint cpu.cExecutor h (Rv32c.decode_inPlace p)]
  rfl

variable [Rv32f.HostFloat]

/-- **A HINT is a NOP.** -/
theorem hint_step (hc : cpu.config.enableCExtension = true) (hselected : cpu.selected = none)
    {p : BitVec 16} (h : Rv32c.Opgen.IsHint p) :
    NopStep cpu bus (cpu.stepOn bus (.inject (p.setWidth 32))) := by
  have hparcel : u16 (p.setWidth 32) = p := by
    rw [u16, BitVec.setWidth_setWidth_of_le _ (by decide), BitVec.setWidth_eq]
  have htype := Rv32c.type_of_isHint h
  have hlow : (p.setWidth 32 : Word) &&& 0x3 ≠ 0x3 := by
    have hiff : (p.setWidth 32 : Word) &&& 0x3 = 0x3 ↔ p &&& 0x3 = 0x3 := by
      simpa using parcels_low p 0
    exact fun hword => of_decide_eq_true (Rv32c.isCompressed_of_decode htype) (hiff.mp hword)
  have haccepts : cpu.config.classifier.accepts .rv32c (p.setWidth 32) = true := by
    refine OpcodeClassifier.accepts_iff.mpr ⟨decide_eq_true hlow, ?_⟩
    show (Rv32c.decode (u16 (p.setWidth 32))).type ≠ .illegal
    rw [hparcel]
    exact htype
  have hstep : cpu.stepOn bus (.inject (p.setWidth 32)) = _ :=
    stepOn_executeAs hselected rfl (e := .rv32c) hc haccepts
  simp only [CPU.executeAs, hparcel, executeC_hint h] at hstep
  rw [hstep]
  exact nopStep_of_state rfl rfl rfl rfl

/-! ## What the generators do -/

/-- **The generators produce what they name, and HINTs are NOPs.** The generator of a type
of RV32I or RV32C gives a word that decodes to the type of that name with the operands it
draws, a parcel never to a HINT. Every parcel of a HINT generator, injected in any state of
any run with C on where no interrupt is taken, moves the pc by two and counts. -/
theorem generators_hints_run (config : CPUConfig) (actions : List Action) (bus : β) :
    (∀ dec type, Produces (Rv32i.Opgen.generate type) (Rv32i.Opgen.drawn type)
      (Rv32i.Opgen.Encodes dec type.named)) ∧
    (∀ type, Produces (Rv32c.Opgen.generate type) (Rv32c.Opgen.drawn type)
      fun p d => Rv32c.Opgen.Encodes p d ∧ d.type = type.named) ∧
    ∀ hint, (∀ values ≥ 64, (Rv32c.Opgen.generateHint hint).Halts values) ∧
      ∀ p, (Rv32c.Opgen.generateHint hint).Gives p →
        let cpu := (machine config).run (CPU.new config) actions
        config.enableCExtension = true → cpu.selected = none →
          NopStep cpu bus (cpu.stepOn bus (.inject (p.setWidth 32))) := by
  refine ⟨Rv32i.Opgen.produces, Rv32c.Opgen.produces, fun hint => ⟨fun values hvalues => ?_, ?_⟩⟩
  · exact .nth (by cases hint <;> decide) (Rv32c.Opgen.hintGenerators_halt hvalues)
  · intro p hp cpu hc hselected
    have hwell : cpu.WellFormed config := Reachable.wellFormed ⟨actions, rfl⟩
    exact hint_step (hwell.config_eq ▸ hc) hselected
      (hp.holds (Rv32c.Opgen.generateHint_isHint hint))

end

/-- C.SLLI64 of `x1`, given to a fresh CPU. -/
theorem generators_hints_run_slli64 :
    let _ := Rv32f.nanHost
    NopStep (CPU.new {}) (SimpleMemory.new 0)
      ((CPU.new {}).stepOn (SimpleMemory.new 0) (.inject 0x82)) := by
  intro _
  have hgives : (Rv32c.Opgen.generateHint .cSlli64).Gives 0x82 := ⟨[0], [], by decide⟩
  exact ((generators_hints_run {} [] (SimpleMemory.new 0)).2.2 .cSlli64).2 0x82 hgives rfl
    (by decide)

end Riscv

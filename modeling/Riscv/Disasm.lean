import Riscv.Memory
import Riscv.Runs
import Riscv.DecoderDisjoint

/- The disassembler against the steps.

   `disasm` repeats the dispatch of the executor to find the name of an instruction,
   and a step records a name in its result. They are the same for every encoding,
   valid or not, with one exception: an access to satp that TVM traps in S-mode leaves
   the dispatch before its name is recorded (`SatpTrapped`), so that the result has
   none. -/
namespace Riscv

/-! ## The name a dispatch records -/

namespace CPU

theorem takeException_mnemonic (cpu : CPU) (result : CPUExecResult) (cause tval : Word)
    (info : String) : (cpu.takeException result cause tval info).1.mnemonic = result.mnemonic := by
  unfold takeException
  dsimp only
  split <;> rfl

theorem trapUnless_mnemonic (cpu : CPU) (valid : Bool) (result : CPUExecResult)
    (cause tval : Word) (error : String) :
    (cpu.trapUnless valid result cause tval error).1.mnemonic = result.mnemonic := by
  cases valid with
  | true => rfl
  | false => exact cpu.takeException_mnemonic result cause tval error

theorem finishBase_mnemonic (cpu : CPU) (instr : Word) (exec : Rv32i.ExecResult)
    (result : CPUExecResult) : (cpu.finishBase instr exec result).1.mnemonic = result.mnemonic := by
  unfold finishBase doMret doSret
  dsimp only
  repeat' split
  all_goals
    first
    | rfl
    | exact takeException_mnemonic _ _ _ _ _
    | exact trapUnless_mnemonic _ _ _ _ _ _

/-- The instruction is the access to satp that TVM traps. -/
def satpTrapped (cpu : CPU) (instr : Word) : Bool :=
  cpu.config.enableZicsr && Zicsr.isCsrInstruction instr && cpu.satpBlocked (Zicsr.decode instr)

theorem executeZicsr_mnemonic (cpu : CPU) (instr : Word) (result : CPUExecResult) :
    (cpu.executeZicsr instr result).1.mnemonic =
      if cpu.satpBlocked (Zicsr.decode instr) then result.mnemonic
      else (Zicsr.decode instr).mnemonic := by
  unfold executeZicsr
  dsimp only
  split
  · exact takeException_mnemonic _ _ _ _ _
  · exact trapUnless_mnemonic _ _ _ _ _ _

theorem not_csr_of_zifencei {instr : Word} (h : Zifencei.isZifenceiInstruction instr = true) :
    Zicsr.isCsrInstruction instr = false := by
  rw [Bool.eq_false_iff]
  intro hcsr
  cases (owner_zifencei h).symm.trans (owner_zicsr hcsr)

theorem mnemonic_ne_empty (d : Zicsr.DecodedCSRInstr) : d.mnemonic ≠ "" := by
  unfold Zicsr.DecodedCSRInstr.mnemonic Zicsr.DecodedCSRInstr.regStr Zicsr.DecodedCSRInstr.immStr
  cases d.type <;> simp

theorem low_of_satpTrapped {cpu : CPU} {instr : Word} (h : cpu.satpTrapped instr = true) :
    instr &&& 0x3 = 0x3 := by
  unfold satpTrapped at h
  simp only [Bool.and_eq_true] at h
  have hcsr := h.1.2
  unfold Zicsr.isCsrInstruction at hcsr
  simp only [Bool.and_eq_true, decide_eq_true_eq] at hcsr
  rw [op_and_three, hcsr.1.1]
  decide

theorem u16_parcel (lo : BitVec 16) : u16 (lo.setWidth 32) = lo := by
  unfold u16
  rw [BitVec.setWidth_setWidth_of_le _ (by decide), BitVec.setWidth_eq]

section Bus
variable {β : Type} [Bus β]

theorem executeCompressed_mnemonic (cpu : CPU) (cInstr : BitVec 16) (bus : β)
    (result : CPUExecResult) :
    (cpu.executeCompressed cInstr bus result).1.mnemonic =
      if cpu.config.enableFExtension && Rv32fc.isCompressedFloat cInstr then
        (Rv32fc.decode cInstr).mnemonic
      else (Rv32c.decode cInstr).mnemonic := by
  unfold executeCompressed
  split
  · exact trapUnless_mnemonic _ _ _ _ _ _
  · exact trapUnless_mnemonic _ _ _ _ _ _

variable [Rv32f.HostFloat]

/-- The dispatch names an instruction as `disasm` does, unless TVM traps it. -/
theorem execute32bit_mnemonic (cpu : CPU) (instr : Word) (bus : β) (result : CPUExecResult) :
    (cpu.execute32bit instr bus result).1.mnemonic =
      if cpu.satpTrapped instr then result.mnemonic else cpu.mnemonic32 instr := by
  unfold execute32bit mnemonic32 satpTrapped
  dsimp only
  cases hfencei : cpu.config.enableZifencei && Zifencei.isZifenceiInstruction instr with
  | true =>
    have hnotcsr := not_csr_of_zifencei (Bool.and_eq_true_iff.mp hfencei).2
    rw [hnotcsr, Bool.and_false, Bool.false_and, if_neg Bool.false_ne_true, if_pos rfl, if_pos rfl]
    exact trapUnless_mnemonic _ _ _ _ _ _
  | false =>
    rw [if_neg Bool.false_ne_true, if_neg Bool.false_ne_true]
    cases hcsr : cpu.config.enableZicsr && Zicsr.isCsrInstruction instr with
    | true =>
      rw [if_pos rfl, if_pos rfl, Bool.true_and]
      exact executeZicsr_mnemonic _ _ _
    | false =>
      rw [if_neg Bool.false_ne_true, if_neg Bool.false_ne_true, Bool.false_and,
        if_neg Bool.false_ne_true]
      -- every other extension records its name first
      split_ifs
      · exact trapUnless_mnemonic _ _ _ _ _ _
      · exact trapUnless_mnemonic _ _ _ _ _ _
      · exact trapUnless_mnemonic _ _ _ _ _ _
      · exact trapUnless_mnemonic _ _ _ _ _ _
      · exact trapUnless_mnemonic _ _ _ _ _ _
      · exact trapUnless_mnemonic _ _ _ _ _ _
      · exact trapUnless_mnemonic _ _ _ _ _ _
      · exact finishBase_mnemonic _ _ _ _

end Bus

/-! ## The name disasm finds -/

section Bus
variable {β : Type} [Bus β]

/-- Reading the parcels of an instruction returns what fetching them does. -/
structure SameParcels (bus bus' : β) (pc : Word) : Prop where
  first : (Bus.read16 bus pc).1 = (Bus.fetch16 bus' pc).1
  second : (Bus.read16 (Bus.read16 bus pc).2 (pc + 2)).1 =
    (Bus.fetch16 (Bus.fetch16 bus' pc).2 (pc + 2)).1

/-- The name `disasm` finds for an instruction, given its encoding. -/
def nameOf (cpu : CPU) (instr : Word) (is32bit : Bool) : String :=
  if is32bit then cpu.syncExecutorConfig.mnemonic32 instr
  else if !cpu.config.enableCExtension then "ILLEGAL"
  else if cpu.config.enableFExtension && Rv32fc.isCompressedFloat (u16 instr) then
    (Rv32fc.decode (u16 instr)).mnemonic
  else (Rv32c.decode (u16 instr)).mnemonic

theorem disasm_eq {cpu : CPU} {bus bus' : β} (hsame : SameParcels bus bus' cpu.pc) {instr : Word}
    {is32bit : Bool} (hfetch : (fetch bus' cpu.pc).1 = .ok (instr, is32bit)) :
    (cpu.disasm bus cpu.pc).1 = cpu.nameOf instr is32bit := by
  have hfirst := hsame.first
  have hsecond := hsame.second
  unfold fetch at hfetch
  unfold disasm
  dsimp only
  -- reads and fetches see the same parcels
  rcases hread : Bus.read16 bus cpu.pc with ⟨lo, bus₁⟩
  rcases hparcel : Bus.fetch16 bus' cpu.pc with ⟨lo', bus₁'⟩
  rw [hread, hparcel] at hfirst hsecond
  rw [hparcel] at hfetch
  dsimp only at hfirst hsecond hfetch ⊢
  subst hfirst
  cases lo with
  | error e => cases hfetch
  | ok lo =>
    dsimp only at hfetch ⊢
    split
    next hlow =>
      rw [if_neg hlow] at hfetch
      cases hfetch
      unfold nameOf
      rw [u16_parcel]
      split
      · rfl
      · split <;> simp [*]
    next hlow =>
      rw [if_pos (Decidable.not_not.mp hlow)] at hfetch
      rcases hread' : Bus.read16 bus₁ (cpu.pc + 2) with ⟨hi, bus₂⟩
      rcases hparcel' : Bus.fetch16 bus₁' (cpu.pc + 2) with ⟨hi', bus₂'⟩
      rw [hread', hparcel'] at hsecond
      rw [hparcel'] at hfetch
      dsimp only at hsecond
      subst hsecond
      cases hi with
      | error e => cases hfetch
      | ok hi =>
        cases hfetch
        rfl

/-- `disasm` leaves no trace that a step could see. -/
theorem disasm_cpu (cpu : CPU) (bus : β) (addr : Word) :
    (cpu.disasm bus addr).2.1 = { cpu with iDecoder := { sModeEnabled := cpu.config.enableSMode } } := by
  unfold disasm
  dsimp only
  repeat' split
  all_goals rfl

theorem nameOf_ne_empty {cpu : CPU} {instr : Word} {is32bit : Bool}
    (htrapped : cpu.satpTrapped instr = true) (hsize : is32bit = decide (instr &&& 0x3 = 0x3)) :
    cpu.nameOf instr is32bit ≠ "" := by
  have hlow := low_of_satpTrapped htrapped
  unfold satpTrapped at htrapped
  simp only [Bool.and_eq_true] at htrapped
  obtain ⟨⟨henabled, hcsr⟩, -⟩ := htrapped
  have hnotfencei : Zifencei.isZifenceiInstruction instr = false := by
    rw [Bool.eq_false_iff]
    intro hfencei
    cases hcsr.symm.trans (not_csr_of_zifencei hfencei)
  have hcsr' : (cpu.syncExecutorConfig.config.enableZicsr && Zicsr.isCsrInstruction instr) = true :=
    Bool.and_eq_true_iff.mpr ⟨henabled, hcsr⟩
  unfold nameOf mnemonic32
  rw [hsize, decide_eq_true hlow, if_pos rfl]
  dsimp only
  rw [hnotfencei, Bool.and_false, if_neg Bool.false_ne_true, if_pos hcsr']
  exact mnemonic_ne_empty _

/-! ## A step and the disassembly before it -/

variable [Rv32f.HostFloat]

theorem step_disasm (cpu : CPU) (bus bus' : β) (addr : Word) :
    (cpu.disasm bus addr).2.1.step bus' = cpu.step bus' := by
  rw [disasm_cpu]
  rfl

theorem step_mnemonic {cpu : CPU} {bus : β} (hselected : cpu.selected = none) {instr : Word}
    {is32bit : Bool} (hfetch : (fetch bus cpu.pc).1 = .ok (instr, is32bit)) :
    (cpu.step bus).1.mnemonic =
      if cpu.satpTrapped instr then "" else cpu.nameOf instr is32bit := by
  have hsupplied : cpu.supply bus .fetch = (.ok (instr, is32bit), (fetch bus cpu.pc).2) :=
    Prod.ext hfetch rfl
  have hspec := supply_spec cpu bus .fetch
  rw [hsupplied] at hspec
  have hstep : cpu.stepOn bus .fetch = _ := stepOn_execute hselected hsupplied
  change (cpu.stepOn bus .fetch).1.mnemonic = _
  rw [hstep]
  change (cpu.syncExecutorConfig.executeParcels instr is32bit _ _).1.mnemonic = _
  unfold executeParcels nameOf
  cases is32bit with
  | true =>
    rw [Bool.not_true, if_neg Bool.false_ne_true, if_pos rfl]
    exact execute32bit_mnemonic _ _ _ _
  | false =>
    -- a CSR instruction has 32 bits, so TVM traps no parcel
    have hnot : cpu.satpTrapped instr = false := by
      rw [Bool.eq_false_iff]
      intro htrapped
      exact of_decide_eq_false hspec.1.symm (low_of_satpTrapped htrapped)
    rw [hnot, Bool.not_false, if_pos rfl, if_neg Bool.false_ne_true, if_neg Bool.false_ne_true]
    dsimp only
    split
    next hc =>
      have hdisabled : (!cpu.config.enableCExtension) = true := hc
      rw [if_pos hdisabled]
      exact takeException_mnemonic _ _ _ _ _
    next hc =>
      have henabled : ¬(!cpu.config.enableCExtension) = true := hc
      rw [if_neg henabled]
      exact executeCompressed_mnemonic _ _ _ _

/-- The step executes an instruction whose parcels the disassembler reads too. -/
structure Comparable (cpu : CPU) (bus bus' : β) (instr : Word) (is32bit : Bool) : Prop where
  same : SameParcels bus bus' cpu.pc
  fetched : (fetch bus' cpu.pc).1 = .ok (instr, is32bit)
  noInterrupt : ((cpu.disasm bus cpu.pc).2.1.step bus').1.interrupt = false

theorem selected_of_interrupt {cpu : CPU} {bus : β} (h : (cpu.step bus).1.interrupt = false) :
    cpu.selected = none := by
  cases hselected : cpu.selected with
  | none => rfl
  | some c =>
    have hstep : cpu.step bus = _ := stepOn_interrupt hselected bus .fetch
    have hflag : (cpu.step bus).1.interrupt = true := by
      rw [hstep]
      unfold deliverInterrupt
      dsimp only
      split <;> rfl
    cases h.symm.trans hflag

/-- **A step records the name `disasm` shows unless TVM traps its instruction.** -/
theorem mnemonic_eq_disasm_iff {cpu : CPU} {bus bus' : β} {instr : Word} {is32bit : Bool}
    (h : cpu.Comparable bus bus' instr is32bit) :
    ((cpu.disasm bus cpu.pc).2.1.step bus').1.mnemonic = (cpu.disasm bus cpu.pc).1 ↔
      cpu.satpTrapped instr = false := by
  have hinterrupt := h.noInterrupt
  rw [step_disasm] at hinterrupt
  have hspec := supply_spec cpu bus' .fetch
  have hsupplied : cpu.supply bus' .fetch = (.ok (instr, is32bit), (fetch bus' cpu.pc).2) :=
    Prod.ext h.fetched rfl
  rw [hsupplied] at hspec
  rw [step_disasm, step_mnemonic (selected_of_interrupt hinterrupt) h.fetched,
    disasm_eq h.same h.fetched]
  cases htrapped : cpu.satpTrapped instr with
  | false => exact ⟨fun _ => rfl, fun _ => if_neg Bool.false_ne_true⟩
  | true =>
    rw [if_pos rfl]
    constructor
    · intro hempty
      exact absurd hempty.symm (nameOf_ne_empty htrapped hspec.1)
    · intro hfalse
      cases hfalse

end Bus

/-! ## Runs -/

section Runs
variable [Rv32f.HostFloat]

/-- A fetching step records the name disassembled before it. -/
def Agrees (cpu : CPU) : Action → Prop
  | @Action.step β _ bus' .fetch => ∀ (bus : β) instr is32bit,
      cpu.Comparable bus bus' instr is32bit →
        ((cpu.disasm bus cpu.pc).2.1.step bus').1.mnemonic = (cpu.disasm bus cpu.pc).1
  | _ => True

/-- A fetching step is at no instruction that TVM traps. -/
def Untrapped (cpu : CPU) : Action → Prop
  | @Action.step β _ bus' .fetch => ∀ (bus : β) instr is32bit,
      cpu.Comparable bus bus' instr is32bit → cpu.satpTrapped instr = false
  | _ => True

theorem agrees_iff (cpu : CPU) (a : Action) : cpu.Agrees a ↔ cpu.Untrapped a := by
  cases a with
  | step bus' stim =>
    cases stim with
    | inject opcode => exact Iff.rfl
    | fetch =>
      unfold Agrees Untrapped
      dsimp only
      constructor
      · intro h bus instr is32bit hcomparable
        exact (mnemonic_eq_disasm_iff hcomparable).mp (h bus instr is32bit hcomparable)
      · intro h bus instr is32bit hcomparable
        exact (mnemonic_eq_disasm_iff hcomparable).mpr (h bus instr is32bit hcomparable)
  | line line level => exact Iff.rfl
  | reset => exact Iff.rfl

end Runs

end CPU

open Run

/-- **The steps of a run record the names disassembled before them exactly when none is at an
instruction that TVM traps**; and so it is in every state, of every configuration. -/
theorem mnemonics_agree_iff [Rv32f.HostFloat] :
    (∀ (cpu : CPU) (a : Action), cpu.Agrees a ↔ cpu.Untrapped a) ∧
      ∀ (config : CPUConfig) (actions : List Action),
        (machine config).Along CPU.Agrees (CPU.new config) actions ↔
          (machine config).Along CPU.Untrapped (CPU.new config) actions := by
  refine ⟨CPU.agrees_iff, ?_⟩
  intro config actions
  rw [Machine.along_iff, Machine.along_iff]
  constructor
  · intro h pre a post heq
    exact (CPU.agrees_iff _ a).mp (h pre a post heq)
  · intro h pre a post heq
    exact (CPU.agrees_iff _ a).mpr (h pre a post heq)

/-- In S-mode with TVM set, the step at `csrrs sp, satp, zero` records no name. -/
theorem mnemonic_missing :
    let _ := Rv32f.nanHost
    let memory := ((SimpleMemory.new 4).write32 0 0x18002173).2
    let cpu := (machine { enableSMode := true }).run (CPU.new { enableSMode := true })
      [.step memory (.inject 0x001000B7), .step memory (.inject 0x10008093),
        .step memory (.inject 0x30009073), .step memory (.inject 0x10200073)]
    ¬cpu.Agrees (.step memory .fetch) := by
  intro _ memory cpu hagrees
  have hname := hagrees memory 0x18002173 true ⟨⟨rfl, rfl⟩, by decide, by decide⟩
  exact absurd hname (by decide)

end Riscv

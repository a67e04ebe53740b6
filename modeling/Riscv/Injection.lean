import Riscv.Memory
import Riscv.Runs

/- Opcode injection against fetched execution.

   A caller may hand a step its opcode instead of letting it fetch. The two entry
   points share everything after the fetch, so a fetched run and the run that is
   handed the opcodes the first one fetches go through the same states, however the
   instructions change the memory they are fetched from. -/
namespace Riscv

open Run

section
variable {β : Type} [Bus β]

/-! ## The fetched opcode -/

/-- Fetching at `pc` returns the opcode `op` and leaves the bus as it is: the
zero-extended parcel, or two parcels when the low bits of the first are 11. -/
def Fetches (bus : β) (pc op : Word) : Prop :=
  ∃ parcel0, Bus.fetch16 bus pc = (.ok parcel0, bus) ∧
    if parcel0 &&& 0x3 = 0x3 then
      ∃ parcel1, Bus.fetch16 bus (pc + 2) = (.ok parcel1, bus) ∧
        op = parcel0.setWidth 32 ||| (parcel1.setWidth 32 <<< 16)
    else op = parcel0.setWidth 32

/-- Such a fetch supplies the step with what injecting the opcode does. -/
theorem Fetches.supply {cpu : CPU} {bus : β} {op : Word} (h : Fetches bus cpu.pc op) :
    cpu.supply bus .fetch = cpu.supply bus (.inject op) := by
  obtain ⟨parcel0, hfirst, hrest⟩ := h
  have hfetch : CPU.fetch bus cpu.pc = (.ok (op, decide (parcel0 &&& 0x3 = 0x3)), bus) := by
    unfold CPU.fetch
    simp only [hfirst]
    split at hrest
    · obtain ⟨parcel1, hsecond, rfl⟩ := hrest
      rename_i hlow
      simp only [hlow, if_true, hsecond, decide_true]
    · rename_i hlow
      simp only [hlow, if_false, hrest, decide_false]
  -- the two low bits of the opcode are those of its first parcel
  have hlow : (op &&& 0x3 = 0x3) ↔ parcel0 &&& 0x3 = 0x3 := by
    split at hrest
    · obtain ⟨parcel1, -, rfl⟩ := hrest
      exact parcels_low parcel0 parcel1
    · rw [hrest]
      simpa using parcels_low parcel0 0
  show CPU.fetch bus cpu.pc = (.ok (op, decide (op &&& 0x3 = 0x3)), bus)
  rw [hfetch, decide_eq_decide.mpr hlow]

/-! ## What a compressed opcode has above its parcel -/

namespace CPU

variable [Rv32f.HostFloat]

/-- The recorded opcode goes into the result and nowhere else. -/
theorem executeParcels_instruction (cpu : CPU) (instr : Word) (bus : β) (result : CPUExecResult)
    (w : Word) :
    cpu.executeParcels instr false bus { result with instruction := w } =
      ({ (cpu.executeParcels instr false bus result).1 with instruction := w },
        (cpu.executeParcels instr false bus result).2) := by
  unfold executeParcels executeCompressed executeFc executeC trapUnless takeException
  simp only [Bool.not_false, if_true]
  split
  · split <;> rfl
  split <;> split
  · rfl
  · split <;> rfl
  · rfl
  · split <;> rfl

theorem executeParcels_low (cpu : CPU) {instr instr' : Word} (h : u16 instr = u16 instr')
    (bus : β) (result : CPUExecResult) :
    cpu.executeParcels instr false bus result = cpu.executeParcels instr' false bus result := by
  have hmask : ∀ w : Word, w &&& 0xFFFF = (u16 w).setWidth 32 := fun w => by
    apply BitVec.eq_of_getLsbD_eq
    intro i hi
    have hbit : ∀ i < 32, (0xFFFF : Word).getLsbD i = decide (i < 16) := by decide
    rw [BitVec.getLsbD_and, hbit i hi, u16, BitVec.getLsbD_setWidth, BitVec.getLsbD_setWidth]
    simp [hi, Bool.and_comm]
  unfold executeParcels
  rw [hmask instr, hmask instr', h]
  rfl

end CPU

variable [Rv32f.HostFloat]

theorem CPU.executeFetched_low (cpu : CPU) {instr instr' : Word} (h : u16 instr = u16 instr')
    (bus : β) (result : CPUExecResult) :
    (cpu.executeFetched instr false bus { result with instruction := instr }).2 =
      (cpu.executeFetched instr' false bus { result with instruction := instr' }).2 := by
  unfold executeFetched
  simp only [executeParcels_instruction, cpu.executeParcels_low h]
  rfl

theorem stepOpcode_low (cpu : CPU) (bus : β) {op op' : Word} (hlow : op &&& 0x3 ≠ 0x3)
    (h : u16 op = u16 op') : (cpu.stepOpcode bus op).2 = (cpu.stepOpcode bus op').2 := by
  have hbits : ∀ w : Word, w &&& 0x3 = 0x3 ↔ u16 w &&& 0x3 = 0x3 := fun w => by
    have hword : (w >>> 0) &&& 0x3 = _ := BitVec.ushiftRight_and_three w 0
    have hhalf : (u16 w >>> 0) &&& 0x3 = _ := BitVec.ushiftRight_and_three (u16 w) 0
    rw [BitVec.ushiftRight_zero] at hword hhalf
    rw [hword, hhalf, u16, BitVec.getLsbD_setWidth, BitVec.getLsbD_setWidth]
    cases w.getLsbD 0 <;> cases w.getLsbD (0 + 1) <;> simp
  have hlow' : op' &&& 0x3 ≠ 0x3 := by rwa [Ne, hbits, ← h, ← hbits]
  unfold CPU.stepOpcode
  cases cpu.beginStep with
  | some taken => rfl
  | none =>
    simp only [hlow, hlow', decide_false]
    exact cpu.syncExecutorConfig.executeFetched_low h bus _

/-! ## Steps and runs -/

/-- **A step that fetches an opcode is the step that is given it.** -/
theorem step_eq_stepOpcode (cpu : CPU) {bus : β} {op : Word} (h : Fetches bus cpu.pc op) :
    cpu.step bus = cpu.stepOpcode bus op := by
  have hsupply := h.supply
  show cpu.stepOn bus .fetch = cpu.stepOn bus (.inject op)
  cases hselected : cpu.selected with
  | some c => rw [CPU.stepOn_interrupt hselected, CPU.stepOn_interrupt hselected]
  | none =>
    have hinject : cpu.supply bus (.inject op) = (.ok (op, decide (op &&& 0x3 = 0x3)), bus) := rfl
    rw [CPU.stepOn_execute hselected (hsupply.trans hinject),
      CPU.stepOn_execute hselected hinject]

/-- **Injection equals fetching.** From any CPU and bus: where fetching leaves the
bus alone, the fetching step is the step injecting the fetched opcode; so is a run
of fetching steps the run injecting the opcodes it fetches, result by result; and of
an opcode that is no 32-bit encoding only the low half reaches the CPU and the bus. -/
theorem injection_equals_fetch :
    (∀ (cpu : CPU) (bus : β) (op : Word), Fetches bus cpu.pc op →
      cpu.step bus = cpu.stepOpcode bus op) ∧
    (∀ (cpu : CPU) (bus : β) (ops : List Word),
      ((stepper cpu bus).comap fun _ => .fetch).Along (fun s op => Fetches s.2 s.1.pc op)
        (cpu, bus) ops →
      (stepper cpu bus).answers report (cpu, bus) (List.replicate ops.length .fetch) =
          (stepper cpu bus).answers report (cpu, bus) (ops.map .inject) ∧
        (stepper cpu bus).run (cpu, bus) (List.replicate ops.length .fetch) =
          (stepper cpu bus).run (cpu, bus) (ops.map .inject)) ∧
    ∀ (cpu : CPU) (bus : β) (op op' : Word), op &&& 0x3 ≠ 0x3 → u16 op = u16 op' →
      (cpu.stepOpcode bus op).2 = (cpu.stepOpcode bus op').2 := by
  refine ⟨fun cpu bus op h => step_eq_stepOpcode cpu h, fun cpu bus ops h => ?_,
    fun cpu bus op op' hlow h => stepOpcode_low cpu bus hlow h⟩
  -- both drive the same state: fetching from memory, injecting what the memory holds
  have hsame := Machine.lockstep (N := (stepper cpu bus).comap .inject)
    (fun s _ => report s .fetch) (fun s op => report s (.inject op))
    (R := fun s t => s = t) (fun s t op hst hfetch => by
      subst hst
      have hstep := step_eq_stepOpcode s.1 hfetch
      exact ⟨congrArg Prod.fst hstep, congrArg Prod.snd hstep⟩) rfl h
  have hlist : List.replicate ops.length Stimulus.fetch = ops.map fun _ => .fetch := by
    rw [List.map_const']
  rw [hlist, ← Machine.answers_comap, ← Machine.answers_comap, ← Machine.run_comap,
    ← Machine.run_comap]
  exact hsame

end

/-- An ADDI in memory, fetched and injected. -/
theorem injection_equals_fetch_addi :
    let _ := Rv32f.nanHost
    let memory : SimpleMemory := { mem := some #[0x93, 0x00, 0x10, 0x00] }
    let cpu := CPU.new {}
    cpu.step memory = cpu.stepOpcode memory 0x00100093 ∧
      (stepper cpu memory).run (cpu, memory) [.fetch] =
        (stepper cpu memory).run (cpu, memory) [.inject 0x00100093] := by
  intro _ memory cpu
  have hfetch : Fetches memory cpu.pc 0x00100093 := ⟨0x0093, by decide, 0x0010, by decide, by decide⟩
  have h := injection_equals_fetch (β := SimpleMemory)
  exact ⟨h.1 cpu memory _ hfetch, (h.2.1 cpu memory [0x00100093] ⟨hfetch, trivial⟩).2⟩

end Riscv

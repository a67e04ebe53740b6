import Riscv.BusAccess
import Riscv.Dispatch
import Riscv.PcInvariant

/- The bus transactions of a step.

   A step fetches its parcels and then makes the data accesses of one instruction;
   a step that delivers an interrupt makes none. The log of a traced bus shows that
   these are the calls really made, in this order. -/
namespace Riscv

open Zicsr Run

section
variable {β : Type} [Bus β]

/-! ## The dispatch -/

/-- The exception the result record reports. -/
def CPUExecResult.exception (r : CPUExecResult) : Option Word := exceptionOf r.trap r.trapCause

theorem exception_takeException (cpu : CPU) (r : CPUExecResult) (cause tval : Word)
    (info : String) : (cpu.takeException r cause tval info).1.exception = some cause := by
  unfold CPU.takeException
  dsimp only
  split <;> rfl

theorem exception_trapUnless (cpu : CPU) (valid : Bool) {r : CPUExecResult} (hr : r.trap = false)
    (cause tval : Word) (error : String) :
    (cpu.trapUnless valid r cause tval error).1.exception = exceptionOf (!valid) cause := by
  cases valid with
  | true =>
    unfold CPU.trapUnless CPUExecResult.exception
    rw [if_pos rfl, hr]
    rfl
  | false => exact exception_takeException cpu r cause tval error

/-- Whether the word a step executes goes to the A extension. -/
def atomicAccess (cpu : CPU) (instr : Word) (is32bit : Bool) : Bool :=
  is32bit && (cpu.config.enableAExtension && Rv32a.isAtomicInstruction instr)

section
variable {cpu : CPU} {instr : Word} {result : CPUExecResult} {bus : β}

/-- The statement about executing an instruction. -/
def DataSpec (amo atomic allow : Bool) (bus : β) (out : CPUExecResult × CPU × β) : Prop :=
  Accessed amo atomic allow out.1.exception bus out.2.2

theorem DataSpec.noBus {amo atomic allow : Bool} (cpu : CPU) (valid : Bool) {r : CPUExecResult}
    (hr : r.trap = false) (tval : Word) (error : String) : DataSpec amo atomic allow bus
      ((cpu.trapUnless valid r Exc.illegalInstruction tval error).1,
        (cpu.trapUnless valid r Exc.illegalInstruction tval error).2, bus) := by
  unfold DataSpec
  rw [exception_trapUnless cpu valid hr]
  cases valid <;> exact .silent rfl

theorem DataSpec.raised {amo atomic allow : Bool} (cpu : CPU) (r : CPUExecResult) {cause : Word}
    (hcause : isAccessFault cause = false) (tval : Word) (error : String) :
    DataSpec amo atomic allow bus ((cpu.takeException r cause tval error).1,
      (cpu.takeException r cause tval error).2, bus) := by
  unfold DataSpec
  rw [exception_takeException]
  exact .silent hcause

theorem DataSpec.retired {amo atomic allow : Bool} {r : CPUExecResult} (hr : r.trap = false)
    (cpu : CPU) : DataSpec amo atomic allow bus (r, cpu, bus) := by
  unfold DataSpec CPUExecResult.exception
  dsimp only
  rw [hr]
  exact .silent rfl

theorem executeZicsr_accessed {amo atomic allow : Bool} (hr : result.trap = false) :
    DataSpec amo atomic allow bus
      ((cpu.executeZicsr instr result).1, (cpu.executeZicsr instr result).2, bus) := by
  unfold CPU.executeZicsr
  dsimp only
  split
  · exact .raised _ _ rfl _ _
  rcases Zicsr.execute_cases (Zicsr.decode instr) cpu.regs cpu.csrs with ⟨error, h⟩ | ⟨hvalid, -⟩
  · rw [h]
    exact .noBus cpu false (by exact hr) _ _
  · rw [hvalid]
    exact .retired hr _

theorem executeBase_accessed (hr : result.trap = false) :
    DataSpec false false cpu.iExecutor.allowMisaligned bus (cpu.executeBase instr bus result) := by
  have hspec := cpu.iExecutor.execute_accessed (cpu.iDecoder.decode instr) cpu.regs bus cpu.pc
  unfold CPU.executeBase CPU.finishBase
  dsimp only
  -- a privileged instruction leaves the bus alone, whatever the CPU makes of it
  cases hpriv : (cpu.iDecoder.decode instr).type.isPrivileged with
  | true =>
    rw [cpu.iExecutor.execute_privileged hpriv]
    dsimp only
    split
    · split
      · exact .raised _ _ rfl _ _
      · exact .retired hr _
    split
    · split
      · exact .raised _ _ rfl _ _
      · exact .retired hr _
    split
    · split
      · exact .raised _ _ rfl _ _
      · exact .retired hr _
    split
    · split
      · exact .raised _ _ rfl _ _
      · exact .retired hr _
    · exact .retired hr _
  | false =>
    obtain ⟨hm, hs, hf, hw⟩ := cpu.iExecutor.execute_unprivileged hpriv cpu.regs bus cpu.pc
    rw [hm, hs, hf, hw]
    simp only [if_false, Bool.false_eq_true]
    unfold DataSpec
    rw [exception_trapUnless _ _ (by exact hr), Bool.not_not]
    exact hspec

theorem executeA_accessed (allow : Bool) (hr : result.trap = false) :
    DataSpec (Rv32a.isAmo (Rv32a.decode instr).type) true allow bus
      (cpu.executeA instr bus result) := by
  unfold CPU.executeA DataSpec
  dsimp only
  rw [exception_trapUnless _ _ (by exact hr)]
  exact Rv32a.execute_accessed (Rv32a.decode instr) cpu.regs bus cpu.reservation

theorem executeC_accessed {cInstr : BitVec 16} (hr : result.trap = false) :
    DataSpec false false cpu.cExecutor.allowMisaligned bus (cpu.executeC cInstr bus result) := by
  unfold CPU.executeC DataSpec
  dsimp only
  rw [exception_trapUnless _ _ (by exact hr), Bool.not_not]
  exact cpu.cExecutor.execute_accessed (Rv32c.decode cInstr) cpu.regs bus cpu.pc

theorem executeFc_accessed {cInstr : BitVec 16} (hr : result.trap = false) :
    DataSpec false false cpu.fcExecutor.allowMisaligned bus (cpu.executeFc cInstr bus result) := by
  unfold CPU.executeFc DataSpec
  dsimp only
  rw [exception_trapUnless _ _ (by exact hr)]
  exact cpu.fcExecutor.execute_accessed (Rv32fc.decode cInstr) cpu.regs cpu.fregs bus

variable [Rv32f.HostFloat]

theorem executeF_accessed (hr : result.trap = false) :
    DataSpec false false cpu.fExecutor.allowMisaligned bus (cpu.executeF instr bus result) := by
  unfold CPU.executeF DataSpec
  dsimp only
  rw [exception_trapUnless _ _ (by exact hr)]
  exact cpu.fExecutor.execute_accessed (Rv32f.decode instr)
    { iregs := cpu.regs, fregs := cpu.fregs, bus := bus } _

theorem executeAs_accessed (hr : result.trap = false) {e : Extension} (he : e ≠ .rv32a) :
    DataSpec false false cpu.config.allowMisalignedData bus
      (cpu.syncExecutorConfig.executeAs e instr bus result) := by
  unfold CPU.executeAs
  cases e <;> dsimp only
  case rv32i => exact executeBase_accessed hr
  case rv32a => exact absurd rfl he
  case rv32f => exact executeF_accessed hr
  case zicsr => exact executeZicsr_accessed hr
  case rv32c => exact executeC_accessed hr
  case rv32fc => exact executeFc_accessed hr
  all_goals exact .noBus _ _ (by exact hr) _ _

/-- **Executing an instruction**, compressed or not. -/
theorem executeParcels_accessed (hr : result.trap = false) (is32bit : Bool) :
    DataSpec (amoAccess cpu instr is32bit) (atomicAccess cpu instr is32bit)
      cpu.config.allowMisalignedData bus
      (cpu.syncExecutorConfig.executeParcels instr is32bit bus result) := by
  cases is32bit with
  | false =>
    unfold CPU.executeParcels CPU.executeCompressed
    simp only [Bool.not_false, if_true]
    split
    · exact .raised _ _ rfl _ _
    split
    · exact executeFc_accessed hr
    · exact executeC_accessed hr
  | true =>
    show DataSpec _ _ _ bus (cpu.syncExecutorConfig.execute32bit instr bus result)
    rw [execute32bit_eq]
    have hconfig : cpu.syncExecutorConfig.config = cpu.config := rfl
    rw [hconfig]
    unfold amoAccess atomicAccess
    cases hatomic : cpu.config.enableAExtension && Rv32a.isAtomicInstruction instr with
    | true =>
      obtain ⟨henabled, htest⟩ := Bool.and_eq_true_iff.mp hatomic
      rw [dispatch32_of_test (e := .rv32a) (by decide) henabled htest]
      exact executeA_accessed _ hr
    | false =>
      refine executeAs_accessed hr fun hdispatch => ?_
      have hclaims := @dispatch32_claims cpu.config instr (by rw [hdispatch]; decide)
      rw [hdispatch] at hclaims
      exact absurd (Bool.and_eq_true_iff.mpr hclaims) (Bool.eq_false_iff.mp hatomic)

end

/-! ## The fetch -/

/-- The calls of a fetch: the parcel at the pc and, when its low bits are 11, the
one above it. -/
def fetchEvents (bus : β) (pc : Word) : List BusEvent :=
  match Bus.fetch16 bus pc with
  | (.error _, _) => [⟨.fetch16 pc, false⟩]
  | (.ok parcel0, bus₁) =>
    if parcel0 &&& 0x3 = 0x3 then
      [⟨.fetch16 pc, true⟩, ⟨.fetch16 (pc + 2), (Bus.fetch16 bus₁ (pc + 2)).1.isOk⟩]
    else [⟨.fetch16 pc, true⟩]

/-- The calls that obtain the instruction of a step. -/
def CPU.supplyEvents (cpu : CPU) (bus : β) : Stimulus → List BusEvent
  | .fetch => fetchEvents bus cpu.pc
  | .inject _ => []

theorem supply_calls (cpu : CPU) (bus : β) (stim : Stimulus) :
    Calls bus (cpu.supplyEvents bus stim) (cpu.supply bus stim).2 := by
  cases stim with
  | inject opcode => exact .nil bus
  | fetch =>
    unfold CPU.supplyEvents CPU.supply fetchEvents CPU.fetch
    dsimp only
    rcases hcall : Bus.fetch16 bus cpu.pc with ⟨_ | parcel0, bus₁⟩
    · exact Calls.of_call (.fetch16 cpu.pc) rfl hcall
    have hfirst := Calls.of_call (.fetch16 cpu.pc) rfl hcall
    dsimp only
    split
    · rcases hcall' : Bus.fetch16 bus₁ (cpu.pc + 2) with ⟨_ | parcel1, bus₂⟩
      · exact hfirst.append (Calls.of_call (.fetch16 (cpu.pc + 2)) rfl hcall')
      · exact hfirst.append (Calls.of_call (.fetch16 (cpu.pc + 2)) rfl hcall')
    · exact hfirst

theorem supply_failed {cpu : CPU} {bus : β} {stim : Stimulus} {e : BusEvent}
    (he : e ∈ cpu.supplyEvents bus stim) (hok : e.ok = false) :
    ∃ addr, (cpu.supply bus stim).1 = .error addr := by
  cases stim with
  | inject opcode => cases he
  | fetch =>
    unfold CPU.supplyEvents fetchEvents at he
    unfold CPU.supply CPU.fetch
    dsimp only at he ⊢
    rcases hcall : Bus.fetch16 bus cpu.pc with ⟨_ | parcel0, bus₁⟩
    · exact ⟨_, rfl⟩
    rw [hcall] at he
    dsimp only at he ⊢
    -- the second half is fetched only where the first says 32 bits
    split at he
    · rename_i hlow
      rw [if_pos hlow]
      rcases List.mem_cons.mp he with rfl | he
      · cases hok
      rw [List.mem_singleton.mp he] at hok
      rcases hcall' : Bus.fetch16 bus₁ (cpu.pc + 2) with ⟨_ | parcel1, bus₂⟩
      · exact ⟨_, rfl⟩
      · rw [hcall'] at hok
        cases hok
    · rw [List.mem_singleton.mp he] at hok
      cases hok

theorem supplyEvents_even {cpu : CPU} (hpc : cpu.pc.toNat % 2 = 0) (bus : β) (stim : Stimulus) :
    ∀ e ∈ cpu.supplyEvents bus stim, e.op.addr.toNat % 2 = 0 := by
  cases stim with
  | inject opcode => simp [CPU.supplyEvents]
  | fetch =>
    unfold CPU.supplyEvents fetchEvents
    dsimp only
    split
    · simpa [BusOp.addr] using hpc
    split
    · simp [BusOp.addr, hpc]
    · simpa [BusOp.addr] using hpc

/-! ## Steps -/

/-- Whether the word a step executes goes to the A extension. -/
def CPU.suppliesAtomic (cpu : CPU) : Except Word (Word × Bool) → Bool
  | .ok (instr, is32bit) => atomicAccess cpu instr is32bit
  | .error _ => false

/-- The discipline of the calls of a step that reported `r`: first `fetches`, then
`data`. -/
structure BusDiscipline (cpu : CPU) (bus : β) (stim : Stimulus) (r : CPUExecResult)
    (fetches data : List BusEvent) : Prop where
  interrupt : r.interrupt = true → fetches = [] ∧ data = []
  fetched : r.interrupt = false → fetches = cpu.supplyEvents bus stim
  even : ∀ e ∈ fetches, e.op.addr.toNat % 2 = 0
  failed : ∀ e ∈ fetches, e.ok = false → data = []
  dataOnly : ∀ e ∈ data, e.op.isFetch = false
  reads : (data.filter fun e => !e.op.isWrite).length ≤ 1
  writes : (data.filter fun e => e.op.isWrite).length ≤ 1
  both : ∀ read ∈ data, ∀ write ∈ data, read.op.isWrite = false → write.op.isWrite = true →
    cpu.suppliesAmo (cpu.supply bus stim).1 = true ∧
      ∃ addr v ok, data = [⟨.read32 addr, true⟩, ⟨.write32 addr v, ok⟩]
  atomic : cpu.suppliesAtomic (cpu.supply bus stim).1 = true →
    ∀ e ∈ data, e.op.addr.toNat % 4 = 0
  natural : cpu.config.allowMisalignedData = false →
    ∀ e ∈ data, e.op.addr.toNat % e.op.size = 0
  quiet : r.trap = true → isAccessFault r.trapCause = false → data = []
  unwritten : r.trap = true → isAccessFault r.trapCause = true →
    ∀ e ∈ data, e.op.isWrite = true → e.ok = false

theorem BusDiscipline.silent {cpu : CPU} {bus : β} {stim : Stimulus} {r : CPUExecResult}
    {fetches : List BusEvent} (hinterrupt : r.interrupt = true → fetches = [])
    (hfetched : r.interrupt = false → fetches = cpu.supplyEvents bus stim)
    (heven : ∀ e ∈ fetches, e.op.addr.toNat % 2 = 0) :
    BusDiscipline cpu bus stim r fetches [] where
  interrupt := fun h => ⟨hinterrupt h, rfl⟩
  fetched := hfetched
  even := heven
  failed := fun _ _ _ => rfl
  dataOnly := nofun
  reads := Nat.zero_le 1
  writes := Nat.zero_le 1
  both := nofun
  atomic := nofun
  natural := nofun
  quiet := fun _ _ => rfl
  unwritten := nofun

variable [Rv32f.HostFloat]

theorem stepOn_interrupt_flag {config : CPUConfig} {cpu : CPU} (h : cpu.WellFormed config)
    (bus : β) (stim : Stimulus) : (cpu.stepOn bus stim).1.interrupt = cpu.selected.isSome := by
  cases step_outcome h bus stim with
  | interrupt selected step _ =>
    rw [selected]
    exact step.interrupt
  | exception selected step _ =>
    rw [selected]
    exact step.interrupt
  | retire selected _ step _ _ _ _ _ =>
    rw [selected]
    exact step.interrupt
  | mret selected _ step _ _ _ _ _ =>
    rw [selected]
    exact step.interrupt
  | sret selected _ step _ _ _ _ _ _ _ =>
    rw [selected]
    exact step.interrupt

/-- **One step.** -/
theorem step_discipline {config : CPUConfig} {cpu : CPU} (h : cpu.WellFormed config)
    (hpc : cpu.pc.toNat % 2 = 0) (bus : β) (stim : Stimulus) :
    ∃ fetches data bus₁, Calls bus fetches bus₁ ∧ Calls bus₁ data (cpu.stepOn bus stim).2.2 ∧
      BusDiscipline cpu bus stim (cpu.stepOn bus stim).1 fetches data := by
  have hcalls := supply_calls cpu bus stim
  have heven := supplyEvents_even hpc bus stim
  have hflag := stepOn_interrupt_flag h bus stim
  -- an interrupt makes no call at all
  cases hsel : cpu.selected with
  | some c =>
    rw [hsel] at hflag
    refine ⟨[], [], bus, .nil bus, ?_, .silent (fun _ => rfl) (fun hnot => ?_) nofun⟩
    · rw [CPU.stepOn_interrupt hsel]
      exact .nil bus
    · rw [hflag] at hnot
      cases hnot
  | none =>
    rw [hsel] at hflag
    have hnever : (cpu.stepOn bus stim).1.interrupt = true → False := by
      intro hint
      rw [hflag] at hint
      cases hint
    -- a step whose fetch failed ends there; otherwise the executor answers for the data
    rcases hsup : cpu.supply bus stim with ⟨addr | ⟨instr, is32bit⟩, bus₁⟩
    · rw [hsup] at hcalls
      refine ⟨_, [], bus₁, hcalls, ?_, .silent (fun hint => (hnever hint).elim) (fun _ => rfl) heven⟩
      rw [CPU.stepOn_fault hsel hsup]
      exact .nil bus₁
    · rw [hsup] at hcalls
      have hspec : DataSpec (amoAccess cpu instr is32bit) (atomicAccess cpu instr is32bit)
          cpu.config.allowMisalignedData bus₁ (cpu.syncExecutorConfig.executeParcels instr is32bit
            bus₁ { cpu.initResult with instruction := instr }) :=
        executeParcels_accessed rfl is32bit
      have hexec := CPU.stepOn_execute hsel hsup
      obtain ⟨es, hes, haccesses⟩ := hspec
      refine ⟨_, es, bus₁, hcalls, by rw [hexec]; exact hes, ?_⟩
      have hexception : (cpu.stepOn bus stim).1.exception = _ := congrArg (·.1.exception) hexec
      replace haccesses : Accesses _ _ _ (cpu.stepOn bus stim).1.exception es :=
        hexception ▸ haccesses
      have htrapped : (cpu.stepOn bus stim).1.trap = true →
          (cpu.stepOn bus stim).1.exception = some (cpu.stepOn bus stim).1.trapCause := by
        intro ht
        unfold CPUExecResult.exception exceptionOf
        rw [if_pos ht]
      exact {
        interrupt := fun hint => (hnever hint).elim
        fetched := fun _ => rfl
        even := heven
        failed := by
          intro e he hok
          obtain ⟨addr, haddr⟩ := supply_failed he hok
          rw [hsup] at haddr
          cases haddr
        dataOnly := haccesses.data
        reads := haccesses.reads_le
        writes := haccesses.writes_le
        both := by
          intro r hr w hw hread hwrite
          rw [hsup]
          exact haccesses.both hr hw hread hwrite
        atomic := by
          intro hatomic e he
          rw [hsup] at hatomic
          exact (haccesses.placed e he).1 hatomic
        natural := fun hallow e he => (haccesses.placed e he).2 hallow
        quiet := by
          intro ht hc
          rw [htrapped ht] at haccesses
          exact haccesses.eq_nil hc
        unwritten := by
          intro ht _
          rw [htrapped ht] at haccesses
          exact haccesses.no_write }

/-! ## Runs -/

/-- **Bus discipline.** On a bus that logs its calls, a step in any state of any run
from an aligned reset vector appends its fetches and then the data accesses of one
instruction. -/
theorem bus_discipline_run (config : CPUConfig)
    (hreset : Aligned config.enableCExtension config.resetVector) (actions : List Action)
    (bus : β) (log : List BusEvent) (stim : Stimulus) :
    let cpu := (machine config).run (CPU.new config) actions
    let traced : Traced β := { bus := bus, log := log }
    let out := cpu.stepOn traced stim
    ∃ fetches data, out.2.2.log = log ++ fetches ++ data ∧
      BusDiscipline cpu traced stim out.1 fetches data := by
  intro cpu traced out
  have hreach : Reachable config cpu := ⟨actions, rfl⟩
  have hpc : cpu.pc.toNat % 2 = 0 := by
    have haligned := hreach.aligned hreset
    unfold Aligned ialignBytes at haligned
    split at haligned <;> omega
  obtain ⟨fetches, data, bus₁, hfetches, hdata, hdiscipline⟩ :=
    step_discipline hreach.wellFormed hpc traced stim
  refine ⟨fetches, data, ?_, hdiscipline⟩
  rw [Traced.log_calls hdata, Traced.log_calls hfetches]

end

/-- AMOADD.W on the word it was fetched from. -/
theorem bus_discipline_run_amoadd :
    let _ := Rv32f.nanHost
    let traced : Traced SimpleMemory :=
      { bus := ((SimpleMemory.new 4).write32 0 0x00A1202F).2, log := [] }
    let out := (CPU.new {}).stepOn traced .fetch
    out.2.2.log = [⟨.fetch16 0, true⟩, ⟨.fetch16 2, true⟩, ⟨.read32 0, true⟩,
        ⟨.write32 0 0x00A1202F, true⟩] ∧
      ∃ fetches data, out.2.2.log = [] ++ fetches ++ data ∧
        BusDiscipline (CPU.new {}) traced .fetch out.1 fetches data := by
  intro _ traced out
  exact ⟨by decide, bus_discipline_run {} (by decide) [] traced.bus [] .fetch⟩

end Riscv

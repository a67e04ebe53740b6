import Riscv.CsrStep
import Riscv.Memory

/- The counters over a run.

   Every step counts one cycle and, when neither trap nor interrupt is reported, one
   instruction. What a run adds is then a count of its reports, as long as software
   leaves the four registers alone. A write is followed by the count of its own
   step, so it stands only where the count does not reach the register written. -/
namespace Riscv

open Zicsr Run

/-! ## The halves of a counter -/

theorem counter_low (f : CSRFile) (lo hi : BitVec 16) :
    (counter f lo hi).setWidth 32 = f.get lo := by
  apply BitVec.eq_of_getLsbD_eq
  intro i hi'
  simp only [counter, BitVec.getLsbD_setWidth, BitVec.getLsbD_or, BitVec.getLsbD_shiftLeft]
  have hlow : i < 64 := by omega
  simp [hi', hlow]

theorem counter_high (f : CSRFile) (lo hi : BitVec 16) :
    (counter f lo hi >>> 32).setWidth 32 = f.get hi := by
  apply BitVec.eq_of_getLsbD_eq
  intro i hi'
  simp only [counter, BitVec.getLsbD_setWidth, BitVec.getLsbD_ushiftRight, BitVec.getLsbD_or,
    BitVec.getLsbD_shiftLeft]
  have hhigh : 32 + i < 64 := by omega
  have hlow : i < 64 := by omega
  have hsame : 32 + i - 32 = i := by omega
  simp [-BitVec.getLsbD_eq_getElem, hi', hhigh, hlow, hsame]

theorem low_succ_ne (c : BitVec 64) : ((c + 1).setWidth 32 : Word) ≠ c.setWidth 32 := by
  intro h
  have hone : (1 : BitVec 64).toNat = 1 := rfl
  have hnat := congrArg BitVec.toNat h
  simp only [BitVec.toNat_setWidth, BitVec.toNat_add, hone] at hnat
  omega

/-- Counting changes the high half when the low half carries. -/
theorem high_succ_eq_iff (c : BitVec 64) :
    (((c + 1) >>> 32).setWidth 32 : Word) = (c >>> 32).setWidth 32 ↔
      (c.setWidth 32 : Word) ≠ 0xFFFFFFFF := by
  have hc := c.isLt
  have hone : (1 : BitVec 64).toNat = 1 := rfl
  have hones : (0xFFFFFFFF : Word).toNat = 4294967295 := rfl
  rw [Ne, ← BitVec.toNat_inj, ← BitVec.toNat_inj]
  simp only [BitVec.toNat_setWidth, BitVec.toNat_ushiftRight, BitVec.toNat_add, hone, hones,
    Nat.shiftRight_eq_div_pow]
  omega

/-- What a CSR that shows half of a counter holds. -/
def counterValue (f : CSRFile) (a : BitVec 16) : Option Word :=
  if a = CsrAddr.cycle ∨ a = CsrAddr.time ∨ a = CsrAddr.mcycle then
    some ((cycleCount f).setWidth 32)
  else if a = CsrAddr.cycleh ∨ a = CsrAddr.timeh ∨ a = CsrAddr.mcycleh then
    some ((cycleCount f >>> 32).setWidth 32)
  else if a = CsrAddr.instret ∨ a = CsrAddr.minstret then some ((instretCount f).setWidth 32)
  else if a = CsrAddr.instreth ∨ a = CsrAddr.minstreth then
    some ((instretCount f >>> 32).setWidth 32)
  else none

/-- The user-level and the machine-level names read the same. -/
theorem read_counter {f : CSRFile} {a : BitVec 16} {v : Word} (h : counterValue f a = some v) :
    f.read a = v := by
  unfold counterValue at h
  simp only [cycleCount, instretCount, counter_low, counter_high] at h
  split at h
  · rename_i ha
    cases h
    rcases ha with rfl | rfl | rfl <;> rfl
  split at h
  · rename_i ha
    cases h
    rcases ha with rfl | rfl | rfl <;> rfl
  split at h
  · rename_i ha
    cases h
    rcases ha with rfl | rfl <;> rfl
  split at h
  · rename_i ha
    cases h
    rcases ha with rfl | rfl <;> rfl
  · cases h

/-! ## One step -/

/-- An instruction retired. -/
def CPUExecResult.retired (result : CPUExecResult) : Bool := !result.trap && !result.interrupt

theorem CPUExecResult.retired_eq_true {result : CPUExecResult} (htrap : result.trap = false)
    (hinterrupt : result.interrupt = false) : result.retired = true := by
  rw [retired, htrap, hinterrupt]
  rfl

theorem CPUExecResult.retired_eq_false {result : CPUExecResult}
    (h : result.trap = true ∨ result.interrupt = true) : result.retired = false := by
  rcases h with h | h <;> simp [retired, h]

theorem counter_not_mem (bs : List (BitVec 16)) {a : BitVec 16} (ha : a ∈ counterCsrs)
    (hbs : (counterCsrs.all fun c => decide (c ∉ bs)) = true) : a ∉ bs :=
  of_decide_eq_true (List.all_eq_true.mp hbs a ha)

/-- Only the CSR instructions write the counters by name. -/
theorem QuietCsrs.counters {cpu : CPU} {csrs : CSRFile} (h : QuietCsrs cpu csrs) {a : BitVec 16}
    (ha : a ∈ counterCsrs) : csrs.csrs a = cpu.csrs.csrs a := by
  have hne := counter_not_mem [CsrAddr.fcsr, CsrAddr.mstatus] ha (by decide)
  simp only [List.mem_cons, List.not_mem_nil, or_false, not_or] at hne
  exact h.csrs_ne hne.1 hne.2

theorem write_counters (f : CSRFile) {a b : BitVec 16} (v : Word) (ha : a ∉ counterCsrs)
    (hb : b ∈ counterCsrs) : (f.write a v).csrs b = f.csrs b := by
  have hall : (counterCsrs.all fun c => decide (viewsOf c = [])) = true := by decide
  have hviews : viewsOf b = [] := of_decide_eq_true (List.all_eq_true.mp hall b hb)
  refine write_csrs_kept f v ?_
  rw [hviews, List.mem_singleton]
  rintro rfl
  exact ha hb

/-- The CSR file a step counts in: the one its instruction or its trap leaves. -/
structure Counted (cpu : CPU) (out : CPUExecResult × CPU) (csrs : CSRFile) : Prop where
  csrs_eq : out.2.csrs = countStep csrs (!out.1.retired)
  kept : ∀ a ∈ counterCsrs, csrs.csrs a = cpu.csrs.csrs a

theorem Counted.cycle {cpu : CPU} {out : CPUExecResult × CPU} {csrs : CSRFile}
    (h : Counted cpu out csrs) : cycleCount out.2.csrs = cycleCount cpu.csrs + 1 := by
  rw [h.csrs_eq, countStep_cycle]
  exact congrArg (· + 1) (counter_congr (h.kept _ (by decide)) (h.kept _ (by decide)))

theorem Counted.instret {cpu : CPU} {out : CPUExecResult × CPU} {csrs : CSRFile}
    (h : Counted cpu out csrs) :
    instretCount out.2.csrs =
      if out.1.retired then instretCount cpu.csrs + 1 else instretCount cpu.csrs := by
  have hsame : instretCount csrs = instretCount cpu.csrs :=
    counter_congr (h.kept _ (by decide)) (h.kept _ (by decide))
  rw [h.csrs_eq, countStep_instret, hsame]
  cases out.1.retired <;> rfl

section
variable [Rv32f.HostFloat]

/-- **Every step counts once**, in a file whose counters are as before unless a CSR
instruction wrote them. -/
theorem step_counted {config : CPUConfig} {cpu : CPU} (h : cpu.WellFormed config) {β : Type}
    [Bus β] (bus : β) (stim : Stimulus)
    (hleaves : ∀ a v, cpu.csrWrite bus stim = some (a, v) → a ∉ counterCsrs) :
    ∃ csrs, Counted cpu ((cpu.stepOn bus stim).1, (cpu.stepOn bus stim).2.1) csrs := by
  cases hw : cpu.csrWrite bus stim with
  | some write =>
    obtain ⟨a, v⟩ := write
    obtain ⟨-, -, htrap, hinterrupt, hcsrs⟩ := csrWrite_some h hw
    refine ⟨cpu.csrs.write a v, ?_, fun b hb => write_counters cpu.csrs v (hleaves a v hw) hb⟩
    rw [CPUExecResult.retired_eq_true htrap hinterrupt]
    exact hcsrs
  | none =>
    -- a step that writes no CSR traps, or changes registers that are no counters
    rcases csrWrite_none h hw with ⟨hflag, taken⟩ | ⟨⟨htrap, hinterrupt⟩, csrs, hquiet, hcsrs⟩
    · obtain ⟨target, cause, tval, csrs, -, hentered, hcsrs⟩ := taken
      have hkept : ∀ a ∈ counterCsrs, csrs.csrs a = cpu.csrs.csrs a := by
        intro a ha
        exact hentered.others a (counter_not_mem _ ha (by cases target <;> decide))
      refine ⟨csrs, ?_, hkept⟩
      rw [CPUExecResult.retired_eq_false hflag]
      exact hcsrs
    · refine ⟨csrs, ?_, fun a ha => hquiet.counters ha⟩
      rw [CPUExecResult.retired_eq_true htrap hinterrupt]
      exact hcsrs

/-! ## Every run -/

/-- What an action reports: the result of a step, and nothing otherwise. -/
def CPU.reports (cpu : CPU) : Action → Option CPUExecResult
  | @Action.step _ _ bus stim => some (cpu.stepOn bus stim).1
  | .line _ _ => none
  | .reset => none

/-- A step that writes no counter by name, or a change of a line. -/
def LeavesCounters (cpu : CPU) : Action → Prop
  | @Action.step _ _ bus stim => ∀ a v, cpu.csrWrite bus stim = some (a, v) → a ∉ counterCsrs
  | .line _ _ => True
  | .reset => False

omit [Rv32f.HostFloat] in
theorem LeavesCounters.of_none {cpu : CPU} {β : Type} [Bus β] {bus : β} {stim : Stimulus}
    (h : cpu.csrWrite bus stim = none) : LeavesCounters cpu (.step bus stim) := by
  intro a v hwrite
  rw [h] at hwrite
  cases hwrite

/-- The results a run reports, in order. -/
def runResults (config : CPUConfig) (cpu : CPU) (actions : List Action) : List CPUExecResult :=
  ((machine config).answers CPU.reports cpu actions).filterMap id

end

theorem setLine_csrs (cpu : CPU) (line : InterruptLine) (level : Bool) {a : BitVec 16}
    (ha : a ≠ CsrAddr.mip) : (cpu.setLine line level).csrs.csrs a = cpu.csrs.csrs a := by
  cases line <;> exact set_csrs_ne _ _ ha

section
variable [Rv32f.HostFloat]

/-- What a run adds to the counters. -/
theorem run_counted {config : CPUConfig} {cpu : CPU} (h : cpu.WellFormed config)
    {actions : List Action} (hleaves : (machine config).Along LeavesCounters cpu actions) :
    let results := runResults config cpu actions
    let cpu' := (machine config).run cpu actions
    cycleCount cpu'.csrs = cycleCount cpu.csrs + BitVec.ofNat 64 results.length ∧
      instretCount cpu'.csrs =
        instretCount cpu.csrs + BitVec.ofNat 64 (results.countP CPUExecResult.retired) := by
  induction actions generalizing cpu with
  | nil => simp [runResults, Machine.answers]
  | cons a actions ih =>
    obtain ⟨hcycle, hinstret⟩ := ih (h.act a) hleaves.2
    have hallowed := hleaves.1
    -- the first action, then what the rest adds
    cases a with
    | reset => exact hallowed.elim
    | line line level =>
      have hsame : ∀ lo hi, lo ≠ CsrAddr.mip → hi ≠ CsrAddr.mip →
          counter (cpu.setLine line level).csrs lo hi = counter cpu.csrs lo hi := by
        intro lo hi hlo hhi
        exact counter_congr (setLine_csrs cpu line level hlo) (setLine_csrs cpu line level hhi)
      refine ⟨hcycle.trans ?_, hinstret.trans ?_⟩
      · exact congrArg (· + _) (hsame _ _ (by decide) (by decide))
      · exact congrArg (· + _) (hsame _ _ (by decide) (by decide))
    | @step β _ bus stim =>
      obtain ⟨csrs, hcounted⟩ := step_counted h bus stim hallowed
      have hresults : runResults config cpu (Action.step bus stim :: actions) =
          (cpu.stepOn bus stim).1 :: runResults config (cpu.act (.step bus stim)) actions := rfl
      refine ⟨hcycle.trans ?_, hinstret.trans ?_⟩
      · rw [hresults, List.length_cons, Nat.add_comm, BitVec.ofNat_add, ← BitVec.add_assoc]
        exact congrArg (· + _) hcounted.cycle
      · rw [hresults, List.countP_cons, Nat.add_comm, BitVec.ofNat_add, ← BitVec.add_assoc]
        refine congrArg (· + _) (hcounted.instret.trans ?_)
        cases (cpu.stepOn bus stim).1.retired <;> simp

/-- **The counters count.** After any run, a further run whose CSR instructions leave
the counters alone adds the number of its steps to the cycle counter and the number
of its retired instructions to the other; and a CSR instruction that reads half of
a counter, by either name, gets the value before its own step. -/
theorem counters_run (config : CPUConfig) (before actions : List Action) :
    let cpu := (machine config).run (CPU.new config) before
    ((machine config).Along LeavesCounters cpu actions →
      let results := runResults config cpu actions
      let cpu' := (machine config).run cpu actions
      cycleCount cpu'.csrs = cycleCount cpu.csrs + BitVec.ofNat 64 results.length ∧
        instretCount cpu'.csrs =
          instretCount cpu.csrs + BitVec.ofNat 64 (results.countP CPUExecResult.retired)) ∧
    ∀ {β : Type} [Bus β] (bus : β) (stim : Stimulus) (d : DecodedCSRInstr) (v : Word),
      cpu.csrInstr bus stim = some d → willRead d = true → counterValue cpu.csrs d.csr = some v →
        (cpu.stepOn bus stim).1.trap = false →
          (cpu.stepOn bus stim).2.1.regs = cpu.regs.write d.rd v := by
  intro cpu
  have hwell : cpu.WellFormed config := Reachable.wellFormed ⟨before, rfl⟩
  refine ⟨fun hleaves => run_counted hwell hleaves, ?_⟩
  intro β _ bus stim d v hd hread hvalue htrap
  have hdone := csr_done hwell hd htrap
  rw [hdone.regs, CPU.csrRead, if_pos hread, read_counter hvalue]

omit [Rv32f.HostFloat] in
/-- From the last value of the low cycle word: an addition, an illegal instruction and an
addition. A read of cycle in place of the first gets that value. -/
theorem counters_run_carry :
    let _ := Rv32f.nanHost
    let mem := SimpleMemory.new 0
    let inject := List.map fun op => Action.step mem (.inject op)
    let before := inject [0xFFE00093, 0xB0009073]
    let actions := inject [0x00000013, 0, 0x00000013]
    let cpu := (machine {}).run (CPU.new {}) before
    let cpu' := (machine {}).run cpu actions
    cycleCount cpu.csrs = 0xFFFFFFFF ∧
      cycleCount cpu'.csrs = cycleCount cpu.csrs + 3 ∧
      instretCount cpu'.csrs = instretCount cpu.csrs + 2 ∧
      (cpu.stepOn mem (.inject 0xC0002173)).2.1.regs = cpu.regs.write 2 0xFFFFFFFF := by
  intro _ mem inject before actions cpu cpu'
  have hleaves : (machine {}).Along LeavesCounters cpu actions := by
    refine ⟨.of_none ?_, .of_none ?_, .of_none ?_, trivial⟩ <;> decide
  have hrun := counters_run {} before actions
  obtain ⟨hcycle, hinstret⟩ := hrun.1 hleaves
  have hread := hrun.2 mem (.inject 0xC0002173) (Zicsr.decode 0xC0002173) 0xFFFFFFFF
    (by decide) (by decide) (by decide) (by decide)
  have hretired : (runResults {} cpu actions).countP CPUExecResult.retired = 2 := by decide
  rw [hretired] at hinstret
  exact ⟨by decide, hcycle, hinstret, hread⟩

/-! ## Writes of minstret -/

/-- A step that delivers an interrupt, or a change of a line: no instruction is
executed. -/
def Idle (cpu : CPU) : Action → Prop
  | @Action.step _ _ _ _ => cpu.selected ≠ none
  | .line _ _ => True
  | .reset => False

/-- The next instruction executed gets `v` if it is a CSR instruction that reads
`a`. -/
def ReadsBack (config : CPUConfig) (cpu : CPU) (a : BitVec 16) (v : Word) : Prop :=
  ∀ idle, (machine config).Along Idle cpu idle →
    let cpu' := (machine config).run cpu idle
    ∀ {β : Type} [Bus β] (bus : β) (stim : Stimulus) (d : DecodedCSRInstr),
      cpu'.csrInstr bus stim = some d → d.csr = a → willRead d = true →
        (cpu'.stepOn bus stim).1.trap = false →
          (cpu'.stepOn bus stim).2.1.regs = cpu'.regs.write d.rd v

theorem Idle.instret {config : CPUConfig} {cpu : CPU} (h : cpu.WellFormed config) {a : Action}
    (hidle : Idle cpu a) : instretCount (cpu.act a).csrs = instretCount cpu.csrs := by
  cases a with
  | reset => exact hidle.elim
  | line line level =>
    exact counter_congr (setLine_csrs cpu line level (by decide))
      (setLine_csrs cpu line level (by decide))
  | @step β _ bus stim =>
    have hnone : ∀ a v, cpu.csrWrite bus stim = some (a, v) → a ∉ counterCsrs := by
      intro a v hwrite
      unfold CPU.csrWrite at hwrite
      cases hd : cpu.csrInstr bus stim with
      | none =>
        rw [hd] at hwrite
        cases hwrite
      | some d => exact absurd (csrInstr_eq_some hd).1 hidle
    -- a step that is idle delivers an interrupt, and retires nothing
    obtain ⟨c, hselected⟩ := Option.ne_none_iff_exists'.mp hidle
    have hretired : (cpu.stepOn bus stim).1.retired = false := by
      apply CPUExecResult.retired_eq_false
      rw [CPU.stepOn_interrupt hselected bus stim]
      exact .inr (interruptStep h hselected).interrupt
    obtain ⟨csrs, hcounted⟩ := step_counted h bus stim hnone
    refine hcounted.instret.trans ?_
    rw [hretired]
    rfl

theorem idle_run {config : CPUConfig} {cpu : CPU} (h : cpu.WellFormed config) {idle : List Action}
    (hidle : (machine config).Along Idle cpu idle) :
    ((machine config).run cpu idle).WellFormed config ∧
      instretCount ((machine config).run cpu idle).csrs = instretCount cpu.csrs := by
  let Kept : CPU → Prop := fun s => s.WellFormed config ∧
    instretCount s.csrs = instretCount cpu.csrs
  have hstep : ∀ s a, Kept s → Idle s a → Kept ((machine config).next s a) := by
    rintro s a ⟨hs, hcount⟩ ha
    exact ⟨hs.act a, (ha.instret hs).trans hcount⟩
  exact hidle.preserves hstep ⟨h, rfl⟩

theorem readsBack {config : CPUConfig} {cpu : CPU} (h : cpu.WellFormed config) {a : BitVec 16}
    {v : Word} (hvalue : ∀ f, instretCount f = instretCount cpu.csrs → counterValue f a = some v) :
    ReadsBack config cpu a v := by
  intro idle hidle cpu' β _ bus stim d hd hcsr hread htrap
  subst hcsr
  obtain ⟨hwell, hcount⟩ := idle_run h hidle
  have hdone := csr_done hwell hd htrap
  rw [hdone.regs, CPU.csrRead, if_pos hread, read_counter (hvalue _ hcount)]

/-- **When a write of minstret stands.** A CSR instruction that writes minstret or
minstreth leaves the value it writes, to be read by the next instruction, exactly
when it writes minstreth and minstret does not carry: the step counts the
instruction it retires after the write. -/
theorem instret_write_run (config : CPUConfig) (actions : List Action) {β : Type} [Bus β]
    (bus : β) (stim : Stimulus) (a : BitVec 16) (v : Word)
    (ha : a = CsrAddr.minstret ∨ a = CsrAddr.minstreth) :
    let cpu := (machine config).run (CPU.new config) actions
    cpu.csrWrite bus stim = some (a, v) →
      let cpu' := (cpu.stepOn bus stim).2.1
      ((cpu'.csrs.get a = v ∧ ReadsBack config cpu' a v) ↔
        (a = CsrAddr.minstreth ∧ cpu.csrs.get CsrAddr.minstret ≠ 0xFFFFFFFF)) := by
  intro cpu hwrite cpu'
  have hwell : cpu.WellFormed config := Reachable.wellFormed ⟨actions, rfl⟩
  have hcsrs : cpu'.csrs = countStep (cpu.csrs.write a v) false :=
    (csrWrite_some hwell hwrite).2.2.2.2
  -- the retirement is counted after the write
  have hcount : instretCount cpu'.csrs = instretCount (cpu.csrs.write a v) + 1 := by
    rw [hcsrs]
    exact countStep_instret _ false
  have hlow : cpu'.csrs.get CsrAddr.minstret = (instretCount cpu'.csrs).setWidth 32 :=
    (counter_low _ _ _).symm
  have hhigh : cpu'.csrs.get CsrAddr.minstreth = (instretCount cpu'.csrs >>> 32).setWidth 32 :=
    (counter_high _ _ _).symm
  rcases ha with rfl | rfl
  · -- the count of the step itself always reaches minstret
    have hwritten : (instretCount (cpu.csrs.write CsrAddr.minstret v)).setWidth 32 = v :=
      counter_low _ _ _
    constructor
    · rintro ⟨hget, -⟩
      rw [hlow, hcount] at hget
      exact absurd (hget.trans hwritten.symm) (low_succ_ne _)
    · rintro ⟨hne, -⟩
      exact absurd hne (by decide)
  · have hwritten : (instretCount (cpu.csrs.write CsrAddr.minstreth v) >>> 32).setWidth 32 = v :=
      counter_high _ _ _
    -- the high half takes the count only as a carry out of the low one
    have hcarry : (instretCount (cpu.csrs.write CsrAddr.minstreth v)).setWidth 32 =
        cpu.csrs.get CsrAddr.minstret := counter_low _ _ _
    have hiff : cpu'.csrs.get CsrAddr.minstreth = v ↔
        cpu.csrs.get CsrAddr.minstret ≠ 0xFFFFFFFF := by
      rw [hhigh, hcount, ← hcarry, ← high_succ_eq_iff, hwritten]
    constructor
    · rintro ⟨hget, -⟩
      exact ⟨rfl, hiff.mp hget⟩
    · rintro ⟨-, hne⟩
      refine ⟨hiff.mpr hne, readsBack (hwell.step bus stim) fun f hf => ?_⟩
      have hsame : counterValue f CsrAddr.minstreth = some ((instretCount f >>> 32).setWidth 32) :=
        rfl
      rw [hsame, hf, ← hiff.mpr hne, hhigh]

end

/-- minstreth := 5 at reset. -/
theorem instret_write_run_minstreth :
    let _ := Rv32f.nanHost
    let cpu' := ((CPU.new {}).stepOn (SimpleMemory.new 0) (.inject 0xB822D073)).2.1
    cpu'.csrs.get CsrAddr.minstreth = 5 ∧ ReadsBack {} cpu' CsrAddr.minstreth 5 := by
  intro _
  have h := (instret_write_run {} [] (SimpleMemory.new 0) (.inject 0xB822D073) CsrAddr.minstreth 5
    (.inr rfl) (by decide)).mpr ⟨rfl, by decide⟩
  rw [Machine.run_nil] at h
  exact h

/-- minstret := 5 at reset leaves 6, and 6 is read back. -/
theorem instret_write_lost :
    let _ := Rv32f.nanHost
    let cpu := CPU.new {}
    let cpu' := (cpu.stepOn (SimpleMemory.new 0) (.inject 0xB022D073)).2.1
    let out := cpu'.stepOn (SimpleMemory.new 0) (.inject 0xB02020F3)
    cpu.csrWrite (SimpleMemory.new 0) (.inject 0xB022D073) = some (CsrAddr.minstret, 5) ∧
      cpu'.csrs.get CsrAddr.minstret ≠ 5 ∧ out.1.trap = false ∧ out.2.1.regs.read 1 = 6 := by
  intro _ cpu cpu' out
  refine ⟨by decide, by decide, by decide, by decide⟩

end Riscv

import Riscv.CsrStep
import Riscv.Memory

/- Interrupt lines and the pending bits.

   A bit of mip has up to two writers, the line of its interrupt and the CSR
   instructions. The platform bits have one: they are the levels of their lines. The
   others are one cell for both writers, and what each of them asked for survives
   exactly as long as the other does not take it back. Without S-mode the bits of the
   supervisor interrupts in mie and mip are stored all the same. -/
namespace Riscv

open Zicsr Run

/-! ## The bits of a line -/

/-- The bit of mip a line drives. -/
def InterruptLine.bit : InterruptLine → Nat
  | external => 11
  | timer => 7
  | software => 3
  | supervisorExternal => 9
  | supervisorTimer => 5
  | supervisorSoftware => 1

/-- Whether the interrupt of a line is pending. -/
def CPU.pending (cpu : CPU) (line : InterruptLine) : Bool :=
  (cpu.csrs.read CsrAddr.mip).getLsbD line.bit

theorem setLine_pending (cpu : CPU) (l line : InterruptLine) (level : Bool) :
    (cpu.setLine l level).pending line = if l = line then level else cpu.pending line := by
  have hbit : ∀ b : Word, ((cpu.setMipBit b level).csrs.read CsrAddr.mip) =
      if level then cpu.csrs.get CsrAddr.mip ||| b else cpu.csrs.get CsrAddr.mip &&& ~~~b :=
    fun b => CSRFile.get_set_same cpu.csrs CsrAddr.mip _
  have hmip : cpu.csrs.read CsrAddr.mip = cpu.csrs.get CsrAddr.mip := rfl
  unfold CPU.pending
  rw [hmip]
  cases l <;> simp only [CPU.setLine, CPU.setExternalInterrupt, CPU.setTimerInterrupt,
    CPU.setSoftwareInterrupt, CPU.setSupervisorExternalInterrupt, CPU.setSupervisorTimerInterrupt,
    CPU.setSupervisorSoftwareInterrupt, hbit] <;> cases level <;> cases line <;>
    simp [InterruptLine.bit, CSRFile.miMei, CSRFile.miMti, CSRFile.miMsi, CSRFile.miSei,
      CSRFile.miSti, CSRFile.miSsi]

theorem reset_pending (cpu : CPU) (line : InterruptLine) : cpu.reset.pending line = false := by
  have hmip : cpu.reset.csrs.read CsrAddr.mip = 0 := by
    show (CPU.resetCsrs cpu.csrs cpu.config).get CsrAddr.mip = 0
    rw [resetCsrs_eq, CSRFile.get_set_ne _ _ (by decide), CSRFile.get_set_ne _ _ (by decide),
      CSRFile.get_setPrivilege, initStorage_get _ (by decide) (by decide)]
  unfold CPU.pending
  rw [hmip]
  exact BitVec.getLsbD_zero

/-! ## The bits software reaches -/

/-- The bits of mip a write of CSR `a` stores. -/
def softwareMask (f : CSRFile) (a : BitVec 16) : Word :=
  if a = CsrAddr.mip then f.mipWritableMask
  else if a = CsrAddr.sip ∧ f.sModeEnabled then CSRFile.miSsi &&& f.get CsrAddr.mideleg
  else 0

theorem write_mip_get (f : CSRFile) (a : BitVec 16) (v : Word) :
    (f.write a v).get CsrAddr.mip =
      (f.get CsrAddr.mip &&& ~~~(softwareMask f a)) ||| (v &&& softwareMask f a) := by
  have hnone : ∀ x : Word, x = (x &&& ~~~(0 : Word)) ||| (v &&& 0) := by
    intro x
    have hall : ~~~(0 : Word) = BitVec.allOnes 32 := rfl
    rw [hall, BitVec.and_allOnes]
    simp
  unfold softwareMask
  split
  · rename_i ha
    subst ha
    exact CSRFile.get_set_same _ _ _
  split
  · rename_i ha
    obtain ⟨rfl, hs⟩ := ha
    rw [write_sip, hs]
    exact CSRFile.get_set_same _ _ _
  · rename_i hmip hsip
    rw [← hnone]
    -- without S-mode sip is a name that writes nothing
    by_cases ha : a = CsrAddr.sip
    · subst ha
      have hs : f.sModeEnabled = false := by simpa using hsip
      rw [write_sip, hs]
      rfl
    · exact write_get_of_view f v hmip ha rfl

/-- The platform bits are out of reach. -/
theorem softwareMask_platform (f : CSRFile) (a : BitVec 16) :
    (softwareMask f a).getLsbD InterruptLine.timer.bit = false ∧
      (softwareMask f a).getLsbD InterruptLine.external.bit = false := by
  unfold softwareMask CSRFile.mipWritableMask
  split
  · split <;> decide
  split
  · simp [InterruptLine.bit, CSRFile.miSsi]
  · exact ⟨BitVec.getLsbD_zero, BitVec.getLsbD_zero⟩

section
variable [Rv32f.HostFloat] {β : Type} [Bus β]

theorem step_pending {config : CPUConfig} {cpu : CPU} (h : cpu.WellFormed config) (bus : β)
    (stim : Stimulus) (line : InterruptLine) :
    (cpu.stepOn bus stim).2.1.pending line =
      match cpu.csrWrite bus stim with
      | some (a, v) => if (softwareMask cpu.csrs a).getLsbD line.bit then v.getLsbD line.bit
        else cpu.pending line
      | none => cpu.pending line := by
  have hmip : ∀ f : CSRFile, f.read CsrAddr.mip = f.get CsrAddr.mip := fun _ => rfl
  -- of the parts of a step only a CSR write touches mip
  have hstep : (cpu.stepOn bus stim).2.1.csrs.get CsrAddr.mip =
      (cpu.writtenCsrs bus stim).get CsrAddr.mip :=
    congrArg (·.getD 0) (step_csr h bus stim (by decide))
  unfold CPU.pending
  rw [hmip, hstep]
  unfold CPU.writtenCsrs
  cases hw : cpu.csrWrite bus stim with
  | none => rfl
  | some write =>
    obtain ⟨a, v⟩ := write
    dsimp only
    rw [write_mip_get, hmip]
    have hlt : line.bit < 32 := by cases line <;> decide
    cases hmask : (softwareMask cpu.csrs a).getLsbD line.bit <;>
      simp [-BitVec.getLsbD_eq_getElem, BitVec.getLsbD_or, BitVec.getLsbD_and, hmask, hlt]

end

/-! ## The platform bits -/

/-- The level of a line after an action. -/
def levelAfter (line : InterruptLine) (level : Bool) : Action → Bool
  | @Action.step _ _ _ _ => level
  | .line l level' => if l = line then level' else level
  | .reset => false

/-- The level of the most recent call for a line since the last reset. -/
def lineLevel (line : InterruptLine) (actions : List Action) : Bool :=
  actions.foldl (levelAfter line) false

section
variable [Rv32f.HostFloat]

/-- A bit that no CSR instruction reaches is the level of its line. -/
theorem pending_eq_lineLevel (config : CPUConfig) (line : InterruptLine)
    (hline : ∀ f a, (softwareMask f a).getLsbD line.bit = false) (actions : List Action) :
    ((machine config).run (CPU.new config) actions).pending line = lineLevel line actions := by
  induction actions using List.reverseRecOn with
  | nil => exact reset_pending { config := config } line
  | append_singleton actions a ih =>
    have hwell : ((machine config).run (CPU.new config) actions).WellFormed config :=
      Reachable.wellFormed ⟨actions, rfl⟩
    rw [Machine.run_append, lineLevel, List.foldl_append, ← lineLevel, ← ih]
    generalize (machine config).run (CPU.new config) actions = cpu at hwell
    cases a with
    | line l level => exact setLine_pending cpu l line level
    | reset => exact reset_pending cpu line
    | step bus stim =>
      refine (step_pending hwell bus stim line).trans ?_
      cases hw : cpu.csrWrite bus stim with
      | none => rfl
      | some write =>
        dsimp only
        rw [hline, if_neg (by decide)]
        rfl

/-- **The platform bits belong to the platform.** After every run, MTIP and MEIP are
the levels the timer and the external line were last given, and no step changes
them. -/
theorem platform_bits_run (config : CPUConfig) (actions : List Action) :
    let cpu := (machine config).run (CPU.new config) actions
    (cpu.csrs.read CsrAddr.mip).getLsbD 7 = lineLevel .timer actions ∧
      (cpu.csrs.read CsrAddr.mip).getLsbD 11 = lineLevel .external actions ∧
      ∀ {β : Type} [Bus β] (bus : β) (stim : Stimulus),
        let cpu' := (cpu.stepOn bus stim).2.1
        (cpu'.csrs.read CsrAddr.mip).getLsbD 7 = (cpu.csrs.read CsrAddr.mip).getLsbD 7 ∧
          (cpu'.csrs.read CsrAddr.mip).getLsbD 11 = (cpu.csrs.read CsrAddr.mip).getLsbD 11 := by
  intro cpu
  have htimer := pending_eq_lineLevel config .timer
    (fun f a => (softwareMask_platform f a).1)
  have hexternal := pending_eq_lineLevel config .external
    (fun f a => (softwareMask_platform f a).2)
  refine ⟨htimer actions, hexternal actions, fun bus stim => ?_⟩
  -- a step is no action of a line, so the levels before and after it are one
  have hlevel : ∀ line, lineLevel line (actions ++ [.step bus stim]) = lineLevel line actions := by
    intro line
    unfold lineLevel
    rw [List.foldl_append]
    rfl
  have htimer' := htimer (actions ++ [.step bus stim])
  have hexternal' := hexternal (actions ++ [.step bus stim])
  rw [Machine.run_append, hlevel, ← htimer actions] at htimer'
  rw [Machine.run_append, hlevel, ← hexternal actions] at hexternal'
  exact ⟨htimer', hexternal'⟩

/-! ## Two writers of one bit -/

end

/-- What a CSR instruction asks of a bit. -/
def requestedBit (type : CSRInstrType) (old source : Bool) : Bool :=
  match type with
  | .csrrw | .csrrwi => source
  | .csrrs | .csrrsi => old || source
  | .csrrc | .csrrci => old && !source
  | .illegal => old

theorem requestedBit_mono {type : CSRInstrType} {old old' source : Bool}
    (h : old = true → old' = true) (hold : requestedBit type old source = true) :
    requestedBit type old' source = true := by
  cases type <;> cases old <;> cases source <;> simp_all [requestedBit]

/-- What was asked of the pending bits since the last reset: the level each line was
last given, and the value software last asked for. -/
structure LineHistory where
  level : InterruptLine → Bool
  requested : InterruptLine → Bool

/-- After a reset no line is raised and nothing was requested. -/
def LineHistory.start : LineHistory := { level := fun _ => false, requested := fun _ => false }

/-- Whether the CSR instruction of a step reaches the pending bit of a line. -/
def CPU.reaches (cpu : CPU) (d : DecodedCSRInstr) (line : InterruptLine) : Bool :=
  cpu.permits d && willWrite d && (softwareMask cpu.csrs d.csr).getLsbD line.bit

/-- The value software asks for after a step. -/
def CPU.requestedAfter {β : Type} [Bus β] (cpu : CPU) (bus : β) (stim : Stimulus)
    (line : InterruptLine) (old : Bool) : Bool :=
  match cpu.csrInstr bus stim with
  | some d =>
    if cpu.reaches d line then
      requestedBit d.type old ((sourceValue d cpu.regs).getLsbD line.bit)
    else old
  | none => old

/-- The history after an action taken in a state. -/
def LineHistory.after (cpu : CPU) (history : LineHistory) (a : Action) : LineHistory :=
  match a with
  | @Action.step _ _ bus stim =>
    { history with
      requested := fun line => cpu.requestedAfter bus stim line (history.requested line) }
  | .line _ _ => { history with level := fun line => levelAfter line (history.level line) a }
  | .reset => .start

/-- An interrupt is pending while its line is asserted, and while software asks for
it. -/
structure LineKept (line : InterruptLine) (s : CPU × LineHistory) : Prop where
  asserted : s.2.level line = true → s.1.pending line = true
  requested : s.2.requested line = true → s.1.pending line = true

/-- An action that takes back nothing the other writer asked for: no CSR instruction
clears the bit while the line is asserted, and the line is not deasserted while
software asks for the bit. -/
def Respects (line : InterruptLine) (s : CPU × LineHistory) : Action → Prop
  | @Action.step _ _ bus stim => s.2.level line = true → ∀ a v,
    s.1.csrWrite bus stim = some (a, v) → (softwareMask s.1.csrs a).getLsbD line.bit = true →
      v.getLsbD line.bit = true
  | .line l level => l = line → level = false → s.2.requested line = false
  | .reset => True

theorem read_reached {f : CSRFile} {a : BitVec 16} {k : Nat}
    (h : (softwareMask f a).getLsbD k = true) :
    (f.read a).getLsbD k = (f.read CsrAddr.mip).getLsbD k := by
  unfold softwareMask at h
  split at h
  · rename_i ha
    rw [ha]
  split at h
  · rename_i ha
    rw [BitVec.getLsbD_and, Bool.and_eq_true] at h
    have hread : f.read CsrAddr.sip = f.get CsrAddr.mip &&& f.get CsrAddr.mideleg := rfl
    rw [ha.1, hread, BitVec.getLsbD_and, h.2, Bool.and_true]
    rfl
  · have hzero : (0 : Word).getLsbD k = false := BitVec.getLsbD_zero
    exact absurd (h.symm.trans hzero) (by decide)

/-- Only the plain writes do not read. -/
theorem csrWritten_bit {cpu : CPU} {d : DecodedCSRInstr} {line : InterruptLine}
    (h : cpu.reaches d line = true) :
    (cpu.csrWritten d).getLsbD line.bit =
      requestedBit d.type (cpu.pending line) ((sourceValue d cpu.regs).getLsbD line.bit) := by
  simp only [CPU.reaches, Bool.and_eq_true] at h
  obtain ⟨⟨-, hwill⟩, hmask⟩ := h
  have hread := read_reached hmask
  have hlt : line.bit < 32 := by cases line <;> decide
  unfold CPU.csrWritten CPU.csrRead newValue CPU.pending
  cases htype : d.type with
  | csrrw | csrrwi => rfl
  | csrrs | csrrsi =>
    have hreads : willRead d = true := by simp [willRead, htype]
    simp [-BitVec.getLsbD_eq_getElem, requestedBit, hwill, hreads, BitVec.getLsbD_or, hread]
  | csrrc | csrrci =>
    have hreads : willRead d = true := by simp [willRead, htype]
    simp [-BitVec.getLsbD_eq_getElem, requestedBit, hwill, hreads, BitVec.getLsbD_and, hread, hlt]
  | illegal =>
    simp [willWrite, htype] at hwill

section
variable [Rv32f.HostFloat]

/-- The CPU with the history of its lines. -/
def lineMachine (config : CPUConfig) : Machine (CPU × LineHistory) Action :=
  (machine config).withHistory .start fun cpu history a => history.after cpu a

/-- A step changes a pending bit as software asks, or not at all. -/
theorem step_requested {config : CPUConfig} {cpu : CPU} (h : cpu.WellFormed config) {β : Type}
    [Bus β] (bus : β) (stim : Stimulus) (line : InterruptLine) :
    ((∀ a v, cpu.csrWrite bus stim = some (a, v) →
        (softwareMask cpu.csrs a).getLsbD line.bit = false) ∧
      (cpu.stepOn bus stim).2.1.pending line = cpu.pending line ∧
      ∀ old, cpu.requestedAfter bus stim line old = old) ∨
    ∃ d, cpu.csrWrite bus stim = some (d.csr, cpu.csrWritten d) ∧
      (softwareMask cpu.csrs d.csr).getLsbD line.bit = true ∧
      (cpu.stepOn bus stim).2.1.pending line = (cpu.csrWritten d).getLsbD line.bit ∧
      (cpu.stepOn bus stim).2.1.pending line =
        requestedBit d.type (cpu.pending line) ((sourceValue d cpu.regs).getLsbD line.bit) ∧
      ∀ old, cpu.requestedAfter bus stim line old =
        requestedBit d.type old ((sourceValue d cpu.regs).getLsbD line.bit) := by
  have hpending := step_pending h bus stim line
  -- whether the step is a permitted CSR instruction that writes and reaches the bit
  by_cases hreaches : ∃ d, cpu.csrInstr bus stim = some d ∧ cpu.reaches d line = true
  · obtain ⟨d, hd, hreach⟩ := hreaches
    have hbit := csrWritten_bit hreach
    have hparts := hreach
    simp only [CPU.reaches, Bool.and_eq_true] at hparts
    obtain ⟨⟨hpermits, hwill⟩, hmask⟩ := hparts
    have hwrite := csrWrite_eq_some.mpr ⟨d, hd, hpermits, hwill, rfl, rfl⟩
    rw [hwrite] at hpending
    dsimp only at hpending
    rw [hmask, if_pos rfl] at hpending
    refine .inr ⟨d, hwrite, hmask, hpending, hpending.trans hbit, fun old => ?_⟩
    unfold CPU.requestedAfter
    rw [hd]
    exact if_pos hreach
  · have hnot : ∀ a v, cpu.csrWrite bus stim = some (a, v) →
        (softwareMask cpu.csrs a).getLsbD line.bit = false := by
      intro a v hwrite
      obtain ⟨d, hd, hpermits, hwill, rfl, -⟩ := csrWrite_eq_some.mp hwrite
      cases hmask : (softwareMask cpu.csrs d.csr).getLsbD line.bit with
      | false => rfl
      | true => exact absurd ⟨d, hd, by simp only [CPU.reaches, hpermits, hwill, hmask]; rfl⟩ hreaches
    refine .inl ⟨hnot, ?_, fun old => ?_⟩
    · cases hw : cpu.csrWrite bus stim with
      | none =>
        rw [hw] at hpending
        exact hpending
      | some write =>
        obtain ⟨a, v⟩ := write
        rw [hw] at hpending
        dsimp only at hpending
        rw [hnot a v hw] at hpending
        exact hpending
    · unfold CPU.requestedAfter
      cases hd : cpu.csrInstr bus stim with
      | none => rfl
      | some d => exact if_neg fun hreach => hreaches ⟨d, hd, hreach⟩

/-- A respectful action keeps both requests. -/
theorem LineKept.next {config : CPUConfig} {line : InterruptLine} {s : CPU × LineHistory}
    {a : Action} (hwell : s.1.WellFormed config) (h : LineKept line s) (ha : Respects line s a) :
    LineKept line ((lineMachine config).next s a) := by
  obtain ⟨cpu, history⟩ := s
  cases a with
  | reset =>
    constructor <;> (intro hstart; cases hstart)
  | line l level =>
    -- a line sets its own bit; lowering it is a request only a respectful action makes
    have hpending : ((lineMachine config).next (cpu, history) (.line l level)).1.pending line =
        if l = line then level else cpu.pending line := setLine_pending cpu l line level
    constructor
    · intro hlevel
      rw [hpending]
      have hlevel : (if l = line then level else history.level line) = true := hlevel
      split
      · rename_i hl
        rwa [if_pos hl] at hlevel
      · rename_i hl
        rw [if_neg hl] at hlevel
        exact h.asserted hlevel
    · intro hrequested
      have hrequested : history.requested line = true := hrequested
      rw [hpending]
      split
      · rename_i hl
        cases level with
        | true => rfl
        | false => exact absurd ((ha hl rfl).symm.trans hrequested) (by decide)
      · exact h.requested hrequested
  | @step β _ bus stim =>
    -- the step leaves the bit, or a CSR write reaches it
    rcases step_requested hwell bus stim line with ⟨-, hsame, hkeep⟩ |
      ⟨d, hwrite, hmask, hvalue, hpending, hafter⟩
    · constructor
      · intro hlevel
        exact hsame.trans (h.asserted hlevel)
      · intro hrequested
        exact hsame.trans (h.requested ((hkeep _).symm.trans hrequested))
    · constructor
      · intro hlevel
        exact hvalue.trans (ha hlevel _ _ hwrite hmask)
      · intro hrequested
        exact hpending.trans (requestedBit_mono h.requested ((hafter _).symm.trans hrequested))

/-- Any other takes one back. -/
theorem LineKept.respects {config : CPUConfig} {line : InterruptLine} {s : CPU × LineHistory}
    {a : Action} (hwell : s.1.WellFormed config)
    (hnext : LineKept line ((lineMachine config).next s a)) : Respects line s a := by
  obtain ⟨cpu, history⟩ := s
  cases a with
  | reset => trivial
  | line l level =>
    rintro rfl rfl
    have hpending : ((lineMachine config).next (cpu, history) (.line l false)).1.pending l = false :=
      (setLine_pending cpu l l false).trans (if_pos rfl)
    apply Bool.eq_false_iff.mpr
    intro hrequested
    exact absurd (hpending.symm.trans (hnext.requested hrequested)) (by decide)
  | @step β _ bus stim =>
    intro hlevel a v hwrite hmask
    have hpending := step_pending hwell bus stim line
    rw [hwrite] at hpending
    dsimp only at hpending
    rw [hmask, if_pos rfl] at hpending
    exact hpending.symm.trans (hnext.asserted hlevel)

/-- **One bit, two writers.** An asserted interrupt stays pending, and so does one
software asked for, throughout exactly those runs in which software never clears the
bit of an asserted line and no line is deasserted while software asks for its bit. -/
theorem line_kept_run (config : CPUConfig) (line : InterruptLine) (actions : List Action) :
    (∀ before, before <+: actions →
        LineKept line ((lineMachine config).run (CPU.new config, .start) before)) ↔
      (lineMachine config).Along (Respects line) (CPU.new config, .start) actions := by
  have hwell : ∀ s, (lineMachine config).Reachable s → s.1.WellFormed config := fun s hs =>
    Reachable.wellFormed (Machine.reachable_of_withHistory _ hs)
  -- kept by respectful actions, lost by any other: the guard is exact
  refine Machine.exact_guard (M := lineMachine config) ?_ ?_ ?_ actions
  · constructor <;> (intro hstart; cases hstart)
  · intro s a hs hkept ha
    exact hkept.next (hwell s hs) ha
  · intro s a hs _ hnext
    exact hnext.respects (hwell s hs)

end

/-- A write of 0 to mip while the timer line of S is asserted, and a change of the
software line of S after software asked for its interrupt. -/
theorem line_lost :
    let _ := Rv32f.nanHost
    let M := lineMachine { enableSMode := true }
    let init := (CPU.new { enableSMode := true }, LineHistory.start)
    let asserted := M.run init [.line .supervisorTimer true,
      .step (SimpleMemory.new 0) (.inject 0x34401073)]
    let requested := M.run init [.step (SimpleMemory.new 0) (.inject 0x34415073),
      .line .supervisorSoftware false]
    (asserted.2.level .supervisorTimer = true ∧ asserted.1.pending .supervisorTimer = false) ∧
      (requested.2.requested .supervisorSoftware = true ∧
        requested.1.pending .supervisorSoftware = false) := by
  refine ⟨⟨by decide, by decide⟩, by decide, by decide⟩

/-! ## The supervisor interrupts without S-mode -/

/-- The lines of the supervisor interrupts. -/
def supervisorLines : List InterruptLine :=
  [.supervisorExternal, .supervisorTimer, .supervisorSoftware]

theorem softwareMask_supervisor {f : CSRFile} (hs : f.sModeEnabled = false) (a : BitVec 16)
    {line : InterruptLine} (hline : line ∈ supervisorLines) :
    (softwareMask f a).getLsbD line.bit = false := by
  have hmip : ∀ line ∈ supervisorLines, CSRFile.miMsi.getLsbD line.bit = false := by decide
  unfold softwareMask CSRFile.mipWritableMask
  rw [hs]
  split
  · exact hmip line hline
  · rw [if_neg (by simp)]
    exact BitVec.getLsbD_zero

theorem write_mie_get {f : CSRFile} (hs : f.sModeEnabled = false) (a : BitVec 16) (v : Word) :
    (f.write a v).get CsrAddr.mie =
      if a = CsrAddr.mie then v &&& CSRFile.miMask else f.get CsrAddr.mie := by
  split
  · rename_i ha
    subst ha
    exact CSRFile.get_set_same _ _ _
  · rename_i hmie
    by_cases ha : a = CsrAddr.sie
    · subst ha
      rw [write_sie, hs]
      rfl
    · exact write_get_of_view f v hmie ha rfl

/-- The bits of the supervisor interrupts are clear. -/
def SupervisorClear (cpu : CPU) : Prop :=
  ∀ line ∈ supervisorLines, (cpu.csrs.get CsrAddr.mie).getLsbD line.bit = false ∧
    cpu.pending line = false

theorem supervisorClear_reset (cpu : CPU) : SupervisorClear cpu.reset := by
  intro line _
  have hmie : cpu.reset.csrs.get CsrAddr.mie = 0 := by
    show (CPU.resetCsrs cpu.csrs cpu.config).get CsrAddr.mie = 0
    rw [resetCsrs_eq, CSRFile.get_set_ne _ _ (by decide), CSRFile.get_set_ne _ _ (by decide),
      CSRFile.get_setPrivilege, initStorage_get _ (by decide) (by decide)]
  refine ⟨?_, reset_pending cpu line⟩
  rw [hmie]
  exact BitVec.getLsbD_zero

theorem bit_within_miMask (line : InterruptLine) : CSRFile.miMask.getLsbD line.bit = true := by
  cases line <;> decide

section
variable [Rv32f.HostFloat]

/-- Nothing of the supervisor interrupts shows: their bits are clear in mie and mip,
no CSR instruction reads one of them set, and no step delivers one. -/
structure NoSupervisor (cpu : CPU) : Prop where
  enabled : ∀ line ∈ supervisorLines, (cpu.csrs.read CsrAddr.mie).getLsbD line.bit = false
  pending : ∀ line ∈ supervisorLines, (cpu.csrs.read CsrAddr.mip).getLsbD line.bit = false
  reads : ∀ {β : Type} [Bus β] (bus : β) (stim : Stimulus) (d : DecodedCSRInstr),
    cpu.csrInstr bus stim = some d → d.csr = CsrAddr.mie ∨ d.csr = CsrAddr.mip →
      (cpu.stepOn bus stim).1.trap = false →
        ∃ v, (cpu.stepOn bus stim).2.1.regs = cpu.regs.write d.rd v ∧
          ∀ line ∈ supervisorLines, v.getLsbD line.bit = false
  delivers : ∀ {β : Type} [Bus β] (bus : β) (stim : Stimulus),
    (cpu.stepOn bus stim).1.interrupt = true →
      (cpu.stepOn bus stim).1.trapCause ∉ [0x80000001, 0x80000005, 0x80000009]

/-- No CSR instruction sets a supervisor bit in mie, and no supervisor line is
asserted. -/
def LeavesSupervisor (cpu : CPU) : Action → Prop
  | @Action.step _ _ bus stim => ∀ v, cpu.csrWrite bus stim = some (CsrAddr.mie, v) →
    ∀ line ∈ supervisorLines, v.getLsbD line.bit = false
  | .line l level => l ∈ supervisorLines → level = false
  | .reset => True

theorem SupervisorClear.noSupervisor {config : CPUConfig} {cpu : CPU} (hwell : cpu.WellFormed config)
    (h : SupervisorClear cpu) : NoSupervisor cpu where
  enabled := fun line hline => (h line hline).1
  pending := fun line hline => (h line hline).2
  reads := by
    intro β _ bus stim d hd hcsr htrap
    refine ⟨cpu.csrRead d, (csr_done hwell hd htrap).regs, fun line hline => ?_⟩
    unfold CPU.csrRead
    split
    · rcases hcsr with hcsr | hcsr <;> rw [hcsr]
      · exact (h line hline).1
      · exact (h line hline).2
    · exact BitVec.getLsbD_zero
  delivers := by
    intro β _ bus stim hinterrupt
    obtain ⟨c, selected, step, -⟩ := (step_outcome hwell bus stim).interrupted hinterrupt
    obtain ⟨hmem, heligible⟩ := CPU.selected_spec selected
    have hpending : (cpu.csrs.read CsrAddr.mip).getLsbD c = true := by
      simp only [CPU.eligible, Bool.and_eq_true] at heligible
      exact heligible.1.1
    -- a supervisor code is the bit of a supervisor line, which is clear
    have hclear : ∀ line ∈ supervisorLines, line.bit = c → False := by
      rintro line hline rfl
      exact absurd (hpending.symm.trans (h line hline).2) (by decide)
    rw [show (cpu.stepOn bus stim).1.trapCause = CPU.interruptCause c from step.trapCause]
    simp only [List.mem_cons, List.not_mem_nil, or_false] at hmem
    rcases hmem with rfl | rfl | rfl | rfl | rfl | rfl
    · decide
    · decide
    · decide
    · exact (hclear .supervisorExternal (by decide) rfl).elim
    · exact (hclear .supervisorSoftware (by decide) rfl).elim
    · exact (hclear .supervisorTimer (by decide) rfl).elim

theorem step_mie {config : CPUConfig} {cpu : CPU} (h : cpu.WellFormed config)
    (hs : cpu.csrs.sModeEnabled = false) {β : Type} [Bus β] (bus : β) (stim : Stimulus) :
    (cpu.stepOn bus stim).2.1.csrs.get CsrAddr.mie =
      match cpu.csrWrite bus stim with
      | some (a, v) => if a = CsrAddr.mie then v &&& CSRFile.miMask else cpu.csrs.get CsrAddr.mie
      | none => cpu.csrs.get CsrAddr.mie := by
  have hstep : (cpu.stepOn bus stim).2.1.csrs.get CsrAddr.mie =
      (cpu.writtenCsrs bus stim).get CsrAddr.mie :=
    congrArg (·.getD 0) (step_csr h bus stim (by decide))
  rw [hstep]
  unfold CPU.writtenCsrs
  cases cpu.csrWrite bus stim with
  | none => rfl
  | some write => exact write_mie_get hs write.1 write.2

/-- The bits stay clear in an action that sets none of them. -/
theorem SupervisorClear.next {config : CPUConfig} {cpu : CPU} {a : Action}
    (hwell : cpu.WellFormed config) (hs : cpu.csrs.sModeEnabled = false) (h : SupervisorClear cpu)
    (ha : LeavesSupervisor cpu a) : SupervisorClear (cpu.act a) := by
  cases a with
  | reset => exact supervisorClear_reset cpu
  | line l level =>
    intro line hline
    have hmie : (cpu.act (.line l level)).csrs.get CsrAddr.mie = cpu.csrs.get CsrAddr.mie := by
      cases l <;> exact CSRFile.get_set_ne _ _ (by decide)
    have hpending : (cpu.act (.line l level)).pending line = _ := setLine_pending cpu l line level
    rw [hmie, hpending]
    refine ⟨(h line hline).1, ?_⟩
    split
    · rename_i hl
      exact ha (hl ▸ hline)
    · exact (h line hline).2
  | @step β _ bus stim =>
    intro line hline
    have hmie : (cpu.act (.step bus stim)).csrs.get CsrAddr.mie = _ := step_mie hwell hs bus stim
    -- a CSR write reaches mie under its own name, and no supervisor bit of mip
    have hpending : (cpu.act (.step bus stim)).pending line = _ := step_pending hwell bus stim line
    rw [hmie, hpending]
    cases hw : cpu.csrWrite bus stim with
    | none => exact h line hline
    | some write =>
      obtain ⟨a, v⟩ := write
      dsimp only
      rw [softwareMask_supervisor hs a hline]
      refine ⟨?_, (h line hline).2⟩
      split
      · rename_i hmie
        subst hmie
        rw [BitVec.getLsbD_and, ha v hw line hline, Bool.false_and]
      · exact (h line hline).1

/-- Any other sets one. -/
theorem SupervisorClear.leaves {config : CPUConfig} {cpu : CPU} {a : Action}
    (hwell : cpu.WellFormed config) (hs : cpu.csrs.sModeEnabled = false)
    (hnext : SupervisorClear (cpu.act a)) : LeavesSupervisor cpu a := by
  cases a with
  | reset => trivial
  | line l level =>
    intro hline
    have hpending : (cpu.act (.line l level)).pending l = level :=
      (setLine_pending cpu l l level).trans (if_pos rfl)
    exact hpending.symm.trans (hnext l hline).2
  | @step β _ bus stim =>
    intro v hw line hline
    have hmie : (cpu.act (.step bus stim)).csrs.get CsrAddr.mie = v &&& CSRFile.miMask := by
      refine (step_mie hwell hs bus stim).trans ?_
      rw [hw]
      rfl
    have hclear := (hnext line hline).1
    rw [hmie, BitVec.getLsbD_and, bit_within_miMask, Bool.and_true] at hclear
    exact hclear

/-- **Supervisor interrupts without S-mode.** They show nowhere throughout exactly
those runs in which no CSR instruction sets a supervisor bit in mie and no supervisor
line is asserted. -/
theorem no_supervisor_run (config : CPUConfig) (hs : config.enableSMode = false)
    (actions : List Action) :
    (∀ before, before <+: actions →
        NoSupervisor ((machine config).run (CPU.new config) before)) ↔
      (machine config).Along LeavesSupervisor (CPU.new config) actions := by
  have hwell : ∀ s, (machine config).Reachable s → s.WellFormed config := fun s hs =>
    Reachable.wellFormed hs
  have hflag : ∀ s, (machine config).Reachable s → s.csrs.sModeEnabled = false := fun s hr =>
    (hwell s hr).legal.sModeEnabled.trans hs
  -- the guard is exact for the clear bits, and they are what the rest follows from
  have hclear := Machine.exact_guard (M := machine config) (P := SupervisorClear)
    (Q := LeavesSupervisor) (supervisorClear_reset { config := config })
    (fun s a hr hsc ha => hsc.next (hwell s hr) (hflag s hr) ha)
    (fun s a hr _ hnext => hnext.leaves (hwell s hr) (hflag s hr)) actions
  refine Iff.trans ⟨fun h before hbefore line hline => ?_, fun h before hbefore => ?_⟩ hclear
  · exact ⟨(h before hbefore).enabled line hline, (h before hbefore).pending line hline⟩
  · exact (h before hbefore).noSupervisor (hwell _ ⟨before, rfl⟩)

end

/-- Software that enables the software interrupt of M, with the timer line
asserted. -/
theorem no_supervisor_run_msie :
    let _ := Rv32f.nanHost
    NoSupervisor ((machine {}).run (CPU.new {}) [.line .timer true,
      .step (SimpleMemory.new 0) (.inject 0x30445073)]) := by
  intro _
  have htimer : InterruptLine.timer ∈ supervisorLines → true = false := by decide
  refine (no_supervisor_run {} rfl [.line .timer true,
    .step (SimpleMemory.new 0) (.inject 0x30445073)]).mpr ⟨htimer, fun v hwrite => ?_, trivial⟩ _
    (List.prefix_refl _)
  have hvalue : (CPU.act (CPU.new {}) (.line .timer true)).csrWrite (SimpleMemory.new 0)
      (.inject 0x30445073) = some (CsrAddr.mie, 8) := by decide
  cases hvalue.symm.trans hwrite
  decide

/-- The supervisor timer interrupt, enabled and delivered without S-mode. -/
theorem supervisor_timer_delivered :
    let _ := Rv32f.nanHost
    let cpu := (machine {}).run (CPU.new {}) [.line .supervisorTimer true,
      .step (SimpleMemory.new 0) (.inject 0x02000093),
      .step (SimpleMemory.new 0) (.inject 0x30409073),
      .step (SimpleMemory.new 0) (.inject 0x30046073)]
    let out := cpu.stepOn (SimpleMemory.new 0) .fetch
    cpu.config.enableSMode = false ∧ cpu.csrs.read CsrAddr.mie = 0x20 ∧
      cpu.csrs.read CsrAddr.mip = 0x20 ∧ out.1.interrupt = true ∧ out.1.trapCause = 0x80000005 := by
  refine ⟨by decide, by decide, by decide, by decide, by decide⟩

end Riscv

import Riscv.CsrRules
import Riscv.CsrStep
import Riscv.Memory

/- The access rule of the CSR instructions and their effect.

   `CsrDenied` lists the reasons an access is refused, over the fields of the address
   and the state; the executor's tests accept an access exactly when none holds.
   An accepted instruction reads, then writes, and changes nothing else. -/
namespace Riscv

open Zicsr

/-! ## The rule -/

/-- The bit that enables a user counter CSR: cycle, time or instret, of either half. -/
def counterBit (a : BitVec 16) : Option Nat :=
  if a = CsrAddr.cycle ∨ a = CsrAddr.cycleh then some 0
  else if a = CsrAddr.time ∨ a = CsrAddr.timeh then some 1
  else if a = CsrAddr.instret ∨ a = CsrAddr.instreth then some 2
  else none

/-- The CSRs of a configuration: the three of the F extension, the six user counters,
and those it stores. -/
def CPUConfig.hasCsr (config : CPUConfig) (a : BitVec 16) : Bool :=
  if a = CsrAddr.fflags ∨ a = CsrAddr.frm ∨ a = CsrAddr.fcsr then config.enableFExtension
  else (counterBit a).isSome || stored config a

/-- The least privilege that may access an address, bits 9 to 8. -/
def csrPrivilege (a : BitVec 16) : BitVec 2 := a.extractLsb' 8 2

/-- Bits 11 to 10 of an address say that it is read-only. -/
def csrReadOnly (a : BitVec 16) : Prop := a.extractLsb' 10 2 = 3

/-- The reasons a CSR instruction is illegal. -/
inductive CsrDenied (cpu : CPU) (d : DecodedCSRInstr) : Prop where
  | absent (h : cpu.config.hasCsr d.csr = false)
  | privilege (h : cpu.csrs.currentPrivilege.toNat < (csrPrivilege d.csr).toNat)
  | counter {bit : Nat} (user : counterBit d.csr = some bit)
      (below : cpu.csrs.currentPrivilege ≠ .machine)
      (closed : (cpu.csrs.get CsrAddr.mcounteren).getLsbD bit = false ∨
        (cpu.csrs.currentPrivilege = .user ∧ cpu.config.enableSMode = true ∧
          (cpu.csrs.get CsrAddr.scounteren).getLsbD bit = false))
  | readOnly (writes : willWrite d = true) (h : csrReadOnly d.csr)
  | satp (h : d.csr = CsrAddr.satp) (priv : cpu.csrs.currentPrivilege = .supervisor)
      (tvm : cpu.csrs.get CsrAddr.mstatus &&& CSRFile.mstatusTvm ≠ 0)

/-! ## The tests -/

theorem toNat_ofBits (b : BitVec 2) : (PrivilegeLevel.ofBits b).toNat = b.toNat := by
  revert b
  decide

theorem minPrivilege_toNat (a : BitVec 16) :
    (CSRPermissions.fromAddress a).minPrivilege.toNat = (csrPrivilege a).toNat := by
  show (PrivilegeLevel.ofBits ((a >>> 8).setWidth 2)).toNat = _
  rw [toNat_ofBits]
  simp [csrPrivilege]

theorem writable_iff (a : BitVec 16) :
    (CSRPermissions.fromAddress a).writable = false ↔ csrReadOnly a := by
  have hfield : (a >>> 10) &&& 0x3 = (a.extractLsb' 10 2).setWidth 16 := by
    apply BitVec.eq_of_toNat_eq
    have hmask : (a.toNat >>> 10) &&& 3 = a.toNat >>> 10 % 4 := Nat.and_two_pow_sub_one_eq_mod _ 2
    simp [hmask]
    omega
  unfold CSRPermissions.fromAddress csrReadOnly
  simp only [hfield, decide_eq_false_iff_not, ne_eq, Decidable.not_not]
  generalize a.extractLsb' 10 2 = field
  revert field
  decide

theorem isCounterCsr_iff (a : BitVec 16) :
    CSRFile.isCounterCsr a = true ↔ (counterBit a).isSome = true := by
  unfold CSRFile.isCounterCsr counterBit
  grind

/-- The enable bit of a counter is named by the low bits of its address. -/
theorem counterIndex_eq {a : BitVec 16} {bit : Nat} (h : counterBit a = some bit) :
    CSRFile.counterIndex a = bit := by
  unfold counterBit at h
  split at h
  · rcases ‹_ ∨ _› with rfl | rfl <;> cases h <;> rfl
  split at h
  · rcases ‹_ ∨ _› with rfl | rfl <;> cases h <;> rfl
  split at h
  · rcases ‹_ ∨ _› with rfl | rfl <;> cases h <;> rfl
  · cases h

theorem CsrLegal.exists_eq_hasCsr {config : CPUConfig} {f : CSRFile} (h : CsrLegal config f)
    (a : BitVec 16) : f.exists' a = config.hasCsr a := by
  have hcounter : CSRFile.isCounterCsr a = (counterBit a).isSome :=
    Bool.eq_iff_iff.mpr (isCounterCsr_iff a)
  unfold CSRFile.exists' CPUConfig.hasCsr
  rw [hcounter, h.fExtension, h.stored]
  cases (counterBit a).isSome <;> rfl

section
variable {config : CPUConfig} {cpu : CPU}

theorem satpBlocked_iff {d : DecodedCSRInstr}
    (hex : cpu.config.hasCsr d.csr = true) :
    cpu.satpBlocked d = true ↔ d.csr = CsrAddr.satp ∧
      cpu.csrs.currentPrivilege = .supervisor ∧
      cpu.csrs.get CsrAddr.mstatus &&& CSRFile.mstatusTvm ≠ 0 := by
  have hhas : cpu.config.hasCsr CsrAddr.satp = cpu.config.enableSMode := by
    unfold CPUConfig.hasCsr stored
    cases cpu.config.enableSMode <;> cases cpu.config.enableUMode <;> rfl
  unfold CPU.satpBlocked
  simp only [Bool.and_eq_true, decide_eq_true_eq]
  constructor
  · rintro ⟨⟨⟨hsatp, -⟩, hpriv⟩, htvm⟩
    exact ⟨hsatp, hpriv, htvm⟩
  · rintro ⟨hsatp, hpriv, htvm⟩
    exact ⟨⟨⟨hsatp, hhas.symm.trans (hsatp ▸ hex)⟩, hpriv⟩, htvm⟩

/-- A counter is closed to a level by a clear enable bit on the way down to it. -/
theorem counterReadable_iff (h : cpu.WellFormed config) {a : BitVec 16} {bit : Nat}
    (ha : counterBit a = some bit) :
    cpu.csrs.counterReadable a = false ↔ cpu.csrs.currentPrivilege ≠ .machine ∧
      ((cpu.csrs.get CsrAddr.mcounteren).getLsbD bit = false ∨
        (cpu.csrs.currentPrivilege = .user ∧ cpu.config.enableSMode = true ∧
          (cpu.csrs.get CsrAddr.scounteren).getLsbD bit = false)) := by
  have hconfig := h.config_eq
  subst hconfig
  have hbit : ∀ v : Word, (v >>> bit) &&& 1#32 = 0#32 ↔ v.getLsbD bit = false := by
    intro v
    rw [BitVec.ushiftRight_and_one]
    cases v.getLsbD bit <;> decide
  have hpriv := h.privilege
  unfold CSRFile.counterReadable
  rw [counterIndex_eq ha, h.legal.sModeEnabled]
  cases hp : cpu.csrs.currentPrivilege with
  | machine => simp
  | reserved => exact absurd hp hpriv
  | supervisor => simp [hbit]
  | user =>
    cases hs : cpu.config.enableSMode <;>
      cases hm : (cpu.csrs.get CsrAddr.mcounteren).getLsbD bit <;> simp [hbit, hm]

theorem canRead_eq_false (f : CSRFile) (a : BitVec 16) :
    f.canRead a = false ↔ f.currentPrivilege.toNat < (csrPrivilege a).toNat ∨
      ∃ bit, counterBit a = some bit ∧ f.counterReadable a = false := by
  unfold CSRFile.canRead
  rw [minPrivilege_toNat]
  by_cases hp : f.currentPrivilege.toNat < (csrPrivilege a).toNat
  · simp [hp]
  cases hc : counterBit a with
  | none =>
    have hcounter : CSRFile.isCounterCsr a = false := by
      rw [← Bool.not_eq_true, isCounterCsr_iff, hc]
      decide
    simp [hp, hcounter]
  | some bit =>
    have hcounter : CSRFile.isCounterCsr a = true := (isCounterCsr_iff a).mpr (by rw [hc]; rfl)
    simp [hp, hcounter]

theorem canWrite_eq_false (f : CSRFile) (a : BitVec 16) :
    f.canWrite a = false ↔
      csrReadOnly a ∨ f.currentPrivilege.toNat < (csrPrivilege a).toNat := by
  rw [← writable_iff, ← minPrivilege_toNat]
  unfold CSRFile.canWrite
  cases (CSRPermissions.fromAddress a).writable <;> simp

/-- **The tests of an access refuse exactly what the rule denies.** -/
theorem permits_eq_false (h : cpu.WellFormed config) (d : DecodedCSRInstr) :
    cpu.permits d = false ↔ CsrDenied cpu d := by
  have hexists := h.legal.exists_eq_hasCsr d.csr
  rw [← h.config_eq] at hexists
  -- the tests in the order the CPU makes them, and back
  constructor
  · intro hdenied
    cases hhas : cpu.config.hasCsr d.csr with
    | false => exact .absent hhas
    | true =>
    rw [hhas] at hexists
    simp only [CPU.permits, hexists, Bool.and_eq_false_iff, Bool.not_eq_false', Bool.or_eq_false_iff,
      Bool.and_true] at hdenied
    rcases hdenied with (hsatp | hread) | ⟨hwrites, hwrite⟩
    · obtain ⟨hcsr, hpriv, htvm⟩ := (satpBlocked_iff hhas).mp hsatp
      exact .satp hcsr hpriv htvm
    · rcases (canRead_eq_false _ _).mp hread with hpriv | ⟨bit, hbit, hclosed⟩
      · exact .privilege hpriv
      · obtain ⟨hbelow, henable⟩ := (counterReadable_iff h hbit).mp hclosed
        exact .counter hbit hbelow henable
    · rcases (canWrite_eq_false _ _).mp hwrite with hreadOnly | hpriv
      · exact .readOnly hwrites hreadOnly
      · exact .privilege hpriv
  · intro hdenied
    unfold CPU.permits
    cases hdenied with
    | absent hhas => simp [hexists, hhas]
    | privilege hpriv => simp [(canRead_eq_false _ _).mpr (.inl hpriv)]
    | counter user below closed =>
      have hclosed := (counterReadable_iff h user).mpr ⟨below, closed⟩
      simp [(canRead_eq_false _ _).mpr (.inr ⟨_, user, hclosed⟩)]
    | readOnly writes hreadOnly => simp [writes, (canWrite_eq_false _ _).mpr (.inl hreadOnly)]
    | satp hsatp hpriv htvm =>
      cases hhas : cpu.config.hasCsr d.csr with
      | false => simp [hexists, hhas]
      | true => simp [(satpBlocked_iff hhas).mpr ⟨hsatp, hpriv, htvm⟩]

end

/-! ## The effect -/

/-- The value a CSR instruction writes. -/
def csrUpdate (type : CSRInstrType) (old src : Word) : Word :=
  match type with
  | .csrrw | .csrrwi => src
  | .csrrs | .csrrsi => old ||| src
  | .csrrc | .csrrci => old &&& ~~~src
  | .illegal => old

/-- What a CSR instruction that is not denied does. -/
structure CsrAccessed {β : Type} (cpu : CPU) (d : DecodedCSRInstr) (bus : β)
    (out : CPUExecResult × CPU × β) : Prop where
  trap : out.1.trap = false
  regs : out.2.1.regs = cpu.regs.write d.rd (cpu.csrs.read d.csr)
  written : willWrite d = true → out.2.1.csrs = countStep (cpu.csrs.write d.csr
    (csrUpdate d.type (cpu.csrs.read d.csr) (sourceValue d cpu.regs))) false
  unwritten : willWrite d = false → out.2.1.csrs = countStep cpu.csrs false
  fregs : out.2.1.fregs = cpu.fregs
  reservation : out.2.1.reservation = cpu.reservation
  pc : out.2.1.pc = cpu.pc + 4
  bus : out.2.2 = bus

/-- A read that is skipped is of no consequence. -/
theorem write_csrRead (cpu : CPU) (d : DecodedCSRInstr) :
    cpu.regs.write d.rd (cpu.csrRead d) = cpu.regs.write d.rd (cpu.csrs.read d.csr) := by
  unfold CPU.csrRead
  split
  · rfl
  · rename_i hskip
    have hrd : d.rd = 0 := by
      cases htype : d.type <;> simp_all [willRead]
    rw [hrd, RegFile.write_zero, RegFile.write_zero]

theorem csrWritten_eq (cpu : CPU) {d : DecodedCSRInstr} (hwrites : willWrite d = true) :
    cpu.csrWritten d =
      csrUpdate d.type (cpu.csrs.read d.csr) (sourceValue d cpu.regs) := by
  unfold CPU.csrWritten CPU.csrRead newValue csrUpdate
  cases htype : d.type <;> simp_all [willRead, willWrite]

section
variable {β : Type} [Bus β] [Rv32f.HostFloat] {config : CPUConfig} {cpu : CPU} {bus : β}
  {stim : Stimulus} {d : DecodedCSRInstr}

/-- **The CSR access rule.** In every state of every run a CSR instruction is an illegal
instruction exactly when the rule denies it, and otherwise reads its CSR into rd and
writes it, if it writes, with the value combined from the old one and the source;
nothing else changes but the counters. -/
theorem csr_access_run (config : CPUConfig) (actions : List Action) (bus : β) (stim : Stimulus)
    (d : DecodedCSRInstr) :
    let cpu := (machine config).run (CPU.new config) actions
    let out := cpu.stepOn bus stim
    cpu.csrInstr bus stim = some d →
      (IllegalTrap d.raw (out.1, out.2.1) ↔ CsrDenied cpu d) ∧
        (¬CsrDenied cpu d → CsrAccessed cpu d (cpu.supply bus stim).2 out) := by
  intro cpu out hd
  have hwell : cpu.WellFormed config := Reachable.wellFormed ⟨actions, rfl⟩
  have htype := (csrInstr_eq_some hd).2.2.1
  have hrule := permits_eq_false hwell d
  -- the tests of the CPU decide, and a permitted access always retires
  cases hpermits : cpu.permits d with
  | false =>
    have hdenied := hrule.mp hpermits
    exact ⟨⟨fun _ => hdenied, fun _ => (stepOn_denied hd hpermits).1⟩,
      fun hallowed => absurd hdenied hallowed⟩
  | true =>
    obtain ⟨instr, rfl, hstep⟩ := stepOn_zicsr hd
    have hout : out = _ := hstep
    have hallowed : ¬CsrDenied cpu (Zicsr.decode instr) := by
      rw [← hrule, hpermits]
      decide
    have hexec := executeZicsr_permitted cpu.syncExecutorConfig
      { cpu.initResult with instruction := instr, nextPc := cpu.pc + 4 } htype hpermits
    rw [hexec] at hout
    have htrap : out.1.trap = false := by rw [hout]; rfl
    refine ⟨⟨fun h => ?_, fun h => absurd h hallowed⟩, fun _ => ?_⟩
    · rw [h.trap] at htrap
      cases htrap
    · exact {
        trap := htrap
        regs := by
          rw [hout]
          exact write_csrRead cpu _
        written := by
          intro hwrites
          rw [hout, ← csrWritten_eq cpu hwrites]
          simp only [hwrites, if_true]
          rfl
        unwritten := by
          intro hreads
          rw [hout]
          simp only [hreads, Bool.false_eq_true, if_false]
          rfl
        fregs := by rw [hout]; rfl
        reservation := by rw [hout]; rfl
        pc := by rw [hout]; rfl
        bus := by rw [hout] }

end

/-- CSRRS of mcycle into x1 by a fresh CPU. -/
theorem csr_access_run_mcycle :
    let _ := Rv32f.nanHost
    let cpu := CPU.new {}
    let out := cpu.stepOn (SimpleMemory.new 0) (.inject 0xB00020F3)
    ¬CsrDenied cpu (Zicsr.decode 0xB00020F3) ∧
      CsrAccessed cpu (Zicsr.decode 0xB00020F3) (SimpleMemory.new 0) out := by
  intro _ cpu out
  have h := csr_access_run {} [] (SimpleMemory.new 0) (.inject 0xB00020F3)
    (Zicsr.decode 0xB00020F3) (by decide)
  have hallowed : ¬CsrDenied cpu (Zicsr.decode 0xB00020F3) := by
    intro hdenied
    have htrap := (h.1.mpr hdenied).trap
    exact absurd htrap (by decide)
  exact ⟨hallowed, h.2 hallowed⟩

end Riscv

import Riscv.CsrInvariant
import Riscv.ExecutorSpec
import Riscv.PcAlign

/- What executing one instruction can do.

   `Outcome` lists the four ways an instruction ends: an exception taken on the
   state before it, an ordinary retirement, MRET and SRET. The dispatch is walked
   once, here, and every later result is a case analysis of `Outcome`. What it
   says of a retirement is what those results need: how the CSRs may change, what
   became of the reservation, that the next pc is aligned and that no bus call
   threw. -/
namespace Riscv

open Zicsr

/-! ## The pieces -/

/-- The fields of the result record that execution leaves alone. -/
structure SameStep (result r : CPUExecResult) : Prop where
  pc : r.pc = result.pc
  instruction : r.instruction = result.instruction
  interrupt : r.interrupt = result.interrupt
  trap : r.trap = result.trap

/-- What a retired instruction may do to the CSRs: nothing, an F instruction's
write of fcsr, or a CSR instruction's permitted write. -/
inductive CsrEffect (config : CPUConfig) (csrs : CSRFile) : CSRFile → Prop
  | same : CsrEffect config csrs csrs
  | fcsr (v : Word) (enabled : config.enableFExtension = true) :
      CsrEffect config csrs (csrs.set CsrAddr.fcsr (v &&& 0xFF))
  | write (a : BitVec 16) (v : Word) (exists' : csrs.exists' a = true)
      (canWrite : csrs.canWrite a = true) : CsrEffect config csrs (csrs.write a v)

theorem CsrEffect.legal {config : CPUConfig} {csrs csrs' : CSRFile}
    (h : CsrEffect config csrs csrs') (hl : CsrLegal config csrs) : CsrLegal config csrs' := by
  cases h with
  | same => exact hl
  | fcsr v _ => exact hl.set rfl (Warl.legal_masked v)
  | write a v hex hw => exact hl.write hex hw v

/-- The reservation after a retired instruction. -/
def reservationAfter (cpu : CPU) (instr : Word) (is32bit : Bool) : Rv32a.ReservationSet :=
  if is32bit && (cpu.config.enableAExtension && Rv32a.isAtomicInstruction instr) then
    match (Rv32a.decode instr).type with
    | .lrW => cpu.reservation.reserve (cpu.regs.read (Rv32a.decode instr).rs1)
    | .scW => cpu.reservation.clear
    | _ => cpu.reservation
  else cpu.reservation

/-- Whether the instruction is an AMO, whose reads fault as stores. -/
def amoAccess (cpu : CPU) (instr : Word) (is32bit : Bool) : Bool :=
  is32bit && (cpu.config.enableAExtension && Rv32a.isAtomicInstruction instr) &&
    Rv32a.isAmo (Rv32a.decode instr).type

section
variable {β : Type} [Bus β]

/-- The ways executing an instruction ends, on the CPU and the bus before it. -/
inductive Outcome (cpu : CPU) (instr : Word) (is32bit : Bool) (result : CPUExecResult) (bus : β) :
    CPUExecResult × CPU × β → Prop
  | trap {r : CPUExecResult} {cause tval : Word} {info : String} {bus' : β}
      (same : SameStep result r)
      (faulted : Faulted (amoAccess cpu instr is32bit) cause tval bus bus') :
      Outcome cpu instr is32bit result bus
        ((cpu.takeException r cause tval info).1, (cpu.takeException r cause tval info).2, bus')
  | retire {r : CPUExecResult} {regs : RegFile} {fregs : Rv32f.FRegFile} {csrs : CSRFile}
      {reservation : Rv32a.ReservationSet} {bus' : β}
      (same : SameStep result r) (effect : CsrEffect cpu.config cpu.csrs csrs)
      (reserved : reservation = reservationAfter cpu instr is32bit)
      (aligned : Aligned cpu.config.enableCExtension cpu.pc →
        Aligned cpu.config.enableCExtension r.nextPc)
      (clean : Clean bus bus') :
      Outcome cpu instr is32bit result bus
        (r, { cpu with
          regs := regs
          fregs := fregs
          csrs := csrs
          reservation := reservation }, bus')
  | mret {r : CPUExecResult} (same : SameStep result r) (is32 : is32bit = true)
      (isMret : instr = 0x30200073) (priv : cpu.csrs.currentPrivilege = .machine) :
      Outcome cpu instr is32bit result bus ((cpu.doMret r).1, (cpu.doMret r).2, bus)
  | sret {r : CPUExecResult} (same : SameStep result r) (is32 : is32bit = true)
      (isSret : instr = 0x10200073) (enabled : cpu.config.enableSMode = true)
      (priv : cpu.csrs.currentPrivilege ≠ .user)
      (tsr : ¬(cpu.csrs.currentPrivilege = .supervisor ∧
        cpu.csrs.get CsrAddr.mstatus &&& CSRFile.mstatusTsr ≠ 0)) :
      Outcome cpu instr is32bit result bus ((cpu.doSret r).1, (cpu.doSret r).2, bus)

theorem SameStep.trans {a b c : CPUExecResult} (h₁ : SameStep a b) (h₂ : SameStep b c) :
    SameStep a c :=
  ⟨h₂.pc.trans h₁.pc, h₂.instruction.trans h₁.instruction, h₂.interrupt.trans h₁.interrupt,
    h₂.trap.trans h₁.trap⟩

theorem Outcome.of_sameStep {cpu : CPU} {instr : Word} {is32bit : Bool}
    {result result' : CPUExecResult} {bus : β} {out : CPUExecResult × CPU × β}
    (h : SameStep result result') (hout : Outcome cpu instr is32bit result' bus out) :
    Outcome cpu instr is32bit result bus out := by
  cases hout with
  | trap same faulted => exact .trap (h.trans same) faulted
  | retire same effect reserved aligned clean =>
    exact .retire (h.trans same) effect reserved aligned clean
  | mret same is32 isMret priv => exact .mret (h.trans same) is32 isMret priv
  | sret same is32 isSret enabled priv tsr =>
    exact .sret (h.trans same) is32 isSret enabled priv tsr

theorem Outcome.ite {cpu : CPU} {instr : Word} {is32bit : Bool} {result : CPUExecResult} {bus : β}
    {c : Prop} [Decidable c] {x y : CPUExecResult × CPU × β}
    (ht : c → Outcome cpu instr is32bit result bus x)
    (he : ¬c → Outcome cpu instr is32bit result bus y) :
    Outcome cpu instr is32bit result bus (if c then x else y) := by
  split
  · exact ht ‹_›
  · exact he ‹_›

end

/-! ## Which words the atomic predicate claims -/

theorem not_atomic_of_opcode {instr : Word} {op : BitVec 8} (hop : u8 (bits instr 6 0) = op)
    (hne : op ≠ Rv32a.Opcode.amo) (enabled : Bool) :
    (enabled && Rv32a.isAtomicInstruction instr) = false := by
  simp [Rv32a.isAtomicInstruction, hop, hne]

theorem reservationAfter_other {cpu : CPU} {instr : Word}
    (h : (cpu.config.enableAExtension && Rv32a.isAtomicInstruction instr) = false) :
    reservationAfter cpu instr true = cpu.reservation := by
  simp [reservationAfter, h]

theorem amoAccess_other {cpu : CPU} {instr : Word}
    (h : (cpu.config.enableAExtension && Rv32a.isAtomicInstruction instr) = false) :
    amoAccess cpu instr true = false := by
  simp [amoAccess, h]

/-! ## The executors without a bus -/

theorem Rv32m.execute_invalid (d : Rv32m.DecodedInstr) (regs : RegFile) :
    (Rv32m.execute d regs).1.valid = false → (Rv32m.execute d regs).2 = regs := by
  unfold Rv32m.execute
  split
  · exact fun _ => rfl
  · split <;> simp

theorem Zba.execute_invalid (d : Zba.DecodedInstr) (regs : RegFile) :
    (Zba.execute d regs).1.valid = false → (Zba.execute d regs).2 = regs := by
  unfold Zba.execute
  split
  · exact fun _ => rfl
  · split <;> simp

theorem Zbb.execute_invalid (d : Zbb.DecodedInstr) (regs : RegFile) :
    (Zbb.execute d regs).1.valid = false → (Zbb.execute d regs).2 = regs := by
  unfold Zbb.execute
  split
  · exact fun _ => rfl
  · split <;> simp

theorem Zbs.execute_invalid (d : Zbs.DecodedInstr) (regs : RegFile) :
    (Zbs.execute d regs).1.valid = false → (Zbs.execute d regs).2 = regs := by
  unfold Zbs.execute
  split
  · exact fun _ => rfl
  · dsimp only
    split <;> simp

theorem Zicond.execute_invalid (d : Zicond.DecodedInstr) (regs : RegFile) :
    (Zicond.execute d regs).1.valid = false → (Zicond.execute d regs).2 = regs := by
  unfold Zicond.execute
  split
  · exact fun _ => rfl
  · split <;> simp

/-- A CSR instruction is rejected with nothing changed, or writes at most once, an
address that exists and that the privilege may write. -/
theorem Zicsr.execute_cases (d : DecodedCSRInstr) (regs : RegFile) (csrs : CSRFile) :
    (∃ error, Zicsr.execute d regs csrs = (rejected d error, regs, csrs)) ∨
      ((Zicsr.execute d regs csrs).1.valid = true ∧
        ((Zicsr.execute d regs csrs).2.2 = csrs ∨
          ∃ v, (Zicsr.execute d regs csrs).2.2 = csrs.write d.csr v ∧
            csrs.exists' d.csr = true ∧ csrs.canWrite d.csr = true)) := by
  unfold Zicsr.execute
  split
  · exact .inl ⟨_, rfl⟩
  split
  · exact .inl ⟨_, rfl⟩
  split
  · exact .inl ⟨_, rfl⟩
  split
  · exact .inl ⟨_, rfl⟩
  rename_i hex _ hwrite
  refine .inr ⟨rfl, ?_⟩
  dsimp only
  cases hw : willWrite d with
  | false => exact .inl rfl
  | true => exact .inr ⟨_, rfl, by simpa using hex, by simpa [hw] using hwrite⟩

/-! ## The A executor by instruction -/

namespace Rv32a

variable {β : Type} [Bus β]

/-- An A instruction completes only at a word-aligned address. -/
theorem execute_valid {d : DecodedInstr} {regs : RegFile} {bus : β}
    {reservation : ReservationSet} (h : (execute d regs bus reservation).1.valid = true) :
    d.type ≠ .illegal ∧ regs.read d.rs1 &&& 0x3 = 0 := by
  unfold execute at h
  split at h
  · cases h
  dsimp only at h
  split at h
  · cases h
  rename_i htype halign
  exact ⟨htype, by simpa using halign⟩

theorem execute_lr {d : DecodedInstr} (hd : d.type = .lrW) {regs : RegFile}
    (halign : regs.read d.rs1 &&& 0x3 = 0) (bus : β) (reservation : ReservationSet) :
    execute d regs bus reservation =
      executeLr d regs bus reservation (regs.read d.rs1) := by
  unfold execute
  simp only [hd, halign]
  rfl

theorem execute_sc {d : DecodedInstr} (hd : d.type = .scW) {regs : RegFile}
    (halign : regs.read d.rs1 &&& 0x3 = 0) (bus : β) (reservation : ReservationSet) :
    execute d regs bus reservation =
      executeSc d regs bus reservation (regs.read d.rs1) (regs.read d.rs2) := by
  unfold execute
  simp only [hd, halign]
  rfl

theorem execute_amo {d : DecodedInstr} {op : Word → Word → Word} (hd : amoOp d.type = some op)
    {regs : RegFile} (halign : regs.read d.rs1 &&& 0x3 = 0) (bus : β)
    (reservation : ReservationSet) :
    execute d regs bus reservation =
      executeAmo op d regs bus reservation (regs.read d.rs1) (regs.read d.rs2) := by
  unfold execute
  simp only [halign]
  cases ht : d.type <;> rw [ht] at hd <;> cases hd <;> rfl

/-- The reservation of a completed A instruction, by its type. -/
theorem execute_reservation {d : DecodedInstr} {regs : RegFile} {bus : β}
    {reservation : ReservationSet}
    (hvalid : (execute d regs bus reservation).1.valid = true) :
    (execute d regs bus reservation).2.2.2 =
      match d.type with
      | .lrW => reservation.reserve (regs.read d.rs1)
      | .scW => reservation.clear
      | _ => reservation := by
  obtain ⟨htype, halign⟩ := execute_valid hvalid
  -- an AMO does not look at the reservation; LR and SC do
  cases hop : amoOp d.type with
  | some op =>
    rw [execute_amo hop halign] at hvalid ⊢
    unfold executeAmo at hvalid ⊢
    rcases hread : Bus.read32 bus (regs.read d.rs1) with ⟨_ | oldVal, bus₁⟩
    · rw [hread] at hvalid
      cases hvalid
    · rw [hread] at hvalid
      dsimp only at hvalid ⊢
      rcases hwrite : Bus.write32 bus₁ (regs.read d.rs1) (op oldVal (regs.read d.rs2)) with
        ⟨_ | _, bus₂⟩
      · rw [hwrite] at hvalid
        cases hvalid
      · cases ht : d.type <;> rw [ht] at hop <;> cases hop
  | none =>
    cases ht : d.type <;> rw [ht] at hop htype
    case illegal => exact absurd rfl htype
    case lrW =>
      rw [execute_lr ht halign] at hvalid ⊢
      unfold executeLr at hvalid ⊢
      rcases hread : Bus.read32 bus (regs.read d.rs1) with ⟨_ | _, _⟩
      · rw [hread] at hvalid
        cases hvalid
      · rfl
    case scW =>
      rw [execute_sc ht halign] at hvalid ⊢
      unfold executeSc at hvalid ⊢
      split
      · rename_i hcheck
        rw [if_pos hcheck] at hvalid
        rcases hwrite : Bus.write32 bus (regs.read d.rs1) (regs.read d.rs2) with ⟨_ | _, _⟩
        · rw [hwrite] at hvalid
          cases hvalid
        · rfl
      · rfl
    all_goals cases hop

end Rv32a

/-! ## The privileged instructions of the base executor -/

namespace Rv32i

/-- A word decodes to MRET or SRET only if it is that instruction. -/
def DecodedInstr.ReturnWord (instr : Word) (d : DecodedInstr) : Prop :=
  (d.type = .mret → instr = 0x30200073) ∧ (d.type = .sret → instr = 0x10200073)

theorem decode_returnWord (dec : Decoder) (instr : Word) :
    (dec.decode instr).ReturnWord instr := by
  unfold Decoder.decode Decoder.decodeBranch Decoder.decodeLoad Decoder.decodeStore
    Decoder.decodeOpImm Decoder.decodeOp Decoder.decodeFence Decoder.decodeSystem
  dsimp only
  repeat' refine iteInduction (motive := DecodedInstr.ReturnWord instr) (fun _ => ?_) fun _ => ?_
  all_goals simp_all [DecodedInstr.ReturnWord]

/-- The types whose state change the CPU performs. -/
def InstrType.isPrivileged : InstrType → Bool
  | .mret | .sret | .sfenceVma | .wfi => true
  | _ => false

namespace Executor

variable {β : Type} [Bus β] (ex : Executor)

theorem execute_privileged {d : DecodedInstr} (hd : d.type.isPrivileged = true) (regs : RegFile)
    (bus : β) (pc : Word) :
    ex.execute d regs bus pc =
      ({ nextPc := pc + 4
         mret := decide (d.type = .mret)
         sret := decide (d.type = .sret)
         sfenceVma := decide (d.type = .sfenceVma)
         wfi := decide (d.type = .wfi) }, regs, bus) := by
  unfold execute
  cases htype : d.type <;> rw [htype] at hd <;> first | rfl | cases hd

theorem execute_unprivileged {d : DecodedInstr} (hd : d.type.isPrivileged = false)
    (regs : RegFile) (bus : β) (pc : Word) :
    (ex.execute d regs bus pc).1.mret = false ∧ (ex.execute d regs bus pc).1.sret = false ∧
      (ex.execute d regs bus pc).1.sfenceVma = false ∧
      (ex.execute d regs bus pc).1.wfi = false := by
  unfold execute loadInto doLoad doStore takeBranch
  cases htype : d.type <;> rw [htype] at hd <;> dsimp only
  case jal | jalr => split <;> exact ⟨rfl, rfl, rfl, rfl⟩
  case beq | bne | blt | bge | bltu | bgeu =>
    split
    · split <;> exact ⟨rfl, rfl, rfl, rfl⟩
    · exact ⟨rfl, rfl, rfl, rfl⟩
  case lb | lh | lw | lbu | lhu =>
    rcases MemAccess.load bus _ _ ex.allowMisaligned with ⟨_ | _, _⟩ <;>
      exact ⟨rfl, rfl, rfl, rfl⟩
  case sb | sh | sw =>
    rcases MemAccess.store bus _ _ _ ex.allowMisaligned with ⟨_ | _, _⟩ <;>
      exact ⟨rfl, rfl, rfl, rfl⟩
  case mret | sret | sfenceVma | wfi => cases hd
  all_goals exact ⟨rfl, rfl, rfl, rfl⟩

end Executor

end Rv32i

/-! ## fcsr through the executor's view -/

/-- A legal fcsr word survives the trip through the executor's view. -/
theorem fcsr_roundtrip {v : Word} (h : Warl.Legal 0xFF 0 v) :
    (Rv32f.FCSR.write {} v).read &&& 0xFF = v := by
  have hbyte : ∀ b : BitVec 8,
      (Rv32f.FCSR.write {} (b.setWidth 32)).read &&& 0xFF = b.setWidth 32 := by decide
  have hv : (v.setWidth 8).setWidth 32 = v := by
    have hle : v.toNat ≤ 0xFF := by
      rw [← h.and_eq, BitVec.toNat_and]
      exact Nat.and_le_right
    apply BitVec.eq_of_toNat_eq
    simp only [BitVec.toNat_setWidth]
    omega
  rw [← hv]
  exact hbyte _

/-! ## The branches of the dispatch -/

section
variable {β : Type} [Bus β] {cpu : CPU} {instr : Word} {result : CPUExecResult} {bus : β}

theorem Outcome.completed {r : CPUExecResult} {regs : RegFile} {fregs : Rv32f.FRegFile}
    {csrs : CSRFile} {bus' : β}
    (hother : (cpu.config.enableAExtension && Rv32a.isAtomicInstruction instr) = false)
    (same : SameStep result r) (effect : CsrEffect cpu.config cpu.csrs csrs)
    (aligned : Aligned cpu.config.enableCExtension cpu.pc →
      Aligned cpu.config.enableCExtension r.nextPc) (clean : Clean bus bus') :
    Outcome cpu instr true result bus
      (r, { cpu with regs := regs, fregs := fregs, csrs := csrs }, bus') :=
  .retire same effect (reservationAfter_other hother).symm aligned clean

theorem Outcome.alu {regs : RegFile} {valid : Bool} {r : CPUExecResult} {tval : Word}
    {error : String}
    (hother : (cpu.config.enableAExtension && Rv32a.isAtomicInstruction instr) = false)
    (same : SameStep result r) (hnext : r.nextPc = cpu.pc + 4)
    (hinvalid : valid = false → regs = cpu.regs) :
    Outcome cpu instr true result bus
      ((({ cpu with regs := regs } : CPU).trapUnless valid r Exc.illegalInstruction tval error).1,
        (({ cpu with regs := regs } : CPU).trapUnless valid r Exc.illegalInstruction tval error).2,
        bus) := by
  cases valid with
  | false =>
    rw [hinvalid rfl]
    exact .trap same (.refl _ _ _ (.of_eval rfl))
  | true =>
    exact .completed hother same .same (fun h => hnext ▸ aligned_add_four h) (.refl bus)

theorem executeZifencei_outcome
    (hother : (cpu.config.enableAExtension && Rv32a.isAtomicInstruction instr) = false)
    (hnext : result.nextPc = cpu.pc + 4) :
    Outcome cpu instr true result bus
      ((cpu.executeZifencei instr result).1, (cpu.executeZifencei instr result).2, bus) :=
  .alu hother ⟨rfl, rfl, rfl, rfl⟩ hnext fun _ => rfl

theorem executeZicsr_outcome
    (hother : (cpu.config.enableAExtension && Rv32a.isAtomicInstruction instr) = false)
    (hnext : result.nextPc = cpu.pc + 4) :
    Outcome cpu instr true result bus
      ((cpu.executeZicsr instr result).1, (cpu.executeZicsr instr result).2, bus) := by
  unfold CPU.executeZicsr
  dsimp only
  split
  · exact .trap ⟨rfl, rfl, rfl, rfl⟩ (.refl _ _ _ (.of_eval rfl))
  rcases Zicsr.execute_cases (Zicsr.decode instr) cpu.regs cpu.csrs with ⟨error, h⟩ | ⟨hvalid, heff⟩
  · rw [h]
    exact .trap ⟨rfl, rfl, rfl, rfl⟩ (.refl _ (Zicsr.decode instr).raw _ (.of_eval rfl))
  · have heffect : CsrEffect cpu.config cpu.csrs
        (Zicsr.execute (Zicsr.decode instr) cpu.regs cpu.csrs).2.2 := by
      rcases heff with heff | ⟨v, heff, hex, hw⟩ <;> rw [heff]
      · exact .same
      · exact .write _ v hex hw
    unfold CPU.trapUnless
    rw [hvalid]
    exact .completed hother ⟨rfl, rfl, rfl, rfl⟩ heffect
      (fun h => hnext ▸ aligned_add_four h) (.refl bus)

theorem executeM_outcome
    (hother : (cpu.config.enableAExtension && Rv32a.isAtomicInstruction instr) = false)
    (hnext : result.nextPc = cpu.pc + 4) :
    Outcome cpu instr true result bus
      ((cpu.executeM instr result).1, (cpu.executeM instr result).2, bus) :=
  .alu hother ⟨rfl, rfl, rfl, rfl⟩ hnext (Rv32m.execute_invalid _ _)

theorem executeZba_outcome
    (hother : (cpu.config.enableAExtension && Rv32a.isAtomicInstruction instr) = false)
    (hnext : result.nextPc = cpu.pc + 4) :
    Outcome cpu instr true result bus
      ((cpu.executeZba instr result).1, (cpu.executeZba instr result).2, bus) :=
  .alu hother ⟨rfl, rfl, rfl, rfl⟩ hnext (Zba.execute_invalid _ _)

theorem executeZbb_outcome
    (hother : (cpu.config.enableAExtension && Rv32a.isAtomicInstruction instr) = false)
    (hnext : result.nextPc = cpu.pc + 4) :
    Outcome cpu instr true result bus
      ((cpu.executeZbb instr result).1, (cpu.executeZbb instr result).2, bus) :=
  .alu hother ⟨rfl, rfl, rfl, rfl⟩ hnext (Zbb.execute_invalid _ _)

theorem executeZbs_outcome
    (hother : (cpu.config.enableAExtension && Rv32a.isAtomicInstruction instr) = false)
    (hnext : result.nextPc = cpu.pc + 4) :
    Outcome cpu instr true result bus
      ((cpu.executeZbs instr result).1, (cpu.executeZbs instr result).2, bus) :=
  .alu hother ⟨rfl, rfl, rfl, rfl⟩ hnext (Zbs.execute_invalid _ _)

theorem executeZicond_outcome
    (hother : (cpu.config.enableAExtension && Rv32a.isAtomicInstruction instr) = false)
    (hnext : result.nextPc = cpu.pc + 4) :
    Outcome cpu instr true result bus
      ((cpu.executeZicond instr result).1, (cpu.executeZicond instr result).2, bus) :=
  .alu hother ⟨rfl, rfl, rfl, rfl⟩ hnext (Zicond.execute_invalid _ _)

theorem executeA_outcome
    (hatomic : (cpu.config.enableAExtension && Rv32a.isAtomicInstruction instr) = true)
    (hnext : result.nextPc = cpu.pc + 4) :
    Outcome cpu instr true result bus (cpu.executeA instr bus result) := by
  have hspec := Rv32a.execute_spec (Rv32a.decode instr) cpu.regs bus cpu.reservation
  unfold CPU.executeA
  dsimp only
  cases hvalid : (Rv32a.execute (Rv32a.decode instr) cpu.regs bus cpu.reservation).1.valid with
  | false =>
    obtain ⟨⟨hregs, hres⟩, hfault⟩ := hspec.trapped (by rw [hvalid]; rfl)
    rw [hregs, hres]
    refine .trap ⟨rfl, rfl, rfl, rfl⟩ ?_
    simpa [amoAccess, hatomic] using hfault
  | true =>
    have hclean := hspec.completed (by rw [hvalid]; rfl)
    have hres := Rv32a.execute_reservation hvalid
    have hafter : (Rv32a.execute (Rv32a.decode instr) cpu.regs bus cpu.reservation).2.2.2 =
        reservationAfter cpu instr true := by
      rw [hres]
      simp only [reservationAfter, hatomic]
      rfl
    unfold CPU.trapUnless
    exact .retire ⟨rfl, rfl, rfl, rfl⟩ .same hafter (fun h => hnext ▸ aligned_add_four h) hclean

theorem executeBase_outcome
    (hother : (cpu.config.enableAExtension && Rv32a.isAtomicInstruction instr) = false)
    (hialign : cpu.iExecutor.cExtEnabled = cpu.config.enableCExtension) :
    Outcome cpu instr true result bus (cpu.executeBase instr bus result) := by
  have hspec := cpu.iExecutor.execute_spec (cpu.iDecoder.decode instr) cpu.regs bus cpu.pc
  have hword := Rv32i.decode_returnWord cpu.iDecoder instr
  have hnext : Aligned cpu.config.enableCExtension cpu.pc →
      Aligned cpu.config.enableCExtension (cpu.pc + 4) := aligned_add_four
  unfold CPU.executeBase CPU.finishBase
  dsimp only
  -- the executor only raises a flag for a privileged instruction; the CPU decides
  cases hpriv : (cpu.iDecoder.decode instr).type.isPrivileged with
  | true =>
    rw [cpu.iExecutor.execute_privileged hpriv]
    cases htype : (cpu.iDecoder.decode instr).type <;> rw [htype] at hpriv <;>
      simp only [reduceCtorEq, decide_true, decide_false, if_true, if_false,
        Bool.false_eq_true]
    case mret =>
      split
      · exact .trap ⟨rfl, rfl, rfl, rfl⟩ (.refl _ _ _ (.of_eval rfl))
      · rename_i hmachine
        exact .mret ⟨rfl, rfl, rfl, rfl⟩ rfl (hword.1 htype) (Classical.not_not.mp hmachine)
    case sret =>
      split
      · exact .trap ⟨rfl, rfl, rfl, rfl⟩ (.refl _ _ _ (.of_eval rfl))
      · rename_i hallowed
        simp only [not_or, Bool.not_eq_true, Bool.not_eq_false'] at hallowed
        exact .sret ⟨rfl, rfl, rfl, rfl⟩ rfl (hword.2 htype) hallowed.1 hallowed.2.1
          hallowed.2.2
    case sfenceVma | wfi =>
      split
      · exact .trap ⟨rfl, rfl, rfl, rfl⟩ (.refl _ _ _ (.of_eval rfl))
      · exact .completed hother ⟨rfl, rfl, rfl, rfl⟩ .same hnext (.refl bus)
    all_goals cases hpriv
  | false =>
    obtain ⟨hm, hs, hf, hw⟩ :=
      cpu.iExecutor.execute_unprivileged hpriv cpu.regs bus cpu.pc
    rw [hm, hs, hf, hw]
    simp only [if_false, Bool.false_eq_true]
    unfold CPU.trapUnless
    cases htrap : (cpu.iExecutor.execute (cpu.iDecoder.decode instr) cpu.regs bus cpu.pc).1.trap
      with
    | true =>
      obtain ⟨hregs, hfault⟩ := hspec.trapped htrap
      rw [hregs]
      exact .trap ⟨rfl, rfl, rfl, rfl⟩ (amoAccess_other hother ▸ hfault)
    | false =>
      refine .completed hother ⟨rfl, rfl, rfl, rfl⟩ .same (fun hpc => ?_) (hspec.completed htrap)
      rw [← hialign] at hpc ⊢
      exact cpu.iExecutor.execute_aligned (Rv32i.decode_evenOffset _ _) cpu.regs bus hpc htrap

theorem executeC_outcome {cInstr : BitVec 16} (hc : cpu.config.enableCExtension = true) :
    Outcome cpu instr false result bus (cpu.executeC cInstr bus result) := by
  have hspec := cpu.cExecutor.execute_spec (Rv32c.decode cInstr) cpu.regs bus cpu.pc
  unfold CPU.executeC CPU.trapUnless
  dsimp only
  cases htrap : (cpu.cExecutor.execute (Rv32c.decode cInstr) cpu.regs bus cpu.pc).1.trap with
  | true =>
    obtain ⟨hregs, hfault⟩ := hspec.trapped htrap
    rw [hregs]
    exact .trap ⟨rfl, rfl, rfl, rfl⟩ hfault
  | false =>
    refine .retire ⟨rfl, rfl, rfl, rfl⟩ .same rfl (fun hpc => ?_)
      (hspec.completed htrap)
    rw [hc] at hpc ⊢
    exact cpu.cExecutor.execute_aligned (Rv32c.decode_evenOffset cInstr) cpu.regs bus hpc

theorem executeFc_outcome {cInstr : BitVec 16} (hc : cpu.config.enableCExtension = true) :
    Outcome cpu instr false result bus (cpu.executeFc cInstr bus result) := by
  have hspec := cpu.fcExecutor.execute_spec (Rv32fc.decode cInstr) cpu.regs cpu.fregs bus
  unfold CPU.executeFc CPU.trapUnless
  dsimp only
  cases hvalid : (cpu.fcExecutor.execute (Rv32fc.decode cInstr) cpu.regs cpu.fregs bus).1.valid
    with
  | false =>
    obtain ⟨hfregs, hfault⟩ := hspec.trapped (by rw [hvalid]; rfl)
    rw [hfregs]
    exact .trap ⟨rfl, rfl, rfl, rfl⟩ hfault
  | true =>
    refine .retire ⟨rfl, rfl, rfl, rfl⟩ .same rfl (fun hpc => ?_)
      (hspec.completed (by rw [hvalid]; rfl))
    rw [hc] at hpc ⊢
    exact aligned_add_two hpc

theorem executeCompressed_outcome {cInstr : BitVec 16}
    (hc : cpu.config.enableCExtension = true) :
    Outcome cpu instr false result bus (cpu.executeCompressed cInstr bus result) :=
  .ite (fun _ => executeFc_outcome hc) fun _ => executeC_outcome hc

variable [Rv32f.HostFloat]

theorem executeF_outcome (hlegal : CsrLegal cpu.config cpu.csrs)
    (hf : cpu.config.enableFExtension = true)
    (hother : (cpu.config.enableAExtension && Rv32a.isAtomicInstruction instr) = false)
    (hnext : result.nextPc = cpu.pc + 4) :
    Outcome cpu instr true result bus (cpu.executeF instr bus result) := by
  have hspec := cpu.fExecutor.execute_spec (Rv32f.decode instr)
    { iregs := cpu.regs, fregs := cpu.fregs, bus := bus }
    (Rv32f.FCSR.write {} (cpu.csrs.get CsrAddr.fcsr))
  unfold CPU.executeF CPU.trapUnless
  dsimp only
  cases hvalid : (cpu.fExecutor.execute (Rv32f.decode instr)
      { iregs := cpu.regs, fregs := cpu.fregs, bus := bus }
      (Rv32f.FCSR.write {} (cpu.csrs.get CsrAddr.fcsr))).1.valid with
  | false =>
    obtain ⟨⟨hiregs, hfregs, hfcsr⟩, hfault⟩ := hspec.trapped (by rw [hvalid]; rfl)
    -- the write-back puts back the word it read
    have hback : cpu.csrs.set CsrAddr.fcsr (cpu.csrs.get CsrAddr.fcsr) = cpu.csrs :=
      cpu.csrs.set_get_self (hlegal.stored CsrAddr.fcsr)
    rw [hiregs, hfregs, hfcsr, fcsr_roundtrip hlegal.fcsr, hback]
    exact .trap ⟨rfl, rfl, rfl, rfl⟩ (amoAccess_other hother ▸ hfault)
  | true =>
    exact .completed hother ⟨rfl, rfl, rfl, rfl⟩ (.fcsr _ hf)
      (fun h => hnext ▸ aligned_add_four h) (hspec.completed (by rw [hvalid]; rfl))

/-- **The 32-bit dispatch.** Before the test of the A extension the opcode tells
that the word is not atomic, after it the test does. -/
theorem execute32bit_outcome (hlegal : CsrLegal cpu.config cpu.csrs)
    (hialign : cpu.iExecutor.cExtEnabled = cpu.config.enableCExtension) :
    Outcome cpu instr true result bus (cpu.execute32bit instr bus result) := by
  unfold CPU.execute32bit
  dsimp only
  have hsame : SameStep result { result with nextPc := cpu.pc + 4 } := ⟨rfl, rfl, rfl, rfl⟩
  refine .of_sameStep hsame ?_
  refine .ite (fun hz => ?_) fun _ => ?_
  · simp only [Zifencei.isZifenceiInstruction, Bool.and_eq_true, decide_eq_true_eq] at hz
    exact executeZifencei_outcome (not_atomic_of_opcode hz.2.1 (by decide) _) rfl
  refine .ite (fun hz => ?_) fun _ => ?_
  · simp only [Zicsr.isCsrInstruction, Bool.and_eq_true, decide_eq_true_eq] at hz
    exact executeZicsr_outcome (not_atomic_of_opcode hz.2.1.1 (by decide) _) rfl
  refine .ite (fun hm => ?_) fun _ => ?_
  · simp only [Rv32m.isMInstruction, Bool.and_eq_true, decide_eq_true_eq] at hm
    exact executeM_outcome (not_atomic_of_opcode hm.2.1 (by decide) _) rfl
  refine .ite (fun ha => executeA_outcome ha rfl) fun hna => ?_
  have hother : (cpu.config.enableAExtension && Rv32a.isAtomicInstruction instr) = false :=
    Bool.eq_false_iff.mpr hna
  refine .ite (fun hf => ?_) fun _ => ?_
  · exact executeF_outcome hlegal (Bool.and_eq_true_iff.mp hf).1 hother rfl
  refine .ite (fun _ => executeZba_outcome hother rfl) fun _ => ?_
  refine .ite (fun _ => executeZbb_outcome hother rfl) fun _ => ?_
  refine .ite (fun _ => executeZbs_outcome hother rfl) fun _ => ?_
  refine .ite (fun _ => executeZicond_outcome hother rfl) fun _ => ?_
  exact executeBase_outcome hother hialign

/-- **Executing an instruction**, compressed or not. -/
theorem executeParcels_outcome {is32bit : Bool} (hlegal : CsrLegal cpu.config cpu.csrs)
    (hialign : cpu.iExecutor.cExtEnabled = cpu.config.enableCExtension) :
    Outcome cpu instr is32bit result bus (cpu.executeParcels instr is32bit bus result) := by
  cases is32bit with
  | true => exact execute32bit_outcome hlegal hialign
  | false =>
    have hsame : SameStep result { result with instrSize := 2 } := ⟨rfl, rfl, rfl, rfl⟩
    refine .of_sameStep hsame ?_
    unfold CPU.executeParcels
    simp only [Bool.not_false, if_true]
    refine Outcome.ite (fun _ => .trap ⟨rfl, rfl, rfl, rfl⟩ (.refl _ _ _ (.of_eval rfl))) fun hc => ?_
    exact executeCompressed_outcome (by simpa using hc)

end

end Riscv

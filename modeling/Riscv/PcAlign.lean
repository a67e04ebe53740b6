import Riscv.Cpu
import Riscv.Lib.Warl

/- Alignment of the program counter.

   With C the pc is a multiple of 2, without it of 4. The base executor checks bit
   1 of a target only, and only without C; that this is enough rests on bit 0 of
   every target being clear, which is a fact about the immediates the decoders
   build. -/
namespace Riscv

/-- IALIGN in bytes. -/
def ialignBytes (cExtension : Bool) : Nat := if cExtension then 2 else 4

/-- `pc` is a multiple of IALIGN. -/
def Aligned (cExtension : Bool) (pc : Word) : Prop := pc.toNat % ialignBytes cExtension = 0

instance (c : Bool) (pc : Word) : Decidable (Aligned c pc) :=
  inferInstanceAs (Decidable (pc.toNat % ialignBytes c = 0))

/-! ## Alignment and the low bits -/

theorem aligned_iff {c : Bool} {x : Word} :
    Aligned c x ↔ x[0] = false ∧ (c = false → x[1] = false) := by
  simp only [BitVec.getElem_eq_testBit_toNat, Nat.testBit_eq_decide_div_mod_eq,
    decide_eq_false_iff_not]
  cases c
  · simp [Aligned, ialignBytes]
    omega
  · simp [Aligned, ialignBytes]

theorem aligned_add {c : Bool} {x y : Word} (hx : Aligned c x) (hy : Aligned c y) :
    Aligned c (x + y) := by
  cases c <;> simp [Aligned, ialignBytes, BitVec.toNat_add] at * <;> omega

/-- Sequential advance: by four always, by two with C. -/
theorem aligned_add_four {c : Bool} {x : Word} (hx : Aligned c x) : Aligned c (x + 4) :=
  aligned_add hx (by cases c <;> decide)

theorem aligned_add_two {x : Word} (hx : Aligned true x) : Aligned true (x + 2) :=
  aligned_add hx (by decide)

theorem aligned_of_legal {config : CPUConfig} {x : Word}
    (h : Warl.Legal (CPU.mepcMaskOf config) 0 x) : Aligned config.enableCExtension x := by
  have hbit := Warl.agree_iff.mp (h.agree (u := 0) (by simp [Warl.Legal]))
  unfold CPU.mepcMaskOf at hbit
  rw [aligned_iff]
  cases hc : config.enableCExtension <;> rw [hc] at hbit
  · exact ⟨(hbit 0 (by decide) rfl).trans (by simp), fun _ =>
      (hbit 1 (by decide) rfl).trans (by simp)⟩
  · exact ⟨(hbit 0 (by decide) rfl).trans (by simp), by simp⟩

theorem legal_of_aligned {config : CPUConfig} {x : Word}
    (h : Aligned config.enableCExtension x) : Warl.Legal (CPU.mepcMaskOf config) 0 x := by
  rw [aligned_iff] at h
  unfold CPU.mepcMaskOf Warl.Legal
  cases hc : config.enableCExtension <;> rw [hc] at h
  · have hfield := BitVec.ushiftRight_and_three x 0
    simpa [h.1, h.2] using hfield
  · have hfield := BitVec.ushiftRight_and_one x 0
    simpa [h.1] using hfield

theorem aligned_and_not_three (c : Bool) (x : Word) : Aligned c (x &&& ~~~3) := by
  rw [aligned_iff]
  simp

/-- Bit 0 of an address is clear. -/
abbrev IsEven (x : Word) : Prop := x[0] = false

theorem even_add {x y : Word} (hx : x[0] = false) (hy : y[0] = false) : (x + y)[0] = false := by
  have h := @aligned_add true x y (aligned_iff.mpr ⟨hx, by simp⟩) (aligned_iff.mpr ⟨hy, by simp⟩)
  exact (aligned_iff.mp h).1

theorem Aligned.even {c : Bool} {x : Word} (h : Aligned c x) : x[0] = false :=
  (aligned_iff.mp h).1

/-- The low bit cleared, as JALR clears it. -/
theorem even_and_not_one (x : Word) : (x &&& ~~~1)[0] = false := by
  simp

/-! ## Targets of the base executor -/

namespace Rv32i

/-- The bit test of the source is the bit it means to test. -/
theorem Executor.targetMisaligned_eq (ex : Executor) (target : Word) :
    ex.targetMisaligned target = (!ex.cExtEnabled && target[1]) :=
  congrArg (!ex.cExtEnabled && ·) (BitVec.decide_and_twoPow_ne (i := 1) (by decide) target)

theorem Executor.targetMisaligned_iff (ex : Executor) {target : Word}
    (heven : target[0] = false) :
    ex.targetMisaligned target = true ↔ ¬ Aligned ex.cExtEnabled target := by
  rw [Executor.targetMisaligned_eq, aligned_iff]
  cases ex.cExtEnabled <;> simp [heven]

theorem decodeJImm_even (instr : Word) : (decodeJImm instr)[0] = false := by
  unfold decodeJImm
  dsimp only
  split <;> simp

theorem decodeBImm_even (instr : Word) : (decodeBImm instr)[0] = false := by
  unfold decodeBImm
  dsimp only
  split <;> simp

def InstrType.isBranch : InstrType → Bool
  | .beq | .bne | .blt | .bge | .bltu | .bgeu => true
  | _ => false

/-- The offsets of JAL and of the branches are even. -/
def DecodedInstr.EvenOffset (d : DecodedInstr) : Prop :=
  d.type = .jal ∨ d.type.isBranch = true → d.imm[0] = false

theorem DecodedInstr.EvenOffset.ite {c : Prop} [Decidable c] {d e : DecodedInstr}
    (hd : d.EvenOffset) (he : e.EvenOffset) : (if c then d else e).EvenOffset := by
  split
  · exact hd
  · exact he

theorem decode_evenOffset (dec : Decoder) (instr : Word) : (dec.decode instr).EvenOffset := by
  unfold Decoder.decode Decoder.decodeBranch Decoder.decodeLoad Decoder.decodeStore
    Decoder.decodeOpImm Decoder.decodeOp Decoder.decodeFence Decoder.decodeSystem
  dsimp only
  repeat' apply DecodedInstr.EvenOffset.ite
  all_goals
    simp [DecodedInstr.EvenOffset, InstrType.isBranch, decodeJImm_even, decodeBImm_even]

namespace Executor

variable {β : Type} [Bus β] (ex : Executor)

omit [Bus β] in
/-- A jump that does not trap goes to an aligned target. -/
theorem jump_aligned {target : Word} (heven : target[0] = false) (result : ExecResult)
    (regs regs' : RegFile) (bus : β)
    (hdone : (if ex.targetMisaligned target then (setFetchMisaligned result target, regs, bus)
      else ({ result with nextPc := target, branchTaken := true }, regs', bus)).1.trap = false) :
    Aligned ex.cExtEnabled
      (if ex.targetMisaligned target then (setFetchMisaligned result target, regs, bus)
        else ({ result with nextPc := target, branchTaken := true }, regs', bus)).1.nextPc := by
  cases hmis : ex.targetMisaligned target with
  | true =>
    rw [hmis] at hdone
    cases hdone
  | false =>
    by_cases halign : Aligned ex.cExtEnabled target
    · exact halign
    · rw [(ex.targetMisaligned_iff heven).mpr halign] at hmis
      cases hmis

theorem branch_aligned {taken : Prop} [Decidable taken] {target : Word}
    (heven : target[0] = false) {result : ExecResult}
    (hnext : Aligned ex.cExtEnabled result.nextPc)
    (hdone : (if taken then ex.takeBranch result target else result).trap = false) :
    Aligned ex.cExtEnabled (if taken then ex.takeBranch result target else result).nextPc := by
  by_cases ht : taken
  · rw [if_pos ht] at hdone ⊢
    unfold takeBranch at hdone ⊢
    cases hmis : ex.targetMisaligned target with
    | true =>
      rw [hmis] at hdone
      cases hdone
    | false =>
      by_cases halign : Aligned ex.cExtEnabled target
      · exact halign
      · rw [(ex.targetMisaligned_iff heven).mpr halign] at hmis
        cases hmis
  · rwa [if_neg ht]

theorem nextPc_loadInto (bus : β) (addr : Word) (size : Nat) (result : ExecResult)
    (regs : RegFile) (rd : BitVec 8) (f : Word → Word) :
    (ex.loadInto bus addr size result regs rd f).1.nextPc = result.nextPc := by
  unfold loadInto doLoad
  rcases MemAccess.load bus addr size ex.allowMisaligned with ⟨_ | _, _⟩ <;> rfl

theorem nextPc_doStore (bus : β) (addr : Word) (size : Nat) (data : Word)
    (result : ExecResult) :
    (ex.doStore bus addr size data result).1.nextPc = result.nextPc := by
  unfold doStore
  rcases MemAccess.store bus addr size data ex.allowMisaligned with ⟨_ | _, _⟩ <;> rfl

/-- **A base instruction that does not trap leaves an aligned pc.** -/
theorem execute_aligned {d : DecodedInstr} (hd : d.EvenOffset) (regs : RegFile) (bus : β)
    {pc : Word} (hpc : Aligned ex.cExtEnabled pc)
    (hdone : (ex.execute d regs bus pc).1.trap = false) :
    Aligned ex.cExtEnabled (ex.execute d regs bus pc).1.nextPc := by
  have hnext : Aligned ex.cExtEnabled (pc + 4) := aligned_add_four hpc
  have htarget : d.type = .jal ∨ d.type.isBranch = true → (pc + d.imm)[0] = false :=
    fun h => even_add hpc.even (hd h)
  unfold execute at hdone ⊢
  cases htype : d.type <;> rw [htype] at hdone htarget <;> dsimp only at hdone ⊢
  case jal => exact ex.jump_aligned (htarget (by decide)) _ regs _ bus hdone
  case jalr => exact ex.jump_aligned (even_and_not_one _) _ regs _ bus hdone
  case beq | bne | blt | bge | bltu | bgeu =>
    exact ex.branch_aligned (htarget (by decide)) hnext hdone
  case lb | lh | lw | lbu | lhu =>
    rw [nextPc_loadInto]
    exact hnext
  case sb | sh | sw =>
    rw [nextPc_doStore]
    exact hnext
  all_goals exact hnext

end Executor

end Rv32i

/-! ## Targets of the compressed executor

It makes no check of its own: with C every even target is aligned. -/

namespace Rv32c

theorem decodeCjImm_even (instr : BitVec 16) : (decodeCjImm instr)[0] = false := by
  unfold decodeCjImm
  dsimp only
  split <;> simp

theorem decodeCbImm_even (instr : BitVec 16) : (decodeCbImm instr)[0] = false := by
  unfold decodeCbImm
  dsimp only
  split <;> simp

/-- The compressed jumps and branches with an offset. -/
def InstrType.isRelative : InstrType → Bool
  | .cJ | .cJal | .cBeqz | .cBnez => true
  | _ => false

def DecodedInstr.EvenOffset (d : DecodedInstr) : Prop :=
  d.type.isRelative = true → d.imm[0] = false

theorem DecodedInstr.EvenOffset.ite {c : Prop} [Decidable c] {d e : DecodedInstr}
    (hd : d.EvenOffset) (he : e.EvenOffset) : (if c then d else e).EvenOffset := by
  split
  · exact hd
  · exact he

theorem decode_evenOffset (instr : BitVec 16) : (decode instr).EvenOffset := by
  unfold decode decodeC0 decodeC1 decodeC2 decodeC1Alu decodeC2Reg
  dsimp only
  repeat' apply DecodedInstr.EvenOffset.ite
  all_goals
    simp [DecodedInstr.EvenOffset, InstrType.isRelative, decodeCjImm_even, decodeCbImm_even]
  -- C.NOP or C.ADDI, which have no target
  by_cases hrd : regField instr 7 = 0#8 <;> simp [hrd]

namespace Executor

variable {β : Type} [Bus β] (ex : Executor)

theorem nextPc_doLoad32 (bus : β) (addr : Word) (result : ExecResult) (regs : RegFile)
    (rd : BitVec 8) : (ex.doLoad32 bus addr result regs rd).1.nextPc = result.nextPc := by
  unfold doLoad32
  rcases MemAccess.load bus addr 4 ex.allowMisaligned with ⟨_ | _, _⟩ <;> rfl

theorem nextPc_doStore32 (bus : β) (addr data : Word) (result : ExecResult) (regs : RegFile) :
    (ex.doStore32 bus addr data result regs).1.nextPc = result.nextPc := by
  unfold doStore32
  rcases MemAccess.store bus addr 4 data ex.allowMisaligned with ⟨_ | _, _⟩ <;> rfl

/-- **A compressed instruction leaves an aligned pc.** -/
theorem execute_aligned {d : DecodedInstr} (hd : d.EvenOffset) (regs : RegFile) (bus : β)
    {pc : Word} (hpc : Aligned true pc) :
    Aligned true (ex.execute d regs bus pc).1.nextPc := by
  have hnext : Aligned true (pc + 2) := aligned_add_two hpc
  have hrelative : d.type.isRelative = true → Aligned true (pc + d.imm) := fun h =>
    aligned_iff.mpr ⟨even_add hpc.even (hd h), by simp⟩
  have hregister : Aligned true (regs.read d.rs1 &&& ~~~1) :=
    aligned_iff.mpr ⟨even_and_not_one _, by simp⟩
  unfold execute
  cases htype : d.type <;> rw [htype] at hrelative <;> dsimp only
  case cLw | cLwsp =>
    rw [nextPc_doLoad32]
    exact hnext
  case cSw | cSwsp =>
    rw [nextPc_doStore32]
    exact hnext
  case cJ | cJal => exact hrelative rfl
  case cJr | cJalr => exact hregister
  case cBeqz | cBnez =>
    split
    · exact hrelative rfl
    · exact hnext
  all_goals exact hnext

end Executor

end Rv32c

end Riscv

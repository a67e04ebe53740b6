import Riscv.Memory
import Riscv.DecoderDisjoint
import Riscv.Step

/- Dispatch and the classifier.

   The 32-bit dispatch is a search of `dispatchOrder` for an enabled extension whose
   test claims the word. Its tests are coarser than the decoders, but stay inside
   the same parts, so an extension whose decoder accepts the word gets it wherever
   it stands in the order, and a word nobody enabled accepts ends in an illegal
   instruction whoever it is handed to. -/
namespace Riscv

open Zicsr

/-- Whether the configuration has the extension; Zcf needs C and F, RV32I is
always there. -/
def CPUConfig.enables (config : CPUConfig) (e : Extension) : Bool :=
  match e with
  | .rv32i => true
  | .rv32m => config.enableMExtension
  | .rv32a => config.enableAExtension
  | .rv32f => config.enableFExtension
  | .zicsr => config.enableZicsr
  | .zifencei => config.enableZifencei
  | .zba => config.enableZba
  | .zbb => config.enableZbb
  | .zbs => config.enableZbs
  | .zicond => config.enableZicond
  | .rv32c => config.enableCExtension
  | .rv32fc => config.enableCExtension && config.enableFExtension

/-! ## The dispatch order -/

/-- The tests of `execute_32bit`, in the order they are made. -/
def dispatchOrder : List Extension :=
  [.zifencei, .zicsr, .rv32m, .rv32a, .rv32f, .zba, .zbb, .zbs, .zicond]

/-- The test of an extension; the base set is what no test claims. -/
def dispatchTest (e : Extension) (instr : Word) : Bool :=
  match e with
  | .zifencei => Zifencei.isZifenceiInstruction instr
  | .zicsr => Zicsr.isCsrInstruction instr
  | .rv32m => Rv32m.isMInstruction instr
  | .rv32a => Rv32a.isAtomicInstruction instr
  | .rv32f => Rv32f.isFInstruction instr
  | .zba => Zba.isZbaInstruction instr
  | .zbb => Zbb.isZbbInstruction instr
  | .zbs => Zbs.isZbsInstruction instr
  | .zicond => Zicond.isZicondInstruction instr
  | .rv32i | .rv32c | .rv32fc => false

/-- The extension a 32-bit word is dispatched to. -/
def CPUConfig.dispatch32 (config : CPUConfig) (instr : Word) : Extension :=
  (dispatchOrder.find? fun e => config.enables e && dispatchTest e instr).getD .rv32i

theorem dispatchTest_owner {e : Extension} {instr : Word} (h : dispatchTest e instr = true) :
    ownerOf instr = e := by
  cases e
  case zifencei => exact owner_zifencei h
  case zicsr => exact owner_zicsr h
  case rv32m => exact owner_rv32m h
  case rv32a => exact owner_rv32a h
  case rv32f => exact owner_rv32f h
  case zba => exact owner_zba h
  case zbb => exact owner_zbb h
  case zbs => exact owner_zbs h
  case zicond => exact owner_zicond h
  all_goals cases h

/-- **The order of the tests is irrelevant**: an enabled extension whose test
claims the word gets it, wherever it stands. -/
theorem dispatch32_of_test {config : CPUConfig} {e : Extension} {instr : Word}
    (hmem : e ∈ dispatchOrder) (henabled : config.enables e = true)
    (htest : dispatchTest e instr = true) : config.dispatch32 instr = e := by
  unfold CPUConfig.dispatch32
  cases hfind : dispatchOrder.find? fun e => config.enables e && dispatchTest e instr with
  | none =>
    have hnot := List.find?_eq_none.mp hfind e hmem
    rw [henabled, htest] at hnot
    exact absurd rfl hnot
  | some e' =>
    have hclaims := List.find?_some hfind
    simp only [Bool.and_eq_true] at hclaims
    exact (dispatchTest_owner hclaims.2).symm.trans (dispatchTest_owner htest)

/-- A word no enabled test claims goes to the base set. -/
theorem dispatch32_base {config : CPUConfig} {instr : Word}
    (h : ∀ e ∈ dispatchOrder, config.enables e = true → dispatchTest e instr = false) :
    config.dispatch32 instr = .rv32i := by
  unfold CPUConfig.dispatch32
  rw [List.find?_eq_none.mpr]
  · rfl
  intro e he
  cases henabled : config.enables e with
  | false => simp
  | true => simp [h e he henabled]

theorem dispatch32_mem (config : CPUConfig) (instr : Word) :
    config.dispatch32 instr = .rv32i ∨ (config.dispatch32 instr ∈ dispatchOrder ∧
      config.enables (config.dispatch32 instr) = true) := by
  unfold CPUConfig.dispatch32
  cases hfind : dispatchOrder.find? fun e => config.enables e && dispatchTest e instr with
  | none => exact .inl rfl
  | some e =>
    have hclaims := List.find?_some hfind
    simp only [Bool.and_eq_true] at hclaims
    exact .inr ⟨List.mem_of_find?_eq_some hfind, hclaims.1⟩

theorem dispatch32_claims {config : CPUConfig} {instr : Word}
    (h : config.dispatch32 instr ≠ .rv32i) :
    config.enables (config.dispatch32 instr) = true ∧
      dispatchTest (config.dispatch32 instr) instr = true := by
  unfold CPUConfig.dispatch32 at h ⊢
  cases hfind : dispatchOrder.find? fun e => config.enables e && dispatchTest e instr with
  | none =>
    rw [hfind] at h
    exact absurd rfl h
  | some e =>
    have hclaims := List.find?_some hfind
    exact Bool.and_eq_true_iff.mp hclaims

/-! ## Illegal encodings -/

theorem raw_rv32i (dec : Rv32i.Decoder) (instr : Word) : (dec.decode instr).raw = instr := by
  have hkeeps : ∀ {c : Prop} [Decidable c] {x y : Rv32i.DecodedInstr},
      x.raw = instr → y.raw = instr → (if c then x else y).raw = instr := by
    intro c _ x y hx hy
    split <;> assumption
  unfold Rv32i.Decoder.decode Rv32i.Decoder.decodeBranch Rv32i.Decoder.decodeLoad
    Rv32i.Decoder.decodeStore Rv32i.Decoder.decodeOpImm Rv32i.Decoder.decodeOp
    Rv32i.Decoder.decodeFence Rv32i.Decoder.decodeSystem
  dsimp only
  repeat' refine hkeeps ?_ ?_
  all_goals rfl

theorem raw_rv32a (instr : Word) : (Rv32a.decode instr).raw = instr := by
  unfold Rv32a.decode
  dsimp only
  repeat' split
  all_goals rfl

theorem raw_rv32f (instr : Word) : (Rv32f.decode instr).raw = instr := by
  simp only [Rv32f.decode, Rv32f.decodeOpcode, Rv32f.decodeOpFp, apply_ite Rv32f.DecodedInstr.raw,
    ite_self]

theorem raw_zicsr (instr : Word) : (Zicsr.decode instr).raw = instr := by
  unfold Zicsr.decode
  dsimp only
  repeat' split
  all_goals rfl

theorem raw_rv32c (p : BitVec 16) : (Rv32c.decode p).raw = p := by
  have hkeeps : ∀ {c : Prop} [Decidable c] {x y : Rv32c.DecodedInstr},
      x.raw = p → y.raw = p → (if c then x else y).raw = p := by
    intro c _ x y hx hy
    split <;> assumption
  unfold Rv32c.decode Rv32c.decodeC0 Rv32c.decodeC1 Rv32c.decodeC2 Rv32c.decodeC1Alu
    Rv32c.decodeC2Reg
  dsimp only
  repeat' refine hkeeps ?_ ?_
  all_goals rfl

theorem raw_rv32fc (p : BitVec 16) : (Rv32fc.decode p).raw = p := by
  unfold Rv32fc.decode Rv32fc.decodeQuadrant0 Rv32fc.decodeQuadrant2
  dsimp only
  repeat' split
  all_goals rfl

/-- A step that raised the illegal-instruction exception for the value `v`, at
whichever level it was taken. -/
structure IllegalTrap (v : Word) (out : CPUExecResult × CPU) : Prop where
  trap : out.1.trap = true
  trapCause : out.1.trapCause = Exc.illegalInstruction
  trapValue : out.1.trapValue = v
  cause : out.2.csrs.get out.2.csrs.currentPrivilege.causeCsr = Exc.illegalInstruction
  tval : out.2.csrs.get out.2.csrs.currentPrivilege.tvalCsr = v

theorem illegalTrap_takeException (cpu : CPU) (result : CPUExecResult) (v : Word)
    (info : String) :
    IllegalTrap v (cpu.takeException result Exc.illegalInstruction v info) := by
  rw [CPU.takeException_eq cpu result v info (by decide)]
  unfold CPU.enterTrap
  rcases cpu.exceptionTarget_cases Exc.illegalInstruction with h | ⟨h, -⟩ <;> rw [h] <;>
    exact ⟨rfl, rfl, rfl, rfl, rfl⟩

theorem IllegalTrap.finishStep {v : Word} {result : CPUExecResult} {cpu : CPU}
    (h : IllegalTrap v (result, cpu)) : IllegalTrap v (result, cpu.finishStep result) := by
  have hcause : ∀ p : PrivilegeLevel, p.causeCsr ∉ counterCsrs := by
    intro p
    cases p <;> decide
  have htval : ∀ p : PrivilegeLevel, p.tvalCsr ∉ counterCsrs := by
    intro p
    cases p <;> decide
  rw [CPU.finishStep_eq]
  refine ⟨h.trap, h.trapCause, h.trapValue, ?_, ?_⟩ <;> dsimp only <;>
    rw [countStep_currentPrivilege]
  · rw [countStep_get _ _ (hcause _)]
    exact h.cause
  · rw [countStep_get _ _ (htval _)]
    exact h.tval

/-- `instr & 0xFFFF` is the low parcel. -/
theorem setWidth_u16 (w : Word) : (u16 w).setWidth 32 = w &&& 0xFFFF := by
  apply BitVec.eq_of_toNat_eq
  rw [BitVec.toNat_and]
  simp only [u16, BitVec.toNat_setWidth]
  have hmask : w.toNat &&& 0xFFFF = w.toNat % 2 ^ 16 := Nat.and_two_pow_sub_one_eq_mod _ 16
  show w.toNat % 2 ^ 16 % 2 ^ 32 = w.toNat &&& 0xFFFF
  omega

/-- The word a trap on an illegal opcode reports. -/
def illegalValue (opcode : Word) : Word :=
  if OpcodeClassifier.isCompressed opcode then opcode &&& 0xFFFF else opcode

section
variable {β : Type} [Bus β] [Rv32f.HostFloat]

/-- Execution of a word as an instruction of the extension. -/
def CPU.executeAs (cpu : CPU) (e : Extension) (opcode : Word) (bus : β) (result : CPUExecResult) :
    CPUExecResult × CPU × β :=
  let result32 := { result with nextPc := cpu.pc + 4 }
  let result16 := { result with instrSize := 2 }
  let noBus := fun (out : CPUExecResult × CPU) => (out.1, out.2, bus)
  match e with
  | .rv32i => cpu.executeBase opcode bus result32
  | .rv32m => noBus (cpu.executeM opcode result32)
  | .rv32a => cpu.executeA opcode bus result32
  | .rv32f => cpu.executeF opcode bus result32
  | .zicsr => noBus (cpu.executeZicsr opcode result32)
  | .zifencei => noBus (cpu.executeZifencei opcode result32)
  | .zba => noBus (cpu.executeZba opcode result32)
  | .zbb => noBus (cpu.executeZbb opcode result32)
  | .zbs => noBus (cpu.executeZbs opcode result32)
  | .zicond => noBus (cpu.executeZicond opcode result32)
  | .rv32c => cpu.executeC (u16 opcode) bus result16
  | .rv32fc => cpu.executeFc (u16 opcode) bus result16

/-- **The 32-bit dispatch** is the search of the order. -/
theorem execute32bit_eq (cpu : CPU) (instr : Word) (bus : β) (result : CPUExecResult) :
    cpu.execute32bit instr bus result =
      cpu.executeAs (cpu.config.dispatch32 instr) instr bus result := by
  unfold CPU.execute32bit CPUConfig.dispatch32 dispatchOrder
  simp only [List.find?_cons, List.find?_nil, CPUConfig.enables, dispatchTest]
  -- the tests in the order of the source: the first that holds decides
  generalize (cpu.config.enableZifencei && Zifencei.isZifenceiInstruction instr) = zifencei,
    (cpu.config.enableZicsr && Zicsr.isCsrInstruction instr) = zicsr,
    (cpu.config.enableMExtension && Rv32m.isMInstruction instr) = m,
    (cpu.config.enableAExtension && Rv32a.isAtomicInstruction instr) = a,
    (cpu.config.enableFExtension && Rv32f.isFInstruction instr) = f,
    (cpu.config.enableZba && Zba.isZbaInstruction instr) = zba,
    (cpu.config.enableZbb && Zbb.isZbbInstruction instr) = zbb,
    (cpu.config.enableZbs && Zbs.isZbsInstruction instr) = zbs,
    (cpu.config.enableZicond && Zicond.isZicondInstruction instr) = zicond
  cases zifencei
  case true => rfl
  cases zicsr
  case true => rfl
  cases m
  case true => rfl
  cases a
  case true => rfl
  cases f
  case true => rfl
  cases zba
  case true => rfl
  cases zbb
  case true => rfl
  cases zbs
  case true => rfl
  cases zicond <;> rfl

/-! ## Illegal encodings -/

/-- The word is rejected: an illegal-instruction exception, and no bus call. -/
def Rejected (v : Word) (bus : β) (out : CPUExecResult × CPU × β) : Prop :=
  ∃ cpu : CPU, ∃ result info, out = ((cpu.takeException result Exc.illegalInstruction v info).1,
    (cpu.takeException result Exc.illegalInstruction v info).2, bus)

omit [Bus β] [Rv32f.HostFloat] in
theorem Rejected.illegalTrap {v : Word} {bus : β} {out : CPUExecResult × CPU × β}
    (h : Rejected v bus out) : IllegalTrap v (out.1, out.2.1) := by
  obtain ⟨cpu, result, info, rfl⟩ := h
  exact illegalTrap_takeException cpu result v info

omit [Bus β] [Rv32f.HostFloat] in
theorem Rejected.bus_eq {v : Word} {bus : β} {out : CPUExecResult × CPU × β}
    (h : Rejected v bus out) : out.2.2 = bus := by
  obtain ⟨cpu, result, info, rfl⟩ := h
  rfl

theorem executeAs_illegal (cpu : CPU) {e : Extension} {opcode : Word} (bus : β)
    (result : CPUExecResult)
    (h : OpcodeClassifier.accepts { sModeEnabled := cpu.iDecoder.sModeEnabled } e opcode = false)
    (hsize : OpcodeClassifier.isCompressed opcode = e.is16bit) :
    Rejected (illegalValue opcode) bus (cpu.executeAs e opcode bus result) := by
  have hdecodes : ¬OpcodeClassifier.Decodes { sModeEnabled := cpu.iDecoder.sModeEnabled } e
      opcode := by
    intro hdecodes
    rw [OpcodeClassifier.accepts_iff.mpr ⟨hsize, hdecodes⟩] at h
    cases h
  unfold illegalValue
  rw [hsize]
  unfold OpcodeClassifier.Decodes at hdecodes
  -- each executor has its own branch for a word it does not decode
  cases e <;>
    simp only [Decidable.not_not, Extension.is16bit, if_true, if_false, Bool.false_eq_true]
      at hdecodes ⊢
  case rv32i =>
    have htype : (cpu.iDecoder.decode opcode).type = .illegal := hdecodes
    have hraw := raw_rv32i cpu.iDecoder opcode
    unfold CPU.executeAs CPU.executeBase CPU.finishBase Rv32i.Executor.execute
    simp only [htype, hraw, Bool.false_eq_true, if_false]
    exact ⟨_, _, _, rfl⟩
  case rv32m =>
    unfold CPU.executeAs CPU.executeM Rv32m.execute
    simp only [hdecodes, if_true]
    exact ⟨_, _, _, rfl⟩
  case rv32a =>
    have hraw := raw_rv32a opcode
    unfold CPU.executeAs CPU.executeA Rv32a.execute
    simp only [hdecodes, hraw, if_true]
    exact ⟨_, _, _, rfl⟩
  case rv32f =>
    have hraw := raw_rv32f opcode
    unfold CPU.executeAs CPU.executeF Rv32f.Executor.execute
    simp only [hdecodes, hraw, if_true]
    exact ⟨_, _, _, rfl⟩
  case zicsr =>
    have hraw := raw_zicsr opcode
    unfold CPU.executeAs CPU.executeZicsr Zicsr.execute
    simp only [hdecodes, if_true]
    -- satp under TVM is refused before the executor is asked
    split
    · exact ⟨_, _, _, rfl⟩
    · rw [Zicsr.rejected, hraw]
      exact ⟨_, _, _, rfl⟩
  case zifencei =>
    unfold CPU.executeAs CPU.executeZifencei Zifencei.execute
    simp only [hdecodes]
    exact ⟨_, _, _, rfl⟩
  case zba =>
    unfold CPU.executeAs CPU.executeZba Zba.execute
    simp only [hdecodes, if_true]
    exact ⟨_, _, _, rfl⟩
  case zbb =>
    unfold CPU.executeAs CPU.executeZbb Zbb.execute
    simp only [hdecodes, if_true]
    exact ⟨_, _, _, rfl⟩
  case zbs =>
    unfold CPU.executeAs CPU.executeZbs Zbs.execute
    simp only [hdecodes, if_true]
    exact ⟨_, _, _, rfl⟩
  case zicond =>
    unfold CPU.executeAs CPU.executeZicond Zicond.execute
    simp only [hdecodes, if_true]
    exact ⟨_, _, _, rfl⟩
  case rv32c =>
    have hraw := raw_rv32c (u16 opcode)
    rw [← setWidth_u16]
    unfold CPU.executeAs CPU.executeC Rv32c.Executor.execute
    simp only [hdecodes, hraw]
    exact ⟨_, _, _, rfl⟩
  case rv32fc =>
    have hraw := raw_rv32fc (u16 opcode)
    rw [← setWidth_u16]
    unfold CPU.executeAs CPU.executeFc Rv32fc.Executor.execute
    simp only [hdecodes, hraw]
    exact ⟨_, _, _, rfl⟩

end

/-! ## Both sizes -/

/-- The classifier whose S-mode flag is the configuration's. -/
def CPUConfig.classifier (config : CPUConfig) : OpcodeClassifier :=
  { sModeEnabled := config.enableSMode }

/-- Whether an enabled extension accepts the word. -/
def CPUConfig.Legal (config : CPUConfig) (opcode : Word) : Prop :=
  ∃ e, config.enables e = true ∧ config.classifier.accepts e opcode = true

/-- The extension a word of either size is dispatched to. -/
def CPUConfig.dispatch (config : CPUConfig) (opcode : Word) : Extension :=
  if OpcodeClassifier.isCompressed opcode then
    if config.enableFExtension && Rv32fc.isCompressedFloat (u16 opcode) then .rv32fc else .rv32c
  else config.dispatch32 opcode

theorem dispatch_size (config : CPUConfig) (opcode : Word) :
    OpcodeClassifier.isCompressed opcode = (config.dispatch opcode).is16bit := by
  unfold CPUConfig.dispatch
  cases OpcodeClassifier.isCompressed opcode with
  | true =>
    simp only [if_true]
    split <;> rfl
  | false =>
    have hnot : ∀ e ∈ dispatchOrder, e.is16bit = false := by decide
    simp only [Bool.false_eq_true, if_false]
    rcases dispatch32_mem config opcode with h | ⟨h, -⟩
    · rw [h]
      rfl
    · exact (hnot _ h).symm

/-- Without C a compressed word is not dispatched at all. -/
theorem dispatch_enabled {config : CPUConfig} {opcode : Word}
    (hc : OpcodeClassifier.isCompressed opcode = true → config.enableCExtension = true) :
    config.enables (config.dispatch opcode) = true := by
  unfold CPUConfig.dispatch
  cases hsize : OpcodeClassifier.isCompressed opcode with
  | true =>
    simp only [if_true]
    split
    · rename_i hf
      simp only [Bool.and_eq_true] at hf
      simp [CPUConfig.enables, hc hsize, hf.1]
    · exact hc hsize
  | false =>
    simp only [Bool.false_eq_true, if_false]
    rcases dispatch32_mem config opcode with h | ⟨-, h⟩
    · rw [h]
      rfl
    · exact h

theorem dispatchTest_of_accepts {c : OpcodeClassifier} {e : Extension} {opcode : Word}
    (hmem : e ∈ dispatchOrder) (h : c.accepts e opcode = true) : dispatchTest e opcode = true := by
  obtain ⟨-, hdecodes⟩ := OpcodeClassifier.accepts_iff.mp h
  cases e with
  | rv32m => exact isM_of_decode hdecodes
  | rv32a => exact isAtomic_of_decode hdecodes
  | rv32f => exact isF_of_decode hdecodes
  | zicsr => exact isCsr_of_decode hdecodes
  | zifencei => exact isZifencei_of_decode hdecodes
  | zba => exact isZba_of_decode hdecodes
  | zbb => exact decide_eq_true hdecodes
  | zbs => exact decide_eq_true hdecodes
  | zicond => exact isZicond_of_decode hdecodes
  | rv32i | rv32c | rv32fc => exact absurd hmem (by decide)

/-- **Dispatch follows the classifier.** -/
theorem dispatch_of_accepts {config : CPUConfig} {e : Extension} {opcode : Word}
    (henabled : config.enables e = true) (h : config.classifier.accepts e opcode = true) :
    config.dispatch opcode = e := by
  have hext := accepts_extensionOf h
  unfold CPUConfig.dispatch
  unfold extensionOf at hext
  cases hsize : OpcodeClassifier.isCompressed opcode with
  | true =>
    simp only [hsize, if_true] at hext ⊢
    cases hfloat : Rv32fc.isCompressedFloat (u16 opcode) with
    | true =>
      simp only [hfloat, if_true] at hext
      subst hext
      have hf : config.enableFExtension = true := (Bool.and_eq_true_iff.mp henabled).2
      simp [hf]
    | false =>
      simp only [hfloat, Bool.false_eq_true, if_false] at hext
      subst hext
      simp
  | false =>
    simp only [hsize, Bool.false_eq_true, if_false] at hext ⊢
    -- an extension with a test is found by it; the base set is what no test claims
    by_cases hmem : e ∈ dispatchOrder
    · exact dispatch32_of_test hmem henabled (dispatchTest_of_accepts hmem h)
    · have hsize16 : e.is16bit = false :=
        (OpcodeClassifier.accepts_iff.mp h).1.symm.trans hsize
      have hbase : e = .rv32i := by
        cases e with
        | rv32i => rfl
        | rv32c | rv32fc => cases hsize16
        | _ => exact absurd (by decide) hmem
      subst hbase
      refine dispatch32_base fun e' hmem' _ => ?_
      cases htest : dispatchTest e' opcode with
      | false => rfl
      | true =>
        -- a test that held would give the word a second owner
        have howner := (dispatchTest_owner htest).symm.trans hext
        subst howner
        exact absurd hmem' hmem

theorem extensionOf_compressed {opcode : Word}
    (h : OpcodeClassifier.isCompressed opcode = true) :
    extensionOf opcode = .rv32c ∨ extensionOf opcode = .rv32fc := by
  unfold extensionOf
  rw [if_pos h]
  split
  · exact .inr rfl
  · exact .inl rfl

theorem enableC_of_accepts {config : CPUConfig} {e : Extension} {opcode : Word}
    (henabled : config.enables e = true) (h : config.classifier.accepts e opcode = true)
    (hsize : OpcodeClassifier.isCompressed opcode = true) : config.enableCExtension = true := by
  rcases extensionOf_compressed hsize with hext | hext <;>
    rw [accepts_extensionOf h] at hext <;> subst hext
  · exact henabled
  · exact (Bool.and_eq_true_iff.mp henabled).1

/-- Disabling extensions takes exactly their own encodings away. -/
theorem legal_fewer {config config' : CPUConfig}
    (hsmode : config'.enableSMode = config.enableSMode)
    (hfewer : ∀ e, config'.enables e = true → config.enables e = true) (opcode : Word) :
    config'.Legal opcode ↔ config.Legal opcode ∧
      ∀ e, config'.enables e = false → config.classifier.accepts e opcode = false := by
  have hclassifier : config'.classifier = config.classifier := by
    unfold CPUConfig.classifier
    rw [hsmode]
  unfold CPUConfig.Legal
  rw [hclassifier]
  constructor
  · rintro ⟨e, henabled, haccepts⟩
    refine ⟨⟨e, hfewer e henabled, haccepts⟩, fun e' hdisabled => ?_⟩
    cases haccepts' : config.classifier.accepts e' opcode with
    | false => rfl
    | true =>
      -- the word has one owner, so the disabled extension would be the enabled one
      have heq := (accepts_extensionOf haccepts).symm.trans (accepts_extensionOf haccepts')
      rw [← heq, henabled] at hdisabled
      cases hdisabled
  · rintro ⟨⟨e, henabled, haccepts⟩, hnone⟩
    refine ⟨e, ?_, haccepts⟩
    cases henabled' : config'.enables e with
    | true => rfl
    | false =>
      rw [hnone e henabled'] at haccepts
      cases haccepts

/-! ## An injected instruction -/

section
variable {β : Type} [Bus β] [Rv32f.HostFloat]

theorem executeParcels_eq (cpu : CPU) {opcode : Word}
    (hc : OpcodeClassifier.isCompressed opcode = true → cpu.config.enableCExtension = true)
    (bus : β) (result : CPUExecResult) :
    cpu.executeParcels opcode (decide (opcode &&& 0x3 = 0x3)) bus result =
      cpu.executeAs (cpu.config.dispatch opcode) opcode bus result := by
  have hsize : decide (opcode &&& 0x3 = 0x3) = !OpcodeClassifier.isCompressed opcode := by
    simp [OpcodeClassifier.isCompressed]
  unfold CPU.executeParcels CPUConfig.dispatch
  rw [hsize]
  cases h : OpcodeClassifier.isCompressed opcode with
  | false =>
    simp only [Bool.not_false, Bool.not_true, Bool.false_eq_true, if_false]
    exact execute32bit_eq cpu opcode bus result
  | true =>
    simp only [Bool.not_true, Bool.not_false, Bool.false_eq_true, if_false, if_true, hc h]
    unfold CPU.executeCompressed
    split <;> rfl

theorem executeParcels_noC {cpu : CPU} {opcode : Word}
    (hsize : OpcodeClassifier.isCompressed opcode = true)
    (hc : cpu.config.enableCExtension = false) (bus : β) (result : CPUExecResult) :
    Rejected (illegalValue opcode) bus
      (cpu.executeParcels opcode (decide (opcode &&& 0x3 = 0x3)) bus result) := by
  have h32 : decide (opcode &&& 0x3 = 0x3) = false := by
    simpa [OpcodeClassifier.isCompressed] using hsize
  unfold CPU.executeParcels illegalValue
  simp only [h32, hsize, hc, Bool.not_false, if_true]
  exact ⟨_, _, _, rfl⟩

theorem executeParcels_illegal (cpu : CPU) {opcode : Word}
    (hdec : cpu.iDecoder.sModeEnabled = cpu.config.enableSMode) (h : ¬cpu.config.Legal opcode)
    (bus : β) (result : CPUExecResult) :
    Rejected (illegalValue opcode) bus
      (cpu.executeParcels opcode (decide (opcode &&& 0x3 = 0x3)) bus result) := by
  by_cases hnoC : OpcodeClassifier.isCompressed opcode = true ∧ cpu.config.enableCExtension = false
  · exact executeParcels_noC hnoC.1 hnoC.2 bus result
  have hc : OpcodeClassifier.isCompressed opcode = true → cpu.config.enableCExtension = true := by
    intro hsize
    cases henable : cpu.config.enableCExtension with
    | true => rfl
    | false => exact absurd ⟨hsize, henable⟩ hnoC
  have hrejects : cpu.config.classifier.accepts (cpu.config.dispatch opcode) opcode = false := by
    cases haccepts : cpu.config.classifier.accepts (cpu.config.dispatch opcode) opcode with
    | false => rfl
    | true => exact absurd ⟨_, dispatch_enabled hc, haccepts⟩ h
  rw [executeParcels_eq cpu hc]
  refine executeAs_illegal cpu bus result ?_ (dispatch_size _ _)
  rw [hdec]
  exact hrejects

theorem stepOn_executeAs {cpu : CPU} {bus bus₁ : β} {stim : Stimulus} {instr : Word}
    {is32bit : Bool} {e : Extension} (hselected : cpu.selected = none)
    (hsupplied : cpu.supply bus stim = (.ok (instr, is32bit), bus₁))
    (henabled : cpu.config.enables e = true)
    (haccepts : cpu.config.classifier.accepts e instr = true) :
    cpu.stepOn bus stim =
      let done := cpu.syncExecutorConfig.executeAs e instr bus₁
        { cpu.initResult with instruction := instr }
      (done.1, done.2.1.finishStep done.1, done.2.2) := by
  have hspec := supply_spec cpu bus stim
  rw [hsupplied] at hspec
  have hparcels := executeParcels_eq cpu.syncExecutorConfig
    (enableC_of_accepts henabled haccepts) bus₁ { cpu.initResult with instruction := instr }
  have hdispatch : cpu.syncExecutorConfig.config.dispatch instr = e :=
    dispatch_of_accepts henabled haccepts
  rw [hdispatch, ← hspec.1] at hparcels
  rw [CPU.stepOn_execute hselected hsupplied]
  unfold CPU.executeFetched
  rw [hparcels]

/-- **One predicate a word, and dispatch by it.** No word satisfies two predicates.
In a step that takes no interrupt an injected word is executed as the instruction
of the enabled extension that accepts it, and is an illegal instruction if there
is none; so disabling extensions takes their own encodings away and no others. -/
theorem stepOpcode_follows_classifier :
    (∀ (c : OpcodeClassifier) (e e' : Extension) (opcode : Word),
      c.accepts e opcode = true → c.accepts e' opcode = true → e = e') ∧
    (∀ (cpu : CPU) (bus : β) (opcode : Word), cpu.beginStep = none →
      (∀ e, cpu.config.enables e = true → cpu.config.classifier.accepts e opcode = true →
        cpu.stepOpcode bus opcode =
          let done := cpu.syncExecutorConfig.executeAs e opcode bus
            { cpu.initResult with instruction := opcode }
          (done.1, done.2.1.finishStep done.1, done.2.2)) ∧
      (¬cpu.config.Legal opcode → IllegalTrap (illegalValue opcode)
        ((cpu.stepOpcode bus opcode).1, (cpu.stepOpcode bus opcode).2.1))) ∧
    ∀ (config config' : CPUConfig), config'.enableSMode = config.enableSMode →
      (∀ e, config'.enables e = true → config.enables e = true) → ∀ opcode,
      (config'.Legal opcode ↔ config.Legal opcode ∧
        ∀ e, config'.enables e = false → config.classifier.accepts e opcode = false) := by
  refine ⟨fun c e e' opcode h h' => (accepts_extensionOf h).symm.trans (accepts_extensionOf h'),
    fun cpu bus opcode hbegin => ⟨fun e henabled haccepts => ?executes, fun hillegal => ?traps⟩,
    fun config config' hsmode hfewer opcode => legal_fewer hsmode hfewer opcode⟩
  case executes =>
    exact @stepOn_executeAs _ _ _ cpu bus bus (.inject opcode) opcode _ e
      (CPU.beginStep_eq_none.mp hbegin) rfl henabled haccepts
  case traps =>
    simp only [CPU.stepOpcode, hbegin]
    unfold CPU.executeFetched
    exact (executeParcels_illegal cpu.syncExecutorConfig rfl hillegal bus _).illegalTrap.finishStep

end

theorem stepOpcode_follows_classifier_addi :
    let _ := Rv32f.nanHost
    let cpu := CPU.new {}
    let done := cpu.syncExecutorConfig.executeAs .rv32i 0x00100093 (SimpleMemory.new 0)
      { cpu.initResult with instruction := 0x00100093 }
    cpu.stepOpcode (SimpleMemory.new 0) 0x00100093 =
      (done.1, done.2.1.finishStep done.1, done.2.2) := by
  intro _ cpu done
  exact (stepOpcode_follows_classifier.2.1 cpu (SimpleMemory.new 0) 0x00100093
    (CPU.beginStep_eq_none.mpr (by decide))).1 .rv32i (by decide) (by decide)

end Riscv

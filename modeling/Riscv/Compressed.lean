import Riscv.RvcFields

/- The compressed executors refine the base ones: executing a parcel does what
   executing its expansion does, with the fall-through pc and the link two past
   the pc instead of four. -/
namespace Riscv

open Encoding Rvc

/-! ## The relation -/

/-- The x registers after `base`, with `link` in the link register of a jump. -/
def relink (base : Rv32i.DecodedInstr) (link : Word) (regs : RegFile) : RegFile :=
  if base.type = .jal ∨ base.type = .jalr then regs.write base.rd link else regs

/-- A run `c` of a parcel at `pc` and a run `b` of a base instruction there have
the same effect, up to the instruction's length: the registers are those of the
base run with the link `pc + 2` in place of `pc + 4`. -/
structure SameEffect {β : Type} (base : Rv32i.DecodedInstr) (pc : Word)
    (c : Rv32c.ExecResult × RegFile × β) (b : Rv32i.ExecResult × RegFile × β) : Prop where
  regs : c.2.1 = relink base (pc + 2) b.2.1
  baseLink : b.2.1 = relink base (pc + 4) b.2.1
  bus : c.2.2 = b.2.2
  branchTaken : c.1.branchTaken = b.1.branchTaken
  target : b.1.branchTaken = true → c.1.nextPc = b.1.nextPc
  fallThrough : b.1.branchTaken = false → c.1.nextPc = pc + 2 ∧ b.1.nextPc = pc + 4
  trap : c.1.trap = b.1.trap
  trapCause : c.1.trapCause = b.1.trapCause
  trapValue : c.1.trapValue = b.1.trapValue
  noRequest : b.1.mret = false ∧ b.1.sret = false ∧ b.1.sfenceVma = false ∧ b.1.wfi = false

/-- A decoded parcel refines the base instruction `w`, run with IALIGN = 16. -/
def Rv32c.DecodedInstr.Refines (d : Rv32c.DecodedInstr) (w : Word) : Prop :=
  ∀ {β : Type} [Bus β] (regs : RegFile) (bus : β) (pc : Word) (allowMisaligned : Bool)
    (priv : PrivilegeLevel) (dec : Rv32i.Decoder),
    SameEffect (dec.decode w) pc
      (Rv32c.Executor.execute { allowMisaligned } d regs bus pc)
      (Rv32i.Executor.execute { cExtEnabled := true, allowMisaligned, priv } (dec.decode w)
        regs bus pc)

/-! ## Computations -/

/-- The parcel only writes registers. -/
def Rv32c.DecodedInstr.Computes (d : Rv32c.DecodedInstr) (f : RegFile → RegFile) : Prop :=
  ∀ {β : Type} [Bus β] (ex : Rv32c.Executor) (regs : RegFile) (bus : β) (pc : Word),
    ex.execute d regs bus pc = ({ nextPc := pc + 2 }, f regs, bus)

/-- The base instruction only writes registers, and is no jump. -/
def BaseComputes (w : Word) (f : RegFile → RegFile) : Prop :=
  ∀ dec : Rv32i.Decoder, (dec.decode w).type ≠ .jal ∧ (dec.decode w).type ≠ .jalr ∧
    ∀ {β : Type} [Bus β] (ex : Rv32i.Executor) (regs : RegFile) (bus : β) (pc : Word),
      ex.execute (dec.decode w) regs bus pc = ({ nextPc := pc + 4 }, f regs, bus)

section Computations
variable {d : Rv32c.DecodedInstr} (rd rs1 rs2 : BitVec 5)

theorem refines_of_computes {f : RegFile → RegFile} {w : Word} (hb : BaseComputes w f)
    (hc : d.Computes f) : d.Refines w := by
  intro β _ regs bus pc allowMisaligned priv dec
  obtain ⟨hjal, hjalr, hrun⟩ := hb dec
  rw [hc, hrun]
  constructor <;> simp [relink, hjal, hjalr]

theorem baseComputes_addi (imm : BitVec 12) :
    BaseComputes (addi rd rs1 imm) fun regs =>
      regs.write (rd.setWidth 8) (regs.read (rs1.setWidth 8) + imm.signExtend 32) := by
  intro dec
  rw [addi, iType, decode_opImm]
  simp [blank, u8, Rv32i.Decoder.decodeOpImm, Rv32i.Executor.execute]

theorem baseComputes_andi (imm : BitVec 12) :
    BaseComputes (andi rd rs1 imm) fun regs =>
      regs.write (rd.setWidth 8) (regs.read (rs1.setWidth 8) &&& imm.signExtend 32) := by
  intro dec
  rw [andi, iType, decode_opImm]
  simp [blank, u8, Rv32i.Decoder.decodeOpImm, Rv32i.Executor.execute]

theorem baseComputes_slli (shamt : BitVec 5) :
    BaseComputes (slli rd rs1 shamt) fun regs =>
      regs.write (rd.setWidth 8)
        (regs.read (rs1.setWidth 8) <<< (shamt.setWidth 32 &&& 0x1F : Word)) := by
  intro dec
  rw [slli, rType, decode_opImm]
  simp [blank, u8, Rv32i.Decoder.decodeOpImm, Rv32i.Executor.execute]

theorem baseComputes_srli (shamt : BitVec 5) :
    BaseComputes (srli rd rs1 shamt) fun regs =>
      regs.write (rd.setWidth 8)
        (regs.read (rs1.setWidth 8) >>> (shamt.setWidth 32 &&& 0x1F : Word)) := by
  intro dec
  rw [srli, rType, decode_opImm]
  simp [blank, u8, Rv32i.Decoder.decodeOpImm, Rv32i.Executor.execute]

theorem baseComputes_srai (shamt : BitVec 5) :
    BaseComputes (srai rd rs1 shamt) fun regs =>
      regs.write (rd.setWidth 8)
        ((regs.read (rs1.setWidth 8)).sshiftRight' (shamt.setWidth 32 &&& 0x1F : Word)) := by
  intro dec
  rw [srai, rType, decode_opImm]
  simp [blank, u8, Rv32i.Decoder.decodeOpImm, Rv32i.Executor.execute]

theorem baseComputes_add :
    BaseComputes (add rd rs1 rs2) fun regs =>
      regs.write (rd.setWidth 8) (regs.read (rs1.setWidth 8) + regs.read (rs2.setWidth 8)) := by
  intro dec
  rw [add, rType, decode_op]
  simp [blank, u8, Rv32i.Decoder.decodeOp, Rv32i.Executor.execute]

theorem baseComputes_sub :
    BaseComputes (sub rd rs1 rs2) fun regs =>
      regs.write (rd.setWidth 8) (regs.read (rs1.setWidth 8) - regs.read (rs2.setWidth 8)) := by
  intro dec
  rw [sub, rType, decode_op]
  simp [blank, u8, Rv32i.Decoder.decodeOp, Rv32i.Executor.execute]

theorem baseComputes_xor :
    BaseComputes (Rvc.xor rd rs1 rs2) fun regs =>
      regs.write (rd.setWidth 8) (regs.read (rs1.setWidth 8) ^^^ regs.read (rs2.setWidth 8)) := by
  intro dec
  rw [Rvc.xor, rType, decode_op]
  simp [blank, u8, Rv32i.Decoder.decodeOp, Rv32i.Executor.execute]

theorem baseComputes_or :
    BaseComputes (Rvc.or rd rs1 rs2) fun regs =>
      regs.write (rd.setWidth 8) (regs.read (rs1.setWidth 8) ||| regs.read (rs2.setWidth 8)) := by
  intro dec
  rw [Rvc.or, rType, decode_op]
  simp [blank, u8, Rv32i.Decoder.decodeOp, Rv32i.Executor.execute]

theorem baseComputes_and :
    BaseComputes (Rvc.and rd rs1 rs2) fun regs =>
      regs.write (rd.setWidth 8) (regs.read (rs1.setWidth 8) &&& regs.read (rs2.setWidth 8)) := by
  intro dec
  rw [Rvc.and, rType, decode_op]
  simp [blank, u8, Rv32i.Decoder.decodeOp, Rv32i.Executor.execute]

theorem baseComputes_lui (imm : BitVec 20) :
    BaseComputes (lui rd imm) fun regs =>
      regs.write (rd.setWidth 8) (imm ++ 0#12 : BitVec (20 + 12)) := by
  intro dec
  rw [lui, decode_lui]
  simp [blank, uType, u8, Rv32i.Executor.execute]

end Computations

/-! ## Jumps and branches -/

/-- The parcel's run is `f` of the registers and the pc, and leaves the bus alone. -/
def Rv32c.DecodedInstr.Runs (d : Rv32c.DecodedInstr)
    (f : RegFile → Word → Rv32c.ExecResult × RegFile) : Prop :=
  ∀ {β : Type} [Bus β] (ex : Rv32c.Executor) (regs : RegFile) (bus : β) (pc : Word),
    ex.execute d regs bus pc = ((f regs pc).1, (f regs pc).2, bus)

/-- The result of a taken jump. -/
def Rv32c.jumpTo (target : Word) : Rv32c.ExecResult :=
  { nextPc := target, branchTaken := true }

section Jumps
variable {d : Rv32c.DecodedInstr} {rd rs1 : BitVec 5}

theorem refines_jal {off : BitVec 20}
    (hc : d.Runs fun regs pc => (Rv32c.jumpTo (pc + (off ++ 0#1).signExtend 32),
      regs.write (rd.setWidth 8) (pc + 2))) : d.Refines (jal rd off) := by
  intro β _ regs bus pc allowMisaligned priv dec
  rw [hc, jal, decode_jal]
  constructor <;>
    simp [Rv32c.jumpTo, relink, blank, jType, u8, Rv32i.Executor.execute,
      Rv32i.Executor.targetMisaligned]

theorem refines_jalr
    (hc : d.Runs fun regs pc => (Rv32c.jumpTo (regs.read (rs1.setWidth 8) &&& ~~~1),
      regs.write (rd.setWidth 8) (pc + 2))) : d.Refines (jalr rd rs1 0) := by
  intro β _ regs bus pc allowMisaligned priv dec
  rw [hc, jalr, iType, decode_jalr]
  constructor <;>
    simp [Rv32c.jumpTo, relink, blank, u8, Rv32i.Executor.execute,
      Rv32i.Executor.targetMisaligned]

theorem refines_beq {off : BitVec 12}
    (hc : d.Runs fun regs pc => (if regs.read (rs1.setWidth 8) = 0 then
      Rv32c.jumpTo (pc + (off ++ 0#1).signExtend 32) else { nextPc := pc + 2 }, regs)) :
    d.Refines (beq rs1 0 off) := by
  intro β _ regs bus pc allowMisaligned priv dec
  have hread : regs.read 0#8 = 0#32 := RegFile.read_zero regs
  rw [hc, beq, decode_branch]
  by_cases hzero : regs.read (rs1.setWidth 8) = 0#32 <;> constructor <;>
    simp [Rv32c.jumpTo, relink, blank, bType, u8, hzero, hread, Rv32i.Decoder.decodeBranch,
      Rv32i.Executor.execute, Rv32i.Executor.takeBranch, Rv32i.Executor.targetMisaligned]

theorem refines_bne {off : BitVec 12}
    (hc : d.Runs fun regs pc => (if regs.read (rs1.setWidth 8) ≠ 0 then
      Rv32c.jumpTo (pc + (off ++ 0#1).signExtend 32) else { nextPc := pc + 2 }, regs)) :
    d.Refines (Rvc.bne rs1 0 off) := by
  intro β _ regs bus pc allowMisaligned priv dec
  have hread : regs.read 0#8 = 0#32 := RegFile.read_zero regs
  rw [hc, Rvc.bne, decode_branch]
  by_cases hzero : regs.read (rs1.setWidth 8) = 0#32 <;> constructor <;>
    simp [Rv32c.jumpTo, relink, blank, bType, u8, hzero, hread, Rv32i.Decoder.decodeBranch,
      Rv32i.Executor.execute, Rv32i.Executor.takeBranch, Rv32i.Executor.targetMisaligned]

theorem refines_ebreak
    (hc : d.Runs fun regs pc => ({ nextPc := pc + 2
                                   trap := true
                                   trapCause := Exc.breakpoint
                                   trapValue := pc
                                   trapInfo := "C.EBREAK" }, regs)) : d.Refines ebreak := by
  intro β _ regs bus pc allowMisaligned priv dec
  have hdec : (dec.decode ebreak).type = .ebreak := rfl
  rw [hc]
  constructor <;> simp [relink, hdec, Rv32i.Executor.execute]

end Jumps

/-! ## Loads and stores -/

section Memory
variable {d : Rv32c.DecodedInstr} {rd rs1 rs2 : BitVec 5} {imm : BitVec 12}

theorem refines_lw
    (hc : ∀ {β : Type} [Bus β] (ex : Rv32c.Executor) (regs : RegFile) (bus : β) (pc : Word),
      ex.execute d regs bus pc =
        ex.doLoad32 bus (regs.read (rs1.setWidth 8) + imm.signExtend 32) { nextPc := pc + 2 } regs
          (rd.setWidth 8)) : d.Refines (lw rd rs1 imm) := by
  intro β _ regs bus pc allowMisaligned priv dec
  rw [hc, lw, iType, decode_load, Rv32c.Executor.doLoad32]
  rcases hload : MemAccess.load bus (regs.read (rs1.setWidth 8) + imm.signExtend 32) 4
      allowMisaligned with ⟨_ | _, bus'⟩ <;> constructor <;>
    simp [relink, blank, u8, hload, Rv32i.Decoder.decodeLoad, Rv32i.Executor.execute,
      Rv32i.Executor.loadInto, Rv32i.Executor.doLoad]

theorem refines_sw
    (hc : ∀ {β : Type} [Bus β] (ex : Rv32c.Executor) (regs : RegFile) (bus : β) (pc : Word),
      ex.execute d regs bus pc =
        ex.doStore32 bus (regs.read (rs1.setWidth 8) + imm.signExtend 32)
          (regs.read (rs2.setWidth 8)) { nextPc := pc + 2 } regs) :
    d.Refines (sw rs2 rs1 imm) := by
  intro β _ regs bus pc allowMisaligned priv dec
  rw [hc, sw, decode_store, Rv32c.Executor.doStore32]
  rcases hstore : MemAccess.store bus (regs.read (rs1.setWidth 8) + imm.signExtend 32) 4
      (regs.read (rs2.setWidth 8)) allowMisaligned with ⟨_ | _, bus'⟩ <;> constructor <;>
    simp [relink, blank, sType, u8, hstore, Rv32i.Decoder.decodeStore, Rv32i.Executor.execute,
      Rv32i.Executor.doStore]

end Memory

/-! ## Every parcel -/

/-- A decoded parcel that is not illegal has an expansion, and refines it. -/
def Expands (d : Rv32c.DecodedInstr) (e : Option Word) : Prop :=
  d.type ≠ .illegal → ∃ w, e = some w ∧ d.Refines w

section Expands
variable {d d' : Rv32c.DecodedInstr} {e e' : Option Word} {w : Word}

theorem Expands.of_illegal (hd : d.type = .illegal) : Expands d e :=
  fun hne => absurd hd hne

theorem Expands.of_refines (hr : d.Refines w) : Expands d (some w) :=
  fun _ => ⟨w, rfl, hr⟩

theorem Expands.ite {c c' : Prop} [Decidable c] [Decidable c'] (hcc : c ↔ c')
    (ht : c' → Expands d e) (hf : ¬c' → Expands d' e') :
    Expands (if c then d else d') (if c' then e else e') := by
  by_cases h : c'
  · rw [if_pos (hcc.mpr h), if_pos h]
    exact ht h
  · rw [if_neg (mt hcc.mp h), if_neg h]
    exact hf h

end Expands

theorem read_x0 (regs : RegFile) : regs.read ((0 : BitVec 5).setWidth 8) = 0#32 :=
  RegFile.read_zero regs

theorem write_x0 (regs : RegFile) (v : Word) : regs.write ((0 : BitVec 5).setWidth 8) v = regs :=
  RegFile.write_zero regs v

section Parcels
variable (p : BitVec 16) {d : Rv32c.DecodedInstr}

theorem expands_c0 (hd : d.type = .illegal) : Expands (Rv32c.decodeC0 p d) (expand0 p) := by
  refine Expands.ite (Rv32c.funct3_iff p _ rfl) (fun _ => ?_) fun _ => ?_
  · refine Expands.ite (Rv32c.addi4spn_ne_zero p) (fun _ => .of_refines ?_) fun _ => .of_illegal hd
    refine refines_of_computes (baseComputes_addi _ _ _) ?_
    intro β _ ex regs bus pc
    simp [Rv32c.Executor.execute, Rv32c.cregField_eq, Rv32c.decodeCiwImm_eq]
  refine Expands.ite (Rv32c.funct3_iff p _ rfl) (fun _ => .of_refines ?_) fun _ => ?_
  · refine refines_lw ?_
    intro β _ ex regs bus pc
    simp [Rv32c.Executor.execute, Rv32c.cregField_eq, Rv32c.decodeClImm_eq]
  refine Expands.ite (Rv32c.funct3_iff p _ rfl) (fun _ => .of_refines ?_)
    fun _ => .of_illegal hd
  refine refines_sw ?_
  intro β _ ex regs bus pc
  simp [Rv32c.Executor.execute, Rv32c.cregField_eq, Rv32c.decodeClImm_eq]

theorem expands_c1Alu (hd : d.type = .illegal) : Expands (Rv32c.decodeC1Alu p d) (expandAlu p) := by
  refine Expands.ite (Rv32c.field_two_iff p 10 _ rfl) (fun _ => ?_) fun _ => ?_
  · refine Expands.ite (Rv32c.field_one_iff p 12 _ rfl) (fun _ => .of_refines ?_)
      fun _ => .of_illegal hd
    refine refines_of_computes (baseComputes_srli _ _ _) ?_
    intro β _ ex regs bus pc
    simp only [Rv32c.Executor.execute, Rv32c.cregField_eq, Rv32c.field_five, shamt]
  refine Expands.ite (Rv32c.field_two_iff p 10 _ rfl) (fun _ => ?_) fun _ => ?_
  · refine Expands.ite (Rv32c.field_one_iff p 12 _ rfl) (fun _ => .of_refines ?_)
      fun _ => .of_illegal hd
    refine refines_of_computes (baseComputes_srai _ _ _) ?_
    intro β _ ex regs bus pc
    simp only [Rv32c.Executor.execute, Rv32c.cregField_eq, Rv32c.field_five, shamt]
  refine Expands.ite (Rv32c.field_two_iff p 10 _ rfl) (fun _ => .of_refines ?_) fun _ => ?_
  · refine refines_of_computes (baseComputes_andi _ _ _) ?_
    intro β _ ex regs bus pc
    simp only [Rv32c.Executor.execute, Rv32c.cregField_eq, Rv32c.decodeCiImm_eq,
      BitVec.signExtend_signExtend (ciImm p) (by decide : 0 < 6) (by decide : 6 ≤ 12)]
  refine Expands.ite (Rv32c.field_one_iff p 12 _ rfl) (fun _ => ?_) fun _ => .of_illegal hd
  refine Expands.ite (Rv32c.field_two_iff p 5 _ rfl) (fun _ => .of_refines ?_) fun _ => ?_
  · refine refines_of_computes (baseComputes_sub _ _ _) ?_
    intro β _ ex regs bus pc
    simp [Rv32c.Executor.execute, Rv32c.cregField_eq]
  refine Expands.ite (Rv32c.field_two_iff p 5 _ rfl) (fun _ => .of_refines ?_) fun _ => ?_
  · refine refines_of_computes (baseComputes_xor _ _ _) ?_
    intro β _ ex regs bus pc
    simp [Rv32c.Executor.execute, Rv32c.cregField_eq]
  refine Expands.ite (Rv32c.field_two_iff p 5 _ rfl) (fun _ => .of_refines ?_)
    fun _ => .of_refines ?_
  · refine refines_of_computes (baseComputes_or _ _ _) ?_
    intro β _ ex regs bus pc
    simp [Rv32c.Executor.execute, Rv32c.cregField_eq]
  · refine refines_of_computes (baseComputes_and _ _ _) ?_
    intro β _ ex regs bus pc
    simp [Rv32c.Executor.execute, Rv32c.cregField_eq]

theorem expands_c1 (hd : d.type = .illegal) : Expands (Rv32c.decodeC1 p d) (expand1 p) := by
  -- the table extends an immediate first to the width of its base format
  have hci : ((ciImm p).signExtend 12).signExtend 32 = (ciImm p).signExtend 32 :=
    BitVec.signExtend_signExtend _ (by decide) (by decide) 32
  have hsp : ((addi16spImm p ++ 0#4).signExtend 12).signExtend 32 =
      (addi16spImm p ++ 0#4).signExtend 32 :=
    BitVec.signExtend_signExtend _ (by decide) (by decide) 32
  have hcj : ((cjOff p).signExtend 20 ++ 0#1).signExtend 32 = (cjOff p ++ 0#1).signExtend 32 :=
    BitVec.signExtend_append_zero _ 1 (by decide) (by decide) 32
  have hcb : ((cbOff p).signExtend 12 ++ 0#1).signExtend 32 = (cbOff p ++ 0#1).signExtend 32 :=
    BitVec.signExtend_append_zero _ 1 (by decide) (by decide) 32
  refine Expands.ite (Rv32c.funct3_iff p _ rfl) (fun _ => .of_refines ?_) fun _ => ?_
  · refine refines_of_computes (baseComputes_addi _ _ _) ?_
    intro β _ ex regs bus pc
    rw [hci, ← Rv32c.decodeCiImm_eq, ← Rv32c.regField_eq]
    -- C.NOP is the ADDI to x0, which the executor skips
    by_cases hrd : Rv32c.regField p 7 = 0
    · simp only [Rv32c.Executor.execute, hrd, if_pos, RegFile.write_zero]
    · simp only [Rv32c.Executor.execute, hrd, if_false]
  refine Expands.ite (Rv32c.funct3_iff p _ rfl) (fun _ => .of_refines ?_) fun _ => ?_
  · refine refines_jal ?_
    intro β _ ex regs bus pc
    simp only [Rv32c.Executor.execute, Rv32c.decodeCjImm_eq, hcj]
    rfl
  refine Expands.ite (Rv32c.funct3_iff p _ rfl) (fun _ => .of_refines ?_) fun _ => ?_
  · refine refines_of_computes (baseComputes_addi _ _ _) ?_
    intro β _ ex regs bus pc
    simp only [Rv32c.Executor.execute, Rv32c.regField_eq, Rv32c.decodeCiImm_eq, hci, read_x0,
      BitVec.zero_add]
  refine Expands.ite (Rv32c.funct3_iff p _ rfl) (fun _ => ?_) fun _ => ?_
  · refine Expands.ite (Rv32c.regField_iff p 7 _ rfl) (fun _ => ?_) fun _ => ?_
    · refine Expands.ite (Rv32c.addi16sp_ne_zero p) (fun _ => .of_refines ?_)
        fun _ => .of_illegal hd
      refine refines_of_computes (baseComputes_addi _ _ _) ?_
      intro β _ ex regs bus pc
      simp only [Rv32c.Executor.execute, Rv32c.addi16sp_eq, hsp]
      rfl
    · refine Expands.ite (Rv32c.lui_ne_zero p) (fun _ => .of_refines ?_) fun _ => .of_illegal hd
      refine refines_of_computes (baseComputes_lui _ _) ?_
      intro β _ ex regs bus pc
      simp only [Rv32c.Executor.execute, Rv32c.regField_eq, Rv32c.lui_eq]
  refine Expands.ite (Rv32c.funct3_iff p _ rfl) (fun _ => expands_c1Alu p hd) fun _ => ?_
  refine Expands.ite (Rv32c.funct3_iff p _ rfl) (fun _ => .of_refines ?_) fun _ => ?_
  · refine refines_jal ?_
    intro β _ ex regs bus pc
    simp only [Rv32c.Executor.execute, Rv32c.decodeCjImm_eq, hcj, write_x0]
    rfl
  refine Expands.ite (Rv32c.funct3_iff p _ rfl) (fun _ => .of_refines ?_) fun _ => .of_refines ?_
  · refine refines_beq ?_
    intro β _ ex regs bus pc
    simp only [Rv32c.Executor.execute, Rv32c.cregField_eq, Rv32c.decodeCbImm_eq, hcb]
    rfl
  · refine refines_bne ?_
    intro β _ ex regs bus pc
    simp only [Rv32c.Executor.execute, Rv32c.cregField_eq, Rv32c.decodeCbImm_eq, hcb]
    rfl

theorem expands_c2Reg (hd : d.type = .illegal) : Expands (Rv32c.decodeC2Reg p d) (expandCr p) := by
  refine Expands.ite (Rv32c.field_one_iff p 12 _ rfl) (fun _ => ?_) fun _ => ?_
  · refine Expands.ite (Rv32c.regField_iff p 2 _ rfl) (fun _ => ?_) fun _ => .of_refines ?_
    · refine Expands.ite (not_congr (Rv32c.regField_iff p 7 _ rfl)) (fun _ => .of_refines ?_)
        fun _ => .of_illegal hd
      refine refines_jalr ?_
      intro β _ ex regs bus pc
      simp only [Rv32c.Executor.execute, Rv32c.regField_eq, write_x0]
      rfl
    · refine refines_of_computes (baseComputes_add _ _ _) ?_
      intro β _ ex regs bus pc
      simp only [Rv32c.Executor.execute, Rv32c.regField_eq, read_x0, BitVec.zero_add]
  refine Expands.ite (and_congr (Rv32c.regField_iff p 7 _ rfl) (Rv32c.regField_iff p 2 _ rfl))
    (fun _ => .of_refines ?_) fun _ => ?_
  · refine refines_ebreak ?_
    intro β _ ex regs bus pc
    rfl
  refine Expands.ite (Rv32c.regField_iff p 2 _ rfl) (fun _ => .of_refines ?_)
    fun _ => .of_refines ?_
  · refine refines_jalr ?_
    intro β _ ex regs bus pc
    simp only [Rv32c.Executor.execute, Rv32c.regField_eq]
    rfl
  · refine refines_of_computes (baseComputes_add _ _ _) ?_
    intro β _ ex regs bus pc
    simp only [Rv32c.Executor.execute, Rv32c.regField_eq]

theorem expands_c2 (hd : d.type = .illegal) : Expands (Rv32c.decodeC2 p d) (expand2 p) := by
  refine Expands.ite (Rv32c.funct3_iff p _ rfl) (fun _ => ?_) fun _ => ?_
  · refine Expands.ite (Rv32c.field_one_iff p 12 _ rfl) (fun _ => .of_refines ?_)
      fun _ => .of_illegal hd
    refine refines_of_computes (baseComputes_slli _ _ _) ?_
    intro β _ ex regs bus pc
    simp only [Rv32c.Executor.execute, Rv32c.regField_eq, Rv32c.field_five, shamt]
  refine Expands.ite (Rv32c.funct3_iff p _ rfl) (fun _ => ?_) fun _ => ?_
  · refine Expands.ite (not_congr (Rv32c.regField_iff p 7 _ rfl)) (fun _ => .of_refines ?_)
      fun _ => .of_illegal hd
    refine refines_lw ?_
    intro β _ ex regs bus pc
    simp only [Rv32c.Executor.execute, Rv32c.regField_eq, Rv32c.decodeLwspImm_eq]
    rfl
  refine Expands.ite (Rv32c.funct3_iff p _ rfl) (fun _ => expands_c2Reg p hd) fun _ => ?_
  refine Expands.ite (Rv32c.funct3_iff p _ rfl) (fun _ => .of_refines ?_)
    fun _ => .of_illegal hd
  refine refines_sw ?_
  intro β _ ex regs bus pc
  simp only [Rv32c.Executor.execute, Rv32c.regField_eq, Rv32c.decodeSwspImm_eq]
  rfl

theorem expands_decode : Expands (Rv32c.decode p) (expand p) := by
  refine Expands.ite (Rv32c.quadrant_iff p _ rfl) (fun _ => expands_c0 p rfl) fun _ => ?_
  refine Expands.ite (Rv32c.quadrant_iff p _ rfl) (fun _ => expands_c1 p rfl) fun _ => ?_
  exact Expands.ite (Rv32c.quadrant_iff p _ rfl) (fun _ => expands_c2 p rfl)
    fun _ => .of_illegal rfl

end Parcels

/-! ## Zcf

The executors of Zcf and F compute no pc: the CPU moves it past the parcel or
the word they were given. -/

/-- A run `c` of a Zcf parcel and a run `b` of an F instruction from the same
state have the same effect. Neither writes an x register, and `b` leaves fcsr. -/
structure SameFloatEffect {β : Type} (iregs : RegFile) (fcsr : Rv32f.FCSR)
    (c : Rv32fc.ExecResult × Rv32f.FRegFile × β)
    (b : Rv32f.ExecResult × Rv32f.FState β × Rv32f.FCSR) : Prop where
  iregs : b.2.1.iregs = iregs
  fregs : c.2.1 = b.2.1.fregs
  bus : c.2.2 = b.2.1.bus
  fcsr : b.2.2 = fcsr
  valid : c.1.valid = b.1.valid
  trapCause : c.1.trapCause = b.1.trapCause
  trapValue : c.1.trapValue = b.1.trapValue
  memoryRead : c.1.memoryRead = b.1.memoryRead
  memoryWritten : c.1.memoryWritten = b.1.memoryWritten

/-- A decoded Zcf parcel refines the F instruction `w`. -/
def Rv32fc.DecodedInstr.Refines (d : Rv32fc.DecodedInstr) (w : Word) : Prop :=
  ∀ {β : Type} [Bus β] [Rv32f.HostFloat] (iregs : RegFile) (fregs : Rv32f.FRegFile) (bus : β)
    (fcsr : Rv32f.FCSR) (allowMisaligned : Bool),
    SameFloatEffect iregs fcsr
      (Rv32fc.Executor.execute { allowMisaligned } d iregs fregs bus)
      (Rv32f.Executor.execute { allowMisaligned } (Rv32f.decode w) { iregs, fregs, bus } fcsr)

section Zcf
variable {d : Rv32fc.DecodedInstr} {rd rs1 rs2 : BitVec 5} {imm : BitVec 12}

theorem refines_flw
    (hc : ∀ {β : Type} [Bus β] (ex : Rv32fc.Executor) (iregs : RegFile) (fregs : Rv32f.FRegFile)
      (bus : β), ex.execute d iregs fregs bus =
        ex.doLoad32 bus (iregs.read (rs1.setWidth 8) + imm.signExtend 32) fregs
          (rd.setWidth 8)) : d.Refines (flw rd rs1 imm) := by
  intro β _ _ iregs fregs bus fcsr allowMisaligned
  rw [hc, Rv32fc.Executor.doLoad32, flw, decode_flw]
  rcases hload : MemAccess.load bus (iregs.read (rs1.setWidth 8) + imm.signExtend 32) 4
      allowMisaligned with ⟨_ | _, bus'⟩ <;> constructor <;>
    simp [blankF, iType, u8, hload, Rv32f.Executor.execute, Rv32f.Executor.executeOp,
      Rv32f.Executor.executeFlw, Rv32f.FFlags.merge_empty, Rv32f.usesRm]

theorem refines_fsw
    (hc : ∀ {β : Type} [Bus β] (ex : Rv32fc.Executor) (iregs : RegFile) (fregs : Rv32f.FRegFile)
      (bus : β), ex.execute d iregs fregs bus =
        ex.doStore32 bus (iregs.read (rs1.setWidth 8) + imm.signExtend 32)
          (fregs.readBits (rs2.setWidth 8)) fregs) : d.Refines (fsw rs2 rs1 imm) := by
  intro β _ _ iregs fregs bus fcsr allowMisaligned
  rw [hc, Rv32fc.Executor.doStore32, fsw, decode_fsw]
  rcases hstore : MemAccess.store bus (iregs.read (rs1.setWidth 8) + imm.signExtend 32) 4
      (fregs.readBits (rs2.setWidth 8)) allowMisaligned with ⟨_ | _, bus'⟩ <;> constructor <;>
    simp [blankF, sType, u8, hstore, Rv32f.Executor.execute, Rv32f.Executor.executeOp,
      Rv32f.Executor.executeFsw, Rv32f.FFlags.merge_empty, Rv32f.usesRm]

/-- A decoded Zcf parcel that is not illegal has an expansion, and refines it. -/
def FloatExpands (d : Rv32fc.DecodedInstr) (e : Option Word) : Prop :=
  d.type ≠ .illegal → ∃ w, e = some w ∧ d.Refines w

theorem FloatExpands.of_refines {e : Option Word} {w : Word} (he : e = some w)
    (hr : d.Refines w) : FloatExpands d e :=
  fun _ => ⟨w, he, hr⟩

variable (p : BitVec 16)

theorem expands_quadrant0 (hd : d.type = .illegal) :
    FloatExpands (Rv32fc.decodeQuadrant0 d p (Rv32fc.field p 13 0x7)) (expand0 p) := by
  have hload : Rv32fc.field p 13 0x7 = 0b011 ↔ funct3 p = 0b011 := Rv32c.funct3_iff p _ rfl
  have hstore : Rv32fc.field p 13 0x7 = 0b111 ↔ funct3 p = 0b111 := Rv32c.funct3_iff p _ rfl
  rw [Rv32fc.decodeQuadrant0]
  split
  · rename_i h
    refine .of_refines (w := flw (creg p 2) (creg p 7) (scaled (clImm p))) ?_ (refines_flw ?_)
    · simp [expand0, hload.mp h]
    · intro β _ ex iregs fregs bus
      simp only [Rv32fc.Executor.execute, Rv32fc.creg_eq, Rv32fc.clUimm_eq]
  split
  · rename_i h
    refine .of_refines (w := fsw (creg p 2) (creg p 7) (scaled (clImm p))) ?_ (refines_fsw ?_)
    · simp [expand0, hstore.mp h]
    · intro β _ ex iregs fregs bus
      simp only [Rv32fc.Executor.execute, Rv32fc.creg_eq, Rv32fc.clUimm_eq]
  · exact fun hne => absurd hd hne

theorem expands_quadrant2 (hd : d.type = .illegal) :
    FloatExpands (Rv32fc.decodeQuadrant2 d p (Rv32fc.field p 13 0x7)) (expand2 p) := by
  have hload : Rv32fc.field p 13 0x7 = 0b011 ↔ funct3 p = 0b011 := Rv32c.funct3_iff p _ rfl
  have hstore : Rv32fc.field p 13 0x7 = 0b111 ↔ funct3 p = 0b111 := Rv32c.funct3_iff p _ rfl
  rw [Rv32fc.decodeQuadrant2]
  split
  · rename_i h
    refine .of_refines (w := flw (reg p 7) 2 (scaled (lwspImm p))) ?_ (refines_flw ?_)
    · simp [expand2, hload.mp h]
    · intro β _ ex iregs fregs bus
      simp only [Rv32fc.Executor.execute, Rv32fc.reg_eq, Rv32fc.lwspUimm_eq]
      rfl
  split
  · rename_i h
    refine .of_refines (w := fsw (reg p 2) 2 (scaled (swspImm p))) ?_ (refines_fsw ?_)
    · simp [expand2, hstore.mp h]
    · intro β _ ex iregs fregs bus
      simp only [Rv32fc.Executor.execute, Rv32fc.reg_eq, Rv32fc.swspUimm_eq]
      rfl
  · exact fun hne => absurd hd hne

theorem expands_zcf : FloatExpands (Rv32fc.decode p) (expand p) := by
  have hq0 : p &&& 0x3 = 0b00 ↔ quadrant p = 0b00 := Rv32c.quadrant_iff p _ rfl
  have hq2 : p &&& 0x3 = 0b10 ↔ quadrant p = 0b10 := Rv32c.quadrant_iff p _ rfl
  rw [Rv32fc.decode]
  split
  · rename_i h
    have hexpand : expand p = expand0 p := if_pos (hq0.mp h)
    rw [hexpand]
    exact expands_quadrant0 p rfl
  split
  · rename_i h
    have hexpand : expand p = expand2 p := by simp [expand, hq2.mp h]
    rw [hexpand]
    exact expands_quadrant2 p rfl
  · exact fun hne => absurd rfl hne

end Zcf

/-! ## Main result -/

/-- **Compressed execution refines base execution.** Every parcel one of the two
compressed decoders accepts has an expansion, and its executor does what the
base executor does with that expansion. -/
theorem compressed_refines_base (p : BitVec 16) :
    ((Rv32c.decode p).type ≠ .illegal → ∃ w, expand p = some w ∧ (Rv32c.decode p).Refines w) ∧
      ((Rv32fc.decode p).type ≠ .illegal → ∃ w, expand p = some w ∧ (Rv32fc.decode p).Refines w) :=
  ⟨expands_decode p, expands_zcf p⟩

theorem compressed_refines_base_addi16sp :
    ∃ w, expand 0x7139 = some w ∧ (Rv32c.decode 0x7139).Refines w :=
  (compressed_refines_base 0x7139).1 (by decide)

end Riscv

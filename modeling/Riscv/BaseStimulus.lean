import Riscv.BaseOpgen
import Riscv.Dispatch
import Riscv.OpgenCodec

/- The RV32I generators produce what they name.

   `drawn` lists the operands of a type in the order its generator draws them. A generator
   and `drawn` of its type are compared draw by draw; where they end, the word decodes to
   the type, with the operands in the fields the format has for them. FENCE keeps its
   operands in the raw word only. -/
namespace Riscv.Rv32i.Opgen

open Sample Riscv.Opgen RNG Encoding

/-! ## What a type stands for -/

/-- The ordering fields of FENCE. -/
structure Order where
  fm : Word
  pred : Word
  succ : Word

/-- The operands of an instruction, as far as its format has them. -/
structure Operands where
  rd : Option Word := none
  rs1 : Option Word := none
  rs2 : Option Word := none
  imm : Option Word := none
  order : Option Order := none

def drawnUpper : Gen Operands := do
  let imm ← imm20Upper
  let rd ← reg
  return { rd, imm }

def drawnIType : Gen Operands := do
  let imm ← imm12
  let rs1 ← reg
  let rd ← reg
  return { rd, rs1, imm }

def drawnStore : Gen Operands := do
  let imm ← imm12
  let rs2 ← reg
  let rs1 ← reg
  return { rs1, rs2, imm }

def drawnBranch : Gen Operands := do
  let imm ← branchOffset
  let rs2 ← reg
  let rs1 ← reg
  return { rs1, rs2, imm }

def drawnShift : Gen Operands := do
  let shamt ← shamt
  let rs1 ← reg
  let rd ← reg
  return { rd, rs1, imm := shamt }

def drawnRType : Gen Operands := do
  let rs2 ← reg
  let rs1 ← reg
  let rd ← reg
  return { rd, rs1, rs2 }

/-- The operands of a type, as its generator draws them. -/
def drawn : InstrType → Gen Operands
  | .lui | .auipc => drawnUpper
  | .jal => do
    let imm ← jalOffset
    let rd ← reg
    return { rd, imm }
  | .jalr => drawnIType
  | .beq | .bne | .blt | .bge | .bltu | .bgeu => drawnBranch
  | .lb | .lh | .lw | .lbu | .lhu => drawnIType
  | .sb | .sh | .sw => drawnStore
  | .addi | .slti | .sltiu | .xori | .ori | .andi => drawnIType
  | .slli | .srli | .srai => drawnShift
  | .add | .sub | .sll | .slt | .sltu | .xor | .srl | .sra | .or | .and => drawnRType
  | .fence => do
    let fm : Word := if ← chance then 0b0000 else 0b1000
    let pred ← range 0 15
    let succ ← range 0 15
    return { order := some { fm, pred, succ } }
  | .ecall | .ebreak => pure {}

/-- The decoder's name of a type. -/
def InstrType.named : InstrType → Rv32i.InstrType
  | .lui => .lui
  | .auipc => .auipc
  | .jal => .jal
  | .jalr => .jalr
  | .beq => .beq
  | .bne => .bne
  | .blt => .blt
  | .bge => .bge
  | .bltu => .bltu
  | .bgeu => .bgeu
  | .lb => .lb
  | .lh => .lh
  | .lw => .lw
  | .lbu => .lbu
  | .lhu => .lhu
  | .sb => .sb
  | .sh => .sh
  | .sw => .sw
  | .addi => .addi
  | .slti => .slti
  | .sltiu => .sltiu
  | .xori => .xori
  | .ori => .ori
  | .andi => .andi
  | .slli => .slli
  | .srli => .srli
  | .srai => .srai
  | .add => .add
  | .sub => .sub
  | .sll => .sll
  | .slt => .slt
  | .sltu => .sltu
  | .xor => .xor
  | .srl => .srl
  | .sra => .sra
  | .or => .or
  | .and => .and
  | .fence => .fence
  | .ecall => .ecall
  | .ebreak => .ebreak

/-- The decoded instruction has the operands; of those the format lacks nothing is said. -/
structure Carries (d : DecodedInstr) (o : Operands) : Prop where
  rd : ∀ v ∈ o.rd, d.rd = u8 v
  rs1 : ∀ v ∈ o.rs1, d.rs1 = u8 v
  rs2 : ∀ v ∈ o.rs2, d.rs2 = u8 v
  imm : ∀ v ∈ o.imm, d.imm = v
  order : ∀ v ∈ o.order, bits d.raw 31 28 = v.fm ∧ bits d.raw 27 24 = v.pred ∧
    bits d.raw 23 20 = v.succ

theorem some_eq {P : Word → Prop} {v : Word} (h : P v) : ∀ u ∈ some v, P u := by
  rintro u ⟨⟩
  exact h

theorem none_eq {α : Type} {P : α → Prop} : ∀ u ∈ (none : Option α), P u := nofun

/-- The word decodes to the type, with the operands. -/
def Encodes (dec : Decoder) (type : Rv32i.InstrType) (w : Word) (o : Operands) : Prop :=
  (dec.decode w).type = type ∧ Carries (dec.decode w) o

/-! ## The operands -/

theorem yields_reg : reg.Yields IsIndex :=
  (uniformWord_yields (by decide) (by decide)).mono fun v hv => by unfold IsIndex; omega

theorem yields_imm12 : imm12.Yields IsImm12 :=
  (uniformSigned_yields (by decide) (by decide) (by decide)).mono fun v hv => by
    unfold IsImm12
    omega

theorem yields_branchOffset : branchOffset.Yields IsBranchOffset := by
  refine .bind (uniformSigned_yields (by decide) (by decide) (by decide)) fun v hv => .pure ?_
  have hdouble := toInt_double (v := v) (by omega)
  unfold IsBranchOffset
  omega

theorem yields_jalOffset : jalOffset.Yields IsJumpOffset := by
  refine .bind (uniformSigned_yields (by decide) (by decide) (by decide)) fun v hv => .pure ?_
  have hdouble := toInt_double (v := v) (by omega)
  unfold IsJumpOffset
  omega

theorem yields_imm20Upper : imm20Upper.Yields IsUpper := by
  refine .bind .any fun v _ => .pure ?_
  unfold IsUpper
  rw [BitVec.and_low _ 12 (by decide)]
  apply BitVec.eq_of_getLsbD_eq
  intro i hi
  simp only [BitVec.getLsbD_setWidth, BitVec.getLsbD_shiftLeft]
  grind

theorem yields_shamt : shamt.Yields IsIndex := yields_reg

/-! ## Format by format -/

section Formats
variable (dec : Decoder) {funct3 funct7 op mark : Word} {type : Rv32i.InstrType}

theorem encodes_upper
    (htype : ∀ imm rd, (dec.decode (encodeUType imm rd op)).type = type)
    (himm : ∀ imm rd, IsUpper imm → (dec.decode (encodeUType imm rd op)).imm = imm) :
    (genUpper op).Alike drawnUpper (Encodes dec type) := by
  refine .draw yields_imm20Upper fun imm hi => .draw yields_reg fun rd hrd =>
    .pure ⟨htype imm rd, ?_⟩
  exact ⟨some_eq (decode_uType_registers dec hrd), none_eq, none_eq, some_eq (himm imm rd hi), none_eq⟩

theorem encodes_iType
    (htype : ∀ imm rs1 rd, (dec.decode (encodeIType imm rs1 funct3 rd op)).type = type)
    (himm : ∀ imm rs1 rd, IsImm12 imm →
      (dec.decode (encodeIType imm rs1 funct3 rd op)).imm = imm) :
    (genIType funct3 op).Alike drawnIType (Encodes dec type) := by
  refine .draw yields_imm12 fun imm hi => .draw yields_reg fun rs1 hrs1 =>
    .draw yields_reg fun rd hrd => .pure ⟨htype imm rs1 rd, ?_⟩
  obtain ⟨h1, hd⟩ := decode_iType_registers dec hrs1 hrd
  exact ⟨some_eq hd, some_eq h1, none_eq, some_eq (himm imm rs1 rd hi), none_eq⟩

theorem encodes_branch (h : (funct3, type) ∈ [((0b000 : Word), Rv32i.InstrType.beq),
    (0b001, .bne), (0b100, .blt), (0b101, .bge), (0b110, .bltu), (0b111, .bgeu)]) :
    (genBranch funct3).Alike drawnBranch (Encodes dec type) := by
  have htype : ∀ imm rs2 rs1,
      (dec.decode (encodeBType imm rs2 rs1 funct3 Op.branch)).type = type := by
    intro imm rs2 rs1
    rw [encodeBType_eq]
    refine (congrArg DecodedInstr.type (decode_branch dec _ _ _ _)).trans ?_
    simp only [List.mem_cons, List.not_mem_nil, or_false, Prod.mk.injEq] at h
    simp only [blank, bType, bits_funct3]
    rcases h with ⟨rfl, rfl⟩ | ⟨rfl, rfl⟩ | ⟨rfl, rfl⟩ | ⟨rfl, rfl⟩ | ⟨rfl, rfl⟩ | ⟨rfl, rfl⟩ <;>
      rfl
  refine .draw yields_branchOffset fun imm hi => .draw yields_reg fun rs2 hrs2 =>
    .draw yields_reg fun rs1 hrs1 => .pure ⟨htype imm rs2 rs1, ?_⟩
  obtain ⟨h2, h1⟩ := decode_bType_registers dec hrs2 hrs1
  exact ⟨none_eq, some_eq h1, some_eq h2, some_eq (decode_branch_imm dec hi), none_eq⟩

theorem encodes_load (h : (funct3, type) ∈ [((0b000 : Word), Rv32i.InstrType.lb), (0b001, .lh),
    (0b010, .lw), (0b100, .lbu), (0b101, .lhu)]) :
    (genIType funct3 Op.load).Alike drawnIType (Encodes dec type) := by
  refine encodes_iType dec ?_ fun imm rs1 rd hi => decode_load_imm dec hi
  intro imm rs1 rd
  rw [encodeIType_eq]
  refine (congrArg DecodedInstr.type (decode_load dec _ _ _ _)).trans ?_
  simp only [List.mem_cons, List.not_mem_nil, or_false, Prod.mk.injEq] at h
  simp only [blank, bits_funct3]
  rcases h with ⟨rfl, rfl⟩ | ⟨rfl, rfl⟩ | ⟨rfl, rfl⟩ | ⟨rfl, rfl⟩ | ⟨rfl, rfl⟩ <;> rfl

theorem encodes_jalr : genJalr.Alike drawnIType (Encodes dec .jalr) := by
  refine encodes_iType dec ?_ fun imm rs1 rd hi => decode_jalr_imm dec hi
  intro imm rs1 rd
  rw [encodeIType_eq]
  exact congrArg DecodedInstr.type (decode_jalr dec _ _ _)

theorem encodes_store (h : (funct3, type) ∈ [((0b000 : Word), Rv32i.InstrType.sb), (0b001, .sh),
    (0b010, .sw)]) : (genStore funct3).Alike drawnStore (Encodes dec type) := by
  have htype : ∀ imm rs2 rs1,
      (dec.decode (encodeSType imm rs2 rs1 funct3 Op.store)).type = type := by
    intro imm rs2 rs1
    rw [encodeSType_eq]
    refine (congrArg DecodedInstr.type (decode_store dec _ _ _ _)).trans ?_
    simp only [List.mem_cons, List.not_mem_nil, or_false, Prod.mk.injEq] at h
    simp only [blank, sType, bits_funct3]
    rcases h with ⟨rfl, rfl⟩ | ⟨rfl, rfl⟩ | ⟨rfl, rfl⟩ <;> rfl
  refine .draw yields_imm12 fun imm hi => .draw yields_reg fun rs2 hrs2 =>
    .draw yields_reg fun rs1 hrs1 => .pure ⟨htype imm rs2 rs1, ?_⟩
  obtain ⟨h2, h1⟩ := decode_sType_registers dec hrs2 hrs1
  exact ⟨none_eq, some_eq h1, some_eq h2, some_eq (decode_store_imm dec hi), none_eq⟩

theorem encodes_opImm (h : (funct3, type) ∈ [((0b000 : Word), Rv32i.InstrType.addi),
    (0b010, .slti), (0b011, .sltiu), (0b100, .xori), (0b110, .ori), (0b111, .andi)]) :
    (genIType funct3 Op.opImm).Alike drawnIType (Encodes dec type) := by
  simp only [List.mem_cons, List.not_mem_nil, or_false, Prod.mk.injEq] at h
  refine encodes_iType dec ?_ ?_
  · intro imm rs1 rd
    rw [encodeIType_eq]
    refine (congrArg DecodedInstr.type (decode_opImm dec _ _ _ _)).trans ?_
    simp only [blank, bits_funct3]
    rcases h with ⟨rfl, rfl⟩ | ⟨rfl, rfl⟩ | ⟨rfl, rfl⟩ | ⟨rfl, rfl⟩ | ⟨rfl, rfl⟩ | ⟨rfl, rfl⟩ <;>
      rfl
  · intro imm rs1 rd hi
    have hshift : ¬IsSrai funct3 imm := by
      rintro ⟨h5, -⟩
      rcases h with ⟨rfl, -⟩ | ⟨rfl, -⟩ | ⟨rfl, -⟩ | ⟨rfl, -⟩ | ⟨rfl, -⟩ | ⟨rfl, -⟩ <;>
        exact absurd h5 (by decide)
    exact (decode_opImm_imm dec hi).trans (if_neg hshift)

theorem encodes_rType (h : (funct7, funct3, type) ∈
    [((0b0000000 : Word), (0b000 : Word), Rv32i.InstrType.add), (0b0100000, 0b000, .sub),
      (0b0000000, 0b001, .sll), (0b0000000, 0b010, .slt), (0b0000000, 0b011, .sltu),
      (0b0000000, 0b100, .xor), (0b0000000, 0b101, .srl), (0b0100000, 0b101, .sra),
      (0b0000000, 0b110, .or), (0b0000000, 0b111, .and)]) :
    (genRType funct7 funct3).Alike drawnRType (Encodes dec type) := by
  have htype : ∀ rs2 rs1 rd,
      (dec.decode (encodeRType funct7 rs2 rs1 funct3 rd Op.op)).type = type := by
    intro rs2 rs1 rd
    rw [encodeRType_eq]
    refine (congrArg DecodedInstr.type (decode_op dec _ _ _ _)).trans ?_
    simp only [List.mem_cons, List.not_mem_nil, or_false, Prod.mk.injEq] at h
    simp only [blank, bits_funct3, bits_funct7]
    rcases h with ⟨rfl, rfl, rfl⟩ | ⟨rfl, rfl, rfl⟩ | ⟨rfl, rfl, rfl⟩ | ⟨rfl, rfl, rfl⟩ |
      ⟨rfl, rfl, rfl⟩ | ⟨rfl, rfl, rfl⟩ | ⟨rfl, rfl, rfl⟩ | ⟨rfl, rfl, rfl⟩ | ⟨rfl, rfl, rfl⟩ |
      ⟨rfl, rfl, rfl⟩ <;> rfl
  refine .draw yields_reg fun rs2 hrs2 => .draw yields_reg fun rs1 hrs1 =>
    .draw yields_reg fun rd hrd => .pure ⟨htype rs2 rs1 rd, ?_⟩
  obtain ⟨h2, h1, hd⟩ := decode_rType_registers dec hrs2 hrs1 hrd
  exact ⟨some_eq hd, some_eq h1, some_eq h2, none_eq, none_eq⟩

/-- The mark of SRAI ends up in `funct7`, over the shift amount. -/
theorem encodes_shift (h : (mark, funct3, type) ∈ [((0 : Word), (0b001 : Word),
    Rv32i.InstrType.slli), (0, 0b101, .srli), (0x400, 0b101, .srai)]) :
    (genShift mark funct3).Alike drawnShift (Encodes dec type) := by
  simp only [List.mem_cons, List.not_mem_nil, or_false, Prod.mk.injEq] at h
  refine .draw yields_shamt fun shamt hshamt => .draw yields_reg fun rs1 hrs1 =>
    .draw yields_reg fun rd hrd => .pure ?_
  have hregs : (dec.decode (encodeIType (shamt ||| mark) rs1 funct3 rd Op.opImm)).rs1 = u8 rs1 ∧
      (dec.decode (encodeIType (shamt ||| mark) rs1 funct3 rd Op.opImm)).rd = u8 rd :=
    decode_iType_registers dec hrs1 hrd
  obtain ⟨h1, hd⟩ := hregs
  have hamount : ∀ x : BitVec 5, (u8 (x.setWidth 32)).setWidth 32 = (x.setWidth 32 : Word) := by
    decide
  -- the drawn amount lies below the mark, so the decoder finds both
  have hcut : ∀ x : BitVec 5, ((x.setWidth 32 : Word) ||| 0).setWidth 12 = 0b0000000#7 ++ x ∧
      ((x.setWidth 32 : Word) ||| 0x400).setWidth 12 = 0b0100000#7 ++ x := by decide
  have hdecode : (dec.decode (encodeIType (shamt ||| mark) rs1 funct3 rd Op.opImm)).type = type ∧
      (dec.decode (encodeIType (shamt ||| mark) rs1 funct3 rd Op.opImm)).imm = shamt := by
    have hx : (shamt.setWidth 5).setWidth 32 = shamt :=
      (BitVec.setWidth_setWidth_eq_iff shamt (by decide) rfl).mpr hshamt
    generalize shamt.setWidth 5 = x at hx
    subst hx
    have hword : encodeIType (x.setWidth 32 ||| mark) rs1 funct3 rd Op.opImm =
        word ((x.setWidth 32 ||| mark).setWidth 12) (rs1.setWidth 5) (funct3.setWidth 3)
          (rd.setWidth 5) 0b0010011 := encodeIType_eq _ _ _ _ _
    rw [hword]
    rcases h with ⟨rfl, rfl, rfl⟩ | ⟨rfl, rfl, rfl⟩ | ⟨rfl, rfl, rfl⟩
    · rw [(hcut x).1, decode_opImm]
      simp only [blank, bits_funct3, bits_funct7, bits_rs2]
      exact ⟨rfl, hamount x⟩
    · rw [(hcut x).1, decode_opImm]
      simp only [blank, bits_funct3, bits_funct7, bits_rs2]
      exact ⟨rfl, hamount x⟩
    · rw [(hcut x).2, decode_opImm]
      simp only [blank, bits_funct3, bits_funct7, bits_rs2]
      exact ⟨rfl, hamount x⟩
  exact ⟨hdecode.1, some_eq hd, some_eq h1, none_eq, some_eq hdecode.2, none_eq⟩

theorem encodes_jal : genJal.Alike (drawn .jal) (Encodes dec .jal) := by
  refine .draw yields_jalOffset fun imm hi => .draw yields_reg fun rd hrd => .pure ⟨?_, ?_⟩
  · rw [encodeJType_eq]
    exact congrArg DecodedInstr.type (decode_jal dec _ _)
  · exact ⟨some_eq (decode_jType_registers dec hrd), none_eq, none_eq,
      some_eq (decode_jal_imm dec hi), none_eq⟩

theorem encodes_lui : genLui.Alike drawnUpper (Encodes dec .lui) := by
  refine encodes_upper dec ?_ fun imm rd hi => decode_lui_imm dec hi
  intro imm rd
  rw [encodeUType_eq]
  exact congrArg DecodedInstr.type (decode_lui dec _ _)

theorem encodes_auipc : genAuipc.Alike drawnUpper (Encodes dec .auipc) := by
  refine encodes_upper dec ?_ fun imm rd hi => decode_auipc_imm dec hi
  intro imm rd
  rw [encodeUType_eq]
  exact congrArg DecodedInstr.type (decode_auipc dec _ _)

theorem fence_fields : ∀ fm pred succ : BitVec 4,
    ((fm.setWidth 32 : Word) <<< 8 ||| (pred.setWidth 32 : Word) <<< 4 |||
      (succ.setWidth 32 : Word)).setWidth 12 = fm ++ pred ++ succ := by
  intro fm pred succ
  apply BitVec.eq_of_getLsbD_eq
  intro i hi
  simp only [BitVec.getLsbD_setWidth, BitVec.getLsbD_or, BitVec.getLsbD_shiftLeft,
    BitVec.getLsbD_append]
  grind

theorem encodes_fence : genFence.Alike (drawn .fence) (Encodes dec .fence) := by
  -- four bits each: fm from a coin, pred and succ drawn
  have hfour : (range 0 15).Yields fun v => ∃ x : BitVec 4, v = x.setWidth 32 := by
    refine (uniformWord_yields (by decide) (by decide)).mono fun v hv => ?_
    refine ⟨v.setWidth 4, ((BitVec.setWidth_setWidth_eq_iff v (by decide) rfl).mpr ?_).symm⟩
    omega
  refine .draw .any fun c _ => .draw hfour fun pred hpred => .draw hfour fun succ hsucc => .pure ?_
  obtain ⟨y, rfl⟩ := hpred
  obtain ⟨z, rfl⟩ := hsucc
  obtain ⟨x, hx⟩ : ∃ x : BitVec 4, (if c = true then 0b0000 else 0b1000 : Word) = x.setWidth 32 := by
    cases c
    · exact ⟨0b1000, rfl⟩
    · exact ⟨0b0000, rfl⟩
  simp only [hx]
  have hword : encodeIType (x.setWidth 32 <<< 8 ||| y.setWidth 32 <<< 4 ||| z.setWidth 32) 0 0b000 0
      Op.misc = word (x ++ y ++ z) 0 0b000 0 0b0001111 := by
    rw [encodeIType_eq, fence_fields]
    rfl
  have hbits : ∀ {h lo : Nat} {v : BitVec 4}, 4 = h - lo + 1 →
      (∀ i < 4, (word (x ++ y ++ z) 0 0b000 0 0b0001111).getLsbD (lo + i) = v.getLsbD i) →
      bits (word (x ++ y ++ z) 0 0b000 0 0b0001111) h lo = v.setWidth 32 :=
    fun hn hv => bits_eq_setWidth hn (by decide) hv
  have hraw : (dec.decode (word (x ++ y ++ z) 0 0b000 0 0b0001111)).raw =
      word (x ++ y ++ z) 0 0b000 0 0b0001111 := raw_rv32i dec _
  rw [Encodes, hword]
  refine ⟨?_, none_eq, none_eq, none_eq, none_eq, ?_⟩
  · rw [decode_misc]
    simp only [blank, bits_funct3]
    rfl
  · rintro v ⟨⟩
    rw [hraw]
    refine ⟨hbits rfl ?_, hbits rfl ?_, hbits rfl ?_⟩ <;>
      intro i hi <;> rw [getLsbD_word] <;> simp only [BitVec.getLsbD_append] <;> grind

/-- **The generator of a type draws the operands of the type, and encodes it.** -/
theorem generate_encodes (type : InstrType) :
    (generate type).Alike (drawn type) (Encodes dec type.named) := by
  -- one lemma a format
  cases type with
  | lui => exact encodes_lui dec
  | auipc => exact encodes_auipc dec
  | jal => exact encodes_jal dec
  | jalr => exact encodes_jalr dec
  | beq => exact encodes_branch dec (by decide)
  | bne => exact encodes_branch dec (by decide)
  | blt => exact encodes_branch dec (by decide)
  | bge => exact encodes_branch dec (by decide)
  | bltu => exact encodes_branch dec (by decide)
  | bgeu => exact encodes_branch dec (by decide)
  | lb => exact encodes_load dec (by decide)
  | lh => exact encodes_load dec (by decide)
  | lw => exact encodes_load dec (by decide)
  | lbu => exact encodes_load dec (by decide)
  | lhu => exact encodes_load dec (by decide)
  | sb => exact encodes_store dec (by decide)
  | sh => exact encodes_store dec (by decide)
  | sw => exact encodes_store dec (by decide)
  | addi => exact encodes_opImm dec (by decide)
  | slti => exact encodes_opImm dec (by decide)
  | sltiu => exact encodes_opImm dec (by decide)
  | xori => exact encodes_opImm dec (by decide)
  | ori => exact encodes_opImm dec (by decide)
  | andi => exact encodes_opImm dec (by decide)
  | slli => exact encodes_shift dec (by decide)
  | srli => exact encodes_shift dec (by decide)
  | srai => exact encodes_shift dec (by decide)
  | add => exact encodes_rType dec (by decide)
  | sub => exact encodes_rType dec (by decide)
  | sll => exact encodes_rType dec (by decide)
  | slt => exact encodes_rType dec (by decide)
  | sltu => exact encodes_rType dec (by decide)
  | xor => exact encodes_rType dec (by decide)
  | srl => exact encodes_rType dec (by decide)
  | sra => exact encodes_rType dec (by decide)
  | or => exact encodes_rType dec (by decide)
  | and => exact encodes_rType dec (by decide)
  | fence => exact encodes_fence dec
  | ecall => exact .pure ⟨rfl, none_eq, none_eq, none_eq, none_eq, none_eq⟩
  | ebreak => exact .pure ⟨rfl, none_eq, none_eq, none_eq, none_eq, none_eq⟩

end Formats

end Riscv.Rv32i.Opgen

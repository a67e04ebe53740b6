import Mathlib.Data.Bool.Basic
import Riscv.EncoderFields

/- The format encoders of the RV32I generator, through the RV32I decoder. Each
   packs a word of the base format of its name; the decoder reads the register
   fields before it looks at the opcode, and the immediate of the format the opcode
   has. The one immediate it does not return as given is that of SRAI, whose upper
   bits are part of the operation; of FENCE it keeps none. -/
namespace Riscv

open Encoding

namespace Rv32i

/-! ## What the decoder reads -/

namespace Decoder

/-- The register fields are read before the opcode is looked at. -/
theorem decode_registers (dec : Decoder) (w : Word) :
    (dec.decode w).rd = u8 (bits w 11 7) ∧ (dec.decode w).rs1 = u8 (bits w 19 15) ∧
      (dec.decode w).rs2 = u8 (bits w 24 20) := by
  refine ⟨?_, ?_, ?_⟩ <;>
    simp only [decode, decodeBranch, decodeLoad, decodeStore, decodeOpImm, decodeOp, decodeFence,
      decodeSystem, apply_ite DecodedInstr.rd, apply_ite DecodedInstr.rs1,
      apply_ite DecodedInstr.rs2, ite_self]

theorem decodeBranch_imm (d : DecodedInstr) : (decodeBranch d).imm = d.imm := by
  simp only [decodeBranch, apply_ite DecodedInstr.imm, ite_self]

theorem decodeLoad_imm (d : DecodedInstr) : (decodeLoad d).imm = d.imm := by
  simp only [decodeLoad, apply_ite DecodedInstr.imm, ite_self]

theorem decodeStore_imm (d : DecodedInstr) : (decodeStore d).imm = d.imm := by
  simp only [decodeStore, apply_ite DecodedInstr.imm, ite_self]
theorem decodeFence_imm (d : DecodedInstr) : (decodeFence d).imm = d.imm := by
  simp only [decodeFence, apply_ite DecodedInstr.imm, ite_self]

/-- The shifts keep their amount, everything else on OP-IMM its immediate. -/
theorem decodeOpImm_imm (d : DecodedInstr) : (decodeOpImm d).imm =
    if (d.funct3 = 0b001 ∧ d.funct7 = 0) ∨
        (d.funct3 = 0b101 ∧ (d.funct7 = 0 ∨ d.funct7 = 0b0100000))
    then d.rs2.setWidth 32 else d.imm := by
  simp only [decodeOpImm, apply_ite DecodedInstr.imm]
  by_cases h1 : d.funct3 = 0b001
  · simp [h1]
  · by_cases h5 : d.funct3 = 0b101
    · by_cases h0 : d.funct7 = 0#8 <;> simp [h5, h0]
    · simp only [h1, h5, if_false, ite_self, false_and, or_self]

end Decoder

namespace Opgen

/-! ## The formats -/

theorem and_one (v : Word) : v &&& 0x1 = (v.setWidth 1).setWidth 32 := BitVec.and_low v 1 (by decide)
theorem and_register (v : Word) : v &&& 0x1F = (v.setWidth 5).setWidth 32 := BitVec.and_low v 5 (by decide)
theorem and_funct3 (v : Word) : v &&& 0x7 = (v.setWidth 3).setWidth 32 := BitVec.and_low v 3 (by decide)
theorem and_op (v : Word) : v &&& 0x7F = (v.setWidth 7).setWidth 32 := BitVec.and_low v 7 (by decide)

section Formats
variable (imm funct7 rs2 rs1 funct3 rd op : Word)

theorem encodeRType_eq : encodeRType funct7 rs2 rs1 funct3 rd op =
    rType (funct7.setWidth 7) (rs2.setWidth 5) (rs1.setWidth 5) (funct3.setWidth 3)
      (rd.setWidth 5) (op.setWidth 7) := by
  apply BitVec.eq_of_getLsbD_eq
  intro i hi
  simp only [encodeRType, rType, getLsbD_word, and_register, and_funct3, and_op, BitVec.getLsbD_or,
    BitVec.getLsbD_shiftLeft, BitVec.getLsbD_setWidth, BitVec.getLsbD_append]
  grind

theorem encodeIType_eq : encodeIType imm rs1 funct3 rd op =
    iType (imm.setWidth 12) (rs1.setWidth 5) (funct3.setWidth 3) (rd.setWidth 5)
      (op.setWidth 7) := by
  have himm : imm &&& 0xFFF = (imm.setWidth 12).setWidth 32 := BitVec.and_low imm 12 (by decide)
  apply BitVec.eq_of_getLsbD_eq
  intro i hi
  simp only [encodeIType, iType, getLsbD_word, himm, and_register, and_funct3, and_op,
    BitVec.getLsbD_or, BitVec.getLsbD_shiftLeft, BitVec.getLsbD_setWidth]
  grind

theorem encodeSType_eq : encodeSType imm rs2 rs1 funct3 op =
    sType (imm.setWidth 12) (rs2.setWidth 5) (rs1.setWidth 5) (funct3.setWidth 3)
      (op.setWidth 7) := by
  have hmask : ∀ i < 32, (0xFE0 : Word).getLsbD i = decide (5 ≤ i ∧ i < 12) := by decide
  apply BitVec.eq_of_getLsbD_eq
  intro i hi
  simp only [encodeSType, sType, getLsbD_word, and_register, and_funct3, and_op, BitVec.getLsbD_or,
    BitVec.getLsbD_shiftLeft, BitVec.getLsbD_setWidth, BitVec.getLsbD_append, BitVec.getLsbD_and,
    BitVec.getLsbD_extractLsb', hmask (i - 20) (by omega)]
  grind

/-- `imm[12:1]`, the offset in halfwords. -/
theorem encodeBType_eq : encodeBType imm rs2 rs1 funct3 op =
    bType (imm.extractLsb' 1 12) (rs2.setWidth 5) (rs1.setWidth 5) (funct3.setWidth 3)
      (op.setWidth 7) := by
  have h6 : ∀ v : Word, v &&& 0x3F = (v.setWidth 6).setWidth 32 := fun v => BitVec.and_low v 6 (by decide)
  have h4 : ∀ v : Word, v &&& 0xF = (v.setWidth 4).setWidth 32 := fun v => BitVec.and_low v 4 (by decide)
  apply BitVec.eq_of_getLsbD_eq
  intro i hi
  simp only [encodeBType, bType, getLsbD_word, h6, h4, and_one, and_register, and_funct3, and_op,
    BitVec.getLsbD_or, BitVec.getLsbD_shiftLeft, BitVec.getLsbD_ushiftRight,
    BitVec.getLsbD_setWidth, BitVec.getLsbD_append, BitVec.getLsbD_extractLsb']
  grind

theorem encodeUType_eq : encodeUType imm rd op =
    uType (imm.extractLsb' 12 20) (rd.setWidth 5) (op.setWidth 7) := by
  have hmask : ∀ i < 32, (0xFFFFF000 : Word).getLsbD i = decide (12 ≤ i) := by decide
  apply BitVec.eq_of_getLsbD_eq
  intro i hi
  simp only [encodeUType, uType, getLsbD_word, and_register, and_op, BitVec.getLsbD_or,
    BitVec.getLsbD_shiftLeft, BitVec.getLsbD_setWidth, BitVec.getLsbD_and,
    BitVec.getLsbD_extractLsb']
  grind

theorem encodeJType_eq : encodeJType imm rd op =
    jType (imm.extractLsb' 1 20) (rd.setWidth 5) (op.setWidth 7) := by
  have h10 : ∀ v : Word, v &&& 0x3FF = (v.setWidth 10).setWidth 32 :=
    fun v => BitVec.and_low v 10 (by decide)
  have h8 : ∀ v : Word, v &&& 0xFF = (v.setWidth 8).setWidth 32 := fun v => BitVec.and_low v 8 (by decide)
  apply BitVec.eq_of_getLsbD_eq
  intro i hi
  simp only [encodeJType, jType, getLsbD_word, h10, h8, and_one, and_register, and_op,
    BitVec.getLsbD_or, BitVec.getLsbD_shiftLeft, BitVec.getLsbD_ushiftRight,
    BitVec.getLsbD_setWidth, BitVec.getLsbD_append, BitVec.getLsbD_extractLsb']
  grind
end Formats

/-! ## Ranges -/

/-- A register index, as the generator draws it. -/
def IsIndex (r : Word) : Prop := r.toNat < 32

/-- An even 13-bit signed offset. -/
def IsBranchOffset (imm : Word) : Prop :=
  -4096 ≤ imm.toInt ∧ imm.toInt < 4096 ∧ imm.toInt % 2 = 0

/-- An even 21-bit signed offset. -/
def IsJumpOffset (imm : Word) : Prop :=
  -1048576 ≤ imm.toInt ∧ imm.toInt < 1048576 ∧ imm.toInt % 2 = 0

/-- An upper immediate: its low twelve bits are clear. -/
def IsUpper (imm : Word) : Prop := imm &&& 0xFFF = 0

instance (r : Word) : Decidable (IsIndex r) := inferInstanceAs (Decidable (_ < _))

instance (imm : Word) : Decidable (IsBranchOffset imm) := inferInstanceAs (Decidable (_ ∧ _))

instance (imm : Word) : Decidable (IsJumpOffset imm) := inferInstanceAs (Decidable (_ ∧ _))

instance (imm : Word) : Decidable (IsUpper imm) := inferInstanceAs (Decidable (_ = _))

/-- The generator marks SRAI in the upper bits of the immediate. -/
def IsSrai (funct3 imm : Word) : Prop :=
  funct3.setWidth 3 = 0b101#3 ∧ imm.extractLsb' 5 7 = 0b0100000#7

instance (funct3 imm : Word) : Decidable (IsSrai funct3 imm) :=
  inferInstanceAs (Decidable (_ ∧ _))

theorem signExtend_offset {imm : Word} {n N : Nat} (hn : n + 1 ≤ 32) (hN : 1 <<< n = N)
    (hlo : -(N : Int) ≤ imm.toInt) (hhi : imm.toInt < N) (heven : imm.toInt % 2 = 0) :
    (imm.extractLsb' 1 n ++ 0#1).signExtend 32 = imm := by
  have hbit : imm.getLsbD 0 = false := by
    have hmod : imm.toNat % 2 = 0 := by
      rw [BitVec.toInt_eq_toNat_cond] at heven
      split at heven <;> omega
    simp [BitVec.getLsbD, Nat.testBit_zero, hmod]
  have hcut : imm.setWidth (n + 1) = imm.extractLsb' 1 n ++ 0#1 := by
    apply BitVec.eq_of_getLsbD_eq
    intro i hi
    simp only [BitVec.getLsbD_setWidth, BitVec.getLsbD_append, BitVec.getLsbD_extractLsb',
      BitVec.getLsbD_zero]
    grind
  rw [← hcut]
  exact (BitVec.signExtend_setWidth_eq_iff imm hn hN).mpr ⟨hlo, hhi⟩

theorem u8_index {r : Word} (h : IsIndex r) : u8 ((r.setWidth 5).setWidth 32) = u8 r := by
  have hr : (r.setWidth 5).setWidth 32 = r :=
    (BitVec.setWidth_setWidth_eq_iff r (n := 5) (by decide) rfl).mpr h
  rw [hr]


/-! ## Through the decoder -/

section Decode
variable (dec : Decoder) {imm funct7 rs2 rs1 funct3 rd op : Word}

theorem decode_load_imm (himm : IsImm12 imm) :
    (dec.decode (encodeIType imm rs1 funct3 rd 0b0000011)).imm = imm := by
  rw [encodeIType_eq]
  exact (congrArg DecodedInstr.imm (decode_load dec _ _ _ _)).trans
    ((Decoder.decodeLoad_imm _).trans (signExtend_eq_iff.mpr ⟨himm, rfl⟩))

theorem decode_jalr_imm (himm : IsImm12 imm) :
    (dec.decode (encodeIType imm rs1 0b000 rd 0b1100111)).imm = imm := by
  rw [encodeIType_eq]
  exact (congrArg DecodedInstr.imm (decode_jalr dec _ _ _)).trans
    (signExtend_eq_iff.mpr ⟨himm, rfl⟩)

theorem decode_store_imm (himm : IsImm12 imm) :
    (dec.decode (encodeSType imm rs2 rs1 funct3 0b0100011)).imm = imm := by
  rw [encodeSType_eq]
  exact (congrArg DecodedInstr.imm (decode_store dec _ _ _ _)).trans
    ((Decoder.decodeStore_imm _).trans (signExtend_eq_iff.mpr ⟨himm, rfl⟩))

theorem decode_branch_imm (himm : IsBranchOffset imm) :
    (dec.decode (encodeBType imm rs2 rs1 funct3 0b1100011)).imm = imm := by
  obtain ⟨hlo, hhi, heven⟩ := himm
  rw [encodeBType_eq]
  exact (congrArg DecodedInstr.imm (decode_branch dec _ _ _ _)).trans
    ((Decoder.decodeBranch_imm _).trans
      (signExtend_offset (n := 12) (by decide) rfl hlo hhi heven))

theorem decode_jal_imm (himm : IsJumpOffset imm) :
    (dec.decode (encodeJType imm rd 0b1101111)).imm = imm := by
  obtain ⟨hlo, hhi, heven⟩ := himm
  rw [encodeJType_eq]
  exact (congrArg DecodedInstr.imm (decode_jal dec _ _)).trans
    (signExtend_offset (n := 20) (by decide) rfl hlo hhi heven)

theorem upper_eq (himm : IsUpper imm) :
    (imm.extractLsb' 12 20 ++ 0#12 : BitVec (20 + 12)) = imm := by
  have hlow : ∀ i < 12, imm.getLsbD i = false := by
    intro i hi
    have hbit : (imm &&& 0xFFF).getLsbD i = (0 : Word).getLsbD i := by rw [himm]
    rw [BitVec.and_low imm 12 (by decide)] at hbit
    simp only [BitVec.getLsbD_setWidth] at hbit
    grind
  apply BitVec.eq_of_getLsbD_eq
  intro i hi
  simp only [BitVec.getLsbD_append, BitVec.getLsbD_extractLsb', BitVec.getLsbD_zero]
  grind

theorem decode_lui_imm (himm : IsUpper imm) :
    (dec.decode (encodeUType imm rd 0b0110111)).imm = imm := by
  rw [encodeUType_eq]
  exact (congrArg DecodedInstr.imm (decode_lui dec _ _)).trans (upper_eq himm)

theorem decode_auipc_imm (himm : IsUpper imm) :
    (dec.decode (encodeUType imm rd 0b0010111)).imm = imm := by
  rw [encodeUType_eq]
  exact (congrArg DecodedInstr.imm (decode_auipc dec _ _)).trans (upper_eq himm)

/-- An immediate with clear upper bits is its own shift amount; only SRAI's is cut. -/
theorem decode_opImm_imm (himm : IsImm12 imm) :
    (dec.decode (encodeIType imm rs1 funct3 rd 0b0010011)).imm =
      if IsSrai funct3 imm then imm &&& 0x1F else imm := by
  have hsplit : imm.setWidth 12 = imm.extractLsb' 5 7 ++ imm.extractLsb' 0 5 := by
    apply BitVec.eq_of_getLsbD_eq
    intro i hi
    simp only [BitVec.getLsbD_setWidth, BitVec.getLsbD_append, BitVec.getLsbD_extractLsb']
    grind
  have hfull : (imm.extractLsb' 5 7 ++ imm.extractLsb' 0 5 : BitVec 12).signExtend 32 = imm := by
    rw [← hsplit]
    exact signExtend_eq_iff.mpr ⟨himm, rfl⟩
  have hamount : imm &&& 0x1F = (imm.extractLsb' 0 5).setWidth 32 :=
    BitVec.and_low imm 5 (by decide)
  -- SLLI and SRLI have nothing above their amount, so cutting it changes nothing
  have hzero : imm.extractLsb' 5 7 = 0 → (imm.extractLsb' 0 5).setWidth 32 = imm := by
    have hpad : ∀ x : BitVec 5, x.setWidth 32 = ((0 : BitVec 7) ++ x).signExtend 32 := by decide
    intro hz
    rw [hz] at hfull
    rw [hpad, hfull]
  have h1 : ∀ x : BitVec 3, u8 (x.setWidth 32) = 0b001 ↔ x = 0b001#3 := by decide
  have h5 : ∀ x : BitVec 3, u8 (x.setWidth 32) = 0b101 ↔ x = 0b101#3 := by decide
  have h7 : ∀ x : BitVec 7, u8 (x.setWidth 32) = 0 ↔ x = 0 := by decide
  have h20 : ∀ x : BitVec 7, u8 (x.setWidth 32) = 0b0100000 ↔ x = 0b0100000#7 := by decide
  have h2 : ∀ x : BitVec 5, (u8 (x.setWidth 32)).setWidth 32 = (x.setWidth 32 : Word) := by decide
  rw [encodeIType_eq, iType, hsplit]
  refine (congrArg DecodedInstr.imm (decode_opImm dec _ _ _ _)).trans
    ((Decoder.decodeOpImm_imm _).trans ?_)
  simp only [blank, bits_funct3, bits_funct7, bits_rs2, h1, h5, h7, h20, h2, hfull, IsSrai, hamount]
  grind

theorem decode_fence_imm :
    (dec.decode (encodeIType imm rs1 funct3 rd 0b0001111)).imm = 0 := by
  rw [encodeIType_eq]
  exact (congrArg DecodedInstr.imm (decode_misc dec _ _ _ _)).trans (Decoder.decodeFence_imm _)

end Decode

section Registers
variable (dec : Decoder) {imm funct7 rs2 rs1 funct3 rd op : Word}

theorem decode_rType_registers (h2 : IsIndex rs2) (h1 : IsIndex rs1) (hd : IsIndex rd) :
    (dec.decode (encodeRType funct7 rs2 rs1 funct3 rd op)).rs2 = u8 rs2 ∧
      (dec.decode (encodeRType funct7 rs2 rs1 funct3 rd op)).rs1 = u8 rs1 ∧
      (dec.decode (encodeRType funct7 rs2 rs1 funct3 rd op)).rd = u8 rd := by
  obtain ⟨hrd, hrs1, hrs2⟩ :=
    dec.decode_registers (encodeRType funct7 rs2 rs1 funct3 rd op)
  rw [hrd, hrs1, hrs2, encodeRType_eq, rType, bits_rs2, bits_rs1, bits_rd]
  exact ⟨u8_index h2, u8_index h1, u8_index hd⟩

theorem decode_iType_registers (h1 : IsIndex rs1) (hd : IsIndex rd) :
    (dec.decode (encodeIType imm rs1 funct3 rd op)).rs1 = u8 rs1 ∧
      (dec.decode (encodeIType imm rs1 funct3 rd op)).rd = u8 rd := by
  obtain ⟨hrd, hrs1, -⟩ := dec.decode_registers (encodeIType imm rs1 funct3 rd op)
  rw [hrd, hrs1, encodeIType_eq, iType, bits_rs1, bits_rd]
  exact ⟨u8_index h1, u8_index hd⟩

theorem decode_sType_registers (h2 : IsIndex rs2) (h1 : IsIndex rs1) :
    (dec.decode (encodeSType imm rs2 rs1 funct3 op)).rs2 = u8 rs2 ∧
      (dec.decode (encodeSType imm rs2 rs1 funct3 op)).rs1 = u8 rs1 := by
  obtain ⟨-, hrs1, hrs2⟩ := dec.decode_registers (encodeSType imm rs2 rs1 funct3 op)
  rw [hrs1, hrs2, encodeSType_eq, sType, bits_rs2, bits_rs1]
  exact ⟨u8_index h2, u8_index h1⟩

theorem decode_bType_registers (h2 : IsIndex rs2) (h1 : IsIndex rs1) :
    (dec.decode (encodeBType imm rs2 rs1 funct3 op)).rs2 = u8 rs2 ∧
      (dec.decode (encodeBType imm rs2 rs1 funct3 op)).rs1 = u8 rs1 := by
  obtain ⟨-, hrs1, hrs2⟩ := dec.decode_registers (encodeBType imm rs2 rs1 funct3 op)
  have hb : ∀ (f7 : BitVec 7) (r1 : BitVec 5) (f3 : BitVec 3) (lo : BitVec 5) (o : BitVec 7),
      bits (word (f7 ++ rs2.setWidth 5) r1 f3 lo o) 24 20 = (rs2.setWidth 5).setWidth 32 :=
    fun f7 r1 f3 lo o => bits_rs2 r1 f3 lo o f7 _
  rw [hrs1, hrs2, encodeBType_eq, bType, bits_rs1]
  exact ⟨(congrArg u8 (hb _ _ _ _ _)).trans (u8_index h2), u8_index h1⟩

theorem decode_uType_registers (hd : IsIndex rd) :
    (dec.decode (encodeUType imm rd op)).rd = u8 rd := by
  rw [(dec.decode_registers (encodeUType imm rd op)).1, encodeUType_eq, uType, bits_rd]
  exact u8_index hd

theorem decode_jType_registers (hd : IsIndex rd) :
    (dec.decode (encodeJType imm rd op)).rd = u8 rd := by
  rw [(dec.decode_registers (encodeJType imm rd op)).1, encodeJType_eq, jType, bits_rd]
  exact u8_index hd

end Registers

/-! ## Round trips -/

/-- What the decoder returns of the arguments of each format encoder. The immediate is that
of the format on the opcodes that use the format. -/
structure RoundTrips (dec : Decoder) : Prop where
  rType : ∀ funct7 rs2 rs1 funct3 rd op, IsIndex rs2 → IsIndex rs1 → IsIndex rd →
    (dec.decode (encodeRType funct7 rs2 rs1 funct3 rd op)).rs2 = u8 rs2 ∧
      (dec.decode (encodeRType funct7 rs2 rs1 funct3 rd op)).rs1 = u8 rs1 ∧
      (dec.decode (encodeRType funct7 rs2 rs1 funct3 rd op)).rd = u8 rd
  iType : ∀ imm rs1 funct3 rd op, IsIndex rs1 → IsIndex rd →
    (dec.decode (encodeIType imm rs1 funct3 rd op)).rs1 = u8 rs1 ∧
      (dec.decode (encodeIType imm rs1 funct3 rd op)).rd = u8 rd
  load : ∀ imm rs1 funct3 rd, IsImm12 imm →
    (dec.decode (encodeIType imm rs1 funct3 rd 0b0000011)).imm = imm
  opImm : ∀ imm rs1 funct3 rd, IsImm12 imm →
    (dec.decode (encodeIType imm rs1 funct3 rd 0b0010011)).imm =
      if IsSrai funct3 imm then imm &&& 0x1F else imm
  jalr : ∀ imm rs1 rd, IsImm12 imm →
    (dec.decode (encodeIType imm rs1 0b000 rd 0b1100111)).imm = imm
  fence : ∀ imm rs1 funct3 rd,
    (dec.decode (encodeIType imm rs1 funct3 rd 0b0001111)).imm = 0
  sType : ∀ imm rs2 rs1 funct3 op, IsIndex rs2 → IsIndex rs1 →
    (dec.decode (encodeSType imm rs2 rs1 funct3 op)).rs2 = u8 rs2 ∧
      (dec.decode (encodeSType imm rs2 rs1 funct3 op)).rs1 = u8 rs1
  store : ∀ imm rs2 rs1 funct3, IsImm12 imm →
    (dec.decode (encodeSType imm rs2 rs1 funct3 0b0100011)).imm = imm
  bType : ∀ imm rs2 rs1 funct3 op, IsIndex rs2 → IsIndex rs1 →
    (dec.decode (encodeBType imm rs2 rs1 funct3 op)).rs2 = u8 rs2 ∧
      (dec.decode (encodeBType imm rs2 rs1 funct3 op)).rs1 = u8 rs1
  branch : ∀ imm rs2 rs1 funct3, IsBranchOffset imm →
    (dec.decode (encodeBType imm rs2 rs1 funct3 0b1100011)).imm = imm
  uType : ∀ imm rd op, IsIndex rd → (dec.decode (encodeUType imm rd op)).rd = u8 rd
  lui : ∀ imm rd, IsUpper imm → (dec.decode (encodeUType imm rd 0b0110111)).imm = imm
  auipc : ∀ imm rd, IsUpper imm → (dec.decode (encodeUType imm rd 0b0010111)).imm = imm
  jType : ∀ imm rd op, IsIndex rd → (dec.decode (encodeJType imm rd op)).rd = u8 rd
  jal : ∀ imm rd, IsJumpOffset imm → (dec.decode (encodeJType imm rd 0b1101111)).imm = imm

theorem roundTrips (dec : Decoder) : RoundTrips dec where
  rType _ _ _ _ _ _ h2 h1 hd := decode_rType_registers dec h2 h1 hd
  iType _ _ _ _ _ h1 hd := decode_iType_registers dec h1 hd
  load _ _ _ _ himm := decode_load_imm dec himm
  opImm _ _ _ _ himm := decode_opImm_imm dec himm
  jalr _ _ _ himm := decode_jalr_imm dec himm
  fence _ _ _ _ := decode_fence_imm dec
  sType _ _ _ _ _ h2 h1 := decode_sType_registers dec h2 h1
  store _ _ _ _ himm := decode_store_imm dec himm
  bType _ _ _ _ _ h2 h1 := decode_bType_registers dec h2 h1
  branch _ _ _ _ himm := decode_branch_imm dec himm
  uType _ _ _ hd := decode_uType_registers dec hd
  lui _ _ himm := decode_lui_imm dec himm
  auipc _ _ himm := decode_auipc_imm dec himm
  jType _ _ _ hd := decode_jType_registers dec hd
  jal _ _ himm := decode_jal_imm dec himm

end Opgen

end Rv32i

end Riscv

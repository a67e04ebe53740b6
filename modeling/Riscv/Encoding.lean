import Riscv.Rv32f

/- The 32-bit instruction formats of the base set, as words assembled from
   their fields, and what the decoders read back from them. An offset of the B
   and J formats is given in halfwords: its low bit is not encoded.

   The formats are this development's own: the source packs and unpacks words
   with shifts and masks. They are what an expansion of a compressed instruction
   is written in, and what the packed words of the encoders are shown equal to. -/
namespace Riscv.Encoding

/-- A word cut at the borders of the R format. -/
def word (hi : BitVec 12) (rs1 : BitVec 5) (funct3 : BitVec 3) (rd : BitVec 5) (op : BitVec 7) :
    Word :=
  hi ++ rs1 ++ funct3 ++ rd ++ op

/-- Two sources and a destination. -/
def rType (funct7 : BitVec 7) (rs2 rs1 : BitVec 5) (funct3 : BitVec 3) (rd : BitVec 5)
    (op : BitVec 7) : Word :=
  word (funct7 ++ rs2) rs1 funct3 rd op

/-- One source, and twelve bits of immediate. -/
def iType (imm : BitVec 12) (rs1 : BitVec 5) (funct3 : BitVec 3) (rd : BitVec 5)
    (op : BitVec 7) : Word :=
  word imm rs1 funct3 rd op

/-- No destination: its field holds the low bits of the immediate. -/
def sType (imm : BitVec 12) (rs2 rs1 : BitVec 5) (funct3 : BitVec 3) (op : BitVec 7) : Word :=
  word (imm.extractLsb' 5 7 ++ rs2) rs1 funct3 (imm.extractLsb' 0 5) op

/-- The offset without its lowest bit, in four pieces. -/
def bType (off : BitVec 12) (rs2 rs1 : BitVec 5) (funct3 : BitVec 3) (op : BitVec 7) : Word :=
  word (off.extractLsb' 11 1 ++ off.extractLsb' 4 6 ++ rs2) rs1 funct3
    (off.extractLsb' 0 4 ++ off.extractLsb' 10 1) op

/-- The upper twenty bits. -/
def uType (imm : BitVec 20) (rd : BitVec 5) (op : BitVec 7) : Word :=
  word (imm.extractLsb' 8 12) (imm.extractLsb' 3 5) (imm.extractLsb' 0 3) rd op

/-- The offset without its lowest bit, in four pieces. -/
def jType (off : BitVec 20) (rd : BitVec 5) (op : BitVec 7) : Word :=
  word (off.extractLsb' 19 1 ++ off.extractLsb' 0 10 ++ off.extractLsb' 10 1)
    (off.extractLsb' 14 5) (off.extractLsb' 11 3) rd op

/-! ## Fields -/

section Fields
variable (hi : BitVec 12) (rs1 : BitVec 5) (funct3 : BitVec 3) (rd : BitVec 5) (op : BitVec 7)

theorem getLsbD_word (i : Nat) : (word hi rs1 funct3 rd op).getLsbD i =
    if i < 7 then op.getLsbD i
    else if i < 12 then rd.getLsbD (i - 7)
    else if i < 15 then funct3.getLsbD (i - 12)
    else if i < 20 then rs1.getLsbD (i - 15)
    else hi.getLsbD (i - 20) := by
  show (hi ++ rs1 ++ funct3 ++ rd ++ op : BitVec (12 + 5 + 3 + 5 + 7)).getLsbD i = _
  simp only [BitVec.getLsbD_append]
  grind

theorem bits_eq_setWidth {w : Word} {h lo n : Nat} {x : BitVec n} (hn : n = h - lo + 1)
    (hlt : n < 32) (hx : ∀ i < n, w.getLsbD (lo + i) = x.getLsbD i) :
    bits w h lo = x.setWidth 32 := by
  apply BitVec.eq_of_getLsbD_eq
  intro i hi
  rw [getLsbD_bits _ (by omega), BitVec.getLsbD_setWidth]
  by_cases h : i < n
  · rw [hx i h]
    simp [hi]
    omega
  · have hout := BitVec.getLsbD_of_ge x i (by omega)
    simp [hout]
    omega

@[simp] theorem bits_op : bits (word hi rs1 funct3 rd op) 6 0 = op.setWidth 32 := by
  refine bits_eq_setWidth rfl (by decide) fun i hi => ?_
  rw [getLsbD_word]
  grind

@[simp] theorem bits_rd : bits (word hi rs1 funct3 rd op) 11 7 = rd.setWidth 32 := by
  refine bits_eq_setWidth rfl (by decide) fun i hi => ?_
  rw [getLsbD_word]
  grind

@[simp] theorem bits_funct3 : bits (word hi rs1 funct3 rd op) 14 12 = funct3.setWidth 32 := by
  refine bits_eq_setWidth rfl (by decide) fun i hi => ?_
  rw [getLsbD_word]
  grind

@[simp] theorem bits_rs1 : bits (word hi rs1 funct3 rd op) 19 15 = rs1.setWidth 32 := by
  refine bits_eq_setWidth rfl (by decide) fun i hi => ?_
  rw [getLsbD_word]
  grind

@[simp] theorem bits_hi : bits (word hi rs1 funct3 rd op) 31 20 = hi.setWidth 32 := by
  refine bits_eq_setWidth rfl (by decide) fun i hi => ?_
  rw [getLsbD_word]
  grind

@[simp] theorem bits_rs2 (funct7 : BitVec 7) (rs2 : BitVec 5) :
    bits (word (funct7 ++ rs2) rs1 funct3 rd op) 24 20 = rs2.setWidth 32 := by
  refine bits_eq_setWidth rfl (by decide) fun i hi => ?_
  rw [getLsbD_word, BitVec.getLsbD_append]
  grind

@[simp] theorem bits_funct7 (funct7 : BitVec 7) (rs2 : BitVec 5) :
    bits (word (funct7 ++ rs2) rs1 funct3 rd op) 31 25 = funct7.setWidth 32 := by
  refine bits_eq_setWidth rfl (by decide) fun i hi => ?_
  rw [getLsbD_word, BitVec.getLsbD_append]
  grind

end Fields

/-! ## Immediates -/

theorem decodeIImm_word (imm : BitVec 12) (rs1 : BitVec 5) (funct3 : BitVec 3) (rd : BitVec 5)
    (op : BitVec 7) : Rv32i.decodeIImm (word imm rs1 funct3 rd op) = imm.signExtend 32 := by
  have hmsb : (word imm rs1 funct3 rd op).msb = imm.msb := by
    rw [BitVec.msb_eq_getLsbD_last, BitVec.msb_eq_getLsbD_last, getLsbD_word]
    simp
  apply BitVec.eq_of_getLsbD_eq
  intro i hi
  rw [Rv32i.decodeIImm, BitVec.getLsbD_sshiftRight, BitVec.getLsbD_signExtend, getLsbD_word, hmsb]
  grind

/-- The immediate of the S format, put together again. -/
theorem sImm_bits (imm : BitVec 12) (rs2 rs1 : BitVec 5) (funct3 : BitVec 3) (op : BitVec 7) :
    (bits (sType imm rs2 rs1 funct3 op) 31 25 <<< 5) ||| bits (sType imm rs2 rs1 funct3 op) 11 7 =
      imm.setWidth 32 := by
  simp only [sType, bits_funct7, bits_rd]
  apply BitVec.eq_of_getLsbD_eq
  intro i hi
  simp only [BitVec.getLsbD_or, BitVec.getLsbD_shiftLeft, BitVec.getLsbD_setWidth,
    BitVec.getLsbD_extractLsb']
  grind

theorem decodeSImm_sType (imm : BitVec 12) (rs2 rs1 : BitVec 5) (funct3 : BitVec 3)
    (op : BitVec 7) : Rv32i.decodeSImm (sType imm rs2 rs1 funct3 op) = imm.signExtend 32 :=
  signFill imm (sImm_bits imm rs2 rs1 funct3 op) (by decide) rfl (by decide)

theorem decodeBImm_bType (off : BitVec 12) (rs2 rs1 : BitVec 5) (funct3 : BitVec 3)
    (op : BitVec 7) :
    Rv32i.decodeBImm (bType off rs2 rs1 funct3 op) = (off ++ 0#1).signExtend 32 := by
  have hw : ∀ i, (bType off rs2 rs1 funct3 op).getLsbD i = _ := fun i => getLsbD_word _ _ _ _ _ i
  refine signFill (off ++ 0#1) ?_ (by decide) rfl (by decide)
  apply BitVec.eq_of_getLsbD_eq
  intro i hi
  simp only [BitVec.getLsbD_or, BitVec.getLsbD_shiftLeft, BitVec.getLsbD_setWidth,
    BitVec.getLsbD_append, getLsbD_bits _ (show 31 - 31 < 31 by decide),
    getLsbD_bits _ (show 7 - 7 < 31 by decide), getLsbD_bits _ (show 30 - 25 < 31 by decide),
    getLsbD_bits _ (show 11 - 8 < 31 by decide), hw, BitVec.getLsbD_extractLsb']
  grind

theorem decodeJImm_jType (off : BitVec 20) (rd : BitVec 5) (op : BitVec 7) :
    Rv32i.decodeJImm (jType off rd op) = (off ++ 0#1).signExtend 32 := by
  have hw : ∀ i, (jType off rd op).getLsbD i = _ := fun i => getLsbD_word _ _ _ _ _ i
  refine signFill (off ++ 0#1) ?_ (by decide) rfl (by decide)
  apply BitVec.eq_of_getLsbD_eq
  intro i hi
  simp only [BitVec.getLsbD_or, BitVec.getLsbD_shiftLeft, BitVec.getLsbD_setWidth,
    BitVec.getLsbD_append, getLsbD_bits _ (show 31 - 31 < 31 by decide),
    getLsbD_bits _ (show 19 - 12 < 31 by decide), getLsbD_bits _ (show 20 - 20 < 31 by decide),
    getLsbD_bits _ (show 30 - 21 < 31 by decide), hw, BitVec.getLsbD_extractLsb']
  grind

theorem upper_uType (imm : BitVec 20) (rd : BitVec 5) (op : BitVec 7) :
    uType imm rd op &&& 0xFFFFF000 = (imm ++ 0#12 : BitVec (20 + 12)) := by
  have hmask : ∀ i < 32, (0xFFFFF000 : Word).getLsbD i = decide (12 ≤ i) := by decide
  have hw : ∀ i, (uType imm rd op).getLsbD i = _ := fun i => getLsbD_word _ _ _ _ _ i
  apply BitVec.eq_of_getLsbD_eq
  intro i hi
  rw [BitVec.getLsbD_and, hmask i hi, hw]
  show _ = (imm ++ 0#12).getLsbD i
  rw [BitVec.getLsbD_append]
  simp only [BitVec.getLsbD_extractLsb']
  grind

/-! ## Decoding -/

/-- What every decoded instruction holds of its word, before the opcode is looked at. -/
def blank (w : Word) : Rv32i.DecodedInstr :=
  { raw := w
    type := .illegal
    format := .unknown
    rd := u8 (bits w 11 7)
    rs1 := u8 (bits w 19 15)
    rs2 := u8 (bits w 24 20)
    funct3 := u8 (bits w 14 12)
    funct7 := u8 (bits w 31 25)
    imm := 0 }

section Decode
variable (dec : Rv32i.Decoder) (hi : BitVec 12) (rs1 : BitVec 5) (funct3 : BitVec 3)
  (rd : BitVec 5)

theorem decode_opImm : dec.decode (word hi rs1 funct3 rd 0b0010011) =
    Rv32i.Decoder.decodeOpImm
      { blank (word hi rs1 funct3 rd 0b0010011) with
        format := .iType
        imm := hi.signExtend 32 } := by
  simp [Rv32i.Decoder.decode, blank, decodeIImm_word]
  rfl

theorem decode_op : dec.decode (word hi rs1 funct3 rd 0b0110011) =
    Rv32i.Decoder.decodeOp
      { blank (word hi rs1 funct3 rd 0b0110011) with format := .rType } := by
  simp [Rv32i.Decoder.decode, blank]
  rfl

theorem decode_misc : dec.decode (word hi rs1 funct3 rd 0b0001111) =
    Rv32i.Decoder.decodeFence
      { blank (word hi rs1 funct3 rd 0b0001111) with format := .iType } := by
  simp [Rv32i.Decoder.decode, blank]
  rfl

theorem decode_load : dec.decode (word hi rs1 funct3 rd 0b0000011) =
    Rv32i.Decoder.decodeLoad
      { blank (word hi rs1 funct3 rd 0b0000011) with
        format := .iType
        imm := hi.signExtend 32 } := by
  simp [Rv32i.Decoder.decode, blank, decodeIImm_word]
  rfl

theorem decode_store (imm : BitVec 12) (rs2 : BitVec 5) :
    dec.decode (sType imm rs2 rs1 funct3 0b0100011) =
      Rv32i.Decoder.decodeStore
        { blank (sType imm rs2 rs1 funct3 0b0100011) with
          format := .sType
          imm := imm.signExtend 32 } := by
  rw [← decodeSImm_sType imm rs2 rs1 funct3 0b0100011]
  simp [Rv32i.Decoder.decode, blank, sType]
  rfl

theorem decode_branch (off : BitVec 12) (rs2 : BitVec 5) :
    dec.decode (bType off rs2 rs1 funct3 0b1100011) =
      Rv32i.Decoder.decodeBranch
        { blank (bType off rs2 rs1 funct3 0b1100011) with
          format := .bType
          imm := (off ++ 0#1).signExtend 32 } := by
  rw [← decodeBImm_bType off rs2 rs1 funct3 0b1100011]
  simp [Rv32i.Decoder.decode, blank, bType]
  rfl

theorem decode_lui (imm : BitVec 20) :
    dec.decode (uType imm rd 0b0110111) =
      { blank (uType imm rd 0b0110111) with
        type := .lui
        format := .uType
        imm := (imm ++ 0#12 : BitVec (20 + 12)) } := by
  have hop : u8 (bits (uType imm rd 0b0110111) 6 0) = Rv32i.Opcode.lui := by
    rw [uType, bits_op]
    rfl
  rw [← upper_uType imm rd 0b0110111, Rv32i.Decoder.decode]
  exact if_pos hop

theorem decode_auipc (imm : BitVec 20) :
    dec.decode (uType imm rd 0b0010111) =
      { blank (uType imm rd 0b0010111) with
        type := .auipc
        format := .uType
        imm := (imm ++ 0#12 : BitVec (20 + 12)) } := by
  have hop : u8 (bits (uType imm rd 0b0010111) 6 0) = Rv32i.Opcode.auipc := by
    rw [uType, bits_op]
    rfl
  have hlui : u8 (bits (uType imm rd 0b0010111) 6 0) ≠ Rv32i.Opcode.lui := by
    rw [hop]
    decide
  rw [← upper_uType imm rd 0b0010111, Rv32i.Decoder.decode]
  exact (if_neg hlui).trans (if_pos hop)

theorem decode_jal (off : BitVec 20) :
    dec.decode (jType off rd 0b1101111) =
      { blank (jType off rd 0b1101111) with
        type := .jal
        format := .jType
        imm := (off ++ 0#1).signExtend 32 } := by
  rw [← decodeJImm_jType off rd 0b1101111]
  simp [Rv32i.Decoder.decode, blank, jType]
  rfl

theorem decode_jalr : dec.decode (word hi rs1 0b000 rd 0b1100111) =
    { blank (word hi rs1 0b000 rd 0b1100111) with
      type := .jalr
      format := .iType
      imm := hi.signExtend 32 } := by
  rw [← decodeIImm_word hi rs1 0b000 rd 0b1100111]
  simp [Rv32i.Decoder.decode, blank]
  rfl

end Decode

/-! ## Decoding F -/

/-- What every decoded F instruction holds of its word. -/
def blankF (w : Word) : Rv32f.DecodedInstr :=
  { raw := w
    type := .illegal
    rd := u8 (bits w 11 7)
    rs1 := u8 (bits w 19 15)
    rs2 := u8 (bits w 24 20)
    rs3 := u8 (bits w 31 27)
    rm := u8 (bits w 14 12)
    funct7 := u8 (bits w 31 25)
    funct3 := u8 (bits w 14 12)
    imm := 0 }

theorem decode_loadFp {w : Word} (hop : u8 (bits w 6 0) = Rv32f.Opcode.loadFp)
    (hfunct3 : u8 (bits w 14 12) = Rv32f.Funct3.w) :
    Rv32f.decode w =
      { blankF w with type := .flw, imm := signExtend32 (bits w 31 20) 11 } := by
  simp [Rv32f.decode, Rv32f.decodeOpcode, hop, hfunct3, Rv32f.usesRm, blankF]

theorem decode_storeFp {w : Word} (hop : u8 (bits w 6 0) = Rv32f.Opcode.storeFp)
    (hfunct3 : u8 (bits w 14 12) = Rv32f.Funct3.w) :
    Rv32f.decode w =
      { blankF w with
        type := .fsw
        imm := signExtend32 ((bits w 31 25 <<< 5) ||| bits w 11 7) 11 } := by
  have hload : Rv32f.Opcode.storeFp ≠ Rv32f.Opcode.loadFp := by decide
  simp [Rv32f.decode, Rv32f.decodeOpcode, hop, hload, hfunct3, Rv32f.usesRm, blankF]

theorem decode_flw (imm : BitVec 12) (rs1 rd : BitVec 5) :
    Rv32f.decode (iType imm rs1 0b010 rd 0b0000111) =
      { blankF (iType imm rs1 0b010 rd 0b0000111) with
        type := .flw
        imm := imm.signExtend 32 } := by
  have hop : u8 (bits (iType imm rs1 0b010 rd 0b0000111) 6 0) = Rv32f.Opcode.loadFp := by
    rw [iType, bits_op]
    rfl
  have hfunct3 : u8 (bits (iType imm rs1 0b010 rd 0b0000111) 14 12) = Rv32f.Funct3.w := by
    rw [iType, bits_funct3]
    rfl
  have himm : bits (iType imm rs1 0b010 rd 0b0000111) 31 20 = imm.setWidth 32 := bits_hi _ _ _ _ _
  rw [decode_loadFp hop hfunct3, himm, signExtend32_setWidth]

theorem decode_fsw (imm : BitVec 12) (rs2 rs1 : BitVec 5) :
    Rv32f.decode (sType imm rs2 rs1 0b010 0b0100111) =
      { blankF (sType imm rs2 rs1 0b010 0b0100111) with
        type := .fsw
        imm := imm.signExtend 32 } := by
  have hop : u8 (bits (sType imm rs2 rs1 0b010 0b0100111) 6 0) = Rv32f.Opcode.storeFp := by
    rw [sType, bits_op]
    rfl
  have hfunct3 : u8 (bits (sType imm rs2 rs1 0b010 0b0100111) 14 12) = Rv32f.Funct3.w := by
    rw [sType, bits_funct3]
    rfl
  rw [decode_storeFp hop hfunct3, sImm_bits, signExtend32_setWidth]

end Riscv.Encoding

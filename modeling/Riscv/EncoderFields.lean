import Riscv.Encoders
import Riscv.Encoding

/- What the packers of the encoders put where. A packed word is written once as a
   word of the base formats; from that, the fields the decoders read are the
   packer's arguments, and a word with these fields is the packed one. Both are one
   equivalence for each packer (`packR_iff` and its like):

     the arguments are in range and pack to `w`  ↔  `w` has them as its fields. -/
namespace Riscv

open Encoding

/-! ## Ranges -/

/-- A register index. -/
def IsReg (r : BitVec 8) : Prop := r.toNat < 32

/-- A rounding mode an instruction may name; 5 and 6 are reserved. -/
def IsRm (rm : BitVec 8) : Prop := rm.toNat < 8 ∧ rm ≠ 5 ∧ rm ≠ 6

/-- A CSR number. -/
def IsCsr (csr : BitVec 16) : Prop := csr.toNat < 4096

/-- A 12-bit signed immediate. -/
def IsImm12 (imm : Word) : Prop := -2048 ≤ imm.toInt ∧ imm.toInt < 2048

instance (r : BitVec 8) : Decidable (IsReg r) := inferInstanceAs (Decidable (_ < _))

instance (rm : BitVec 8) : Decidable (IsRm rm) := inferInstanceAs (Decidable (_ ∧ _))

instance (csr : BitVec 16) : Decidable (IsCsr csr) := inferInstanceAs (Decidable (_ < _))

instance (imm : Word) : Decidable (IsImm12 imm) := inferInstanceAs (Decidable (_ ∧ _))

theorem isReg_zero : IsReg 0 := by decide

/-- Read back, an immediate is what was cut, when that was in range. -/
theorem signExtend_eq_iff {v : BitVec 12} {imm : Word} :
    v.signExtend 32 = imm ↔ IsImm12 imm ∧ v = imm.setWidth 12 := by
  have hrange : IsImm12 imm ↔ (imm.setWidth 12).signExtend 32 = imm :=
    (BitVec.signExtend_setWidth_eq_iff imm (n := 11) (by decide) rfl).symm
  rw [hrange]
  constructor
  · rintro rfl
    have hcut : (v.signExtend 32).setWidth 12 = v := by
      apply BitVec.eq_of_getLsbD_eq
      intro i hi
      rw [BitVec.getLsbD_setWidth, BitVec.getLsbD_signExtend]
      grind
    rw [hcut]
    exact ⟨rfl, rfl⟩
  · rintro ⟨h, rfl⟩
    exact h

/-! ## Fields as bits -/

section Bits
variable (w : Word)

theorem bits_eq {h lo : Nat} (n : Nat) (hn : n = h - lo + 1) (hlt : n < 32) :
    bits w h lo = (w.extractLsb' lo n).setWidth 32 :=
  bits_eq_setWidth hn hlt fun i hi => by simp [hi]

/-- A field reads as `r` exactly when `r` fits and its low bits are there. -/
theorem setWidth_bits_eq_iff {h lo m : Nat} {r : BitVec m} (n : Nat) {N : Nat}
    (hn : n = h - lo + 1) (hlt : n < 32) (hle : n ≤ m) (hN : 1 <<< n = N) :
    (bits w h lo).setWidth m = r ↔ r.toNat < N ∧ w.extractLsb' lo n = r.setWidth n := by
  have hcut : (((w.extractLsb' lo n).setWidth m).setWidth n) = w.extractLsb' lo n := by
    rw [BitVec.setWidth_setWidth_of_le _ hle, BitVec.setWidth_eq]
  have hbits : (bits w h lo).setWidth m = (w.extractLsb' lo n).setWidth m := by
    rw [bits_eq w n hn hlt]
    apply BitVec.eq_of_getLsbD_eq
    intro i hi
    simp only [BitVec.getLsbD_setWidth, BitVec.getLsbD_extractLsb']
    grind
  rw [← BitVec.setWidth_setWidth_eq_iff r hle hN, hbits]
  constructor
  · rintro rfl
    rw [hcut]
    exact ⟨rfl, rfl⟩
  · rintro ⟨he, hx⟩
    rw [hx, he]

theorem op_iff {r : BitVec 8} :
    u8 (bits w 6 0) = r ↔ r.toNat < 128 ∧ w.extractLsb' 0 7 = r.setWidth 7 :=
  setWidth_bits_eq_iff w 7 rfl (by decide) (by decide) rfl

theorem rd_iff {r : BitVec 8} :
    u8 (bits w 11 7) = r ↔ IsReg r ∧ w.extractLsb' 7 5 = r.setWidth 5 :=
  setWidth_bits_eq_iff w 5 rfl (by decide) (by decide) rfl

theorem funct3_iff {r : BitVec 8} :
    u8 (bits w 14 12) = r ↔ r.toNat < 8 ∧ w.extractLsb' 12 3 = r.setWidth 3 :=
  setWidth_bits_eq_iff w 3 rfl (by decide) (by decide) rfl

theorem rs1_iff {r : BitVec 8} :
    u8 (bits w 19 15) = r ↔ IsReg r ∧ w.extractLsb' 15 5 = r.setWidth 5 :=
  setWidth_bits_eq_iff w 5 rfl (by decide) (by decide) rfl

theorem rs2_iff {r : BitVec 8} :
    u8 (bits w 24 20) = r ↔ IsReg r ∧ w.extractLsb' 20 5 = r.setWidth 5 :=
  setWidth_bits_eq_iff w 5 rfl (by decide) (by decide) rfl

theorem funct7_iff {r : BitVec 8} :
    u8 (bits w 31 25) = r ↔ r.toNat < 128 ∧ w.extractLsb' 25 7 = r.setWidth 7 :=
  setWidth_bits_eq_iff w 7 rfl (by decide) (by decide) rfl

theorem fmt_iff {r : BitVec 8} :
    u8 (bits w 26 25) = r ↔ r.toNat < 4 ∧ w.extractLsb' 25 2 = r.setWidth 2 :=
  setWidth_bits_eq_iff w 2 rfl (by decide) (by decide) rfl

theorem rs3_iff {r : BitVec 8} :
    u8 (bits w 31 27) = r ↔ IsReg r ∧ w.extractLsb' 27 5 = r.setWidth 5 :=
  setWidth_bits_eq_iff w 5 rfl (by decide) (by decide) rfl

theorem imm12_iff {r : BitVec 16} :
    u16 (bits w 31 20) = r ↔ IsCsr r ∧ w.extractLsb' 20 12 = r.setWidth 12 :=
  setWidth_bits_eq_iff w 12 rfl (by decide) (by decide) rfl

end Bits

theorem word_eq_iff {w : Word} {hi : BitVec 12} {rs1 : BitVec 5} {funct3 : BitVec 3}
    {rd : BitVec 5} {op : BitVec 7} :
    word hi rs1 funct3 rd op = w ↔
      w.extractLsb' 20 12 = hi ∧ w.extractLsb' 15 5 = rs1 ∧ w.extractLsb' 12 3 = funct3 ∧
        w.extractLsb' 7 5 = rd ∧ w.extractLsb' 0 7 = op := by
  have hword : word hi rs1 funct3 rd op = w ↔
      w.extractLsb' 0 (12 + 5 + 3 + 5 + 7) = hi ++ rs1 ++ funct3 ++ rd ++ op := by
    rw [BitVec.extractLsb'_eq_self]
    exact eq_comm
  rw [hword, BitVec.extractLsb'_eq_append_iff, BitVec.extractLsb'_eq_append_iff,
    BitVec.extractLsb'_eq_append_iff, BitVec.extractLsb'_eq_append_iff]
  simp only [and_assoc, Nat.zero_add]

theorem hi_eq_iff {w : Word} {funct7 : BitVec 7} {rs2 : BitVec 5} :
    w.extractLsb' 20 12 = funct7 ++ rs2 ↔
      w.extractLsb' 25 7 = funct7 ∧ w.extractLsb' 20 5 = rs2 :=
  BitVec.extractLsb'_eq_append_iff (n := 7) (m := 5) w 20

theorem field5_eq (v : BitVec 8) (lo : Nat) :
    field5 v lo = (v.setWidth 5).setWidth 32 <<< lo := by
  have hlow : v &&& 0x1F = (v.setWidth 5).setWidth 8 := BitVec.and_low v 5 (by decide)
  have hwiden : ((v.setWidth 5).setWidth 8).setWidth 32 = ((v.setWidth 5).setWidth 32 : Word) := by
    apply BitVec.eq_of_getLsbD_eq
    intro i hi
    simp only [BitVec.getLsbD_setWidth]
    grind
  rw [field5, hlow, hwiden]

/-! ## R format -/

/-- What the decoders read of a word of the R format. -/
structure RFields (w : Word) (funct7 rs2 rs1 funct3 rd op : BitVec 8) : Prop where
  funct7 : u8 (bits w 31 25) = funct7
  rs2 : u8 (bits w 24 20) = rs2
  rs1 : u8 (bits w 19 15) = rs1
  funct3 : u8 (bits w 14 12) = funct3
  rd : u8 (bits w 11 7) = rd
  op : u8 (bits w 6 0) = op

section R
variable {w : Word} {funct7 rs2 rs1 funct3 rd op : BitVec 8}

theorem rFields_iff : RFields w funct7 rs2 rs1 funct3 rd op ↔
    (funct7.toNat < 128 ∧ funct3.toNat < 8 ∧ op.toNat < 128) ∧
      (IsReg rd ∧ IsReg rs1 ∧ IsReg rs2) ∧
      word (funct7.setWidth 7 ++ rs2.setWidth 5) (rs1.setWidth 5) (funct3.setWidth 3)
        (rd.setWidth 5) (op.setWidth 7) = w := by
  rw [word_eq_iff, hi_eq_iff]
  constructor
  · rintro ⟨h7, h2, h1, h3, hd, hop⟩
    rw [funct7_iff] at h7
    rw [rs2_iff] at h2
    rw [rs1_iff] at h1
    rw [funct3_iff] at h3
    rw [rd_iff] at hd
    rw [op_iff] at hop
    exact ⟨⟨h7.1, h3.1, hop.1⟩, ⟨hd.1, h1.1, h2.1⟩, ⟨h7.2, h2.2⟩, h1.2, h3.2, hd.2, hop.2⟩
  · rintro ⟨⟨l7, l3, lop⟩, ⟨ld, l1, l2⟩, ⟨h7, h2⟩, h1, h3, hd, hop⟩
    exact ⟨(funct7_iff w).mpr ⟨l7, h7⟩, (rs2_iff w).mpr ⟨l2, h2⟩, (rs1_iff w).mpr ⟨l1, h1⟩,
      (funct3_iff w).mpr ⟨l3, h3⟩, (rd_iff w).mpr ⟨ld, hd⟩, (op_iff w).mpr ⟨lop, hop⟩⟩

/-- `packR` does not mask `funct3` and `op`, so they have to fit. -/
theorem packR_eq_word (h3 : funct3.toNat < 8) (hop : op.toNat < 128) :
    packR funct7 rs2 rs1 funct3 rd op =
      word (funct7.setWidth 7 ++ rs2.setWidth 5) (rs1.setWidth 5) (funct3.setWidth 3)
        (rd.setWidth 5) (op.setWidth 7) := by
  have b3 : ∀ i, 3 ≤ i → funct3.getLsbD i = false :=
    fun i hi => BitVec.getLsbD_of_lt funct3 3 rfl h3 hi
  have bop : ∀ i, 7 ≤ i → op.getLsbD i = false :=
    fun i hi => BitVec.getLsbD_of_lt op 7 rfl hop hi
  apply BitVec.eq_of_getLsbD_eq
  intro i hi
  rw [getLsbD_word, packR]
  simp only [field5_eq, BitVec.getLsbD_or, BitVec.getLsbD_shiftLeft, BitVec.getLsbD_setWidth,
    BitVec.getLsbD_append]
  grind

theorem packR_iff (h7 : funct7.toNat < 128) (h3 : funct3.toNat < 8) (hop : op.toNat < 128) :
    (IsReg rd ∧ IsReg rs1 ∧ IsReg rs2) ∧ packR funct7 rs2 rs1 funct3 rd op = w ↔
      RFields w funct7 rs2 rs1 funct3 rd op := by
  rw [rFields_iff, packR_eq_word h3 hop]
  simp [h7, h3, hop]

theorem packR_unary_iff (h7 : funct7.toNat < 128) (h3 : funct3.toNat < 8) (hop : op.toNat < 128)
    (h2 : IsReg rs2) :
    (IsReg rd ∧ IsReg rs1) ∧ packR funct7 rs2 rs1 funct3 rd op = w ↔
      RFields w funct7 rs2 rs1 funct3 rd op := by
  rw [← packR_iff h7 h3 hop]
  simp [h2]

end R

/-! ## I format -/

/-- What the decoders read of a word of the I format, the immediate not extended. -/
structure IFields (w : Word) (imm12 : BitVec 16) (rs1 funct3 rd op : BitVec 8) : Prop where
  imm12 : u16 (bits w 31 20) = imm12
  rs1 : u8 (bits w 19 15) = rs1
  funct3 : u8 (bits w 14 12) = funct3
  rd : u8 (bits w 11 7) = rd
  op : u8 (bits w 6 0) = op

section I
variable {w : Word} {imm12 : BitVec 16} {rs1 funct3 rd op : BitVec 8}

theorem packI_eq_word (h3 : funct3.toNat < 8) (hop : op.toNat < 128) :
    packI imm12 rs1 funct3 rd op =
      word (imm12.setWidth 12) (rs1.setWidth 5) (funct3.setWidth 3) (rd.setWidth 5)
        (op.setWidth 7) := by
  have b3 : ∀ i, 3 ≤ i → funct3.getLsbD i = false :=
    fun i hi => BitVec.getLsbD_of_lt funct3 3 rfl h3 hi
  have bop : ∀ i, 7 ≤ i → op.getLsbD i = false :=
    fun i hi => BitVec.getLsbD_of_lt op 7 rfl hop hi
  have hmask : ∀ i < 32, (0xFFF : BitVec 16).getLsbD i = decide (i < 12) := by decide
  apply BitVec.eq_of_getLsbD_eq
  intro i hi
  rw [getLsbD_word, packI]
  simp only [field5_eq, BitVec.getLsbD_or, BitVec.getLsbD_shiftLeft, BitVec.getLsbD_setWidth,
    BitVec.getLsbD_and, hmask (i - 20) (by omega)]
  grind

theorem packI_iff (h3 : funct3.toNat < 8) (hop : op.toNat < 128) :
    (IsReg rd ∧ IsCsr imm12 ∧ IsReg rs1) ∧ packI imm12 rs1 funct3 rd op = w ↔
      IFields w imm12 rs1 funct3 rd op := by
  rw [packI_eq_word h3 hop, word_eq_iff]
  constructor
  · rintro ⟨⟨ld, l12, l1⟩, h12, h1, h3', hd, hop'⟩
    exact ⟨(imm12_iff w).mpr ⟨l12, h12⟩, (rs1_iff w).mpr ⟨l1, h1⟩, (funct3_iff w).mpr ⟨h3, h3'⟩,
      (rd_iff w).mpr ⟨ld, hd⟩, (op_iff w).mpr ⟨hop, hop'⟩⟩
  · rintro ⟨h12, h1, h3', hd, hop'⟩
    rw [imm12_iff] at h12
    rw [rs1_iff] at h1
    rw [funct3_iff] at h3'
    rw [rd_iff] at hd
    rw [op_iff] at hop'
    exact ⟨⟨hd.1, h12.1, h1.1⟩, h12.2, h1.2, h3'.2, hd.2, hop'.2⟩

/-- An immediate that is a `funct7` over an `rs2` makes a word of the R format. -/
theorem packI_split_iff {funct7 rs2 : BitVec 8} (h7 : funct7.toNat < 128) (h2 : IsReg rs2)
    (h3 : funct3.toNat < 8) (hop : op.toNat < 128)
    (hsplit : imm12.setWidth 12 = funct7.setWidth 7 ++ rs2.setWidth 5) :
    (IsReg rd ∧ IsReg rs1) ∧ packI imm12 rs1 funct3 rd op = w ↔
      RFields w funct7 rs2 rs1 funct3 rd op := by
  rw [rFields_iff, packI_eq_word h3 hop, hsplit]
  simp [h7, h3, hop, h2]

theorem imm12_split_iff {funct7 rs2 : BitVec 8} (h12 : IsCsr imm12) (h7 : funct7.toNat < 128)
    (h2 : IsReg rs2) (hsplit : imm12.setWidth 12 = funct7.setWidth 7 ++ rs2.setWidth 5) :
    u16 (bits w 31 20) = imm12 ↔ u8 (bits w 31 25) = funct7 ∧ u8 (bits w 24 20) = rs2 := by
  rw [imm12_iff, funct7_iff, rs2_iff, hsplit, hi_eq_iff]
  simp [h12, h7, h2]

end I

/-! ## Atomics -/

/-- What the A decoder reads. -/
structure AFields (w : Word) (funct5 : BitVec 8) (aq rl : Bool) (rs2 rs1 rd : BitVec 8) :
    Prop where
  funct5 : u8 (bits w 31 27) = funct5
  aq : w.getLsbD 26 = aq
  rl : w.getLsbD 25 = rl
  rs2 : u8 (bits w 24 20) = rs2
  rs1 : u8 (bits w 19 15) = rs1
  funct3 : u8 (bits w 14 12) = Rv32a.Funct3.w
  rd : u8 (bits w 11 7) = rd
  op : u8 (bits w 6 0) = Rv32a.Opcode.amo

section A
variable {w : Word} {funct5 : BitVec 8} {aq rl : Bool} {rs2 rs1 rd : BitVec 8}

theorem amoInstr_eq_word :
    Rv32a.Encode.amoInstr funct5 aq rl rs2 rs1 rd =
      word (funct5.setWidth 5 ++ BitVec.ofBool aq ++ BitVec.ofBool rl ++ rs2.setWidth 5)
        (rs1.setWidth 5) (Rv32a.Funct3.w.setWidth 3) (rd.setWidth 5)
        (Rv32a.Opcode.amo.setWidth 7) := by
  have hbit : ∀ (b : Bool) i, (if b then 1 else 0 : Word).getLsbD i = (decide (i = 0) && b) := by
    intro b i
    cases b <;> simp
  have b3 : ∀ i, 3 ≤ i → Rv32a.Funct3.w.getLsbD i = false :=
    fun i hi => BitVec.getLsbD_of_lt Rv32a.Funct3.w 3 rfl (by decide) hi
  have bop : ∀ i, 7 ≤ i → Rv32a.Opcode.amo.getLsbD i = false :=
    fun i hi => BitVec.getLsbD_of_lt Rv32a.Opcode.amo 7 rfl (by decide) hi
  apply BitVec.eq_of_getLsbD_eq
  intro i hi
  rw [getLsbD_word, Rv32a.Encode.amoInstr]
  simp only [field5_eq, BitVec.getLsbD_or, BitVec.getLsbD_shiftLeft, BitVec.getLsbD_setWidth,
    BitVec.getLsbD_append, BitVec.getLsbD_ofBool, hbit]
  grind

theorem amoInstr_iff (h5 : IsReg funct5) :
    (IsReg rd ∧ IsReg rs2 ∧ IsReg rs1) ∧ Rv32a.Encode.amoInstr funct5 aq rl rs2 rs1 rd = w ↔
      AFields w funct5 aq rl rs2 rs1 rd := by
  have h7 : w.extractLsb' 25 7 =
      funct5.setWidth 5 ++ BitVec.ofBool aq ++ BitVec.ofBool rl ↔
      (w.extractLsb' 27 5 = funct5.setWidth 5 ∧ w.extractLsb' 26 1 = BitVec.ofBool aq) ∧
        w.extractLsb' 25 1 = BitVec.ofBool rl :=
    (BitVec.extractLsb'_eq_append_iff (n := 6) (m := 1) w 25).trans
      (and_congr_left' (BitVec.extractLsb'_eq_append_iff (n := 5) (m := 1) w 26))
  rw [amoInstr_eq_word, word_eq_iff, hi_eq_iff, h7, BitVec.extractLsb'_one_eq_iff,
    BitVec.extractLsb'_one_eq_iff]
  constructor
  · rintro ⟨⟨ld, l2, l1⟩, ⟨⟨⟨h5', haq⟩, hrl⟩, h2⟩, h1, h3, hd, hop⟩
    exact ⟨(rs3_iff w).mpr ⟨h5, h5'⟩, haq, hrl, (rs2_iff w).mpr ⟨l2, h2⟩,
      (rs1_iff w).mpr ⟨l1, h1⟩, (funct3_iff w).mpr ⟨by decide, h3⟩, (rd_iff w).mpr ⟨ld, hd⟩,
      (op_iff w).mpr ⟨by decide, hop⟩⟩
  · rintro ⟨h5', haq, hrl, h2, h1, h3, hd, hop⟩
    rw [rs3_iff] at h5'
    rw [rs2_iff] at h2
    rw [rs1_iff] at h1
    rw [funct3_iff] at h3
    rw [rd_iff] at hd
    rw [op_iff] at hop
    exact ⟨⟨hd.1, h2.1, h1.1⟩, ⟨⟨⟨h5'.2, haq⟩, hrl⟩, h2.2⟩, h1.2, h3.2, hd.2, hop.2⟩

theorem amoInstr_unary_iff (h5 : IsReg funct5) (h2 : IsReg rs2) :
    (IsReg rd ∧ IsReg rs1) ∧ Rv32a.Encode.amoInstr funct5 aq rl rs2 rs1 rd = w ↔
      AFields w funct5 aq rl rs2 rs1 rd := by
  rw [← amoInstr_iff h5]
  simp [h2]

end A

/-! ## F -/

section F
variable {w : Word} {funct7 rs3 rs2 rs1 rm rd op : BitVec 8} {imm : Word}

/-- On constants that fit, the masks of `rTypeF` change nothing. -/
theorem rTypeF_eq_packR (h7 : funct7.toNat < 128) (hrm : rm.toNat < 8) :
    Rv32f.Encode.rTypeF funct7 rs2 rs1 rm rd op = packR funct7 rs2 rs1 rm rd op := by
  have hmask7 : ∀ v : BitVec 8, v.toNat < 128 → v &&& 0x7F = v := by decide
  have hmask3 : ∀ v : BitVec 8, v.toNat < 8 → v &&& 0x7 = v := by decide
  rw [Rv32f.Encode.rTypeF, hmask7 funct7 h7, hmask3 rm hrm]
  rfl

theorem rTypeF_iff (h7 : funct7.toNat < 128) (hop : op.toNat < 128) :
    (IsReg rd ∧ IsReg rs1 ∧ IsReg rs2 ∧ IsRm rm) ∧
        Rv32f.Encode.rTypeF funct7 rs2 rs1 rm rd op = w ↔
      IsRm rm ∧ RFields w funct7 rs2 rs1 rm rd op := by
  constructor
  · rintro ⟨⟨hd, h1, h2, hrm⟩, he⟩
    rw [rTypeF_eq_packR h7 hrm.1] at he
    exact ⟨hrm, (packR_iff h7 hrm.1 hop).mp ⟨⟨hd, h1, h2⟩, he⟩⟩
  · rintro ⟨hrm, f⟩
    obtain ⟨⟨hd, h1, h2⟩, he⟩ := (packR_iff h7 hrm.1 hop).mpr f
    rw [rTypeF_eq_packR h7 hrm.1]
    exact ⟨⟨hd, h1, h2, hrm⟩, he⟩

theorem rTypeF_unary_iff (h7 : funct7.toNat < 128) (hop : op.toNat < 128) (h2 : IsReg rs2) :
    (IsReg rd ∧ IsReg rs1 ∧ IsRm rm) ∧ Rv32f.Encode.rTypeF funct7 rs2 rs1 rm rd op = w ↔
      IsRm rm ∧ RFields w funct7 rs2 rs1 rm rd op := by
  rw [← rTypeF_iff h7 hop]
  simp [h2]

/-- An operation that keeps its `funct3` where the rounding mode would be. -/
theorem rTypeF_funct3_iff (h7 : funct7.toNat < 128) (hrm : rm.toNat < 8) (hop : op.toNat < 128) :
    (IsReg rd ∧ IsReg rs1 ∧ IsReg rs2) ∧ Rv32f.Encode.rTypeF funct7 rs2 rs1 rm rd op = w ↔
      RFields w funct7 rs2 rs1 rm rd op := by
  rw [rTypeF_eq_packR h7 hrm]
  exact packR_iff h7 hrm hop

theorem rTypeF_funct3_unary_iff (h7 : funct7.toNat < 128) (hrm : rm.toNat < 8)
    (hop : op.toNat < 128) (h2 : IsReg rs2) :
    (IsReg rd ∧ IsReg rs1) ∧ Rv32f.Encode.rTypeF funct7 rs2 rs1 rm rd op = w ↔
      RFields w funct7 rs2 rs1 rm rd op := by
  rw [rTypeF_eq_packR h7 hrm]
  exact packR_unary_iff h7 hrm hop h2

/-- What the F decoder reads of a fused operation. -/
structure R4Fields (w : Word) (rs3 rs2 rs1 rm rd op : BitVec 8) : Prop where
  rs3 : u8 (bits w 31 27) = rs3
  fmt : u8 (bits w 26 25) = 0b00
  rs2 : u8 (bits w 24 20) = rs2
  rs1 : u8 (bits w 19 15) = rs1
  rm : u8 (bits w 14 12) = rm
  rd : u8 (bits w 11 7) = rd
  op : u8 (bits w 6 0) = op

theorem r4Type_eq_word (hop : op.toNat < 128) :
    Rv32f.Encode.r4Type rs3 rs2 rs1 rm rd op =
      word (rs3.setWidth 5 ++ 0#2 ++ rs2.setWidth 5) (rs1.setWidth 5) (rm.setWidth 3)
        (rd.setWidth 5) (op.setWidth 7) := by
  have hmask : ∀ i < 32, (0x7 : BitVec 8).getLsbD i = decide (i < 3) := by decide
  have bop : ∀ i, 7 ≤ i → op.getLsbD i = false :=
    fun i hi => BitVec.getLsbD_of_lt op 7 rfl hop hi
  apply BitVec.eq_of_getLsbD_eq
  intro i hi
  rw [getLsbD_word, Rv32f.Encode.r4Type]
  simp only [field5_eq, BitVec.getLsbD_or, BitVec.getLsbD_shiftLeft, BitVec.getLsbD_setWidth,
    BitVec.getLsbD_and, BitVec.getLsbD_append, hmask (i - 12) (by omega), BitVec.getLsbD_zero]
  grind

theorem r4Type_iff (hop : op.toNat < 128) :
    (IsReg rd ∧ IsReg rs1 ∧ IsReg rs2 ∧ IsReg rs3 ∧ IsRm rm) ∧
        Rv32f.Encode.r4Type rs3 rs2 rs1 rm rd op = w ↔
      IsRm rm ∧ R4Fields w rs3 rs2 rs1 rm rd op := by
  have h7 : w.extractLsb' 25 7 = rs3.setWidth 5 ++ 0#2 ↔
      w.extractLsb' 27 5 = rs3.setWidth 5 ∧ w.extractLsb' 25 2 = 0#2 :=
    BitVec.extractLsb'_eq_append_iff (n := 5) (m := 2) w 25
  rw [r4Type_eq_word hop, word_eq_iff, hi_eq_iff, h7]
  constructor
  · rintro ⟨⟨ld, l1, l2, l3, lrm⟩, ⟨⟨h3, hfmt⟩, h2⟩, h1, hrm, hd, hop'⟩
    exact ⟨lrm, (rs3_iff w).mpr ⟨l3, h3⟩, (fmt_iff w).mpr ⟨by decide, hfmt⟩,
      (rs2_iff w).mpr ⟨l2, h2⟩, (rs1_iff w).mpr ⟨l1, h1⟩, (funct3_iff w).mpr ⟨lrm.1, hrm⟩,
      (rd_iff w).mpr ⟨ld, hd⟩, (op_iff w).mpr ⟨hop, hop'⟩⟩
  · rintro ⟨lrm, h3, hfmt, h2, h1, hrm, hd, hop'⟩
    rw [rs3_iff] at h3
    rw [fmt_iff] at hfmt
    rw [rs2_iff] at h2
    rw [rs1_iff] at h1
    rw [funct3_iff] at hrm
    rw [rd_iff] at hd
    rw [op_iff] at hop'
    exact ⟨⟨hd.1, h1.1, h2.1, h3.1, lrm⟩, ⟨⟨h3.2, hfmt.2⟩, h2.2⟩, h1.2, hrm.2, hd.2, hop'.2⟩

/-- What the F decoder reads of FLW. -/
structure FlwFields (w : Word) (imm : Word) (rs1 rd : BitVec 8) : Prop where
  imm : signExtend32 (bits w 31 20) 11 = imm
  rs1 : u8 (bits w 19 15) = rs1
  funct3 : u8 (bits w 14 12) = Rv32f.Funct3.w
  rd : u8 (bits w 11 7) = rd
  op : u8 (bits w 6 0) = Rv32f.Opcode.loadFp

theorem flw_eq_word :
    Rv32f.Encode.flw rd rs1 imm =
      word (imm.setWidth 12) (rs1.setWidth 5) (Rv32f.Funct3.w.setWidth 3) (rd.setWidth 5)
        (Rv32f.Opcode.loadFp.setWidth 7) := by
  have hmask : ∀ i < 32, (0xFFF : Word).getLsbD i = decide (i < 12) := by decide
  have b3 : ∀ i, 3 ≤ i → Rv32f.Funct3.w.getLsbD i = false :=
    fun i hi => BitVec.getLsbD_of_lt Rv32f.Funct3.w 3 rfl (by decide) hi
  have bop : ∀ i, 7 ≤ i → Rv32f.Opcode.loadFp.getLsbD i = false :=
    fun i hi => BitVec.getLsbD_of_lt Rv32f.Opcode.loadFp 7 rfl (by decide) hi
  apply BitVec.eq_of_getLsbD_eq
  intro i hi
  rw [getLsbD_word, Rv32f.Encode.flw]
  simp only [field5_eq, BitVec.getLsbD_or, BitVec.getLsbD_shiftLeft, BitVec.getLsbD_setWidth,
    BitVec.getLsbD_and, hmask (i - 20) (by omega)]
  grind

theorem flw_iff :
    (IsReg rd ∧ IsReg rs1 ∧ IsImm12 imm) ∧ Rv32f.Encode.flw rd rs1 imm = w ↔
      FlwFields w imm rs1 rd := by
  have himm : signExtend32 (bits w 31 20) 11 = imm ↔
      IsImm12 imm ∧ w.extractLsb' 20 12 = imm.setWidth 12 := by
    rw [bits_eq w 12 rfl (by decide), signExtend32_setWidth, signExtend_eq_iff]
  rw [flw_eq_word, word_eq_iff]
  constructor
  · rintro ⟨⟨ld, l1, limm⟩, hi, h1, h3, hd, hop⟩
    exact ⟨himm.mpr ⟨limm, hi⟩, (rs1_iff w).mpr ⟨l1, h1⟩, (funct3_iff w).mpr ⟨by decide, h3⟩,
      (rd_iff w).mpr ⟨ld, hd⟩, (op_iff w).mpr ⟨by decide, hop⟩⟩
  · rintro ⟨hi, h1, h3, hd, hop⟩
    rw [himm] at hi
    rw [rs1_iff] at h1
    rw [funct3_iff] at h3
    rw [rd_iff] at hd
    rw [op_iff] at hop
    exact ⟨⟨hd.1, h1.1, hi.1⟩, hi.2, h1.2, h3.2, hd.2, hop.2⟩

/-- What the F decoder reads of FSW. -/
structure FswFields (w : Word) (imm : Word) (rs2 rs1 : BitVec 8) : Prop where
  imm : signExtend32 ((bits w 31 25 <<< 5) ||| bits w 11 7) 11 = imm
  rs2 : u8 (bits w 24 20) = rs2
  rs1 : u8 (bits w 19 15) = rs1
  funct3 : u8 (bits w 14 12) = Rv32f.Funct3.w
  op : u8 (bits w 6 0) = Rv32f.Opcode.storeFp

theorem fsw_eq_word :
    Rv32f.Encode.fsw rs2 rs1 imm =
      sType (imm.setWidth 12) (rs2.setWidth 5) (rs1.setWidth 5) (Rv32f.Funct3.w.setWidth 3)
        (Rv32f.Opcode.storeFp.setWidth 7) := by
  have hmaskHi : ∀ i < 32, (0xFE0 : Word).getLsbD i = decide (5 ≤ i ∧ i < 12) := by decide
  have hmaskLo : ∀ i < 32, (0x1F : Word).getLsbD i = decide (i < 5) := by decide
  have b3 : ∀ i, 3 ≤ i → Rv32f.Funct3.w.getLsbD i = false :=
    fun i hi => BitVec.getLsbD_of_lt Rv32f.Funct3.w 3 rfl (by decide) hi
  have bop : ∀ i, 7 ≤ i → Rv32f.Opcode.storeFp.getLsbD i = false :=
    fun i hi => BitVec.getLsbD_of_lt Rv32f.Opcode.storeFp 7 rfl (by decide) hi
  apply BitVec.eq_of_getLsbD_eq
  intro i hi
  rw [sType, getLsbD_word, Rv32f.Encode.fsw]
  simp only [field5_eq, BitVec.getLsbD_or, BitVec.getLsbD_shiftLeft, BitVec.getLsbD_setWidth,
    BitVec.getLsbD_and, BitVec.getLsbD_append, BitVec.getLsbD_extractLsb',
    hmaskHi (i - 20) (by omega), hmaskLo (i - 7) (by omega)]
  grind

theorem fsw_iff :
    (IsReg rs2 ∧ IsReg rs1 ∧ IsImm12 imm) ∧ Rv32f.Encode.fsw rs2 rs1 imm = w ↔
      FswFields w imm rs2 rs1 := by
  have hparts : (bits w 31 25 <<< 5) ||| bits w 11 7 =
      (w.extractLsb' 25 7 ++ w.extractLsb' 7 5).setWidth 32 := by
    rw [bits_eq w 7 rfl (by decide), bits_eq w 5 rfl (by decide)]
    apply BitVec.eq_of_getLsbD_eq
    intro i hi
    simp only [BitVec.getLsbD_or, BitVec.getLsbD_shiftLeft, BitVec.getLsbD_setWidth,
      BitVec.getLsbD_append]
    grind
  have himm : signExtend32 ((bits w 31 25 <<< 5) ||| bits w 11 7) 11 = imm ↔
      IsImm12 imm ∧ w.extractLsb' 25 7 = (imm.setWidth 12).extractLsb' 5 7 ∧
        w.extractLsb' 7 5 = (imm.setWidth 12).extractLsb' 0 5 := by
    have hcut : (imm.setWidth 12).extractLsb' 0 (7 + 5) = imm.setWidth 12 :=
      BitVec.extractLsb'_eq_self
    rw [hparts, signExtend32_setWidth, signExtend_eq_iff, ← hcut, eq_comm,
      BitVec.extractLsb'_eq_append_iff, hcut, Nat.zero_add, eq_comm (b := w.extractLsb' 25 7),
      eq_comm (b := w.extractLsb' 7 5)]
  rw [fsw_eq_word, sType, word_eq_iff, hi_eq_iff]
  constructor
  · rintro ⟨⟨l2, l1, limm⟩, ⟨h7, h2⟩, h1, h3, hlo, hop⟩
    exact ⟨himm.mpr ⟨limm, h7, hlo⟩, (rs2_iff w).mpr ⟨l2, h2⟩, (rs1_iff w).mpr ⟨l1, h1⟩,
      (funct3_iff w).mpr ⟨by decide, h3⟩, (op_iff w).mpr ⟨by decide, hop⟩⟩
  · rintro ⟨hi, h2, h1, h3, hop⟩
    rw [himm] at hi
    rw [rs2_iff] at h2
    rw [rs1_iff] at h1
    rw [funct3_iff] at h3
    rw [op_iff] at hop
    exact ⟨⟨h2.1, h1.1, hi.1⟩, ⟨hi.2.1, h2.2⟩, h1.2, h3.2, hi.2.2, hop.2⟩

end F

end Riscv

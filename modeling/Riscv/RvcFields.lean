import Riscv.Rvc
import Riscv.Rv32c
import Riscv.Rv32fc

/- The fields and immediates the two compressed decoders compute are those of
   the format tables: the decoders mask, shift and OR; the tables concatenate. -/
namespace Riscv

open Encoding Rvc

namespace Rv32c

/-! ## The decoder's fields are the format's -/

section Fields
variable (p : BitVec 16)

theorem field_eq {n : Nat} (lo : Nat) {mask : Word}
    (hmask : ∀ i < 32, mask.getLsbD i = decide (i < n)) :
    field p lo mask = (p.extractLsb' lo n).setWidth 32 := by
  apply BitVec.eq_of_getLsbD_eq
  intro i hi
  rw [field, BitVec.getLsbD_and, hmask i hi]
  simp only [BitVec.getLsbD_ushiftRight, BitVec.getLsbD_setWidth, BitVec.getLsbD_extractLsb']
  grind

theorem field_one (lo : Nat) : field p lo 0x1 = (bit p lo).setWidth 32 :=
  field_eq p lo (by decide)

theorem field_two (lo : Nat) : field p lo 0x3 = (p.extractLsb' lo 2).setWidth 32 :=
  field_eq p lo (by decide)

theorem field_three (lo : Nat) : field p lo 0x7 = (p.extractLsb' lo 3).setWidth 32 :=
  field_eq p lo (by decide)

theorem field_four (lo : Nat) : field p lo 0xF = (p.extractLsb' lo 4).setWidth 32 :=
  field_eq p lo (by decide)

theorem field_five (lo : Nat) : field p lo 0x1F = (p.extractLsb' lo 5).setWidth 32 :=
  field_eq p lo (by decide)

theorem setWidth_eq_iff {n m : Nat} {x k : BitVec n} {v : BitVec m} (hnm : n ≤ m)
    (hk : v = k.setWidth m) : x.setWidth m = v ↔ x = k := by
  subst hk
  constructor
  · intro h
    have hback := congrArg (BitVec.setWidth n) h
    rwa [BitVec.setWidth_setWidth_of_le _ hnm, BitVec.setWidth_setWidth_of_le _ hnm,
      BitVec.setWidth_eq, BitVec.setWidth_eq] at hback
  · exact fun h => h ▸ rfl

theorem field_one_iff (lo : Nat) {v : Word} (k : BitVec 1) (hk : v = k.setWidth 32) :
    field p lo 0x1 = v ↔ bit p lo = k := by
  rw [field_one]
  exact setWidth_eq_iff (by decide) hk

theorem field_two_iff (lo : Nat) {v : Word} (k : BitVec 2) (hk : v = k.setWidth 32) :
    field p lo 0x3 = v ↔ p.extractLsb' lo 2 = k := by
  rw [field_two]
  exact setWidth_eq_iff (by decide) hk

theorem funct3_iff {v : Word} (k : BitVec 3) (hk : v = k.setWidth 32) :
    field p 13 0x7 = v ↔ funct3 p = k := by
  rw [field_three]
  exact setWidth_eq_iff (by decide) hk

theorem quadrant_iff {v : BitVec 16} (k : BitVec 2) (hk : v = k.setWidth 16) :
    p &&& 0x3 = v ↔ quadrant p = k := by
  have hmask : ∀ i < 16, (0x3 : BitVec 16).getLsbD i = decide (i < 2) := by decide
  have hquadrant : p &&& 0x3 = (quadrant p).setWidth 16 := by
    apply BitVec.eq_of_getLsbD_eq
    intro i hi
    rw [BitVec.getLsbD_and, hmask i hi]
    simp only [quadrant, BitVec.getLsbD_setWidth, BitVec.getLsbD_extractLsb']
    grind
  rw [hquadrant]
  exact setWidth_eq_iff (by decide) hk

theorem regField_eq (lo : Nat) : regField p lo = (reg p lo).setWidth 8 := by
  rw [regField, field_five, u8, BitVec.setWidth_setWidth_of_le _ (by decide)]
  rfl

theorem cregField_eq (lo : Nat) : cregField p lo = (creg p lo).setWidth 8 := by
  have hreg : ∀ x : BitVec 3,
      cregToReg (u8 (x.setWidth 32)) = (0b01#2 ++ x : BitVec (2 + 3)).setWidth 8 := by decide
  rw [cregField, field_three]
  exact hreg _

theorem regField_iff (lo : Nat) {v : BitVec 8} (k : BitVec 5) (hk : v = k.setWidth 8) :
    regField p lo = v ↔ reg p lo = k := by
  rw [regField_eq]
  exact setWidth_eq_iff (by decide) hk

end Fields

section Immediates
variable (p : BitVec 16)

/-- The six immediate bits of CI, before sign extension or shift. -/
theorem ciBits_eq : field p 2 0x1F ||| (field p 12 0x1 <<< 5) = (ciImm p).setWidth 32 := by
  rw [field_five, field_one]
  apply BitVec.eq_of_getLsbD_eq
  intro i hi
  simp only [ciImm, bit, BitVec.getLsbD_or, BitVec.getLsbD_shiftLeft, BitVec.getLsbD_setWidth,
    BitVec.getLsbD_append, BitVec.getLsbD_extractLsb']
  grind

theorem decodeCiImm_eq : decodeCiImm p = (ciImm p).signExtend 32 :=
  signFill (ciImm p) (ciBits_eq p) (by decide) rfl (by decide)

theorem decodeCjImm_eq : decodeCjImm p = (cjOff p ++ 0#1).signExtend 32 := by
  refine signFill (cjOff p ++ 0#1) ?_ (by decide) rfl (by decide)
  simp only [field_three, field_two, field_one]
  apply BitVec.eq_of_getLsbD_eq
  intro i hi
  simp only [cjOff, bit, BitVec.getLsbD_or, BitVec.getLsbD_shiftLeft, BitVec.getLsbD_setWidth,
    BitVec.getLsbD_append, BitVec.getLsbD_extractLsb']
  grind

theorem decodeCbImm_eq : decodeCbImm p = (cbOff p ++ 0#1).signExtend 32 := by
  refine signFill (cbOff p ++ 0#1) ?_ (by decide) rfl (by decide)
  simp only [field_two, field_one]
  apply BitVec.eq_of_getLsbD_eq
  intro i hi
  simp only [cbOff, bit, BitVec.getLsbD_or, BitVec.getLsbD_shiftLeft, BitVec.getLsbD_setWidth,
    BitVec.getLsbD_append, BitVec.getLsbD_extractLsb']
  grind

theorem addi16spNzimm_eq : addi16spNzimm p = (addi16spImm p ++ 0#4).setWidth 32 := by
  simp only [addi16spNzimm, field_two, field_one]
  apply BitVec.eq_of_getLsbD_eq
  intro i hi
  simp only [addi16spImm, bit, BitVec.getLsbD_or, BitVec.getLsbD_shiftLeft,
    BitVec.getLsbD_setWidth, BitVec.getLsbD_append, BitVec.getLsbD_extractLsb']
  grind

theorem addi16sp_eq :
    (if addi16spNzimm p &&& 0x200 ≠ 0 then addi16spNzimm p ||| 0xFFFFFC00 else addi16spNzimm p) =
      (addi16spImm p ++ 0#4).signExtend 32 :=
  signFill (addi16spImm p ++ 0#4) (addi16spNzimm_eq p) (by decide) rfl (by decide)

theorem decodeCiwImm_eq : decodeCiwImm p = (scaled (addi4spnImm p)).signExtend 32 := by
  simp only [decodeCiwImm, field_four, field_two, field_one]
  apply BitVec.eq_of_getLsbD_eq
  intro i hi
  simp only [scaled, addi4spnImm, bit, BitVec.getLsbD_or, BitVec.getLsbD_shiftLeft,
    BitVec.getLsbD_setWidth, BitVec.getLsbD_append, BitVec.getLsbD_extractLsb',
    BitVec.getLsbD_signExtend, BitVec.msb_eq_getLsbD_last]
  grind

theorem decodeClImm_eq : decodeClImm p = (scaled (clImm p)).signExtend 32 := by
  simp only [decodeClImm, field_three, field_one]
  apply BitVec.eq_of_getLsbD_eq
  intro i hi
  simp only [scaled, clImm, bit, BitVec.getLsbD_or, BitVec.getLsbD_shiftLeft,
    BitVec.getLsbD_setWidth, BitVec.getLsbD_append, BitVec.getLsbD_extractLsb',
    BitVec.getLsbD_signExtend, BitVec.msb_eq_getLsbD_last]
  grind

theorem decodeLwspImm_eq : decodeLwspImm p = (scaled (lwspImm p)).signExtend 32 := by
  simp only [decodeLwspImm, field_three, field_two, field_one]
  apply BitVec.eq_of_getLsbD_eq
  intro i hi
  simp only [scaled, lwspImm, bit, BitVec.getLsbD_or, BitVec.getLsbD_shiftLeft,
    BitVec.getLsbD_setWidth, BitVec.getLsbD_append, BitVec.getLsbD_extractLsb',
    BitVec.getLsbD_signExtend, BitVec.msb_eq_getLsbD_last]
  grind

theorem decodeSwspImm_eq : decodeSwspImm p = (scaled (swspImm p)).signExtend 32 := by
  simp only [decodeSwspImm, field_four, field_two]
  apply BitVec.eq_of_getLsbD_eq
  intro i hi
  simp only [scaled, swspImm, BitVec.getLsbD_or, BitVec.getLsbD_shiftLeft,
    BitVec.getLsbD_setWidth, BitVec.getLsbD_append, BitVec.getLsbD_extractLsb',
    BitVec.getLsbD_signExtend, BitVec.msb_eq_getLsbD_last]
  grind

/-- C.LUI tests the sign bit in the parcel, not in the shifted immediate. -/
theorem lui_eq :
    (if p &&& 0x1000 ≠ 0 then
        ((field p 2 0x1F ||| (field p 12 0x1 <<< 5)) <<< 12) ||| 0xFFFC0000
      else (field p 2 0x1F ||| (field p 12 0x1 <<< 5)) <<< 12) =
      ((ciImm p).signExtend 20 ++ 0#12 : BitVec (20 + 12)) := by
  have himm : (field p 2 0x1F ||| (field p 12 0x1 <<< 5)) <<< 12 =
      (ciImm p ++ 0#12).setWidth 32 := by
    rw [ciBits_eq]
    apply BitVec.eq_of_getLsbD_eq
    intro i hi
    simp only [BitVec.getLsbD_shiftLeft, BitVec.getLsbD_setWidth, BitVec.getLsbD_append]
    grind
  have hsign : p &&& 0x1000 ≠ 0 ↔
      (ciImm p ++ 0#12 : BitVec (6 + 12)).setWidth 32 &&& 0x20000 ≠ (0 : Word) := by
    rw [show (0x1000 : BitVec 16) = BitVec.twoPow 16 12 from rfl,
      show (0x20000 : Word) = BitVec.twoPow 32 17 from rfl,
      BitVec.and_twoPow_ne_zero (by decide) p, BitVec.and_twoPow_ne_zero (by decide) _]
    simp only [ciImm, bit, BitVec.getLsbD_setWidth, BitVec.getLsbD_append,
      BitVec.getLsbD_extractLsb']
    grind
  have hext := BitVec.signExtend_append_zero (m := 20) (ciImm p) 12 (by decide) (by decide) 32
  rw [BitVec.signExtend_eq] at hext
  rw [hext, himm]
  simp only [hsign]
  exact signFill (ciImm p ++ 0#12) rfl (by decide) rfl (by decide)

/-! The reserved zero immediates are the zero immediates of the table. -/

theorem addi4spn_ne_zero : decodeCiwImm p ≠ 0 ↔ addi4spnImm p ≠ 0 := by
  rw [decodeCiwImm_eq]
  generalize addi4spnImm p = x
  revert x
  decide

theorem addi16sp_ne_zero : addi16spNzimm p ≠ 0 ↔ addi16spImm p ≠ 0 := by
  rw [addi16spNzimm_eq]
  generalize addi16spImm p = x
  revert x
  decide

theorem lui_ne_zero :
    field p 2 0x1F ||| (field p 12 0x1 <<< 5) ≠ 0 ↔ ciImm p ≠ 0 := by
  rw [ciBits_eq]
  exact not_congr (setWidth_eq_iff (by decide) rfl)

end Immediates
end Rv32c

namespace Rv32fc

/-! ## Zcf

The decoder of Zcf has copies of its own of the field helpers, and reads the
same fields. -/

variable (p : BitVec 16)

theorem field_eq_field (lo : Nat) (mask : Word) : field p lo mask = Rv32c.field p lo mask := rfl

theorem creg_eq (lo : Nat) : cregToReg (u8 (field p lo 0x7)) = (creg p lo).setWidth 8 := by
  rw [← Rv32c.cregField_eq, Rv32c.cregField, field_eq_field, cregToReg, Riscv.cregToReg,
    BitVec.add_comm]

theorem reg_eq (lo : Nat) : u8 (field p lo 0x1F) = (reg p lo).setWidth 8 :=
  Rv32c.regField_eq p lo

theorem clUimm_eq : clUimm p = (scaled (clImm p)).signExtend 32 := by
  rw [← Rv32c.decodeClImm_eq, clUimm, Rv32c.decodeClImm]
  simp only [field_eq_field]
  ac_rfl

theorem lwspUimm_eq :
    (field p 12 0x1 <<< 5) ||| (field p 4 0x7 <<< 2) ||| (field p 2 0x3 <<< 6) =
      (scaled (lwspImm p)).signExtend 32 := by
  rw [← Rv32c.decodeLwspImm_eq, Rv32c.decodeLwspImm]
  simp only [field_eq_field]
  ac_rfl

theorem swspUimm_eq : (field p 9 0xF <<< 2) ||| (field p 7 0x3 <<< 6) =
    (scaled (swspImm p)).signExtend 32 := by
  rw [← Rv32c.decodeSwspImm_eq, Rv32c.decodeSwspImm]
  simp only [field_eq_field]
  ac_rfl

end Rv32fc

end Riscv

import Riscv.Rv32f
import Riscv.Lib.Grid

/- The value of a float.

   The executor works on bit patterns. Here a pattern is given the rational number it
   stands for, and the executor's tests on patterns (NaN, comparison, the cast to an
   integer) are read as statements about that number. -/
namespace Riscv.Rv32f.F32

open Binary

/-! ## Fields as numbers -/

def sign (f : Word) : Bool := f.getLsbD 31

/-- The magnitude: the pattern without its sign. -/
def pattern (f : Word) : Nat := (f &&& 0x7FFFFFFF).toNat

/-- Neither infinite nor a NaN. -/
def isFinite (f : Word) : Bool := decide (exp f ≠ 0xFF)

/-- The exponent is all ones and the fraction is zero. -/
def isInf (f : Word) : Bool := decide (exp f = 0xFF) && decide (frac f = 0)

theorem pattern_eq (f : Word) : pattern f = f.toNat % 2147483648 := by
  unfold pattern
  rw [BitVec.toNat_and]
  exact Nat.and_two_pow_sub_one_eq_mod f.toNat 31

theorem toNat_eq (f : Word) : f.toNat = (if sign f then 2147483648 else 0) + pattern f := by
  have hlt := f.isLt
  have hsign : sign f = decide (f.toNat / 2147483648 % 2 = 1) := by
    unfold sign
    rw [BitVec.getLsbD, Nat.testBit_eq_decide_div_mod_eq]
  rw [pattern_eq, hsign]
  simp only [decide_eq_true_eq]
  split <;> omega

theorem exp_toNat (f : Word) : (exp f).toNat = pattern f / 8388608 := by
  have hmask := Nat.and_two_pow_sub_one_eq_mod (f.toNat >>> 23) 8
  unfold exp
  rw [BitVec.toNat_and, BitVec.toNat_ushiftRight, pattern_eq]
  rw [Nat.shiftRight_eq_div_pow] at hmask ⊢
  refine Eq.trans hmask ?_
  omega

theorem frac_toNat (f : Word) : (frac f).toNat = pattern f % 8388608 := by
  have hmask := Nat.and_two_pow_sub_one_eq_mod f.toNat 23
  unfold frac
  rw [BitVec.toNat_and, pattern_eq]
  refine Eq.trans hmask ?_
  omega

theorem pattern_lt (f : Word) : pattern f < 2147483648 := by
  rw [pattern_eq]
  omega

/-- The pattern of infinity. -/
def infinity : Nat := 0x7F800000

theorem exp_max_iff (f : Word) : exp f = 0xFF ↔ infinity ≤ pattern f := by
  have hlt := pattern_lt f
  rw [← BitVec.toNat_inj, exp_toNat]
  show pattern f / 8388608 = 255 ↔ 2139095040 ≤ pattern f
  omega

theorem frac_zero_iff (f : Word) : frac f = 0 ↔ pattern f % 8388608 = 0 := by
  rw [← BitVec.toNat_inj, frac_toNat]
  rfl

theorem isnan_iff (f : Word) : isnan f = true ↔ infinity < pattern f := by
  have hlt := pattern_lt f
  unfold isnan
  rw [Bool.and_eq_true, decide_eq_true_eq, decide_eq_true_eq, exp_max_iff, Ne, frac_zero_iff]
  show 2139095040 ≤ pattern f ∧ _ ↔ 2139095040 < pattern f
  omega

theorem isInf_iff (f : Word) : isInf f = true ↔ pattern f = infinity := by
  have hlt := pattern_lt f
  unfold isInf
  rw [Bool.and_eq_true, decide_eq_true_eq, decide_eq_true_eq, exp_max_iff, frac_zero_iff]
  show 2139095040 ≤ pattern f ∧ _ ↔ pattern f = 2139095040
  omega

theorem isFinite_iff (f : Word) : isFinite f = true ↔ pattern f < infinity := by
  unfold isFinite
  rw [decide_eq_true_eq, Ne, exp_max_iff, not_le]

theorem eq_of_fields {a b : Word} (hsign : sign a = sign b) (hpattern : pattern a = pattern b) :
    a = b := by
  apply BitVec.eq_of_toNat_eq
  rw [toNat_eq, toNat_eq, hsign, hpattern]

/-! ## Negation -/

theorem neg_twice (f : Word) : neg (neg f) = f := by
  unfold neg
  rw [BitVec.xor_assoc, BitVec.xor_self, BitVec.xor_zero]

theorem sign_neg (f : Word) : sign (neg f) = !sign f := by
  unfold sign neg
  rw [BitVec.getLsbD_xor]
  exact Bool.xor_true _

theorem pattern_neg (f : Word) : pattern (neg f) = pattern f := by
  have hmask : 0x80000000 &&& 0x7FFFFFFF = 0 := by decide
  unfold pattern neg
  rw [BitVec.toNat_and, BitVec.toNat_and, BitVec.toNat_xor, Nat.and_xor_distrib_right]
  show f.toNat &&& 0x7FFFFFFF ^^^ 0x80000000 &&& 0x7FFFFFFF = f.toNat &&& 0x7FFFFFFF
  rw [hmask, Nat.xor_zero]

theorem exp_neg (f : Word) : exp (neg f) = exp f := by
  rw [← BitVec.toNat_inj, exp_toNat, exp_toNat, pattern_neg]

theorem frac_neg (f : Word) : frac (neg f) = frac f := by
  rw [← BitVec.toNat_inj, frac_toNat, frac_toNat, pattern_neg]

theorem isnan_neg (f : Word) : isnan (neg f) = isnan f := by
  unfold isnan
  rw [exp_neg, frac_neg]

/-! ## The value -/

/-- The value of a finite pattern in units of the least positive float, `2 ^ -149`. -/
def scaled (f : Word) : Int := smag 23 (key f)

/-- The number a finite pattern stands for. -/
def value (f : Word) : ℚ := (scaled f : ℚ) / 2 ^ 149

/-- The number any pattern but a NaN stands for. -/
def extended (f : Word) : WithBot (WithTop ℚ) :=
  if isInf f then (if sign f then ⊥ else ⊤) else ((value f : WithTop ℚ) : WithBot (WithTop ℚ))

theorem key_eq (f : Word) : key f = if sign f then -(pattern f : Int) else pattern f := rfl

/-- The value by sign and magnitude. -/
theorem scaled_eq (f : Word) :
    scaled f = if sign f then -(mag 23 (pattern f) : Int) else mag 23 (pattern f) := by
  have hnat : ∀ k : Nat, smag 23 (k : Int) = mag 23 k := by
    intro k
    unfold smag
    rw [if_neg (by omega), Int.natAbs_natCast]
  unfold scaled
  rw [key_eq]
  split
  · rw [smag_neg, hnat]
  · exact hnat _

theorem key_inj {a b : Word} (h : key a = key b) (hne : key a ≠ 0) : a = b := by
  rw [key_eq] at h hne
  rw [key_eq] at h
  refine eq_of_fields ?_ ?_ <;> cases hsa : sign a <;> cases hsb : sign b <;>
    simp only [hsa, hsb, Bool.false_eq_true, if_true, if_false] at h hne <;> first | rfl | omega

theorem key_zero_iff (f : Word) : key f = 0 ↔ pattern f = 0 := by
  rw [key_eq]
  split <;> omega

theorem value_le_iff (a b : Word) : value a ≤ value b ↔ key a ≤ key b := by
  unfold value
  rw [div_le_div_iff_of_pos_right (by positivity), Int.cast_le]
  exact (smag_strictMono 23).le_iff_le

theorem value_lt_iff (a b : Word) : value a < value b ↔ key a < key b := by
  rw [← not_le, value_le_iff, not_le]

theorem value_eq_iff (a b : Word) : value a = value b ↔ key a = key b := by
  rw [le_antisymm_iff, value_le_iff, value_le_iff, ← le_antisymm_iff]

theorem isnan_of_finite {f : Word} (h : isFinite f = true) : isnan f = false := by
  rw [isFinite_iff] at h
  rw [← Bool.not_eq_true, isnan_iff]
  omega

theorem finite_of_number {f : Word} (hnan : isnan f = false) (hinf : isInf f = false) :
    isFinite f = true := by
  rw [← Bool.not_eq_true, isnan_iff] at hnan
  rw [← Bool.not_eq_true, isInf_iff] at hinf
  rw [isFinite_iff]
  omega

theorem key_finite {f : Word} (h : isFinite f = true) :
    -(infinity : Int) < key f ∧ key f < infinity := by
  rw [isFinite_iff] at h
  rw [key_eq]
  split <;> omega

theorem key_inf {f : Word} (h : isInf f = true) :
    key f = if sign f then -(infinity : Int) else infinity := by
  rw [key_eq, (isInf_iff f).mp h]

theorem extended_cases {f : Word} (h : isnan f = false) :
    (extended f = ⊥ ∧ key f = -infinity) ∨ (extended f = ⊤ ∧ key f = infinity) ∨
      (extended f = ((value f : WithTop ℚ) : WithBot (WithTop ℚ)) ∧
        -(infinity : Int) < key f ∧ key f < infinity) := by
  unfold extended
  cases hinf : isInf f with
  | true =>
    rw [if_pos rfl, key_inf hinf]
    cases sign f with
    | true => exact .inl ⟨rfl, rfl⟩
    | false => exact .inr (.inl ⟨rfl, rfl⟩)
  | false => exact .inr (.inr ⟨rfl, key_finite (finite_of_number h hinf)⟩)

/-- **The order of the patterns** that are no NaN is the order of their values. -/
theorem extended_le_iff {a b : Word} (ha : isnan a = false) (hb : isnan b = false) :
    extended a ≤ extended b ↔ key a ≤ key b := by
  have hpos : (0 : Int) < infinity := by decide
  rcases extended_cases ha with ⟨hea, hka⟩ | ⟨hea, hka⟩ | ⟨hea, hka⟩ <;>
    rcases extended_cases hb with ⟨heb, hkb⟩ | ⟨heb, hkb⟩ | ⟨heb, hkb⟩ <;> rw [hea, heb]
  · simp [hka, hkb]
  · simp only [bot_le, true_iff]
    omega
  · simp only [bot_le, true_iff]
    omega
  · simp only [le_bot_iff, top_ne_bot, false_iff]
    omega
  · simp [hka, hkb]
  · simp only [top_le_iff, WithBot.coe_eq_top, WithTop.coe_ne_top, false_iff]
    omega
  · simp only [le_bot_iff, WithBot.coe_ne_bot, false_iff]
    omega
  · simp only [le_top, true_iff]
    omega
  · rw [WithBot.coe_le_coe, WithTop.coe_le_coe, value_le_iff]

theorem extended_eq_iff {a b : Word} (ha : isnan a = false) (hb : isnan b = false) :
    extended a = extended b ↔ key a = key b := by
  rw [le_antisymm_iff, extended_le_iff ha hb, extended_le_iff hb ha, ← le_antisymm_iff]

theorem extended_lt_iff {a b : Word} (ha : isnan a = false) (hb : isnan b = false) :
    extended a < extended b ↔ key a < key b := by
  rw [lt_iff_not_ge, extended_le_iff hb ha, not_le]

end Riscv.Rv32f.F32

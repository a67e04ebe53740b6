import Riscv.Rv32m

/- The M extension against the integers.

   A multiplication is the low or the high half of an exact product, a division the
   quotient and remainder of an exact one. The executor's signed products, quotients
   and remainders have no value where C++ leaves them undefined: its guards keep every
   pair of operands away from these cases. -/
namespace Riscv.Rv32m

open BitVec

/-! ## Products -/

/-- The upper half of a 64-bit product is the floor of the exact one. -/
theorem highHalf_ofInt (x : Int) :
    highHalf (BitVec.ofInt 64 x) = BitVec.ofInt 32 (x.fdiv 4294967296) := by
  apply BitVec.eq_of_toNat_eq
  rw [Int.fdiv_eq_ediv_of_nonneg x (by decide)]
  simp only [highHalf, toNat_setWidth, toNat_ushiftRight, toNat_ofInt, Nat.shiftRight_eq_div_pow]
  omega

theorem setWidth_eq_ofInt (a : Word) : a.setWidth 64 = BitVec.ofInt 64 a.toNat := by
  rw [BitVec.ofInt_natCast]
  exact (BitVec.ofNat_toNat 64 a).symm

theorem compute_mulh (a b : Word) :
    compute .mulh a b = some (BitVec.ofInt 32 ((a.toInt * b.toInt).fdiv 4294967296)) := by
  rw [← highHalf_ofInt, BitVec.ofInt_mul]
  exact congrArg (Option.map highHalf) (Checked.smul_signExtend a b)

theorem compute_mulhsu (a b : Word) :
    compute .mulhsu a b = some (BitVec.ofInt 32 ((a.toInt * b.toNat).fdiv 4294967296)) := by
  rw [← highHalf_ofInt, BitVec.ofInt_mul, ← setWidth_eq_ofInt]
  rfl

theorem compute_mulhu (a b : Word) :
    compute .mulhu a b =
      some (BitVec.ofInt 32 ((a.toNat * b.toNat : Int).fdiv 4294967296)) := by
  rw [← highHalf_ofInt, BitVec.ofInt_mul, ← setWidth_eq_ofInt, ← setWidth_eq_ofInt]
  rfl

/-! ## Quotients -/

/-- The law of a signed division: the remainder is smaller than the divisor and has the
sign of the dividend. -/
structure DivRem (a b q r : Int) : Prop where
  exact' : a = q * b + r
  smaller : r.natAbs < b.natAbs
  sign : r = 0 ∨ (0 < r ∧ 0 < a) ∨ (r < 0 ∧ a < 0)

theorem divRem_tdiv (a : Int) {b : Int} (hb : b ≠ 0) : DivRem a b (a.tdiv b) (a.tmod b) where
  exact' := (Int.tdiv_mul_add_tmod a b).symm
  smaller := by
    rw [Int.natAbs_tmod]
    exact Nat.mod_lt _ (Int.natAbs_pos.mpr hb)
  sign := by
    have hsign := Int.sign_tmod a b
    split at hsign
    · exact .inl (Int.sign_eq_zero_iff_zero.mp hsign)
    · rcases Int.lt_trichotomy a 0 with ha | ha | ha
      · rw [Int.sign_eq_neg_one_of_neg ha, Int.sign_eq_neg_one_iff_neg] at hsign
        exact .inr (.inr ⟨hsign, ha⟩)
      · subst ha
        exact .inl (Int.zero_tmod b)
      · rw [Int.sign_eq_one_of_pos ha, Int.sign_eq_one_iff_pos] at hsign
        exact .inr (.inl ⟨hsign, ha⟩)

/-- The one signed division whose quotient is no word. -/
def DivOverflow (a b : Word) : Prop := a = 0x80000000 ∧ b = -1

instance (a b : Word) : Decidable (DivOverflow a b) :=
  inferInstanceAs (Decidable (a = 0x80000000 ∧ b = -1))

theorem ne_of_not_divOverflow {a b : Word} (h : ¬DivOverflow a b) :
    a ≠ BitVec.intMin 32 ∨ b ≠ -1#32 := by
  rcases Decidable.em (a = BitVec.intMin 32) with ha | ha
  · exact .inr fun hb => h ⟨ha, hb⟩
  · exact .inl ha

theorem compute_div {a b : Word} (hb : b ≠ 0) (h : ¬DivOverflow a b) :
    compute .div a b = some (a.sdiv b) := by
  simp only [compute, if_neg hb]
  exact (if_neg h).trans (Checked.sdiv_eq_some hb (ne_of_not_divOverflow h))

theorem compute_rem {a b : Word} (hb : b ≠ 0) (h : ¬DivOverflow a b) :
    compute .rem a b = some (a.srem b) := by
  simp only [compute, if_neg hb]
  exact (if_neg h).trans (Checked.srem_eq_some hb (ne_of_not_divOverflow h))

theorem compute_divu {a b : Word} (hb : b ≠ 0) : compute .divu a b = some (a / b) := by
  simp only [compute, if_neg hb]
  exact Checked.udiv_eq_some hb

theorem compute_remu {a b : Word} (hb : b ≠ 0) : compute .remu a b = some (a % b) := by
  simp only [compute, if_neg hb]
  exact Checked.urem_eq_some hb

theorem divRem_words {a b : Word} (hb : b ≠ 0) (h : ¬DivOverflow a b) :
    DivRem a.toInt b.toInt (a.sdiv b).toInt (a.srem b).toInt := by
  have hdivisor : b.toInt ≠ 0 := fun hzero => hb (BitVec.eq_of_toInt_eq hzero)
  rw [BitVec.toInt_sdiv_of_ne_or_ne a b (ne_of_not_divOverflow h), BitVec.toInt_srem]
  exact divRem_tdiv a.toInt hdivisor

/-- The four divisions. -/
structure DivisionLaws (a b : Word) : Prop where
  signed : b ≠ 0 → ¬DivOverflow a b → ∃ q r, compute .div a b = some q ∧
    compute .rem a b = some r ∧ DivRem a.toInt b.toInt q.toInt r.toInt
  overflow : DivOverflow a b → compute .div a b = some 0x80000000 ∧ compute .rem a b = some 0
  unsigned : b ≠ 0 → ∃ q r, compute .divu a b = some q ∧ compute .remu a b = some r ∧
    a.toNat = q.toNat * b.toNat + r.toNat ∧ r.toNat < b.toNat
  byZero : b = 0 → compute .div a b = some (-1) ∧ compute .rem a b = some a ∧
    compute .divu a b = some (-1) ∧ compute .remu a b = some a

theorem divisionLaws (a b : Word) : DivisionLaws a b where
  signed hb h := ⟨_, _, compute_div hb h, compute_rem hb h, divRem_words hb h⟩
  overflow h := by
    obtain ⟨rfl, rfl⟩ := h
    exact ⟨by decide, by decide⟩
  unsigned hb := by
    have hpos : 0 < b.toNat := Nat.pos_of_ne_zero fun hzero => hb (BitVec.eq_of_toNat_eq hzero)
    refine ⟨a / b, a % b, compute_divu hb, compute_remu hb, ?_, ?_⟩
    · rw [BitVec.toNat_udiv, BitVec.toNat_umod, Nat.mul_comm]
      exact (Nat.div_add_mod _ _).symm
    · rw [BitVec.toNat_umod]
      exact Nat.mod_lt _ hpos
  byZero hb := by
    subst hb
    exact ⟨rfl, rfl, rfl, rfl⟩

/-! ## The executor -/

theorem division_defined (a b : Word) :
    (∃ q, compute .div a b = some q) ∧ (∃ r, compute .rem a b = some r) ∧
      (∃ q, compute .divu a b = some q) ∧ ∃ r, compute .remu a b = some r := by
  have hlaws := divisionLaws a b
  by_cases hb : b = 0
  · obtain ⟨hdiv, hrem, hdivu, hremu⟩ := hlaws.byZero hb
    exact ⟨⟨_, hdiv⟩, ⟨_, hrem⟩, ⟨_, hdivu⟩, ⟨_, hremu⟩⟩
  obtain ⟨q, r, hdivu, hremu, -⟩ := hlaws.unsigned hb
  by_cases hover : DivOverflow a b
  · obtain ⟨hdiv, hrem⟩ := hlaws.overflow hover
    exact ⟨⟨_, hdiv⟩, ⟨_, hrem⟩, ⟨q, hdivu⟩, ⟨r, hremu⟩⟩
  · obtain ⟨q', r', hdiv, hrem, -⟩ := hlaws.signed hb hover
    exact ⟨⟨q', hdiv⟩, ⟨r', hrem⟩, ⟨q, hdivu⟩, ⟨r, hremu⟩⟩

/-- **The guards keep every operation defined**: but for an illegal type there is a value
on all operands. -/
theorem compute_defined {type : InstrType} (htype : type ≠ .illegal) (a b : Word) :
    ∃ r, compute type a b = some r := by
  obtain ⟨hdiv, hrem, hdivu, hremu⟩ := division_defined a b
  cases type
  case illegal => exact absurd rfl htype
  case mulh => exact ⟨_, compute_mulh a b⟩
  case div => exact hdiv
  case rem => exact hrem
  case divu => exact hdivu
  case remu => exact hremu
  all_goals exact ⟨_, rfl⟩

/-- An M instruction writes what its type computes, and does not fail. -/
theorem execute_computes {d : DecodedInstr} (hd : d.type ≠ .illegal) (regs : RegFile) :
    ∃ r, compute d.type (regs.read d.rs1) (regs.read d.rs2) = some r ∧
      execute d regs = ({ result := r }, regs.write d.rd r) := by
  obtain ⟨r, hr⟩ := compute_defined hd (regs.read d.rs1) (regs.read d.rs2)
  refine ⟨r, hr, ?_⟩
  unfold execute
  rw [if_neg hd, hr]

/-- **Multiply and divide are exact.** On all operands the products are the halves of
the exact ones and the divisions follow the division laws; an M instruction writes
what its type computes, and its operands always have a value there: no product or
quotient it takes is undefined. -/
theorem muldiv_exact :
    (∀ a b : Word,
      compute .mul a b = some (BitVec.ofNat 32 (a.toNat * b.toNat)) ∧
      compute .mulh a b = some (BitVec.ofInt 32 ((a.toInt * b.toInt).fdiv 4294967296)) ∧
      compute .mulhu a b = some (BitVec.ofInt 32 ((a.toNat * b.toNat : Int).fdiv 4294967296)) ∧
      compute .mulhsu a b = some (BitVec.ofInt 32 ((a.toInt * b.toNat).fdiv 4294967296)) ∧
      DivisionLaws a b) ∧
    ∀ (d : DecodedInstr) (regs : RegFile), d.type ≠ .illegal →
      ∃ r, compute d.type (regs.read d.rs1) (regs.read d.rs2) = some r ∧
        execute d regs = ({ result := r }, regs.write d.rd r) := by
  refine ⟨fun a b => ⟨?_, compute_mulh a b, compute_mulhu a b, compute_mulhsu a b,
    divisionLaws a b⟩, fun d regs hd => execute_computes hd regs⟩
  -- the low half of the product does not see the signs
  rw [BitVec.ofNat_mul, BitVec.ofNat_toNat, BitVec.ofNat_toNat]
  rfl

end Riscv.Rv32m

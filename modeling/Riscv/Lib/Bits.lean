/- Bit vectors: testing and reading bits with masks, sign extension in two steps,
   fields made of parts, and the values that cutting a word to fewer bits keeps. -/
namespace BitVec

variable {n m w : Nat}

/-! ## Testing bits -/

theorem and_twoPow_eq_zero {i : Nat} (hi : i < w) (v : BitVec w) :
    v &&& twoPow w i = 0 ↔ v.getLsbD i = false := by
  rw [and_twoPow]
  cases v.getLsbD i with
  | false => simp
  | true =>
    have hpow : twoPow w i ≠ 0 := by
      intro h
      have hbit : (twoPow w i).getLsbD i = (0 : BitVec w).getLsbD i := by rw [h]
      simp [hi] at hbit
    simpa using hpow

theorem and_twoPow_ne_zero {i : Nat} (hi : i < w) (v : BitVec w) :
    v &&& twoPow w i ≠ 0 ↔ v.getLsbD i = true := by
  rw [ne_eq, and_twoPow_eq_zero hi v, Bool.not_eq_false]

theorem decide_and_twoPow_ne {i : Nat} (hi : i < w) (v : BitVec w) :
    decide (v &&& twoPow w i ≠ 0) = v.getLsbD i := by
  have hbit := and_twoPow_ne_zero hi v
  cases hv : v.getLsbD i with
  | false =>
    apply decide_eq_false
    intro h
    rw [hbit.mp h] at hv
    cases hv
  | true => exact decide_eq_true (hbit.mpr hv)

theorem ushiftRight_and_one (x : BitVec w) (k : Nat) :
    (x >>> k) &&& 1#w = if x.getLsbD k then 1#w else 0#w := by
  rw [← twoPow_zero, and_twoPow]
  simp

theorem two_eq_twoPow : 2#w = twoPow w 1 := by
  apply eq_of_toNat_eq
  simp [toNat_twoPow]

theorem ushiftRight_and_three (x : BitVec w) (k : Nat) :
    (x >>> k) &&& 3#w =
      (if x.getLsbD (k + 1) then 2#w else 0#w) ||| (if x.getLsbD k then 1#w else 0#w) := by
  have h : 3#w = 2#w ||| 1#w := BitVec.ofNat_or (x := 2) (y := 1)
  rw [h, and_or_distrib_left, ushiftRight_and_one, two_eq_twoPow, and_twoPow]
  simp only [getLsbD_ushiftRight]

/-! ## Sign extension -/

theorem msb_signExtend_of_le (x : BitVec n) (hn : 0 < n) (hnm : n ≤ m) :
    (x.signExtend m).msb = x.msb := by
  rw [msb_signExtend]
  grind

theorem signExtend_signExtend (x : BitVec n) (hn : 0 < n) (hnm : n ≤ m) (w : Nat) :
    (x.signExtend m).signExtend w = x.signExtend w := by
  apply eq_of_getLsbD_eq
  intro i hi
  simp only [getLsbD_signExtend, msb_signExtend_of_le x hn hnm]
  grind

/-- Zeros appended below do not get between the two steps. -/
theorem signExtend_append_zero (x : BitVec n) (k : Nat) (hn : 0 < n) (hnm : n ≤ m) (w : Nat) :
    (x.signExtend m ++ 0#k).signExtend w = (x ++ 0#k).signExtend w := by
  apply eq_of_getLsbD_eq
  intro i hi
  simp only [getLsbD_signExtend, getLsbD_append, msb_append, msb_signExtend_of_le x hn hnm]
  grind

/-! ## Splitting -/

/-- A field made of two parts is known by the parts. -/
theorem extractLsb'_eq_append_iff (x : BitVec w) (lo : Nat) {a : BitVec n} {b : BitVec m} :
    x.extractLsb' lo (n + m) = a ++ b ↔
      x.extractLsb' (lo + m) n = a ∧ x.extractLsb' lo m = b := by
  constructor
  · intro h
    -- the bits of `a` are those from `m` on
    have hb : ∀ i, (x.extractLsb' lo (n + m)).getLsbD i = (a ++ b).getLsbD i := fun i => by rw [h]
    simp only [getLsbD_extractLsb', getLsbD_append] at hb
    constructor
    · apply eq_of_getLsbD_eq
      intro i hi
      have hi' := hb (i + m)
      rw [getLsbD_extractLsb']
      grind
    · apply eq_of_getLsbD_eq
      intro i hi
      have hi' := hb i
      rw [getLsbD_extractLsb']
      grind
  · rintro ⟨rfl, rfl⟩
    apply eq_of_getLsbD_eq
    intro i hi
    simp only [getLsbD_extractLsb', getLsbD_append]
    grind

theorem extractLsb'_one_eq_iff (x : BitVec w) (i : Nat) {b : Bool} :
    x.extractLsb' i 1 = ofBool b ↔ x.getLsbD i = b := by
  have hx : x.extractLsb' i 1 = ofBool (x.getLsbD i) := by
    apply eq_of_getLsbD_eq
    intro j hj
    obtain rfl : j = 0 := by omega
    simp
  rw [hx, ofBool_eq_iff_eq]

/-! ## Cutting -/

theorem getLsbD_of_lt (x : BitVec w) (n : Nat) {N : Nat} (hN : 1 <<< n = N) (h : x.toNat < N)
    {i : Nat} (hi : n ≤ i) : x.getLsbD i = false := by
  apply Nat.testBit_lt_two_pow
  rw [Nat.one_shiftLeft] at hN
  have hle : 2 ^ n ≤ 2 ^ i := Nat.pow_le_pow_right (by decide) hi
  omega

theorem and_low (x : BitVec w) {mask : BitVec w} (n : Nat)
    (hmask : ∀ i < w, mask.getLsbD i = decide (i < n)) : x &&& mask = (x.setWidth n).setWidth w := by
  apply eq_of_getLsbD_eq
  intro i hi
  rw [getLsbD_and, hmask i hi]
  simp only [getLsbD_setWidth]
  grind

/-- Cutting a value loses nothing exactly when the value fits. -/
theorem setWidth_setWidth_eq_iff (x : BitVec w) {n N : Nat} (hn : n ≤ w) (hN : 1 <<< n = N) :
    (x.setWidth n).setWidth w = x ↔ x.toNat < N := by
  rw [Nat.one_shiftLeft] at hN
  have hcut : ((x.setWidth n).setWidth w).toNat = x.toNat % 2 ^ n := by
    rw [toNat_setWidth_of_le hn, toNat_setWidth]
  rw [← toNat_inj, hcut, hN]
  constructor
  · intro h
    rw [← h, ← hN]
    exact Nat.mod_lt _ (Nat.two_pow_pos n)
  · exact Nat.mod_eq_of_lt

theorem signExtend_setWidth_eq_iff (x : BitVec w) {n N : Nat} (hn : n + 1 ≤ w)
    (hN : 1 <<< n = N) :
    (x.setWidth (n + 1)).signExtend w = x ↔ -(N : Int) ≤ x.toInt ∧ x.toInt < N := by
  rw [Nat.one_shiftLeft] at hN
  have hpow : 2 ^ (n + 1) = 2 * N := by rw [Nat.pow_succ, hN, Nat.mul_comm]
  have hpos : 0 < N := hN ▸ Nat.two_pow_pos n
  have hint : ((x.setWidth (n + 1)).signExtend w).toInt = x.toInt.bmod (2 * N) := by
    rw [toInt_signExtend_of_le hn, toInt_setWidth, toInt_eq_toNat_bmod x, ← hpow,
      Int.bmod_bmod_of_dvd (Nat.pow_dvd_pow 2 hn)]
  rw [← toInt_inj, hint]
  constructor
  · intro h
    have hle := Int.le_bmod (x := x.toInt) (m := 2 * N) (by omega)
    have hlt := Int.bmod_lt (x := x.toInt) (m := 2 * N) (by omega)
    omega
  · rintro ⟨hle, hlt⟩
    exact Int.bmod_eq_of_le (by omega) (by omega)

end BitVec

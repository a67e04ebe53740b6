import Mathlib.Data.Nat.ModEq
import Mathlib.Tactic.Ring

/- Counting bits with words.

   Two ways to count without a loop over the bits. A search halves the window that
   holds the first set position (`Window`). Adding within a register cuts a number in
   lanes and adds lanes to lanes (`lane`): while no lane overflows, no carry reaches
   the next one, and each lane holds the number of set positions of its part
   (`Counts`). -/
namespace BitCount

/-! ## The first set position -/

variable {p : Nat → Bool}

/-- Position `i` is set and none before it is. -/
def First (p : Nat → Bool) (i : Nat) : Prop := p i = true ∧ ∀ j < i, p j = false

theorem First.unique {i j : Nat} (hi : First p i) (hj : First p j) : i = j := by
  rcases Nat.lt_trichotomy i j with hlt | rfl | hgt
  · cases hi.1.symm.trans (hj.2 i hlt)
  · rfl
  · cases hj.1.symm.trans (hi.2 j hgt)

/-- The first set position is one of the `k` positions from `n` on. -/
structure Window (p : Nat → Bool) (k n : Nat) : Prop where
  before : ∀ i < n, p i = false
  within : ∃ i < k, p (n + i) = true

/-- The first half is clear, so the search goes on in the second. -/
theorem Window.skip {k n : Nat} (h : Window p (k + k) n) (hclear : ∀ i < k, p (n + i) = false) :
    Window p k (n + k) where
  before i hi := by
    rcases Nat.lt_or_ge i n with hlt | hge
    · exact h.before i hlt
    · have hpos := hclear (i - n) (by omega)
      rwa [Nat.add_sub_cancel' hge] at hpos
  within := by
    obtain ⟨i, hi, hset⟩ := h.within
    rcases Nat.lt_or_ge i k with hlt | hge
    · rw [hclear i hlt] at hset
      cases hset
    · refine ⟨i - k, by omega, ?_⟩
      rwa [show n + k + (i - k) = n + i by omega]

theorem Window.stay {k m n : Nat} (h : Window p m n) (hset : ¬∀ i < k, p (n + i) = false) :
    Window p k n where
  before := h.before
  within := by simpa using hset

theorem Window.first {n : Nat} (h : Window p 1 n) : First p n := by
  obtain ⟨i, hi, hset⟩ := h.within
  obtain rfl : i = 0 := by omega
  exact ⟨hset, h.before⟩

/-! ## Counting positions -/

/-- The number of set positions among the `n` from `lo` on. -/
def ones (p : Nat → Bool) (lo n : Nat) : Nat := (List.range' lo n).countP p

theorem ones_le (p : Nat → Bool) (lo n : Nat) : ones p lo n ≤ n := by
  have h := List.countP_le_length (p := p) (l := List.range' lo n)
  rwa [List.length_range'] at h

theorem ones_add (p : Nat → Bool) (lo n m : Nat) :
    ones p lo (n + m) = ones p lo n + ones p (lo + n) m := by
  unfold ones
  rw [← List.countP_append, ← List.range'_append, Nat.one_mul]

theorem ones_one (p : Nat → Bool) (lo : Nat) : ones p lo 1 = (p lo).toNat := by
  unfold ones
  rw [List.range'_one, List.countP_singleton]
  cases p lo <;> rfl

/-! ## Lanes -/

/-- Lane `i` of a number cut in lanes of `w` bits. -/
def lane (w a i : Nat) : Nat := a / 2 ^ (w * i) % 2 ^ w

variable {w : Nat}

theorem testBit_lane (w a i j : Nat) :
    (lane w a i).testBit j = (decide (j < w) && a.testBit (w * i + j)) := by
  unfold lane
  rw [Nat.testBit_mod_two_pow, Nat.testBit_div_two_pow, Nat.add_comm j]

theorem lane_zero (w a : Nat) : lane w a 0 = a % 2 ^ w := by
  unfold lane
  rw [Nat.mul_zero, Nat.pow_zero, Nat.div_one]

theorem lane_shiftRight (w a k i : Nat) : lane w (a >>> (w * k)) i = lane w a (k + i) := by
  unfold lane
  rw [Nat.shiftRight_eq_div_pow, Nat.div_div_eq_div_mul, ← Nat.pow_add, ← Nat.mul_add]

/-- What is below a lane is the lane and what is below the lane before it. -/
theorem mod_lanes (w a n : Nat) :
    a % 2 ^ (w * (n + 1)) = a % 2 ^ (w * n) + 2 ^ (w * n) * lane w a n := by
  rw [Nat.mul_succ, Nat.pow_add, Nat.mod_mul]
  rfl

/-- A mask of the even lanes joins each of them with the empty place of its neighbour. -/
theorem lane_and_even {a mask N : Nat} (ha : a < 2 ^ N)
    (hmask : ∀ j < N, mask.testBit j = decide (j % (w + w) < w)) (i : Nat) :
    lane (w + w) (a &&& mask) i = lane w a (2 * i) := by
  apply Nat.eq_of_testBit_eq
  intro j
  rw [testBit_lane, testBit_lane, Nat.testBit_and, Nat.mul_left_comm, ← Nat.mul_assoc,
    Nat.two_mul w]
  rcases Nat.lt_or_ge ((w + w) * i + j) N with hlt | hge
  · rw [hmask _ hlt, Nat.mul_add_mod]
    rcases Nat.lt_or_ge j (w + w) with hj | hj
    · rw [Nat.mod_eq_of_lt hj, decide_eq_true hj, Bool.true_and, Bool.and_comm]
    · have hw : ¬j < w := by omega
      rw [decide_eq_false (Nat.not_lt.mpr hj), decide_eq_false hw, Bool.false_and,
        Bool.false_and]
  · rw [Nat.testBit_lt_two_pow (Nat.lt_of_lt_of_le ha (Nat.pow_le_pow_right (by decide) hge))]
    simp only [Bool.false_and, Bool.and_false]

/-- No sum of two lanes overflows its lane. -/
def NoCarry (w a b : Nat) : Prop := ∀ i, lane w a i + lane w b i < 2 ^ w

/-- By induction on the lanes: the carry into each of them is zero. -/
theorem NoCarry.low_lt {a b : Nat} (h : NoCarry w a b) (n : Nat) :
    a % 2 ^ (w * n) + b % 2 ^ (w * n) < 2 ^ (w * n) := by
  induction n with
  | zero => simp [Nat.mod_one]
  | succ n ih =>
    -- the sum of the two lanes leaves room for a carry from below
    have hlanes : 2 ^ (w * n) * (lane w a n + lane w b n) + 2 ^ (w * n) ≤
        2 ^ (w * n) * 2 ^ w := by
      rw [← Nat.mul_succ]
      exact Nat.mul_le_mul_left _ (h n)
    rw [Nat.mul_add] at hlanes
    rw [mod_lanes, mod_lanes, Nat.mul_succ, Nat.pow_add]
    omega

theorem lane_add {a b : Nat} (h : NoCarry w a b) (i : Nat) :
    lane w (a + b) i = lane w a i + lane w b i := by
  have hdiv : (a + b) / 2 ^ (w * i) = a / 2 ^ (w * i) + b / 2 ^ (w * i) :=
    Nat.add_div_eq_of_add_mod_lt (h.low_lt i)
  have hlane := h i
  unfold lane at hlane ⊢
  rw [hdiv, Nat.add_mod, Nat.mod_eq_of_lt hlane]

/-- Numbers of a width that is cut in lanes do not overflow the width either. -/
theorem NoCarry.add_lt {a b N n : Nat} (h : NoCarry w a b) (hN : w * n = N)
    (ha : a < 2 ^ N) (hb : b < 2 ^ N) : a + b < 2 ^ N := by
  have hlow := h.low_lt n
  rwa [hN, Nat.mod_eq_of_lt ha, Nat.mod_eq_of_lt hb] at hlow

/-! ## Lanes that count -/

/-- Each lane of `a` holds the number of set positions in its part of `p`. -/
def Counts (p : Nat → Bool) (w a : Nat) : Prop := ∀ i, lane w a i = ones p (w * i) w

theorem counts_self (a : Nat) : Counts a.testBit 1 a := by
  intro i
  rw [ones_one, Nat.one_mul, Nat.toNat_testBit]
  unfold lane
  rw [Nat.one_mul, Nat.pow_one]

theorem Counts.lane_le {a : Nat} (h : Counts p w a) (i : Nat) : lane w a i ≤ w := by
  rw [h i]
  exact ones_le p _ _

theorem Counts.pair {a : Nat} (h : Counts p w a) (i : Nat) :
    lane w a (2 * i) + lane w a (1 + 2 * i) = ones p ((w + w) * i) (w + w) := by
  have hlo : w * (2 * i) = (w + w) * i := by ring
  have hhi : w * (1 + 2 * i) = (w + w) * i + w := by ring
  rw [h, h, ones_add, hlo, hhi]

/-! ## Words -/

section Words
variable {N n : Nat} {y mask : BitVec N}

theorem lane_word_add {a b : BitVec N} (hN : w * n = N) (h : NoCarry w a.toNat b.toNat)
    (i : Nat) : lane w (a + b).toNat i = lane w a.toNat i + lane w b.toNat i := by
  rw [BitVec.toNat_add, Nat.mod_eq_of_lt (h.add_lt hN a.isLt b.isLt), lane_add h]

/-- Lanes of at most half the range are added to the lanes `k` after them. -/
theorem lane_add_shiftRight {c : Nat} (hN : w * n = N) (hle : ∀ i, lane w y.toNat i ≤ c)
    (hc : c + c < 2 ^ w) (k i : Nat) :
    lane w (y + y >>> (w * k)).toNat i = lane w y.toNat i + lane w y.toNat (k + i) := by
  rw [lane_word_add hN, BitVec.toNat_ushiftRight, lane_shiftRight]
  intro i
  have hlow := hle i
  have hhigh := hle (k + i)
  rw [BitVec.toNat_ushiftRight, lane_shiftRight]
  omega

/-- The even and the odd lanes are cut out, then added. -/
theorem Counts.add_masked (h : Counts p w y.toNat) (hN : (w + w) * n = N)
    (hmask : ∀ j < N, mask.getLsbD j = decide (j % (w + w) < w)) (hw : w + w < 2 ^ (w + w)) :
    Counts p (w + w) ((y &&& mask) + (y >>> w &&& mask)).toNat := by
  have heven : ∀ i, lane (w + w) (y &&& mask).toNat i = lane w y.toNat (2 * i) := by
    intro i
    rw [BitVec.toNat_and, lane_and_even y.isLt hmask]
  have hodd : ∀ i, lane (w + w) (y >>> w &&& mask).toNat i = lane w y.toNat (1 + 2 * i) := by
    intro i
    have hshift := lane_shiftRight w y.toNat 1 (2 * i)
    rw [Nat.mul_one] at hshift
    rw [BitVec.toNat_and, lane_and_even (y >>> w).isLt hmask, BitVec.toNat_ushiftRight, hshift]
  intro i
  rw [lane_word_add hN, heven, hodd, h.pair]
  intro i
  have hpair := ones_le p ((w + w) * i) (w + w)
  rw [heven, hodd, h.pair]
  omega

/-- The lanes are added, then every other sum is cut out. -/
theorem Counts.masked_add (h : Counts p w y.toNat) (hN : w * n = N)
    (hmask : ∀ j < N, mask.getLsbD j = decide (j % (w + w) < w)) (hw : w + w < 2 ^ w) :
    Counts p (w + w) ((y + y >>> w) &&& mask).toNat := by
  intro i
  have hadd := lane_add_shiftRight hN h.lane_le hw 1 (2 * i)
  rw [Nat.mul_one] at hadd
  rw [BitVec.toNat_and, lane_and_even (y + y >>> w).isLt hmask, hadd, h.pair]

end Words

end BitCount

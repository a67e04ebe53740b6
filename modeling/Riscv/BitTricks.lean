import Riscv.Zext
import Riscv.Lib.BitCount

/- The Zbb counts, byte operations and rotations against their bits.

   `clz32` and `ctz32` search for the first set bit from one end, each step shifting
   out half of the window when it is clear; `popcount32` adds within the register.
   The rotations are those of bitvectors, by shifts that are all below the width. -/
namespace Riscv.Zbb

open BitCount

/-! ## Leading and trailing zeros -/

/-- One step of a search: the window under the mask is shifted out when it is clear. -/
def skip (shift : Word → Nat → Word) (mask : Word) (k : Nat) (s : Word × Word) : Word × Word :=
  if s.2 &&& mask = 0 then (s.1 + BitVec.ofNat 32 k, shift s.2 k) else s

theorem clz32_eq (x : Word) : clz32 x =
    if x = 0 then 32
    else
      (skip (· <<< ·) 0x80000000 1 <| skip (· <<< ·) 0xC0000000 2 <|
        skip (· <<< ·) 0xF0000000 4 <| skip (· <<< ·) 0xFF000000 8 <|
          skip (· <<< ·) 0xFFFF0000 16 (0, x)).1 := by
  unfold clz32 skip
  split
  · rfl
  · grind

theorem ctz32_eq (x : Word) : ctz32 x =
    if x = 0 then 32
    else
      (skip (· >>> ·) 0x00000001 1 <| skip (· >>> ·) 0x00000003 2 <|
        skip (· >>> ·) 0x0000000F 4 <| skip (· >>> ·) 0x000000FF 8 <|
          skip (· >>> ·) 0x0000FFFF 16 (0, x)).1 := by
  unfold ctz32 skip
  split
  · rfl
  · grind

/-- Positions are counted from one end of a word: `get` reads a position and `shift`
brings the positions from `k` on to the front. -/
structure FromEnd (get : Word → Nat → Bool) (shift : Word → Nat → Word) : Prop where
  get_shift : ∀ x k i, get (shift x k) i = get x (k + i)
  get_and : ∀ x y i, get (x &&& y) i = (get x i && get y i)
  lt : ∀ {x i}, get x i = true → i < 32
  zero_iff : ∀ x, x = 0 ↔ ∀ i < 32, get x i = false

theorem fromLow : FromEnd BitVec.getLsbD (· >>> ·) where
  get_shift x k i := BitVec.getLsbD_ushiftRight x k i
  get_and x y i := BitVec.getLsbD_and
  lt h := BitVec.lt_of_getLsbD h
  zero_iff x := by
    constructor
    · rintro rfl i -
      exact BitVec.getLsbD_zero
    · intro h
      apply BitVec.eq_of_getLsbD_eq
      intro i hi
      rw [h i hi]
      exact BitVec.getLsbD_zero.symm

theorem fromHigh : FromEnd BitVec.getMsbD (· <<< ·) where
  get_shift x k i := by rw [BitVec.getMsbD_shiftLeft, Nat.add_comm]
  get_and x y i := BitVec.getMsbD_and
  lt h := BitVec.lt_of_getMsbD h
  zero_iff x := by
    constructor
    · rintro rfl i -
      exact BitVec.getMsbD_zero
    · intro h
      apply BitVec.eq_of_getMsbD_eq
      intro i hi
      rw [h i hi]
      exact BitVec.getMsbD_zero.symm

section Search
variable {get : Word → Nat → Bool} {shift : Word → Nat → Word} {x : Word}

theorem and_mask_eq_zero (hend : FromEnd get shift) {mask : Word} {k : Nat} (hk : k ≤ 32)
    (hmask : ∀ i < 32, get mask i = decide (i < k)) (y : Word) :
    y &&& mask = 0 ↔ ∀ i < k, get y i = false := by
  rw [hend.zero_iff]
  constructor
  · intro h i hi
    have hbit := h i (by omega)
    rwa [hend.get_and, hmask i (by omega), decide_eq_true hi, Bool.and_true] at hbit
  · intro h i hi
    rw [hend.get_and, hmask i hi]
    rcases Nat.lt_or_ge i k with hlt | hge
    · rw [h i hlt, Bool.false_and]
    · rw [decide_eq_false (Nat.not_lt.mpr hge), Bool.and_false]

/-- What a search has found: the positions counted are clear and shifted out, and one
of the next `k` is set. -/
structure Searching (get : Word → Nat → Bool) (x : Word) (k : Nat) (s : Word × Word) : Prop where
  window : Window (get x) k s.1.toNat
  rest : ∀ i, get s.2 i = get x (s.1.toNat + i)

theorem Searching.start (hend : FromEnd get shift) (hx : x ≠ 0) :
    Searching get x (16 + 16) (0, x) where
  window := by
    constructor
    · intro i hi
      exact absurd hi (Nat.not_lt_zero i)
    · by_contra hclear
      apply hx
      rw [hend.zero_iff]
      intro i hi
      cases hget : get x i with
      | false => rfl
      | true => exact absurd ⟨i, hi, by simpa using hget⟩ hclear
  rest i := by simp

/-- One step halves the window. -/
theorem Searching.step (hend : FromEnd get shift) (mask : Word) {k : Nat} {s : Word × Word}
    (h : Searching get x (k + k) s) (hk : k ≤ 32)
    (hmask : ∀ i < 32, get mask i = decide (i < k)) :
    Searching get x k (skip shift mask k s) := by
  -- the mask has the first half of the window, which the search has shifted to the end
  have hclear := and_mask_eq_zero hend hk hmask s.2
  simp only [h.rest] at hclear
  unfold skip
  split
  next hzero =>
    have hskip := h.window.skip (hclear.mp hzero)
    have hcount : (s.1 + BitVec.ofNat 32 k).toNat = s.1.toNat + k := by
      obtain ⟨i, hi, hset⟩ := hskip.within
      have hlt := hend.lt hset
      rw [BitVec.toNat_add, BitVec.toNat_ofNat]
      omega
    constructor
    · rwa [hcount]
    · intro i
      rw [hcount, hend.get_shift, h.rest, Nat.add_assoc]
  next hset => exact ⟨h.window.stay fun hall => hset (hclear.mpr hall), h.rest⟩

end Search

/-- The leading zeros of a nonzero word end at its first set bit from the top. -/
theorem clz32_first {x : Word} (hx : x ≠ 0) : First x.getMsbD (clz32 x).toNat := by
  rw [clz32_eq, if_neg hx]
  -- the window is halved five times, from 32 positions to one
  have h16 : Searching _ x 16 _ := .step fromHigh 0xFFFF0000 (Searching.start fromHigh hx) (by decide) (by decide)
  have h8 : Searching _ x 8 _ := .step fromHigh 0xFF000000 h16 (by decide) (by decide)
  have h4 : Searching _ x 4 _ := .step fromHigh 0xF0000000 h8 (by decide) (by decide)
  have h2 : Searching _ x 2 _ := .step fromHigh 0xC0000000 h4 (by decide) (by decide)
  have h1 : Searching _ x 1 _ := .step fromHigh 0x80000000 h2 (by decide) (by decide)
  exact h1.window.first

theorem ctz32_first {x : Word} (hx : x ≠ 0) : First x.getLsbD (ctz32 x).toNat := by
  rw [ctz32_eq, if_neg hx]
  have h16 : Searching _ x 16 _ := .step fromLow 0x0000FFFF (Searching.start fromLow hx) (by decide) (by decide)
  have h8 : Searching _ x 8 _ := .step fromLow 0x000000FF h16 (by decide) (by decide)
  have h4 : Searching _ x 4 _ := .step fromLow 0x0000000F h8 (by decide) (by decide)
  have h2 : Searching _ x 2 _ := .step fromLow 0x00000003 h4 (by decide) (by decide)
  have h1 : Searching _ x 1 _ := .step fromLow 0x00000001 h2 (by decide) (by decide)
  exact h1.window.first

theorem clz32_eq_ctz32_reverse (x : Word) : clz32 x = ctz32 x.reverse := by
  by_cases hx : x = 0
  · subst hx
    have hzero : (0 : Word).reverse = 0 := BitVec.reverse_eq_zero_iff.mpr rfl
    rw [hzero]
    rfl
  · have hreverse : x.reverse ≠ 0 := fun hzero => hx (BitVec.reverse_eq_zero_iff.mp hzero)
    have hctz := ctz32_first hreverse
    have hbits : x.reverse.getLsbD = x.getMsbD := by
      funext i
      exact BitVec.getLsbD_reverse
    rw [hbits] at hctz
    exact BitVec.eq_of_toNat_eq ((clz32_first hx).unique hctz)

/-! ## Counting ones -/

/-- The words the count goes through, up to the counts of the bytes. -/
def pairCounts (x : Word) : Word := x - (x >>> 1 &&& (0x55555555 : Word))

/-- The counts of four bits. -/
def nibbleCounts (x : Word) : Word :=
  (x &&& (0x33333333 : Word)) + (x >>> 2 &&& (0x33333333 : Word))

/-- The counts of bytes: their nibbles do not carry, so one mask is enough. -/
def byteCounts (x : Word) : Word := (x + x >>> 4) &&& (0x0F0F0F0F : Word)

/-- Each lane gets the lane `k` above added. -/
def addLanes (x : Word) (k : Nat) : Word := x + x >>> k

theorem popcount32_eq (x : Word) : popcount32 x =
    addLanes (addLanes (byteCounts (nibbleCounts (pairCounts x))) 8) 16 &&& (0x3F : Word) := rfl

/-- A pair of bits minus its upper bit is the sum of the two. -/
theorem pairCounts_eq (x : Word) :
    pairCounts x = (x &&& (0x55555555 : Word)) + (x >>> 1 &&& (0x55555555 : Word)) := by
  have hmask : ∀ i < 32, (0x55555555 : Word).getLsbD i = decide (i % 2 = 0) := by decide
  have hsplit : x = (x &&& (0x55555555 : Word)) + ((x >>> 1 &&& (0x55555555 : Word)) <<< 1) := by
    rw [BitVec.add_eq_or_of_and_eq_zero]
    · apply BitVec.eq_of_getLsbD_eq
      intro i hi
      simp only [BitVec.getLsbD_or, BitVec.getLsbD_and, BitVec.getLsbD_shiftLeft,
        BitVec.getLsbD_ushiftRight]
      grind
    · apply BitVec.eq_of_getLsbD_eq
      intro i hi
      simp only [BitVec.getLsbD_and, BitVec.getLsbD_shiftLeft, BitVec.getLsbD_ushiftRight]
      grind
  have hdouble : ∀ y : Word, y <<< 1 = y + y := by
    intro y
    apply BitVec.eq_of_toNat_eq
    rw [BitVec.toNat_shiftLeft, BitVec.toNat_add, Nat.shiftLeft_eq, Nat.mul_two]
  rw [hdouble] at hsplit
  unfold pairCounts
  grind

theorem counts_bytes (x : Word) :
    Counts x.getLsbD 8 (byteCounts (nibbleCounts (pairCounts x))).toNat := by
  have h1 : Counts x.getLsbD 1 x.toNat := counts_self x.toNat
  have h2 : Counts x.getLsbD 2 (pairCounts x).toNat := by
    rw [pairCounts_eq]
    exact h1.add_masked (n := 16) (by decide) (by decide) (by decide)
  have h4 : Counts x.getLsbD 4 (nibbleCounts (pairCounts x)).toNat :=
    h2.add_masked (n := 8) (by decide) (by decide) (by decide)
  exact h4.masked_add (n := 8) (by decide) (by decide) (by decide)

/-- The sums of bytes need no mask: even the count of all 32 positions fits in a byte. -/
theorem popcount32_toNat (x : Word) : (popcount32 x).toNat = ones x.getLsbD 0 32 := by
  rw [popcount32_eq]
  have h8 := counts_bytes x
  generalize byteCounts (nibbleCounts (pairCounts x)) = b at h8
  -- adding neighbours twice brings the four byte counts into the lowest lane
  have hpair : ∀ i, lane 8 (addLanes b 8).toNat i = lane 8 b.toNat i + lane 8 b.toNat (1 + i) :=
    lane_add_shiftRight (n := 4) (by decide) h8.lane_le (by decide) 1
  have hpair_le : ∀ i, lane 8 (addLanes b 8).toNat i ≤ 16 := by
    intro i
    have hlow := h8.lane_le i
    have hhigh := h8.lane_le (1 + i)
    rw [hpair]
    omega
  have hall : lane 8 (addLanes (addLanes b 8) 16).toNat 0 = ones x.getLsbD 0 32 := by
    have hsum : lane 8 (addLanes (addLanes b 8) 16).toNat 0 =
        lane 8 (addLanes b 8).toNat 0 + lane 8 (addLanes b 8).toNat 2 :=
      lane_add_shiftRight (n := 4) (by decide) hpair_le (by decide) 2 0
    have hbytes : lane 8 (addLanes b 8).toNat 0 + lane 8 (addLanes b 8).toNat 2 =
        ones x.getLsbD 0 8 + ones x.getLsbD 8 8 + (ones x.getLsbD 16 8 + ones x.getLsbD 24 8) := by
      rw [hpair, hpair, h8, h8, h8, h8]
    have hsplit : ones x.getLsbD 0 (8 + 8 + (8 + 8)) =
        ones x.getLsbD 0 8 + ones x.getLsbD 8 8 + (ones x.getLsbD 16 8 + ones x.getLsbD 24 8) := by
      rw [ones_add, ones_add, ones_add]
    rw [hsum, hbytes, hsplit]
  have hle := ones_le x.getLsbD 0 32
  rw [lane_zero] at hall
  rw [BitVec.toNat_and, ← hall]
  rw [← hall] at hle
  have hmask : ∀ m, m &&& (0x3F : Word).toNat = m % 64 := fun m => Nat.and_two_pow_sub_one_eq_mod m 6
  rw [hmask]
  omega

/-! ## Bytes -/

/-- Byte `i` of a word. -/
def byte (x : Word) (i : Nat) : BitVec 8 := x.extractLsb' (8 * i) 8

theorem getLsbD_byte (x : Word) (i j : Nat) :
    (byte x i).getLsbD j = (decide (j < 8) && x.getLsbD (8 * i + j)) :=
  BitVec.getLsbD_extractLsb' _ _ _ _

theorem and_byte_ne_zero (mask : Word) {i : Nat} (hi : i < 4)
    (hmask : ∀ j < 32, mask.getLsbD j = decide (j / 8 = i)) (x : Word) :
    x &&& mask ≠ 0 ↔ byte x i ≠ 0 := by
  rw [not_iff_not]
  constructor
  · intro h
    apply BitVec.eq_of_getLsbD_eq
    intro j hj
    have hbit : (x &&& mask).getLsbD (8 * i + j) = false := by
      rw [h]
      exact BitVec.getLsbD_zero
    rw [BitVec.getLsbD_and, hmask _ (by omega), decide_eq_true (by omega), Bool.and_true] at hbit
    rw [getLsbD_byte, hbit, Bool.and_false]
    exact BitVec.getLsbD_zero.symm
  · intro h
    apply BitVec.eq_of_getLsbD_eq
    intro j hj
    rw [BitVec.getLsbD_and, hmask j hj]
    -- outside the byte the mask is clear
    rcases Decidable.em (j / 8 = i) with hin | hout
    · have hbit : (byte x i).getLsbD (j % 8) = false := by
        rw [h]
        exact BitVec.getLsbD_zero
      rw [getLsbD_byte, decide_eq_true (by omega), Bool.true_and,
        show 8 * i + j % 8 = j by omega] at hbit
      rw [hbit, Bool.false_and]
      exact BitVec.getLsbD_zero.symm
    · rw [decide_eq_false hout, Bool.and_false]
      exact BitVec.getLsbD_zero.symm

theorem orcB_byte (x : Word) {i : Nat} (hi : i < 4) :
    byte (orcB x) i = if byte x i ≠ 0 then 0xFF else 0 := by
  have h0 := and_byte_ne_zero 0x000000FF (i := 0) (by decide) (by decide) x
  have h1 := and_byte_ne_zero 0x0000FF00 (i := 1) (by decide) (by decide) x
  have h2 := and_byte_ne_zero 0x00FF0000 (i := 2) (by decide) (by decide) x
  have h3 := and_byte_ne_zero 0xFF000000 (i := 3) (by decide) (by decide) x
  unfold orcB
  simp only [h0, h1, h2, h3]
  obtain rfl | rfl | rfl | rfl : i = 0 ∨ i = 1 ∨ i = 2 ∨ i = 3 := by omega
  all_goals split_ifs <;> rfl

theorem rev8_getLsbD (x : Word) {j : Nat} (hj : j < 32) :
    (rev8 x).getLsbD j = x.getLsbD (8 * (3 - j / 8) + j % 8) := by
  have h0 : ∀ j < 32, (0x000000FF : Word).getLsbD j = decide (j / 8 = 0) := by decide
  have h1 : ∀ j < 32, (0x0000FF00 : Word).getLsbD j = decide (j / 8 = 1) := by decide
  have h2 : ∀ j < 32, (0x00FF0000 : Word).getLsbD j = decide (j / 8 = 2) := by decide
  have h3 : ∀ j < 32, (0xFF000000 : Word).getLsbD j = decide (j / 8 = 3) := by decide
  unfold rev8
  simp only [BitVec.getLsbD_or, BitVec.getLsbD_and, BitVec.getLsbD_shiftLeft,
    BitVec.getLsbD_ushiftRight]
  obtain hk | hk | hk | hk : j / 8 = 0 ∨ j / 8 = 1 ∨ j / 8 = 2 ∨ j / 8 = 3 := by omega
  · have hpos : 24 + j = 8 * (3 - 0) + j % 8 := by omega
    rw [hk, ← hpos]
    grind
  · have hpos : 8 + j = 8 * (3 - 1) + j % 8 := by omega
    rw [hk, ← hpos]
    grind
  · have hpos : j - 8 = 8 * (3 - 2) + j % 8 := by omega
    rw [hk, ← hpos]
    grind
  · have hpos : j - 24 = 8 * (3 - 3) + j % 8 := by omega
    rw [hk, ← hpos]
    grind

theorem rev8_byte (x : Word) {i : Nat} (hi : i < 4) : byte (rev8 x) i = byte x (3 - i) := by
  apply BitVec.eq_of_getLsbD_eq
  intro j hj
  rw [getLsbD_byte, getLsbD_byte, rev8_getLsbD x (by omega)]
  congr 2
  omega

theorem eq_of_byte_eq {x y : Word} (h : ∀ i < 4, byte x i = byte y i) : x = y := by
  apply BitVec.eq_of_getLsbD_eq
  intro j hj
  have hbit : (byte x (j / 8)).getLsbD (j % 8) = (byte y (j / 8)).getLsbD (j % 8) := by
    rw [h (j / 8) (by omega)]
  rwa [getLsbD_byte, getLsbD_byte, decide_eq_true (by omega), Bool.true_and, Bool.true_and,
    Nat.div_add_mod] at hbit

theorem rev8_rev8 (x : Word) : rev8 (rev8 x) = x := by
  apply eq_of_byte_eq
  intro i hi
  rw [rev8_byte _ hi, rev8_byte _ (by omega), Nat.sub_sub_self (by omega)]

/-! ## Rotations -/

theorem toNat_amount (s : Word) : (s &&& (0x1F : Word)).toNat = s.toNat % 32 := by
  rw [BitVec.toNat_and]
  exact Nat.and_two_pow_sub_one_eq_mod s.toNat 5

theorem toNat_complement {s : Word} (h0 : s ≠ 0) (hlt : s.toNat < 32) :
    (32 - s).toNat = 32 - s.toNat := by
  have hpos : s.toNat ≠ 0 := fun hzero => h0 (BitVec.eq_of_toNat_eq hzero)
  rw [BitVec.toNat_sub]
  simp only [BitVec.reduceToNat]
  omega

/-- No shift of a rotation is by the width, so it has a value. -/
theorem rotateLeft_eq (x : Word) {s : Word} (hs : s.toNat < 32) :
    rotateLeft x s = some (x.rotateLeft s.toNat) := by
  rw [BitVec.rotateLeft_def, Nat.mod_eq_of_lt hs]
  unfold rotateLeft
  split
  next hzero =>
    subst hzero
    simp [BitVec.ushiftRight_eq_zero (x := x) (le_refl 32)]
  next hne =>
    have hpos : s.toNat ≠ 0 := fun hzero => hne (BitVec.eq_of_toNat_eq hzero)
    have hcompl := toNat_complement hne hs
    rw [Checked.shl_eq_some hs, Checked.shr_eq_some (by omega), BitVec.ushiftRight_eq', hcompl]
    rfl

theorem rotateRight_eq (x : Word) {s : Word} (hs : s.toNat < 32) :
    rotateRight x s = some (x.rotateRight s.toNat) := by
  rw [BitVec.rotateRight_def, Nat.mod_eq_of_lt hs]
  unfold rotateRight
  split
  next hzero =>
    subst hzero
    simp
  next hne =>
    have hpos : s.toNat ≠ 0 := fun hzero => hne (BitVec.eq_of_toNat_eq hzero)
    have hcompl := toNat_complement hne hs
    rw [Checked.shr_eq_some hs, Checked.shl_eq_some (by omega), BitVec.shiftLeft_eq', hcompl]
    rfl

theorem getLsbD_rotateLeft_mod (x : Word) {n j : Nat} (hn : n < 32) (hj : j < 32) :
    (x.rotateLeft n).getLsbD j = x.getLsbD ((j + (32 - n)) % 32) := by
  rw [BitVec.getLsbD_rotateLeft, Nat.mod_eq_of_lt hn]
  rcases Nat.lt_or_ge j n with hlt | hge
  · have hmod : (j + (32 - n)) % 32 = 32 - n + j := by omega
    rw [hmod, decide_eq_true hlt, cond_true]
  · have hmod : (j + (32 - n)) % 32 = j - n := by omega
    rw [hmod, decide_eq_false (Nat.not_lt.mpr hge), cond_false, decide_eq_true hj, Bool.true_and]

/-- Rotating right is rotating left by the rest of the width. -/
theorem rotateRight_eq_rotateLeft (x : Word) {n : Nat} (hn : n < 32) :
    x.rotateRight n = x.rotateLeft ((32 - n) % 32) := by
  rw [BitVec.rotateRight_def, BitVec.rotateLeft_def, Nat.mod_eq_of_lt hn, Nat.mod_mod]
  rcases Nat.eq_zero_or_pos n with rfl | hpos
  · simp [BitVec.ushiftRight_eq_zero (x := x) (le_refl 32)]
  · have hmod : (32 - n) % 32 = 32 - n := by omega
    have hback : 32 - (32 - n) = n := by omega
    rw [hmod, hback, BitVec.or_comm]

theorem amount_lt (s : Word) : (s &&& (0x1F : Word)).toNat < 32 := by
  rw [toNat_amount]
  exact Nat.mod_lt _ (by decide)

theorem compute_rol (x s : Word) (shamt : BitVec 8) :
    compute .rol x s shamt = some (x.rotateLeft (s.toNat % 32)) := by
  rw [← toNat_amount]
  exact rotateLeft_eq x (amount_lt s)

theorem compute_ror (x s : Word) (shamt : BitVec 8) :
    compute .ror x s shamt = some (x.rotateRight (s.toNat % 32)) := by
  rw [← toNat_amount]
  exact rotateRight_eq x (amount_lt s)

theorem compute_rori (x s : Word) (shamt : BitVec 8) :
    compute .rori x s shamt = compute .ror x (shamt.setWidth 32) shamt := rfl

/-- **No shift by the width is executed**: but for an illegal type there is a value on all
operands. -/
theorem compute_defined {type : InstrType} (htype : type ≠ .illegal) (x s : Word)
    (shamt : BitVec 8) : ∃ value, compute type x s shamt = some value := by
  cases type
  case illegal => exact absurd rfl htype
  case rol => exact ⟨_, compute_rol x s shamt⟩
  case ror => exact ⟨_, compute_ror x s shamt⟩
  case rori => exact ⟨_, (compute_rori x s shamt).trans (compute_ror x _ shamt)⟩
  all_goals exact ⟨_, rfl⟩

/-! ## The instructions -/

/-- Bit `i` is set and no bit above it is. -/
def IsHighest (x : Word) (i : Nat) : Prop :=
  x.getLsbD i = true ∧ ∀ j, i < j → x.getLsbD j = false

/-- Bit `i` is set and no bit below it is. -/
def IsLowest (x : Word) (i : Nat) : Prop := First x.getLsbD i

theorem isHighest_of_first {x : Word} {n : Nat} (h : First x.getMsbD n) :
    n < 32 ∧ IsHighest x (31 - n) := by
  have hn : n < 32 := BitVec.lt_of_getMsbD h.1
  have hset := h.1
  rw [BitVec.getMsbD_eq_getLsbD, decide_eq_true hn, Bool.true_and] at hset
  refine ⟨hn, hset, ?_⟩
  intro j hj
  rcases Nat.lt_or_ge j 32 with hlt | hge
  · have hclear := h.2 (31 - j) (by omega)
    rwa [BitVec.getMsbD_eq_getLsbD, decide_eq_true (by omega), Bool.true_and,
      show 32 - 1 - (31 - j) = j by omega] at hclear
  · exact BitVec.getLsbD_of_ge x j hge

/-- The three counts, and what CLZ, CTZ and CPOP compute. -/
structure CountLaws (x : Word) : Prop where
  computed : ∀ (y : Word) (shamt : BitVec 8), compute .clz x y shamt = some (clz32 x) ∧
    compute .ctz x y shamt = some (ctz32 x) ∧ compute .cpop x y shamt = some (popcount32 x)
  zero : x = 0 → clz32 x = 32 ∧ ctz32 x = 32
  leading : x ≠ 0 → ∃ i < 32, IsHighest x i ∧ (clz32 x).toNat = 31 - i
  trailing : x ≠ 0 → ∃ i < 32, IsLowest x i ∧ (ctz32 x).toNat = i
  ones : (popcount32 x).toNat = (List.range 32).countP x.getLsbD
  allOnes : x = BitVec.allOnes 32 → popcount32 x = 32
  reverse : clz32 x = ctz32 x.reverse

theorem countLaws (x : Word) : CountLaws x where
  computed _ _ := ⟨rfl, rfl, rfl⟩
  zero h := by
    subst h
    exact ⟨rfl, rfl⟩
  leading hx := by
    obtain ⟨hlt, hhighest⟩ := isHighest_of_first (clz32_first hx)
    exact ⟨_, by omega, hhighest, by omega⟩
  trailing hx := ⟨_, BitVec.lt_of_getLsbD (ctz32_first hx).1, ctz32_first hx, rfl⟩
  ones := by
    rw [popcount32_toNat, BitCount.ones, List.range_eq_range']
  allOnes h := by
    subst h
    rfl
  reverse := clz32_eq_ctz32_reverse x

/-- The byte operations, and what ORC.B and REV8 compute. -/
structure ByteLaws (x : Word) : Prop where
  computed : ∀ (y : Word) (shamt : BitVec 8), compute .orcB x y shamt = some (orcB x) ∧
    compute .rev8 x y shamt = some (rev8 x)
  orc : ∀ i < 4, byte (orcB x) i = if byte x i ≠ 0 then 0xFF else 0
  rev : ∀ i < 4, byte (rev8 x) i = byte x (3 - i)
  rev_rev : rev8 (rev8 x) = x

theorem byteLaws (x : Word) : ByteLaws x where
  computed _ _ := ⟨rfl, rfl⟩
  orc _ hi := orcB_byte x hi
  rev _ hi := rev8_byte x hi
  rev_rev := rev8_rev8 x

/-- The rotations of `x` by `s`, and by the immediate `shamt`. -/
structure RotationLaws (x s : Word) (shamt : BitVec 8) : Prop where
  rol : ∃ value, compute .rol x s shamt = some value ∧
    ∀ j < 32, value.getLsbD j = x.getLsbD (((j : Int) - (s.toNat : Int) % 32) % 32).toNat
  ror : compute .ror x s shamt =
    compute .rol x (BitVec.ofNat 32 ((32 - s.toNat % 32) % 32)) shamt
  rori : compute .rori x s shamt = compute .ror x (shamt.setWidth 32) shamt

theorem rotationLaws (x s : Word) (shamt : BitVec 8) : RotationLaws x s shamt where
  rol := by
    refine ⟨_, compute_rol x s shamt, ?_⟩
    intro j hj
    rw [getLsbD_rotateLeft_mod x (Nat.mod_lt _ (by decide)) hj]
    congr 1
    omega
  ror := by
    have hamount : (BitVec.ofNat 32 ((32 - s.toNat % 32) % 32)).toNat % 32 =
        (32 - s.toNat % 32) % 32 := by
      rw [BitVec.toNat_ofNat]
      omega
    rw [compute_ror, compute_rol, hamount,
      rotateRight_eq_rotateLeft x (Nat.mod_lt _ (by decide))]
  rori := compute_rori x s shamt

/-- What an instruction does with these values: its type has one on every operand, since no
shift it makes is undefined, and that value goes to `rd`. -/
def Executes (instr : DecodedInstr) (regs : RegFile) : Prop :=
  ∃ value, compute instr.type (regs.read instr.rs1) (regs.read instr.rs2) instr.shamt =
      some value ∧
    execute instr regs = ({ result := value }, regs.write instr.rd value)

theorem executes {instr : DecodedInstr} (h : instr.type ≠ .illegal) (regs : RegFile) :
    Executes instr regs := by
  obtain ⟨value, hvalue⟩ :=
    compute_defined h (regs.read instr.rs1) (regs.read instr.rs2) instr.shamt
  refine ⟨value, hvalue, ?_⟩
  unfold execute
  rw [if_neg h, hvalue]

/-- **The Zbb bit tricks are their bit-level definitions**: the counts, the byte operations
and the rotations of every word, and an executor that shifts by no amount out of range. -/
theorem bit_tricks :
    (∀ x : Word, CountLaws x ∧ ByteLaws x ∧
      ∀ (s : Word) (shamt : BitVec 8), RotationLaws x s shamt) ∧
    ∀ (instr : DecodedInstr) (regs : RegFile), instr.type = .illegal ∨ Executes instr regs := by
  constructor
  · intro x
    exact ⟨countLaws x, byteLaws x, rotationLaws x⟩
  · intro instr regs
    rcases Decidable.em (instr.type = .illegal) with h | h
    · exact .inl h
    · exact .inr (executes h regs)

end Riscv.Zbb

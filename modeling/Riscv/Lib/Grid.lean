import Mathlib

/- Magnitudes of a binary interchange format, and rounding to a grid.

   A magnitude is the bit pattern of a float without its sign: the fraction in the low
   bits, the biased exponent above it. Read as naturals the patterns are in the order of
   the values they stand for, which is all that comparison and rounding need:

     `mag f k`        the value of pattern `k` with `f` fraction bits, in units of the
                      least positive value; `smag f` with a sign
     `Grid`           a strictly increasing sequence of points, the last of them infinity
     `Grid.truncate`  the last finite point that does not exceed a number
     `Grid.round`     that point or the next, as the rounding mode says

   A mode rounds a number as its mirror image rounds the negated one, and the two
   directed modes differ wherever the number is no point. -/
namespace Binary

/-! ## Search -/

/-- Binary search: the greatest `k` below `2 ^ n` above the start for which `p` holds, if
`p` holds up to some point only. -/
def search (p : Nat → Bool) : Nat → Nat → Nat
  | 0, k => k
  | n + 1, k => if p (k + 2 ^ n) then search p n (k + 2 ^ n) else search p n k

theorem search_spec {p : Nat → Bool} (hdown : ∀ i j, i ≤ j → p j = true → p i = true) (n : Nat)
    {k : Nat} (hk : p k = true) :
    p (search p n k) = true ∧ ∀ j, j < k + 2 ^ n → p j = true → j ≤ search p n k := by
  induction n generalizing k with
  | zero =>
    refine ⟨hk, fun j hj _ => ?_⟩
    rw [pow_zero] at hj
    exact Nat.le_of_lt_succ hj
  | succ n ih =>
    have htwo : 2 ^ (n + 1) = 2 ^ n + 2 ^ n := by omega
    unfold search
    split
    · rename_i hmid
      obtain ⟨hp, hmax⟩ := ih hmid
      exact ⟨hp, fun j hj hpj => hmax j (by omega) hpj⟩
    · rename_i hmid
      obtain ⟨hp, hmax⟩ := ih hk
      refine ⟨hp, fun j _ hpj => hmax j ?_ hpj⟩
      by_contra hge
      exact hmid (hdown _ j (by omega) hpj)

/-! ## Magnitudes -/

/-- The value of a pattern in units of the least positive one: the fraction below
exponent 1, and with the hidden bit, scaled, from there on. -/
def mag (f k : Nat) : Nat :=
  if k / 2 ^ f = 0 then k % 2 ^ f else (2 ^ f + k % 2 ^ f) * 2 ^ (k / 2 ^ f - 1)

/-- The distance to the next pattern. -/
def ulp (f k : Nat) : Nat := 2 ^ (k / 2 ^ f - 1)

theorem mag_fields (f : Nat) {e m : Nat} (hm : m < 2 ^ f) :
    mag f (2 ^ f * e + m) = if e = 0 then m else (2 ^ f + m) * 2 ^ (e - 1) := by
  have hdiv : (2 ^ f * e + m) / 2 ^ f = e := by
    rw [Nat.mul_add_div (Nat.two_pow_pos f), Nat.div_eq_of_lt hm, Nat.add_zero]
  have hmod : (2 ^ f * e + m) % 2 ^ f = m := by
    rw [Nat.mul_add_mod, Nat.mod_eq_of_lt hm]
  unfold mag
  rw [hdiv, hmod]

theorem mag_succ (f k : Nat) : mag f (k + 1) = mag f k + ulp f k := by
  -- by the fields of the pattern: the exponent and the fraction
  obtain ⟨e, m, hm, rfl⟩ : ∃ e m, m < 2 ^ f ∧ k = 2 ^ f * e + m :=
    ⟨k / 2 ^ f, k % 2 ^ f, Nat.mod_lt _ (Nat.two_pow_pos f), (Nat.div_add_mod k _).symm⟩
  have hulp : ulp f (2 ^ f * e + m) = 2 ^ (e - 1) := by
    unfold ulp
    rw [Nat.mul_add_div (Nat.two_pow_pos f), Nat.div_eq_of_lt hm, Nat.add_zero]
  rw [hulp, mag_fields f hm]
  by_cases hlast : m + 1 = 2 ^ f
  · -- the fraction overflows into the exponent
    have hnext : 2 ^ f * e + m + 1 = 2 ^ f * (e + 1) + 0 := by
      rw [Nat.add_assoc, hlast]
      ring
    rw [hnext, mag_fields f (Nat.two_pow_pos f)]
    rcases e with _ | e
    · simp [hlast]
    · have hdouble : 2 ^ (e + 1) = 2 ^ e + 2 ^ e := by omega
      simp only [Nat.add_eq_zero_iff, one_ne_zero, and_false, if_false, Nat.add_sub_cancel,
        Nat.add_zero, hdouble, ← hlast]
      ring
  · have hnext : 2 ^ f * e + m + 1 = 2 ^ f * e + (m + 1) := Nat.add_assoc _ _ _
    rw [hnext, mag_fields f (by omega)]
    rcases e with _ | e
    · simp
    · simp only [Nat.add_eq_zero_iff, one_ne_zero, and_false, if_false]
      ring

/-- Patterns are ordered as the values they stand for. -/
theorem mag_strictMono (f : Nat) : StrictMono (mag f) := by
  refine strictMono_nat_of_lt_succ fun k => ?_
  rw [mag_succ]
  exact Nat.lt_add_of_pos_right (Nat.two_pow_pos _)

theorem mag_zero (f : Nat) : mag f 0 = 0 := by simp [mag]

/-- The value of a signed pattern. -/
def smag (f : Nat) (n : Int) : Int := if n < 0 then -(mag f n.natAbs : Int) else mag f n.natAbs

theorem smag_neg (f : Nat) (n : Int) : smag f (-n) = -smag f n := by
  unfold smag
  rw [Int.natAbs_neg]
  rcases lt_trichotomy n 0 with h | h | h
  · rw [if_pos h, if_neg (by omega), neg_neg]
  · subst h
    simp [mag_zero]
  · rw [if_pos (by omega), if_neg (by omega)]

theorem smag_strictMono (f : Nat) : StrictMono (smag f) := by
  intro a b hab
  have hmag : ∀ {i j : Nat}, i < j → (mag f i : Int) < mag f j := fun h =>
    Int.ofNat_lt.mpr (mag_strictMono f h)
  unfold smag
  by_cases ha : a < 0
  · rw [if_pos ha]
    have hpos : (0 : Int) < mag f a.natAbs := by
      have h := hmag (i := 0) (j := a.natAbs) (by omega)
      rwa [mag_zero] at h
    by_cases hb : b < 0
    · rw [if_pos hb]
      have h := hmag (i := b.natAbs) (j := a.natAbs) (by omega)
      omega
    · rw [if_neg hb]
      omega
  · rw [if_neg ha, if_neg (by omega)]
    exact hmag (by omega)

/-! ## Rounding -/

/-- The rounding direction attributes to nearest, ties to even, and directed. -/
inductive Mode where
  | toNearest | towardZero | downward | upward
  deriving DecidableEq, Repr

namespace Mode

/-- The mode that does to negated numbers what `m` does to numbers. -/
def mirror : Mode → Mode
  | toNearest => toNearest
  | towardZero => towardZero
  | downward => upward
  | upward => downward

/-- Whether the magnitude `q`, between the points `lo` and `hi`, is rounded up to `hi`;
`odd` says whether the pattern of `lo` is odd. -/
def up (m : Mode) (neg : Bool) (lo hi q : Nat) (odd : Bool) : Bool :=
  match m with
  | toNearest => decide (lo + hi < 2 * q) || (decide (lo + hi = 2 * q) && odd)
  | towardZero => false
  | downward => neg && decide (lo < q)
  | upward => !neg && decide (lo < q)

variable (m : Mode) (neg : Bool) (lo hi q : Nat) (odd : Bool)

theorem up_mirror : m.mirror.up (!neg) lo hi q odd = m.up neg lo hi q odd := by
  cases m <;> simp [mirror, up]

theorem up_point (hlt : lo < hi) : m.up neg lo hi lo odd = false := by
  have hbelow : ¬lo + hi < 2 * lo := by omega
  have hne : lo + hi ≠ 2 * lo := by omega
  cases m <;> simp [up, hbelow, hne]

end Mode

/-- The points a format has for magnitudes. The finite ones have the patterns below that
of infinity, whose point is where the next finite one would be. -/
structure Grid where
  point : Nat → Nat
  zero : point 0 = 0
  succ : ∀ k, point k < point (k + 1)
  infinity : Nat
  infinity_pos : 0 < infinity
  bits : Nat
  infinity_le : infinity ≤ 2 ^ bits

namespace Grid

variable (G : Grid)

theorem strictMono : StrictMono G.point := strictMono_nat_of_lt_succ G.succ

/-- The last finite pattern whose point does not exceed `q`. -/
def truncate (q : Nat) : Nat :=
  search (fun k => decide (k < G.infinity) && decide (G.point k ≤ q)) G.bits 0

theorem truncate_spec (q : Nat) :
    G.truncate q < G.infinity ∧ G.point (G.truncate q) ≤ q ∧
      ∀ k, k < G.infinity → G.point k ≤ q → k ≤ G.truncate q := by
  have hdown : ∀ i j, i ≤ j →
      (decide (j < G.infinity) && decide (G.point j ≤ q)) = true →
        (decide (i < G.infinity) && decide (G.point i ≤ q)) = true := by
    intro i j hij hj
    simp only [Bool.and_eq_true, decide_eq_true_eq] at hj ⊢
    exact ⟨Nat.lt_of_le_of_lt hij hj.1, (G.strictMono.monotone hij).trans hj.2⟩
  have hstart : (decide (0 < G.infinity) && decide (G.point 0 ≤ q)) = true := by
    simp [G.infinity_pos, G.zero]
  obtain ⟨hp, hmax⟩ := search_spec hdown G.bits hstart
  simp only [Bool.and_eq_true, decide_eq_true_eq] at hp hmax
  exact ⟨hp.1, hp.2, fun k hk hq =>
    hmax k ((hk.trans_le G.infinity_le).trans_eq (Nat.zero_add _).symm) ⟨hk, hq⟩⟩

/-- The number is a finite point. -/
def Exact (q : Nat) : Prop := ∃ k, k < G.infinity ∧ G.point k = q

theorem exact_iff (q : Nat) : G.Exact q ↔ G.point (G.truncate q) = q := by
  obtain ⟨hlt, hle, hmax⟩ := G.truncate_spec q
  constructor
  · rintro ⟨k, hk, rfl⟩
    exact le_antisymm hle (G.strictMono.monotone (hmax k hk le_rfl))
  · exact fun h => ⟨_, hlt, h⟩

instance (q : Nat) : Decidable (G.Exact q) := decidable_of_iff' _ (G.exact_iff q)

/-- The pattern of a magnitude, rounded. -/
def round (m : Mode) (neg : Bool) (q : Nat) : Nat :=
  let k := G.truncate q
  if m.up neg (G.point k) (G.point (k + 1)) q (decide (k % 2 = 1)) then k + 1 else k

/-- Rounding a number and its negation. -/
theorem round_mirror (m : Mode) (neg : Bool) (q : Nat) :
    G.round m.mirror (!neg) q = G.round m neg q := by
  unfold round
  dsimp only
  rw [Mode.up_mirror]

/-- A finite point is its own rounding in every mode. -/
theorem round_exact {q : Nat} (h : G.Exact q) (m : Mode) (neg : Bool) :
    G.round m neg q = G.truncate q := by
  have hpoint := (G.exact_iff q).mp h
  have hup := m.up_point neg (G.point (G.truncate q)) (G.point (G.truncate q + 1))
    (decide (G.truncate q % 2 = 1)) (G.succ _)
  rw [hpoint] at hup
  unfold round
  dsimp only
  rw [hpoint, hup]
  rfl

/-- Away from the points the directed modes tell a number from its negation. -/
theorem round_directed {q : Nat} (h : ¬G.Exact q) {m : Mode} (hm : m.mirror ≠ m) (neg : Bool) :
    G.round m neg q ≠ G.round m (!neg) q := by
  -- strictly between two points, a directed mode takes one of them by the sign
  have hlt : G.point (G.truncate q) < q :=
    lt_of_le_of_ne (G.truncate_spec q).2.1 (mt (G.exact_iff q).mpr h)
  unfold round Mode.up
  cases m
  case toNearest | towardZero => exact absurd rfl hm
  all_goals cases neg <;> simp [hlt]

end Grid

end Binary

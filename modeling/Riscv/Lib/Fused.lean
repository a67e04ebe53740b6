import Riscv.Lib.Grid

/- The fused multiply-add of a binary interchange format.

   Product and sum are exact integers, in units of the square of the least positive
   value; they are rounded once. What the standard leaves to the implementation is in
   `Choices`.

     `Format.fma`           the result and the exceptions
     `Format.NegationSafe`  when negating the result is the same as negating product
                            and addend

   Negated operands give the negated result in the mirrored mode, up to the sign of an
   exact cancellation. In the mode itself they give it exactly when no zero cancels and
   either the mode is its own mirror or the sum is not rounded. -/
namespace Binary

/-- What a datum is: a number, an infinity or a NaN of one of the two kinds. -/
inductive Kind where
  | quiet | signaling | infinite | finite
  deriving DecidableEq, Repr

/-- What a pattern stands for: `mag` counts the least positive values of a finite one. -/
structure Datum where
  kind : Kind
  neg : Bool
  mag : Nat
  deriving DecidableEq, Repr

namespace Datum

/-- The other sign, whatever the kind. -/
def opposite (d : Datum) : Datum := { d with neg := !d.neg }

def isSignaling (d : Datum) : Bool := decide (d.kind = .signaling)

def isNan (d : Datum) : Bool := decide (d.kind = .quiet) || d.isSignaling

def isInfinite (d : Datum) : Bool := decide (d.kind = .infinite)

def isZero (d : Datum) : Bool := decide (d.kind = .finite) && decide (d.mag = 0)

end Datum

/-- What an operation delivers: a NaN, or a pattern with its sign. -/
inductive Result where
  | nan
  | number (neg : Bool) (pattern : Nat)
  deriving DecidableEq, Repr

/-- The other sign; the exceptions stay. -/
def Result.opposite : Result → Result
  | nan => nan
  | number neg pattern => number (!neg) pattern

/-- The exceptions a multiply-add can raise. -/
structure Exceptions where
  invalid : Bool := false
  overflow : Bool := false
  underflow : Bool := false
  inexact : Bool := false
  deriving DecidableEq, Repr

/-- What is left to the implementation: when tininess is detected, and whether infinity
times zero is invalid also with a quiet NaN as addend. -/
structure Choices where
  tinyAfterRounding : Bool
  invalidQuiet : Bool

/-- A grid in units of the square of the least positive value, `unit` of which that value
has. `belowNormal` is the number below the first normal one that has full precision. -/
structure Format extends Grid where
  unit : Nat
  normal : Nat
  belowNormal : Nat

/-- An integer by its sign and magnitude. -/
def signed (neg : Bool) (q : Nat) : Int := if neg then -q else q

theorem signed_not (neg : Bool) (q : Nat) : signed (!neg) q = -signed neg q := by
  cases neg <;> simp [signed]

theorem signed_xor (neg neg' : Bool) (p q : Nat) :
    signed (xor neg neg') (p * q) = signed neg p * signed neg' q := by
  cases neg <;> cases neg' <;> simp [signed]

theorem signed_mul (neg : Bool) (p q : Nat) : signed neg (p * q) = signed neg p * q := by
  cases neg <;> simp [signed]

/-- The sign of a sum of zero: that of both terms, or the one the mode has for
differences. -/
def zeroSign (m : Mode) (neg neg' : Bool) : Bool :=
  if neg = neg' then neg else decide (m = .downward)

namespace Format

variable (F : Format) (ch : Choices) (m : Mode)

/-- Below the normal numbers, before or after rounding to full precision. -/
def tiny (neg : Bool) (q : Nat) : Bool :=
  decide (q < F.point F.normal) &&
    !(ch.tinyAfterRounding && m.up neg F.belowNormal (F.point F.normal) q true)

/-- The exceptions of rounding a magnitude; an exact tiny result is no underflow. -/
def exceptions (neg : Bool) (q : Nat) : Exceptions :=
  { overflow := decide (F.infinity ≤ F.round m neg q) || decide (F.point F.infinity ≤ q)
    underflow := F.tiny ch m neg q && !decide (F.Exact q)
    inexact := !decide (F.Exact q) }

/-- An exact number, rounded; `zero` is its sign if it is zero. -/
def deliver (zero : Bool) (s : Int) : Result × Exceptions :=
  if s = 0 then (.number zero 0, {})
  else
    let neg := decide (s < 0)
    (.number neg (F.round m neg s.natAbs), F.exceptions ch m neg s.natAbs)

/-- The exact sum of the product and the addend. -/
def total (a b c : Datum) : Int :=
  signed (xor a.neg b.neg) (a.mag * b.mag) + signed c.neg (c.mag * F.unit)

/-- The product and the sum, rounded once. -/
def fma (a b c : Datum) : Result × Exceptions :=
  let neg := xor a.neg b.neg
  let undefined := (a.isInfinite && b.isZero) || (a.isZero && b.isInfinite)
  if a.isNan || b.isNan || c.isNan then
    (.nan,
      { invalid := a.isSignaling || b.isSignaling || c.isSignaling ||
          (undefined && ch.invalidQuiet) })
  else if undefined then (.nan, { invalid := true })
  else if a.isInfinite || b.isInfinite then
    if c.isInfinite ∧ neg ≠ c.neg then (.nan, { invalid := true })
    else (.number neg F.infinity, {})
  else if c.isInfinite then (.number c.neg F.infinity, {})
  else F.deliver ch m (zeroSign m neg c.neg) (F.total a b c)

/-! ## Rounding in the mirrored mode -/

theorem exceptions_mirror (neg : Bool) (q : Nat) :
    F.exceptions ch m.mirror (!neg) q = F.exceptions ch m neg q := by
  unfold exceptions tiny
  rw [F.round_mirror, Mode.up_mirror]

theorem exceptions_exact {q : Nat} (h : F.Exact q) (neg : Bool) :
    F.exceptions ch m neg q = {} := by
  have hround := F.round_exact h m neg
  have hlt := (F.truncate_spec q).1
  have hbelow : q < F.point F.infinity := by
    obtain ⟨k, hk, rfl⟩ := h
    exact F.strictMono hk
  have hfits : ¬F.infinity ≤ F.round m neg q := by omega
  have hfits' : ¬F.point F.infinity ≤ q := by omega
  unfold exceptions
  simp [h, hfits, hfits']

theorem deliver_opposite (zero : Bool) (s : Int) :
    F.deliver ch m.mirror (!zero) (-s) =
      ((F.deliver ch m zero s).1.opposite, (F.deliver ch m zero s).2) := by
  unfold deliver
  by_cases hs : s = 0
  · simp [hs, Result.opposite]
  · have hsign : decide (-s < 0) = !decide (s < 0) := by
      rw [Bool.eq_iff_iff, Bool.not_eq_true', decide_eq_true_eq, decide_eq_false_iff_not]
      omega
    rw [if_neg hs, if_neg (by omega), hsign, Int.natAbs_neg]
    dsimp only
    rw [F.round_mirror, exceptions_mirror]
    rfl

/-- Rounding is the same for a number and its negation in a mode that is its own mirror,
and for the points. -/
theorem deliver_same {s : Int} (h : m.mirror = m ∨ F.Exact s.natAbs) (zero : Bool) :
    F.deliver ch m.mirror zero s = F.deliver ch m zero s := by
  rcases h with h | h
  · rw [h]
  · unfold deliver
    dsimp only
    rw [exceptions_exact F ch m h, exceptions_exact F ch m.mirror h, F.round_exact h,
      F.round_exact h]

theorem exact_zero : F.Exact 0 := ⟨0, F.infinity_pos, F.zero⟩

/-- A number that is not zero is told from its negation by the directed modes. -/
theorem exact_of_deliver {s : Int} {zero zero' : Bool}
    (h : (F.deliver ch m zero' (-s)).1 = (F.deliver ch m zero s).1.opposite) :
    m.mirror = m ∨ F.Exact s.natAbs := by
  by_contra hnot
  rw [not_or] at hnot
  obtain ⟨hmode, hexact⟩ := hnot
  have hs : s ≠ 0 := by
    rintro rfl
    exact hexact F.exact_zero
  -- a negated sum has the other sign, so the rounding of the two would have to agree
  have hsign : decide (-s < 0) = !decide (s < 0) := by
    rw [Bool.eq_iff_iff, Bool.not_eq_true', decide_eq_true_eq, decide_eq_false_iff_not]
    omega
  unfold deliver at h
  rw [if_neg hs, if_neg (by omega), hsign, Int.natAbs_neg] at h
  dsimp only [Result.opposite] at h
  injection h with _ hround
  exact F.round_directed hexact hmode _ hround.symm

/-! ## Negation -/

/-- Negating the result is negating product and addend. -/
def NegationSafe (a b c : Datum) : Prop :=
  a.kind = .finite → b.kind = .finite → c.kind = .finite →
    (F.total a b c = 0 → xor a.neg b.neg = c.neg) ∧
      (m.mirror = m ∨ F.Exact (F.total a b c).natAbs)

variable {F ch m} {a b c : Datum}

theorem fma_finite (ha : a.kind = .finite) (hb : b.kind = .finite) (hc : c.kind = .finite) :
    F.fma ch m a b c = F.deliver ch m (zeroSign m (xor a.neg b.neg) c.neg) (F.total a b c) := by
  simp [fma, Datum.isNan, Datum.isSignaling, Datum.isInfinite, ha, hb, hc]

theorem total_opposite : F.total a.opposite b c.opposite = -F.total a b c := by
  have hxor : xor (!a.neg) b.neg = !xor a.neg b.neg := Bool.not_xor _ _
  unfold total Datum.opposite
  dsimp only
  rw [hxor, signed_not, signed_not]
  ring

/-- Where no rounding takes place only the signs change. -/
theorem fma_special (h : ¬(a.kind = .finite ∧ b.kind = .finite ∧ c.kind = .finite)) :
    F.fma ch m a.opposite b c.opposite =
      ((F.fma ch m a b c).1.opposite, (F.fma ch m a b c).2) := by
  have hxor : xor (!a.neg) b.neg = !xor a.neg b.neg := Bool.not_xor _ _
  have hsigns : (!xor a.neg b.neg) ≠ (!c.neg) ↔ xor a.neg b.neg ≠ c.neg :=
    not_congr (Bool.not_inj_iff)
  have hzero : a.opposite.isZero = a.isZero := rfl
  have hnan : ∀ d : Datum, d.opposite.isNan = d.isNan := fun _ => rfl
  have hsignaling : ∀ d : Datum, d.opposite.isSignaling = d.isSignaling := fun _ => rfl
  have hinf : ∀ d : Datum, d.opposite.isInfinite = d.isInfinite := fun _ => rfl
  have hneg : ∀ d : Datum, d.opposite.neg = !d.neg := fun _ => rfl
  unfold fma
  simp only [hzero, hnan, hsignaling, hinf, hneg, hxor, hsigns]
  by_cases hisNan : (a.isNan || b.isNan || c.isNan) = true
  · rw [if_pos hisNan, if_pos hisNan]
    rfl
  rw [if_neg hisNan, if_neg hisNan]
  by_cases hundefined : (a.isInfinite && b.isZero || a.isZero && b.isInfinite) = true
  · rw [if_pos hundefined, if_pos hundefined]
    rfl
  rw [if_neg hundefined, if_neg hundefined]
  by_cases hproduct : (a.isInfinite || b.isInfinite) = true
  · rw [if_pos hproduct, if_pos hproduct]
    split <;> rfl
  rw [if_neg hproduct, if_neg hproduct]
  by_cases hc : c.isInfinite = true
  · rw [if_pos hc, if_pos hc]
    rfl
  -- what is left is finite
  refine absurd ?_ h
  rcases a with ⟨_ | _ | _ | _, _, _⟩ <;> rcases b with ⟨_ | _ | _ | _, _, _⟩ <;>
    rcases c with ⟨_ | _ | _ | _, _, _⟩ <;>
      simp_all [Datum.isNan, Datum.isSignaling, Datum.isInfinite]

/-- **Negated operands give the negated result** where `NegationSafe` holds, -/
theorem fma_opposite (h : F.NegationSafe m a b c) :
    F.fma ch m a.opposite b c.opposite =
      ((F.fma ch m a b c).1.opposite, (F.fma ch m a b c).2) := by
  by_cases hfinite : a.kind = .finite ∧ b.kind = .finite ∧ c.kind = .finite
  · obtain ⟨ha, hb, hc⟩ := hfinite
    obtain ⟨hzero, hexact⟩ := h ha hb hc
    rw [fma_finite ha hb hc, fma_finite (a := a.opposite) (c := c.opposite) ha hb hc,
      total_opposite, ← deliver_opposite, deliver_same (h := by rwa [Int.natAbs_neg])]
    by_cases hs : F.total a b c = 0
    · have hsign : zeroSign m (xor a.opposite.neg b.neg) c.opposite.neg =
          !zeroSign m (xor a.neg b.neg) c.neg := by
        have hsame := hzero hs
        have hsame' : xor (!a.neg) b.neg = !c.neg := (Bool.not_xor _ _).trans (congrArg _ hsame)
        unfold zeroSign Datum.opposite
        dsimp only
        rw [if_pos hsame', if_pos hsame, hsame', hsame]
      rw [hsign]
    · unfold deliver
      rw [if_neg (by omega), if_neg (by omega)]
  · exact fma_special hfinite

/-- and nowhere else. -/
theorem safe_of_opposite
    (h : (F.fma ch m a.opposite b c.opposite).1 = (F.fma ch m a b c).1.opposite) :
    F.NegationSafe m a b c := by
  intro ha hb hc
  rw [fma_finite ha hb hc, fma_finite (a := a.opposite) (c := c.opposite) ha hb hc,
    total_opposite] at h
  refine ⟨fun hs => ?_, exact_of_deliver F ch m h⟩
  -- zeros of opposite signs cancel to one sign, whatever they are
  by_contra hdiffer
  have hdiffer' : xor (!a.neg) b.neg ≠ !c.neg := by
    rw [Bool.not_xor]
    exact fun h => hdiffer (Bool.not_inj h)
  unfold deliver zeroSign Datum.opposite at h
  dsimp only at h
  rw [if_neg hdiffer, if_neg hdiffer', hs] at h
  cases hm : decide (m = .downward) <;> simp [hm, Result.opposite] at h

/-! ## Patterns -/

theorem round_le (neg : Bool) (q : Nat) : F.round m neg q ≤ F.infinity := by
  have hlt := (F.truncate_spec q).1
  unfold Grid.round
  dsimp only
  split <;> omega

/-- No pattern above infinity is delivered. -/
theorem fma_pattern {neg : Bool} {k : Nat} (h : (F.fma ch m a b c).1 = .number neg k) :
    k ≤ F.infinity := by
  unfold fma at h
  dsimp only at h
  split at h
  · cases h
  · split at h
    · cases h
    · split at h
      · split at h
        · cases h
        · cases h
          exact le_rfl
      · split at h
        · cases h
          exact le_rfl
        · unfold deliver at h
          split at h
          · cases h
            exact Nat.zero_le _
          · cases h
            exact round_le _ _

end Format

end Binary

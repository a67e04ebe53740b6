/- Machine arithmetic with undefined cases.

   The signed operations of a systems language are partial: an exact result that no
   word of the width represents is undefined, and so is a division by zero, also an
   unsigned one, and a shift by the width or more. Here an operation returns none in
   these cases, and otherwise the word that has the exact result. -/
namespace Checked

variable {w : Nat}

/-- The word of the width whose signed value is `x`. -/
def signed (w : Nat) (x : Int) : Option (BitVec w) :=
  if (BitVec.ofInt w x).toInt = x then some (BitVec.ofInt w x) else none

/-- The exact product must fit. -/
def smul (a b : BitVec w) : Option (BitVec w) := signed w (a.toInt * b.toInt)

/-- Towards zero. The one quotient that does not fit is that of the least word by -1. -/
def sdiv (a b : BitVec w) : Option (BitVec w) :=
  if b = 0#w then none else signed w (a.toInt.tdiv b.toInt)

/-- Undefined where the quotient is. -/
def srem (a b : BitVec w) : Option (BitVec w) :=
  (sdiv a b).map fun _ => BitVec.ofInt w (a.toInt.tmod b.toInt)

/-- Only a zero divisor is excluded: an unsigned quotient always fits. -/
def udiv (a b : BitVec w) : Option (BitVec w) := if b = 0#w then none else some (a / b)

def urem (a b : BitVec w) : Option (BitVec w) := if b = 0#w then none else some (a % b)

/-- A shift is undefined from the width on. -/
def shl (a s : BitVec w) : Option (BitVec w) := if s.toNat < w then some (a <<< s) else none

def shr (a s : BitVec w) : Option (BitVec w) := if s.toNat < w then some (a >>> s) else none

/-- A signed result is defined when some word has it. -/
theorem signed_of_toInt {x : Int} {r : BitVec w} (h : r.toInt = x) : signed w x = some r := by
  have hword : BitVec.ofInt w x = r := by rw [← h, BitVec.ofInt_toInt]
  unfold signed
  rw [hword, if_pos h]

theorem smul_eq_some {a b : BitVec w} (h : ¬a.smulOverflow b) : smul a b = some (a * b) :=
  signed_of_toInt (BitVec.toInt_mul_of_not_smulOverflow h)

theorem sdiv_eq_some {a b : BitVec w} (hb : b ≠ 0#w) (h : a ≠ BitVec.intMin w ∨ b ≠ -1#w) :
    sdiv a b = some (a.sdiv b) := by
  unfold sdiv
  rw [if_neg hb]
  exact signed_of_toInt (BitVec.toInt_sdiv_of_ne_or_ne a b h)

theorem srem_eq_some {a b : BitVec w} (hb : b ≠ 0#w) (h : a ≠ BitVec.intMin w ∨ b ≠ -1#w) :
    srem a b = some (a.srem b) := by
  unfold srem
  rw [sdiv_eq_some hb h, Option.map_some, ← BitVec.toInt_srem, BitVec.ofInt_toInt]

theorem udiv_eq_some {a b : BitVec w} (hb : b ≠ 0#w) : udiv a b = some (a / b) := if_neg hb

theorem urem_eq_some {a b : BitVec w} (hb : b ≠ 0#w) : urem a b = some (a % b) := if_neg hb

theorem shl_eq_some {a s : BitVec w} (h : s.toNat < w) : shl a s = some (a <<< s) := if_pos h

theorem shr_eq_some {a s : BitVec w} (h : s.toNat < w) : shr a s = some (a >>> s) := if_pos h

/-- A product of extended operands has room for the exact product. -/
theorem smul_signExtend (a b : BitVec 32) :
    smul (a.signExtend 64) (b.signExtend 64) = some (a.signExtend 64 * b.signExtend 64) := by
  apply smul_eq_some
  have ha := BitVec.toInt_signExtend_of_le (x := a) (show 32 ≤ 64 by decide)
  have hb := BitVec.toInt_signExtend_of_le (x := b) (show 32 ≤ 64 by decide)
  -- a product of two 32-bit numbers is at most 2^62 in absolute value
  have hupper : a.toInt * b.toInt ≤ 4611686018427387904 := BitVec.toInt_mul_toInt_le
  have hlower : -4611686018427387904 ≤ a.toInt * b.toInt := BitVec.le_toInt_mul_toInt
  simp only [BitVec.smulOverflow, ha, hb, Bool.or_eq_true, decide_eq_true_eq]
  omega

end Checked

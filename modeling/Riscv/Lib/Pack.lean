import Mathlib.Algebra.Group.Nat.Defs

/- Words put together from pieces: some bits of a value, moved to a position, one OR after
   the other. Where the pieces of a layout stay apart, the window of each piece holds the
   bits it was given. Whether they stay apart does not depend on the values, so it is
   checked by evaluation also where the values are variables. -/
namespace Pack

variable {m : Nat}

/-- `((value >> lo) & mask) << pos`, for the mask of `width` low bits. -/
structure Piece (m : Nat) where
  value : BitVec m
  lo : Nat
  width : Nat
  pos : Nat

def Piece.bits (n : Nat) (p : Piece m) : BitVec n :=
  (((p.value >>> p.lo) &&& BitVec.ofNat m (2 ^ p.width - 1)) <<< p.pos).setWidth n

def pack (n : Nat) : List (Piece m) → BitVec n
  | [] => 0
  | p :: ps => p.bits n ||| pack n ps

/-- Two pieces have no position in common. -/
def Piece.clear (p q : Piece m) : Bool :=
  decide (p.pos + p.width ≤ q.pos) || decide (q.pos + q.width ≤ p.pos)

/-- The pieces fit into `n` bits and stay apart. -/
def layout (n : Nat) : List (Piece m) → Bool
  | [] => true
  | p :: ps => decide (p.pos + p.width ≤ n) && ps.all p.clear && layout n ps

theorem Piece.getLsbD_bits (n : Nat) (p : Piece m) (i : Nat) : (p.bits n).getLsbD i =
    (decide (i < n) && decide (i < m) && decide (p.pos ≤ i) && decide (i < p.pos + p.width) &&
      p.value.getLsbD (p.lo + (i - p.pos))) := by
  have hmask : (BitVec.ofNat m (2 ^ p.width - 1)).getLsbD (i - p.pos) =
      (decide (i - p.pos < m) && decide (i - p.pos < p.width)) := by
    rw [BitVec.getLsbD_ofNat, Nat.testBit_two_pow_sub_one]
  simp only [bits, BitVec.getLsbD_setWidth, BitVec.getLsbD_shiftLeft, BitVec.getLsbD_and, hmask,
    BitVec.getLsbD_ushiftRight]
  grind

theorem Piece.getLsbD_clear {n : Nat} {p q : Piece m} (h : p.clear q = true) {i : Nat}
    (hlo : q.pos ≤ i) (hhi : i < q.pos + q.width) : (p.bits n).getLsbD i = false := by
  have hout : ¬(p.pos ≤ i ∧ i < p.pos + p.width) := by
    simp only [clear, Bool.or_eq_true, decide_eq_true_eq] at h
    omega
  rw [getLsbD_bits]
  grind

theorem getLsbD_pack {n : Nat} {ps : List (Piece m)} (h : layout n ps = true) {q : Piece m}
    (hq : q ∈ ps) {i : Nat} (hlo : q.pos ≤ i) (hhi : i < q.pos + q.width) :
    (pack n ps).getLsbD i = (q.bits n).getLsbD i := by
  induction ps with
  | nil => cases hq
  | cons p ps ih =>
    simp only [layout, Bool.and_eq_true, List.all_eq_true] at h
    obtain ⟨⟨-, hclear⟩, hrest⟩ := h
    rw [pack, BitVec.getLsbD_or]
    rcases List.mem_cons.mp hq with rfl | hmem
    · -- no later piece reaches the window
      have hnone : ∀ rs : List (Piece m), (∀ r ∈ rs, q.clear r = true) →
          (pack n rs).getLsbD i = false := by
        intro rs hrs
        induction rs with
        | nil => simp [pack]
        | cons r rs ihr =>
          have hflip : r.clear q = true := by
            have hr := hrs r (.head _)
            simp only [Piece.clear, Bool.or_eq_true, decide_eq_true_eq] at hr ⊢
            omega
          rw [pack, BitVec.getLsbD_or, Piece.getLsbD_clear hflip hlo hhi,
            ihr fun r' hr' => hrs r' (.tail _ hr'), Bool.or_false]
      rw [hnone ps hclear, Bool.or_false]
    · rw [ih hrest hmem, Piece.getLsbD_clear (hclear q hmem) hlo hhi, Bool.false_or]

theorem layout_fits {n : Nat} {ps : List (Piece m)} (h : layout n ps = true) {q : Piece m}
    (hq : q ∈ ps) : q.pos + q.width ≤ n := by
  induction ps with
  | nil => cases hq
  | cons p ps ih =>
    simp only [layout, Bool.and_eq_true, decide_eq_true_eq] at h
    rcases List.mem_cons.mp hq with rfl | hmem
    · exact h.1.1
    · exact ih h.2 hmem

/-- **A piece is read back**: its window holds the bits of its value. -/
theorem extract_pack {n : Nat} (hnm : n ≤ m) {ps : List (Piece m)} (h : layout n ps = true)
    {i : Nat} {q : Piece m} (hq : ps[i]? = some q) :
    (pack n ps).extractLsb' q.pos q.width = q.value.extractLsb' q.lo q.width := by
  have hmem : q ∈ ps := List.mem_of_getElem? hq
  have hfits := layout_fits h hmem
  apply BitVec.eq_of_getLsbD_eq
  intro j hj
  rw [BitVec.getLsbD_extractLsb', BitVec.getLsbD_extractLsb',
    getLsbD_pack h hmem (by omega) (by omega), Piece.getLsbD_bits, Nat.add_sub_cancel_left]
  grind

end Pack

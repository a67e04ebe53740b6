/- Words with writable and fixed bits, as control registers have them.

   A mask says which bits of a word may change. Three relations cover what an
   update of such a word must satisfy:

     `Within s m`    the bits of `s` are among those of `m`
     `Agree m v u`   `v` and `u` differ at most inside `m`
     `Legal m h v`   outside `m` the word `v` reads as the constant `h`

   Each is an equation between words, so it is decidable on constants, and each
   has a reading bit by bit, from which the rules for clearing, setting and
   merging bits follow. -/
namespace Warl

variable {w : Nat}

/-- The bits of `s` are among those of `m`. -/
def Within (s m : BitVec w) : Prop := s &&& ~~~m = 0

/-- `v` and `u` differ at most inside `m`. -/
def Agree (m v u : BitVec w) : Prop := v &&& ~~~m = u &&& ~~~m

/-- Outside the writable bits `m` the word reads as `h`. -/
def Legal (m h v : BitVec w) : Prop := v &&& ~~~m = h

instance (s m : BitVec w) : Decidable (Within s m) :=
  inferInstanceAs (Decidable (s &&& ~~~m = 0))

instance (m v u : BitVec w) : Decidable (Agree m v u) :=
  inferInstanceAs (Decidable (v &&& ~~~m = u &&& ~~~m))

instance (m h v : BitVec w) : Decidable (Legal m h v) :=
  inferInstanceAs (Decidable (v &&& ~~~m = h))

/-! ## Bit by bit -/

theorem within_iff {s m : BitVec w} :
    Within s m ↔ ∀ i (hi : i < w), s[i] = true → m[i] = true := by
  unfold Within
  constructor
  · intro h i hi hc
    have hbit : (s &&& ~~~m)[i] = (0 : BitVec w)[i] := by simp only [h]
    simpa [hc] using hbit
  · intro h
    ext i hi
    have hbit := h i hi
    cases hc : s[i] <;> simp_all

theorem agree_iff {m v u : BitVec w} :
    Agree m v u ↔ ∀ i (hi : i < w), m[i] = false → v[i] = u[i] := by
  unfold Agree
  constructor
  · intro h i hi hm
    have hbit : (v &&& ~~~m)[i] = (u &&& ~~~m)[i] := by simp only [h]
    simpa [hm] using hbit
  · intro h
    ext i hi
    have hbit := h i hi
    cases hm : m[i] <;> simp_all

/-- Words that agree off a mask agree off a smaller one when they share the bits
between. -/
theorem Agree.narrow {m n v u : BitVec w} (h : Agree m v u)
    (hbits : ∀ i (hi : i < w), m[i] = true → n[i] = false → v[i] = u[i]) : Agree n v u := by
  rw [agree_iff] at h ⊢
  intro i hi hn
  cases hm : m[i] with
  | false => exact h i hi hm
  | true => exact hbits i hi hm hn

theorem Within.clear {s m : BitVec w} (h : Within s (~~~m)) {i : Nat} {hi : i < w}
    (hc : s[i] = true) : m[i] = false := by
  simpa using within_iff.mp h i hi hc

theorem Within.trans {s t u : BitVec w} (h₁ : Within s t) (h₂ : Within t u) : Within s u := by
  rw [within_iff] at h₁ h₂ ⊢
  exact fun i hi ha => h₂ i hi (h₁ i hi ha)

theorem Within.refl (s : BitVec w) : Within s s := by
  rw [within_iff]
  exact fun _ _ h => h

theorem within_and_left (a b : BitVec w) : Within (a &&& b) a := by
  rw [within_iff]
  intro i hi h
  exact (by simpa using h : a[i] = true ∧ b[i] = true).1

/-! ## Agreement -/

theorem Agree.refl (m v : BitVec w) : Agree m v v := rfl

theorem Agree.trans {m v u t : BitVec w} (h₁ : Agree m v u) (h₂ : Agree m u t) : Agree m v t :=
  Eq.trans h₁ h₂

theorem Agree.and {m v u : BitVec w} (h : Agree m v u) (x : BitVec w) :
    Agree m (v &&& x) (u &&& x) := by
  rw [agree_iff] at h ⊢
  intro i hi hm
  simp [h i hi hm]

theorem Agree.or {m v u : BitVec w} (h : Agree m v u) (x : BitVec w) :
    Agree m (v ||| x) (u ||| x) := by
  rw [agree_iff] at h ⊢
  intro i hi hm
  simp [h i hi hm]

theorem Agree.mono {m n v u : BitVec w} (h : Agree m v u) (hmn : Within m n) : Agree n v u := by
  rw [agree_iff] at h ⊢
  rw [within_iff] at hmn
  intro i hi hn
  apply h i hi
  cases hm : m[i] with
  | false => rfl
  | true => simp [hmn i hi hm] at hn

theorem Agree.field {m v u s : BitVec w} (h : Agree m v u) (hc : Within s (~~~m)) :
    v &&& s = u &&& s := by
  rw [agree_iff] at h
  ext i hi
  cases hci : s[i] with
  | false => simp [hci]
  | true => simp [hci, h i hi (hc.clear hci)]

theorem agree_clear {s m : BitVec w} (v : BitVec w) (hc : Within s m) :
    Agree m (v &&& ~~~s) v := by
  rw [agree_iff]
  rw [within_iff] at hc
  intro i hi hm
  cases hci : s[i] with
  | false => simp [hci]
  | true => simp [hc i hi hci] at hm

theorem agree_set {s m : BitVec w} (v : BitVec w) (hs : Within s m) : Agree m (v ||| s) v := by
  rw [agree_iff]
  rw [within_iff] at hs
  intro i hi hm
  cases hsi : s[i] with
  | false => simp [hsi]
  | true => simp [hs i hi hsi] at hm

/-- The bits of `x` replace those of `v` inside `s`. -/
theorem agree_merge {s m : BitVec w} (v x : BitVec w) (hc : Within s m) :
    Agree m ((v &&& ~~~s) ||| (x &&& s)) v := by
  rw [agree_iff]
  rw [within_iff] at hc
  intro i hi hm
  cases hci : s[i] with
  | false => simp [hci]
  | true => simp [hc i hi hci] at hm

theorem clear_eq_self {v s : BitVec w} (h : v &&& s = 0) : v &&& ~~~s = v := by
  ext i hi
  have hbit : (v &&& s)[i] = (0 : BitVec w)[i] := by simp only [h]
  cases hc : s[i] with
  | false => simp [hc]
  | true =>
    have hv : v[i] = false := by simpa [hc] using hbit
    simp [hv]

/-! ## Legality -/

theorem legal_masked {m : BitVec w} (v : BitVec w) : Legal m 0 (v &&& m) := by
  unfold Legal
  ext i hi
  cases hm : m[i] <;> simp [hm]

/-- Masking to the writable bits and adding the fixed ones makes a word legal. -/
theorem legal_hardwire {m h : BitVec w} (v : BitVec w) (hh : Within h (~~~m)) :
    Legal m h ((v &&& m) ||| h) := by
  unfold Legal
  ext i hi
  cases hhi : h[i] with
  | false => cases hm : m[i] <;> simp [hhi, hm]
  | true => simp [hhi, hh.clear hhi]

/-- A word that agrees with a legal one on the fixed bits is legal. -/
theorem Legal.of_agree {m h v u : BitVec w} (hu : Legal m h u) (ha : Agree m v u) :
    Legal m h v :=
  Eq.trans ha hu

theorem Legal.agree {m h v u : BitVec w} (hv : Legal m h v) (hu : Legal m h u) : Agree m v u :=
  Eq.trans hv (Eq.symm hu)

/-- A legal word is its writable part and the fixed bits. -/
theorem Legal.eq_hardwire {m h v : BitVec w} (hv : Legal m h v) : (v &&& m) ||| h = v := by
  subst hv
  ext i hi
  cases hm : m[i] <;> simp [hm]

theorem Legal.mono {m n v : BitVec w} (hv : Legal m 0 v) (hmn : Within m n) : Legal n 0 v := by
  have hagree : Agree m v 0 := by simpa [Agree, Legal] using hv
  simpa [Agree, Legal] using hagree.mono hmn

theorem Legal.and_eq {m v : BitVec w} (hv : Legal m 0 v) : v &&& m = v := by
  simpa using hv.eq_hardwire

/-- Clearing bits that are not fixed to one keeps a word legal. -/
theorem Legal.clear {m h v s : BitVec w} (hv : Legal m h v) (hc : Within s (~~~h)) :
    Legal m h (v &&& ~~~s) := by
  subst hv
  unfold Legal
  ext i hi
  have hbit : s[i] = true → (v &&& ~~~m)[i] = false := fun hci => hc.clear hci
  cases hci : s[i] <;> cases hm : m[i] <;> cases hvi : v[i] <;> simp_all

theorem Legal.field {m h v s : BitVec w} (hv : Legal m h v) (hc : Within s (~~~m)) :
    v &&& s = h &&& s := by
  subst hv
  ext i hi
  cases hci : s[i] with
  | false => simp [hci]
  | true => simp [hci, hc.clear hci]

theorem Legal.eq_const {h v : BitVec w} (hv : Legal 0#w h v) : v = h := by
  simpa [Legal, BitVec.not_zero] using hv

/-- A legal word lies inside its writable bits and any mask of the fixed ones. -/
theorem Legal.within {m h v s : BitVec w} (hv : Legal m h v) (hc : Within h s) :
    Within v (s ||| m) := by
  subst hv
  rw [within_iff] at hc ⊢
  intro i hi hvi
  cases hm : m[i] with
  | true => simp [hm]
  | false => simp [hc i hi (by simp [hvi, hm])]

/-- A word written through a view: the view's bits of `x` replace those of a legal
`v`, bits outside the writable ones are cleared, the result is cut to the writable
bits and the fixed ones are put back. -/
theorem Legal.agree_view {m h v s k : BitVec w} (x : BitVec w) (hv : Legal m h v)
    (hk : Within k (~~~m)) :
    Agree s ((((v &&& ~~~s) ||| (x &&& s)) &&& ~~~k &&& m) ||| h) v := by
  rw [agree_iff]
  intro i hi hc
  -- a legal word has the fixed bits already
  have hbit : v[i] = ((v &&& m) ||| h)[i] := by simp only [hv.eq_hardwire]
  cases hkb : k[i] with
  | true =>
    have hm : m[i] = false := hk.clear hkb
    rw [hbit]
    simp [hkb, hm]
  | false =>
    rw [hbit]
    simp [hkb, hc]

/-! ## Writing under a mask -/

theorem merge_self (v s : BitVec w) : (v &&& ~~~s) ||| (v &&& s) = v := by
  ext i hi
  cases hs : s[i] <;> simp [hs]

/-- A second merge of a word adds nothing. -/
theorem merge_merge (v x s : BitVec w) :
    (((v &&& ~~~s) ||| (x &&& s)) &&& ~~~s) ||| (x &&& s) = (v &&& ~~~s) ||| (x &&& s) := by
  ext i hi
  cases hs : s[i] <;> simp [hs]

theorem merge_read (v x s : BitVec w) : ((v &&& ~~~s) ||| (x &&& s)) &&& s = x &&& s := by
  ext i hi
  cases hs : s[i] <;> simp [hs]

theorem field_put (v m : BitVec w) (k : Nat) : ((v >>> k) &&& m) <<< k = v &&& (m <<< k) := by
  ext i hi
  by_cases hk : i < k
  · simp [hk]
  · simp [hk, hi, show k + (i - k) = i by omega, ← BitVec.getLsbD_eq_getElem]

/-- Reading through a wider mask first makes no difference. -/
theorem and_and_of_within {s r : BitVec w} (v : BitVec w) (hr : Within s r) :
    (v &&& r) &&& s = v &&& s := by
  ext i hi
  have hbit := within_iff.mp hr i hi
  cases hs : s[i] with
  | true => simp [hs, hbit hs]
  | false => simp [hs]

/-- A word read through a wider view and written through a narrower one is unchanged. -/
theorem Legal.view_self {m h v s k r : BitVec w} (hv : Legal m h v) (hk : Within k (~~~m))
    (hr : Within s r) :
    ((((v &&& ~~~s) ||| ((v &&& r) &&& s)) &&& ~~~k) &&& m) ||| h = v := by
  rw [and_and_of_within v hr, merge_self]
  -- what is cleared lies outside the writable bits
  have hcut : (v &&& ~~~k) &&& m = v &&& m := by
    ext i hi
    cases hkb : k[i] with
    | true => simp [hkb, hk.clear hkb]
    | false => simp [hkb]
  rw [hcut, hv.eq_hardwire]

/-- A second write through a view adds nothing. -/
theorem view_view (v x m h s k : BitVec w) :
    (((((((v &&& ~~~s) ||| (x &&& s)) &&& ~~~k) &&& m) ||| h) &&& ~~~s ||| (x &&& s)) &&& ~~~k &&&
      m) ||| h = ((((v &&& ~~~s) ||| (x &&& s)) &&& ~~~k) &&& m) ||| h := by
  ext i hi
  cases hs : s[i] <;> cases hh : h[i] <;> cases hk : k[i] <;> simp [hs, hh, hk]

/-- What a view shows of a word written through it: the written bits that may change,
and the fixed ones. -/
theorem view_read {m h s k r : BitVec w} (v x : BitVec w) (hs : Within s r) (hh : Within h r)
    (hrest : Within (r &&& ~~~s) (~~~m)) (hk : Within s (~~~k)) :
    (((((v &&& ~~~s) ||| (x &&& s)) &&& ~~~k) &&& m) ||| h) &&& r = (x &&& s &&& m) ||| h := by
  rw [within_iff] at hs hh hrest hk
  ext i hi
  have hs := hs i hi
  have hh := hh i hi
  have hrest := hrest i hi
  have hk := hk i hi
  cases hsb : s[i] <;> cases hrb : r[i] <;> cases hhb : h[i] <;> simp_all

end Warl

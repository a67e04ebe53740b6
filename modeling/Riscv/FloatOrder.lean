import Riscv.FloatStep
import Riscv.FloatValue
import Riscv.Lib.Bits

/- One order of the floats.

   FMIN, FMAX, the three comparisons and FCLASS test for NaNs, zeros and signs each in
   its own code. Here they are shown to agree: there is one order of the patterns that
   are no NaN, that of their values with -0 below +0, and the NaNs are the patterns
   FCLASS puts into its two NaN classes. -/
namespace Riscv

open Zicsr Run

namespace Rv32f

namespace F32

/-! ## The order -/

/-- `a` is at most `b` in the order of the values that puts -0 below +0. -/
def Below (a b : Word) : Prop :=
  extended a < extended b ∨ (extended a = extended b ∧ (sign b = true → sign a = true))

variable {a b c : Word}

theorem below_iff (ha : isnan a = false) (hb : isnan b = false) :
    Below a b ↔ key a < key b ∨ (key a = key b ∧ (sign b = true → sign a = true)) := by
  unfold Below
  rw [extended_lt_iff ha hb, extended_eq_iff ha hb]

theorem below_trans (h₁ : Below a b) (h₂ : Below b c) : Below a c := by
  rcases h₁ with h₁ | ⟨h₁, hs₁⟩ <;> rcases h₂ with h₂ | ⟨h₂, hs₂⟩
  · exact .inl (h₁.trans h₂)
  · exact .inl (h₂ ▸ h₁)
  · exact .inl (h₁ ▸ h₂)
  · exact .inr ⟨h₁.trans h₂, fun h => hs₁ (hs₂ h)⟩

theorem below_total (a b : Word) : Below a b ∨ Below b a := by
  rcases lt_trichotomy (extended a) (extended b) with h | h | h
  · exact .inl (.inl h)
  · cases hb : sign b with
    | false => exact .inl (.inr ⟨h, fun hs => absurd (hb.symm.trans hs) Bool.false_ne_true⟩)
    | true => exact .inr (.inr ⟨h.symm, fun _ => hb⟩)
  · exact .inr (.inl h)

theorem below_antisymm (ha : isnan a = false) (hb : isnan b = false) (h₁ : Below a b)
    (h₂ : Below b a) : a = b := by
  rw [below_iff ha hb] at h₁
  rw [below_iff hb ha] at h₂
  have hkey : key a = key b := by omega
  have hsign : sign a = sign b := by
    have h₁ := h₁.resolve_left (by omega)
    have h₂ := h₂.resolve_left (by omega)
    exact Bool.eq_iff_iff.mpr ⟨h₂.2, h₁.2⟩
  by_cases hzero : key a = 0
  · have hpa := (key_zero_iff a).mp hzero
    have hpb := (key_zero_iff b).mp (hkey ▸ hzero)
    exact eq_of_fields hsign (hpa.trans hpb.symm)
  · exact key_inj hkey hzero

end F32

open F32

variable {a b : Word}

/-! ## Minimum and maximum -/

theorem key_zero : key 0 = 0 := by decide

theorem eq_zero_iff (ha : isnan a = false) : F32.eq a 0 = true ↔ key a = 0 := by
  have hzero : isnan 0 = false := by decide
  unfold F32.eq
  rw [ha, hzero, key_zero]
  simp

theorem sign_bit (f : Word) : f &&& 0x80000000 ≠ 0 ↔ sign f = true :=
  BitVec.and_twoPow_ne_zero (i := 31) (by decide) f

theorem lt_iff (ha : isnan a = false) (hb : isnan b = false) :
    F32.lt a b = true ↔ key a < key b := by
  unfold F32.lt
  rw [ha, hb]
  simp

/-- FMIN and FMAX of two numbers: zeros are told apart by the sign, all other patterns by
the comparison. -/
theorem minmax_numbers (ha : isnan a = false) (hb : isnan b = false) :
    (Below a b → fmin a b = a ∧ fmax a b = b) ∧ (¬Below a b → fmin a b = b ∧ fmax a b = a) := by
  rw [below_iff ha hb]
  unfold fmin fmax
  simp only [ha, hb, Bool.and_self, Bool.false_eq_true, if_false]
  by_cases hzero : (F32.eq a 0 && F32.eq b 0) = true
  · -- two zeros
    rw [if_pos hzero, if_pos hzero]
    rw [Bool.and_eq_true, eq_zero_iff ha, eq_zero_iff hb] at hzero
    have hsame : sign a = sign b → a = b := fun hsign =>
      eq_of_fields hsign
        (((key_zero_iff a).mp hzero.1).trans ((key_zero_iff b).mp hzero.2).symm)
    simp only [hzero.1, hzero.2, lt_self_iff_false, false_or, true_and, sign_bit]
    cases hsa : sign a <;> cases hsb : sign b <;> simp_all
  · rw [if_neg hzero, if_neg hzero]
    simp only [lt_iff ha hb, lt_iff hb ha]
    rw [Bool.and_eq_true, eq_zero_iff ha, eq_zero_iff hb] at hzero
    have hsame : key a = key b → a = b := fun hkey =>
      key_inj hkey fun ha₀ => hzero ⟨ha₀, hkey ▸ ha₀⟩
    -- away from two zeros the keys decide
    rcases lt_trichotomy (key a) (key b) with h | h | h
    · rw [if_pos h, if_neg (by omega)]
      exact ⟨fun _ => ⟨rfl, rfl⟩, fun hno => absurd (.inl h) hno⟩
    · obtain rfl := hsame h
      simp
    · rw [if_neg (by omega), if_pos h]
      refine ⟨fun hyes => ?_, fun _ => ⟨rfl, rfl⟩⟩
      rcases hyes with hyes | hyes <;> omega

/-- The minimum and the maximum are the operands again. -/
theorem minmax_pair (ha : isnan a = false) (hb : isnan b = false) :
    ({fmin a b, fmax a b} : Multiset Word) = {a, b} := by
  obtain ⟨hyes, hno⟩ := minmax_numbers ha hb
  by_cases h : Below a b
  · rw [(hyes h).1, (hyes h).2]
  · rw [(hno h).1, (hno h).2]
    exact Multiset.pair_comm b a

theorem minmax_left_nan (ha : isnan a = true) (hb : isnan b = false) :
    fmin a b = b ∧ fmax a b = b := by
  simp [fmin, fmax, ha, hb]

theorem minmax_right_nan (ha : isnan a = false) (hb : isnan b = true) :
    fmin a b = a ∧ fmax a b = a := by
  simp [fmin, fmax, ha, hb]

theorem minmax_nans (ha : isnan a = true) (hb : isnan b = true) :
    fmin a b = canonicalNan ∧ fmax a b = canonicalNan := by
  simp [fmin, fmax, ha, hb]

/-- The result is no NaN but the canonical one. -/
theorem minmax_canonical (a b : Word) :
    (isnan (fmin a b) = true → fmin a b = canonicalNan) ∧
      (isnan (fmax a b) = true → fmax a b = canonicalNan) := by
  cases ha : isnan a <;> cases hb : isnan b
  · obtain ⟨hyes, hno⟩ := minmax_numbers ha hb
    by_cases h : Below a b
    · simp [(hyes h).1, (hyes h).2, ha, hb]
    · simp [(hno h).1, (hno h).2, ha, hb]
  · simp [minmax_right_nan ha hb, ha]
  · simp [minmax_left_nan ha hb, hb]
  · simp [minmax_nans ha hb]

/-! ## Classes -/

/-- FCLASS puts the signaling NaNs into class 8 and the quiet ones into class 9. -/
theorem classify_nan (f : Word) :
    (classifyFloat f).getLsbD 8 = isSnan f ∧
      ((classifyFloat f).getLsbD 8 || (classifyFloat f).getLsbD 9) = isnan f := by
  unfold classifyFloat isSnan isnan
  dsimp only
  by_cases hexp : F32.exp f = 0xFF
  · by_cases hfrac : F32.frac f = 0
    · rw [if_pos hexp, if_pos hfrac]
      cases f.getLsbD 31 <;> simp [hexp, hfrac] <;> decide
    · rw [if_pos hexp, if_neg hfrac]
      by_cases hquiet : F32.frac f &&& 0x400000 = 0
      · simp only [hexp, hfrac, hquiet, ne_eq, not_true, not_false_iff, if_false, decide_true,
          Bool.and_self]
        decide
      · simp only [hexp, hfrac, hquiet, ne_eq, not_false_iff, if_true, decide_true, decide_false,
          Bool.and_false, Bool.and_self]
        decide
  · rw [if_neg hexp]
    simp only [hexp, decide_false, Bool.false_and]
    split
    · split <;> split <;> decide
    · split <;> decide

/-- Every pattern is in one class. -/
theorem classify_one (f : Word) : ∃ i, i < 10 ∧ classifyFloat f = (1 : Word) <<< i := by
  unfold classifyFloat
  dsimp only
  split
  · split
    · split
      · exact ⟨0, by decide, rfl⟩
      · exact ⟨7, by decide, rfl⟩
    split
    · exact ⟨9, by decide, rfl⟩
    · exact ⟨8, by decide, rfl⟩
  split
  · split
    · split
      · exact ⟨3, by decide, rfl⟩
      · exact ⟨4, by decide, rfl⟩
    split
    · exact ⟨2, by decide, rfl⟩
    · exact ⟨5, by decide, rfl⟩
  split
  · exact ⟨1, by decide, rfl⟩
  · exact ⟨6, by decide, rfl⟩

/-! ## The laws together -/

/-- What FMIN, FMAX and the comparisons make of two numbers. -/
structure NumberOrder (a b : Word) : Prop where
  below : Below a b → fmin a b = a ∧ fmax a b = b
  above : ¬Below a b → fmin a b = b ∧ fmax a b = a
  pair : ({fmin a b, fmax a b} : Multiset Word) = {a, b}
  le : F32.le a b = true ↔ extended a ≤ extended b
  lt : F32.lt a b = (F32.le a b && !F32.eq a b)
  eq : F32.eq a b = true ↔ extended a = extended b

/-- What they and FCLASS make of any two patterns. -/
structure FloatOrder (a b : Word) : Prop where
  numbers : isnan a = false → isnan b = false → NumberOrder a b
  leftNan : isnan a = true → isnan b = false → fmin a b = b ∧ fmax a b = b
  rightNan : isnan a = false → isnan b = true → fmin a b = a ∧ fmax a b = a
  nans : isnan a = true → isnan b = true → fmin a b = 0x7FC00000 ∧ fmax a b = 0x7FC00000
  compareNan : isnan a = true ∨ isnan b = true →
    F32.eq a b = false ∧ F32.lt a b = false ∧ F32.le a b = false
  signaling : snanFlags a b =
    { nv := (classifyFloat a).getLsbD 8 || (classifyFloat b).getLsbD 8 }
  anyNan : nanFlags a b =
    { nv := ((classifyFloat a).getLsbD 8 || (classifyFloat a).getLsbD 9) ||
        ((classifyFloat b).getLsbD 8 || (classifyFloat b).getLsbD 9) }
  isNan : isnan a = ((classifyFloat a).getLsbD 8 || (classifyFloat a).getLsbD 9)
  oneClass : ∃ i, i < 10 ∧ classifyFloat a = (1 : Word) <<< i

theorem numberOrder (ha : isnan a = false) (hb : isnan b = false) : NumberOrder a b where
  below := (minmax_numbers ha hb).1
  above := (minmax_numbers ha hb).2
  pair := minmax_pair ha hb
  le := by
    rw [extended_le_iff ha hb]
    unfold F32.le
    rw [ha, hb]
    simp
  lt := by
    unfold F32.lt F32.le F32.eq
    rw [ha, hb]
    simp only [Bool.not_false, Bool.true_and, ← decide_not, ← Bool.decide_and]
    congr 1
    exact propext lt_iff_le_and_ne
  eq := by
    rw [extended_eq_iff ha hb]
    unfold F32.eq
    rw [ha, hb]
    simp

theorem floatOrder (a b : Word) : FloatOrder a b where
  numbers := numberOrder
  leftNan := minmax_left_nan
  rightNan := minmax_right_nan
  nans := minmax_nans
  compareNan := by
    intro h
    unfold F32.eq F32.lt F32.le
    rcases h with h | h <;> simp [h]
  signaling := by
    unfold snanFlags
    rw [(classify_nan a).1, (classify_nan b).1]
  anyNan := by
    unfold nanFlags
    rw [(classify_nan a).2, (classify_nan b).2]
  isNan := (classify_nan a).2.symm
  oneClass := classify_one a

/-- The instructions of the order that write a float register. -/
def floatOrderOp : InstrType → Option (Word → Word → Word × FFlags)
  | .fminS => some fun a b => (fmin a b, snanFlags a b)
  | .fmaxS => some fun a b => (fmax a b, snanFlags a b)
  | _ => none

/-- Those that write an integer register; FCLASS has one operand. -/
def intOrderOp : InstrType → Option (Word → Word → Word × FFlags)
  | .feqS => some fun a b => (if F32.eq a b then 1 else 0, snanFlags a b)
  | .fltS => some fun a b => (if F32.lt a b then 1 else 0, nanFlags a b)
  | .fleS => some fun a b => (if F32.le a b then 1 else 0, nanFlags a b)
  | .fclassS => some fun a _ => (classifyFloat a, {})
  | _ => none

end Rv32f

/-! ## Steps -/

section
variable {β : Type} [Bus β] [Rv32f.HostFloat] {config : CPUConfig} {cpu : CPU} {bus : β}
  {stim : Stimulus} {d : Rv32f.DecodedInstr} {op : Word → Word → Word × Rv32f.FFlags}

omit [Rv32f.HostFloat] in
theorem not_refused {fcsr : Rv32f.FCSR} (hlegal : d.type ≠ .illegal)
    (hrm : Rv32f.usesRm d.type = false) : ¬Rv32f.Refused d fcsr := by
  rintro (h | ⟨h, -⟩)
  · exact hlegal h
  · exact absurd (hrm.symm.trans h) (by decide)

theorem wrote_floatOrder (hwell : cpu.WellFormed config) (h : cpu.floatInstr bus stim = some d)
    (hop : Rv32f.floatOrderOp d.type = some op) :
    let out := cpu.stepOn bus stim
    WroteFloat cpu d (op (cpu.fregs.readBits d.rs1) (cpu.fregs.readBits d.rs2))
      (out.1, out.2.1) := by
  generalize ha : cpu.fregs.readBits d.rs1 = a
  generalize hb : cpu.fregs.readBits d.rs2 = b
  -- the result is no NaN but the canonical one, so writing it changes nothing
  have hwrote : ∀ {r : Word × Rv32f.FFlags},
      (Rv32f.F32.isnan r.1 = true → r.1 = Rv32f.F32.canonicalNan) →
      d.type ≠ .illegal → Rv32f.usesRm d.type = false →
      Rv32f.Executor.executeOp { allowMisaligned := cpu.config.allowMisalignedData } d
        (cpu.floatRm d) (cpu.floatState bus stim) =
          Rv32f.Executor.writeArith d (cpu.floatState bus stim) r →
      let out := cpu.stepOn bus stim
      WroteFloat cpu d r (out.1, out.2.1) := by
    intro r hcanonical hlegal hrm hexec
    have hstep := wroteFloat_arith hwell h (not_refused hlegal hrm) hexec
    have hsame : (if Rv32f.F32.isnan r.1 then Rv32f.F32.canonicalNan else r.1) = r.1 := by
      split
      · rename_i hnan
        exact (hcanonical hnan).symm
      · rfl
    rwa [hsame] at hstep
  cases htype : d.type
  case fminS =>
    rw [htype] at hop
    cases hop
    refine hwrote (Rv32f.minmax_canonical a b).1 (by rw [htype]; decide) (by rw [htype]; rfl) ?_
    unfold Rv32f.Executor.executeOp
    rw [htype, ← ha, ← hb]
    rfl
  case fmaxS =>
    rw [htype] at hop
    cases hop
    refine hwrote (Rv32f.minmax_canonical a b).2 (by rw [htype]; decide) (by rw [htype]; rfl) ?_
    unfold Rv32f.Executor.executeOp
    rw [htype, ← ha, ← hb]
    rfl
  all_goals
    rw [htype] at hop
    cases hop

theorem wrote_intOrder (hwell : cpu.WellFormed config) (h : cpu.floatInstr bus stim = some d)
    (hop : Rv32f.intOrderOp d.type = some op) :
    let out := cpu.stepOn bus stim
    WroteInt cpu d (op (cpu.fregs.readBits d.rs1) (cpu.fregs.readBits d.rs2))
      (out.1, out.2.1) := by
  have hwrote : d.type ≠ .illegal → Rv32f.usesRm d.type = false →
      Rv32f.Executor.executeOp { allowMisaligned := cpu.config.allowMisalignedData } d
        (cpu.floatRm d) (cpu.floatState bus stim) =
          Rv32f.Executor.writeInt d (cpu.floatState bus stim)
            (op (cpu.fregs.readBits d.rs1) (cpu.fregs.readBits d.rs2)).1
            (op (cpu.fregs.readBits d.rs1) (cpu.fregs.readBits d.rs2)).2 →
      let out := cpu.stepOn bus stim
      WroteInt cpu d (op (cpu.fregs.readBits d.rs1) (cpu.fregs.readBits d.rs2))
        (out.1, out.2.1) :=
    fun hlegal hrm hexec => wroteInt_of_op hwell h (not_refused hlegal hrm) hexec
  cases htype : d.type
  case feqS | fltS | fleS | fclassS =>
    rw [htype] at hop
    cases hop
    refine hwrote (by rw [htype]; decide) (by rw [htype]; rfl) ?_
    unfold Rv32f.Executor.executeOp
    rw [htype]
    rfl
  all_goals
    rw [htype] at hop
    cases hop

end

/-- **One order of the floats.** Any two patterns obey the laws of `FloatOrder`, where
`Below` is a total order of the patterns that are no NaN; and in every step of every run
FMIN, FMAX, FEQ, FLT, FLE and FCLASS write these results of the operands as they were
before the step, whichever of its registers coincide. -/
theorem float_order_run [Rv32f.HostFloat] (config : CPUConfig) (actions : List Action) :
    let cpu := (machine config).run (CPU.new config) actions
    (∀ a b, Rv32f.FloatOrder a b) ∧
      (∀ a b, Rv32f.F32.Below a b ∨ Rv32f.F32.Below b a) ∧
      (∀ a b c, Rv32f.F32.Below a b → Rv32f.F32.Below b c → Rv32f.F32.Below a c) ∧
      (∀ a b, Rv32f.F32.isnan a = false → Rv32f.F32.isnan b = false →
        Rv32f.F32.Below a b → Rv32f.F32.Below b a → a = b) ∧
      ∀ {β : Type} [Bus β] (bus : β) (stim : Stimulus) (d : Rv32f.DecodedInstr),
        let out := cpu.stepOn bus stim
        let a := cpu.fregs.readBits d.rs1
        let b := cpu.fregs.readBits d.rs2
        cpu.floatInstr bus stim = some d →
          (∀ op, Rv32f.floatOrderOp d.type = some op →
            WroteFloat cpu d (op a b) (out.1, out.2.1)) ∧
          (∀ op, Rv32f.intOrderOp d.type = some op →
            WroteInt cpu d (op a b) (out.1, out.2.1)) := by
  intro cpu
  have hwell : cpu.WellFormed config := Reachable.wellFormed ⟨actions, rfl⟩
  refine ⟨Rv32f.floatOrder, Rv32f.F32.below_total, fun _ _ _ => Rv32f.F32.below_trans,
    fun _ _ => Rv32f.F32.below_antisymm, ?_⟩
  intro β _ bus stim d out a b h
  exact ⟨fun op hop => wrote_floatOrder hwell h hop, fun op hop => wrote_intOrder hwell h hop⟩

/-- With -0 in f1 and +0 in f2, FMIN writes -0 and FLE writes 1; +0 is not below -0, -1 is
below +0 since it is below -0, and FMAX of a NaN and 1 is 1. -/
theorem float_order_run_zeros :
    let _ := Rv32f.nanHost
    let mem := SimpleMemory.new 0
    let cpu := (machine {}).run (CPU.new {})
      [.step mem (.inject 0x800000B7), .step mem (.inject 0xF00080D3)]
    let least := cpu.stepOn mem (.inject 0x282081D3)
    let atMost := cpu.stepOn mem (.inject 0xA02081D3)
    WroteFloat cpu (Rv32f.decodeOpcode 0x282081D3) (0x80000000, {}) (least.1, least.2.1) ∧
      WroteInt cpu (Rv32f.decodeOpcode 0xA02081D3) (1, {}) (atMost.1, atMost.2.1) ∧
      ¬Rv32f.F32.Below 0 0x80000000 ∧ Rv32f.F32.Below 0xBF800000 0 ∧
        Rv32f.fmax 0x7FC00000 0x3F800000 = 0x3F800000 := by
  intro _ mem cpu least atMost
  obtain ⟨hlaws, -, htrans, hantisymm, hsteps⟩ :=
    float_order_run {} [.step mem (.inject 0x800000B7), .step mem (.inject 0xF00080D3)]
  have hleast := (hsteps mem (.inject 0x282081D3) (Rv32f.decodeOpcode 0x282081D3)
    (by decide)).1 _ rfl
  have hatMost := (hsteps mem (.inject 0xA02081D3) (Rv32f.decodeOpcode 0xA02081D3)
    (by decide)).2 _ rfl
  have hmin : (Rv32f.fmin (cpu.fregs.readBits 1) (cpu.fregs.readBits 2),
      Rv32f.snanFlags (cpu.fregs.readBits 1) (cpu.fregs.readBits 2)) = (0x80000000, {}) := by
    decide
  have hle : ((if Rv32f.F32.le (cpu.fregs.readBits 1) (cpu.fregs.readBits 2) then 1 else 0 : Word),
      Rv32f.nanFlags (cpu.fregs.readBits 1) (cpu.fregs.readBits 2)) = (1, {}) := by
    decide
  have hminus : Rv32f.F32.Below 0xBF800000 0x80000000 :=
    (Rv32f.F32.below_iff (by decide) (by decide)).mpr (.inl (by decide))
  have hzeros : Rv32f.F32.Below 0x80000000 0 :=
    (Rv32f.F32.below_iff (by decide) (by decide)).mpr (.inr (by decide))
  refine ⟨hmin ▸ hleast, hle ▸ hatMost, fun h => ?_, htrans _ _ _ hminus hzeros,
    ((hlaws 0x7FC00000 0x3F800000).leftNan (by decide) (by decide)).2⟩
  exact absurd (hantisymm _ _ (by decide) (by decide) h hzeros) (by decide)

end Riscv

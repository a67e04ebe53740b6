import Riscv.FloatStep
import Riscv.FloatValue

/- Conversion of floats to integers.

   FCVT.W.S and FCVT.WU.S round on the host, compare the rounded float with the bounds
   of the integer type and cast it. With the host's roundings exact the result is the
   exact value of the operand rounded to an integer and saturated, and the flags say
   which of the two changed it. -/
namespace Riscv

open Zicsr Run

namespace Rv32f

/-! ## Rounding a rational to an integer -/

/-- Towards zero. -/
def truncate (q : ℚ) : ℤ := if 0 ≤ q then ⌊q⌋ else ⌈q⌉

/-- To nearest, ties to even. -/
def nearestEven (q : ℚ) : ℤ :=
  let n := ⌊q⌋
  if q - n < 1 / 2 then n
  else if 1 / 2 < q - n then n + 1
  else if n % 2 = 0 then n else n + 1

/-- To nearest, ties away from zero. -/
def nearestAway (q : ℚ) : ℤ := if 0 ≤ q then ⌊q + 1 / 2⌋ else ⌈q - 1 / 2⌉

/-- The integer a rounding mode rounds to. -/
def RoundingMode.toInt (rm : RoundingMode) (q : ℚ) : ℤ :=
  match rm with
  | .rtz => truncate q
  | .rdn => ⌊q⌋
  | .rup => ⌈q⌉
  | .rmm => nearestAway q
  | _ => nearestEven q

/-- What a conversion to the integers from `lo` to `hi` writes and raises: the rounded
value, inexact if it is another; out of range the nearest bound, invalid. -/
def convertSpec (lo hi : ℤ) (rm : RoundingMode) (x : Word) : Word × FFlags :=
  if F32.isnan x then (BitVec.ofInt 32 hi, { nv := true })
  else if F32.isInf x then (BitVec.ofInt 32 (if F32.sign x then lo else hi), { nv := true })
  else
    let n := rm.toInt (F32.value x)
    if n < lo then (BitVec.ofInt 32 lo, { nv := true })
    else if hi < n then (BitVec.ofInt 32 hi, { nv := true })
    else (BitVec.ofInt 32 n, { nx := decide ((n : ℚ) ≠ F32.value x) })

/-! ## The host -/

/-- `r` is `x` rounded to the integer `n` as `<cmath>` rounds: exactly if `x` is finite,
and an infinity is left as it is. -/
structure RoundedTo (x r : Word) (n : ℤ) : Prop where
  isFinite : F32.isFinite x = true → F32.isFinite r = true
  value : F32.isFinite x = true → F32.value r = n
  infinite : F32.isInf x = true → r = x

/-- The host rounds `x` exactly. -/
structure HostRounds [HostFloat] (x : Word) : Prop where
  trunc : RoundedTo x (HostFloat.trunc x) (truncate (F32.value x))
  floor : RoundedTo x (HostFloat.floor x) ⌊F32.value x⌋
  ceil : RoundedTo x (HostFloat.ceil x) ⌈F32.value x⌉
  round : RoundedTo x (HostFloat.round x) (nearestAway (F32.value x))
  nearbyint : RoundedTo x (HostFloat.nearbyint .toNearest x) (nearestEven (F32.value x))

theorem HostRounds.roundToInt [HostFloat] {x : Word} (h : HostRounds x) (rm : RoundingMode) :
    RoundedTo x (Rv32f.roundToInt x rm) (rm.toInt (F32.value x)) := by
  cases rm
  case rtz => exact h.trunc
  case rdn => exact h.floor
  case rup => exact h.ceil
  case rmm => exact h.round
  all_goals exact h.nearbyint

/-! ## The cast -/

namespace F32

/-- A significand shifted to its exponent is its value without the fraction. -/
theorem shift_div (m : Nat) {e : Nat} (he : 1 ≤ e) :
    (if 150 ≤ e then m <<< (e - 150) else m >>> (150 - e)) = m * 2 ^ (e - 1) / 2 ^ 149 := by
  split
  · have hsplit : e - 1 = e - 150 + 149 := by omega
    rw [Nat.shiftLeft_eq, hsplit, pow_add, ← mul_assoc, Nat.mul_div_cancel _ (by positivity)]
  · have hsplit : 149 = 150 - e + (e - 1) := by omega
    rw [Nat.shiftRight_eq_div_pow]
    conv_rhs => rw [hsplit, pow_add]
    rw [Nat.mul_div_mul_right _ _ (by positivity)]

theorem cast_mag (f : Word) :
    toIntTrunc f =
      if sign f then -((Binary.mag 23 (pattern f) / 2 ^ 149 : Nat) : Int)
      else (Binary.mag 23 (pattern f) / 2 ^ 149 : Nat) := by
  have hmag : Binary.mag 23 (pattern f) =
      if (exp f).toNat = 0 then (frac f).toNat
      else (2 ^ 23 + (frac f).toNat) * 2 ^ ((exp f).toNat - 1) := by
    rw [exp_toNat, frac_toNat]
    rfl
  unfold toIntTrunc
  dsimp only
  rw [shift_div _ (by split <;> omega), hmag]
  unfold sign
  by_cases he : (exp f).toNat = 0
  · simp [he]
  · simp [he, Nat.add_comm]

theorem toIntTrunc_of_value {f : Word} {n : ℤ} (h : value f = n) : toIntTrunc f = n := by
  have hscaled : scaled f = n * 2 ^ 149 := by
    unfold value at h
    rw [div_eq_iff (by positivity)] at h
    exact_mod_cast h
  have hdiv : ∀ {k : Nat} {n : ℤ}, (k : ℤ) = n * 2 ^ 149 → ((k / 2 ^ 149 : Nat) : ℤ) = n := by
    intro k n hk
    rw [Int.natCast_ediv, hk, Nat.cast_pow, Nat.cast_ofNat, Int.mul_ediv_cancel _ (by norm_num)]
  rw [scaled_eq] at hscaled
  rw [cast_mag]
  cases hsign : sign f with
  | true =>
    simp only [hsign, if_true] at hscaled ⊢
    rw [hdiv (n := -n) (by omega), neg_neg]
  | false =>
    simp only [hsign, Bool.false_eq_true, if_false] at hscaled ⊢
    exact hdiv hscaled

/-! ## Comparison -/

variable {a b : Word}

theorem le_value (ha : isFinite a = true) (hb : isFinite b = true) :
    F32.le a b = true ↔ value a ≤ value b := by
  unfold F32.le
  rw [isnan_of_finite ha, isnan_of_finite hb, value_le_iff]
  simp

theorem lt_value (ha : isFinite a = true) (hb : isFinite b = true) :
    F32.lt a b = true ↔ value a < value b := by
  unfold F32.lt
  rw [isnan_of_finite ha, isnan_of_finite hb, value_lt_iff]
  simp

theorem eq_value (ha : isFinite a = true) (hb : isFinite b = true) :
    F32.eq a b = true ↔ value a = value b := by
  unfold F32.eq
  rw [isnan_of_finite ha, isnan_of_finite hb, value_eq_iff]
  simp

end F32

/-! ## The conversions -/

/-- A saturating conversion by comparison with the bounds: `top` is one above the last
integer, `bottom` the first. -/
def convertBy [HostFloat] (top bottom : Word) (lo hi : ℤ) (x : Word) (rm : RoundingMode) :
    Word × FFlags :=
  if F32.isnan x then (BitVec.ofInt 32 hi, { nv := true })
  else
    let rounded := roundToInt x rm
    if F32.le top rounded then (BitVec.ofInt 32 hi, { nv := true })
    else if F32.lt rounded bottom then (BitVec.ofInt 32 lo, { nv := true })
    else (F32.toWord rounded, { nx := !F32.eq rounded x })

/-- **Conversion is exact** when the host's roundings are. -/
theorem convertBy_eq [HostFloat] {top bottom x : Word} {lo hi : ℤ} {rm : RoundingMode}
    (hhost : HostRounds x) (htop : F32.isFinite top = true) (hbottom : F32.isFinite bottom = true)
    (htopValue : F32.value top = hi + 1) (hbottomValue : F32.value bottom = lo) (hle : lo ≤ hi) :
    convertBy top bottom lo hi x rm = convertSpec lo hi rm x := by
  have hrounded := hhost.roundToInt rm
  unfold convertBy convertSpec
  cases hnan : F32.isnan x with
  | true => rfl
  | false =>
    dsimp only
    cases hinf : F32.isInf x with
    | true =>
      -- an infinity is beyond both bounds
      have hnan' : ∀ {f : Word}, F32.isFinite f = true → F32.isnan f = false :=
        F32.isnan_of_finite
      have hbounds := F32.key_finite htop
      have hbounds' := F32.key_finite hbottom
      have hkey := F32.key_inf hinf
      rw [hrounded.infinite hinf]
      unfold F32.le F32.lt
      rw [hnan, hnan' htop, hnan' hbottom]
      cases hsign : F32.sign x with
      | true =>
        rw [hsign, if_pos rfl] at hkey
        have hle : ¬F32.key top ≤ F32.key x := by omega
        have hlt : F32.key x < F32.key bottom := by omega
        simp [hle, hlt]
      | false =>
        rw [hsign, if_neg Bool.false_ne_true] at hkey
        have hle : F32.key top ≤ F32.key x := by omega
        simp [hle]
    | false =>
      have hx := F32.finite_of_number hnan hinf
      have hr := hrounded.isFinite hx
      have hn := hrounded.value hx
      generalize roundToInt x rm = r at hr hn
      generalize rm.toInt (F32.value x) = n at hn
      -- comparisons of floats are those of their values
      have habove : F32.le top r = true ↔ hi < n := by
        rw [F32.le_value htop hr, htopValue, hn]
        norm_cast
      have hbelow : F32.lt r bottom = true ↔ n < lo := by
        rw [F32.lt_value hr hbottom, hbottomValue, hn]
        norm_cast
      have hexact : (!F32.eq r x) = decide ((n : ℚ) ≠ F32.value x) := by
        rw [← hn, Bool.eq_iff_iff, Bool.not_eq_true', ← Bool.not_eq_true, F32.eq_value hr hx]
        simp
      have hcast : F32.toWord r = BitVec.ofInt 32 n := congrArg _ (F32.toIntTrunc_of_value hn)
      simp only [habove, hbelow, hexact, hcast, Bool.false_eq_true, if_false]
      split
      · rw [if_neg (by omega)]
      · rfl

/-- FCVT.W.S saturates to the signed words. -/
theorem fcvtWS_eq [HostFloat] {x : Word} (hhost : HostRounds x) (rm : RoundingMode) :
    fcvtWS x rm = convertSpec (-2147483648) 2147483647 rm x := by
  have htop : F32.scaled 0x4F000000 = 2147483648 * 2 ^ 149 := by decide +kernel
  have hbottom : F32.scaled 0xCF000000 = -2147483648 * 2 ^ 149 := by decide +kernel
  show convertBy 0x4F000000 0xCF000000 (-2147483648) 2147483647 x rm = _
  refine convertBy_eq hhost (by decide) (by decide) ?_ ?_ (by decide)
  · unfold F32.value
    rw [htop]
    norm_num
  · unfold F32.value
    rw [hbottom]
    norm_num

/-- FCVT.WU.S saturates to the unsigned words. -/
theorem fcvtWuS_eq [HostFloat] {x : Word} (hhost : HostRounds x) (rm : RoundingMode) :
    fcvtWuS x rm = convertSpec 0 4294967295 rm x := by
  have htop : F32.scaled 0x4F800000 = 4294967296 * 2 ^ 149 := by decide +kernel
  have hbottom : F32.scaled 0 = 0 := by decide +kernel
  show convertBy 0x4F800000 0 0 4294967295 x rm = _
  refine convertBy_eq hhost (by decide) (by decide) ?_ ?_ (by decide)
  · unfold F32.value
    rw [htop]
    norm_num
  · unfold F32.value
    rw [hbottom]
    norm_num

/-- A negative value that rounds to 0 converts to the unsigned 0, inexactly; one that rounds
to -1 is invalid. -/
theorem convertSpec_fraction {x : Word} (hx : F32.isFinite x = true) (hlt : F32.value x < 0)
    (rm : RoundingMode) :
    (rm.toInt (F32.value x) = 0 → convertSpec 0 4294967295 rm x = (0, { nx := true })) ∧
      (rm.toInt (F32.value x) = -1 → convertSpec 0 4294967295 rm x = (0, { nv := true })) := by
  have hnan := F32.isnan_of_finite hx
  have hinf : F32.isInf x = false := by
    rw [F32.isFinite_iff] at hx
    rw [← Bool.not_eq_true, F32.isInf_iff]
    omega
  unfold convertSpec
  rw [hnan, hinf]
  constructor
  · intro h
    rw [h]
    simp [hlt.ne']
  · intro h
    rw [h]
    simp

end Rv32f

/-! ## Steps -/

/-- **Conversion to integers is exact.** In every step of every run FCVT.W.S and FCVT.WU.S
write and raise what `convertSpec` says of their operand, in the rounding mode of the
instruction or of frm, if the host rounds the operand exactly; in particular a negative
value that rounds to 0 is inexact and one that rounds to -1 invalid for FCVT.WU.S. -/
theorem float_convert_run [Rv32f.HostFloat] (config : CPUConfig) (actions : List Action)
    {β : Type} [Bus β] (bus : β) (stim : Stimulus) (d : Rv32f.DecodedInstr) :
    let cpu := (machine config).run (CPU.new config) actions
    let out := cpu.stepOn bus stim
    let x := cpu.fregs.readBits d.rs1
    let rm := cpu.floatRm d
    cpu.floatInstr bus stim = some d → rm.toNat ≤ Rv32f.RoundingMode.rmm.toNat →
      Rv32f.HostRounds x →
        (d.type = .fcvtWS →
          WroteInt cpu d (Rv32f.convertSpec (-2147483648) 2147483647 rm x) (out.1, out.2.1)) ∧
        (d.type = .fcvtWuS →
          WroteInt cpu d (Rv32f.convertSpec 0 4294967295 rm x) (out.1, out.2.1)) ∧
        (Rv32f.F32.isFinite x = true → Rv32f.F32.value x < 0 →
          (rm.toInt (Rv32f.F32.value x) = 0 →
            Rv32f.convertSpec 0 4294967295 rm x = (0, { nx := true })) ∧
          (rm.toInt (Rv32f.F32.value x) = -1 →
            Rv32f.convertSpec 0 4294967295 rm x = (0, { nv := true }))) := by
  intro cpu out x rm hd hrm hhost
  have hwell : cpu.WellFormed config := Reachable.wellFormed ⟨actions, rfl⟩
  -- a valid mode is no reason to refuse
  have haccepted : d.type ≠ .illegal → ¬Rv32f.Refused d cpu.fcsrView := by
    rintro hlegal (h | ⟨-, h⟩)
    · exact hlegal h
    · exact absurd hrm (Nat.not_le_of_gt h)
  refine ⟨fun htype => ?_, fun htype => ?_, fun hx hlt => Rv32f.convertSpec_fraction hx hlt rm⟩
  · rw [← Rv32f.fcvtWS_eq hhost]
    refine wroteInt_of_op hwell hd (haccepted (by rw [htype]; decide)) ?_
    unfold Rv32f.Executor.executeOp
    rw [htype]
    rfl
  · rw [← Rv32f.fcvtWuS_eq hhost]
    refine wroteInt_of_op hwell hd (haccepted (by rw [htype]; decide)) ?_
    unfold Rv32f.Executor.executeOp
    rw [htype]
    rfl

/-- A host that rounds 2.5 as `<cmath>` does. -/
@[reducible] def roundingHost : Rv32f.HostFloat :=
  { Rv32f.nanHost with
    trunc := fun _ => 0x40000000
    floor := fun _ => 0x40000000
    ceil := fun _ => 0x40400000
    round := fun _ => 0x40400000
    nearbyint := fun _ _ => 0x40000000 }

theorem value_operand : Rv32f.F32.value 0x40200000 = 5 / 2 := by
  have hscaled : Rv32f.F32.scaled 0x40200000 = 5 * 2 ^ 148 := by decide +kernel
  unfold Rv32f.F32.value
  rw [hscaled]
  norm_num

theorem roundingHost_rounds :
    let _ := roundingHost
    Rv32f.HostRounds 0x40200000 := by
  intro host
  have htwo : Rv32f.F32.value 0x40000000 = 2 := by
    have hscaled : Rv32f.F32.scaled 0x40000000 = 2 * 2 ^ 149 := by decide +kernel
    unfold Rv32f.F32.value
    rw [hscaled]
    norm_num
  have hthree : Rv32f.F32.value 0x40400000 = 3 := by
    have hscaled : Rv32f.F32.scaled 0x40400000 = 3 * 2 ^ 149 := by decide +kernel
    unfold Rv32f.F32.value
    rw [hscaled]
    norm_num
  have hfloor : ⌊(5 / 2 : ℚ)⌋ = 2 := by norm_num [Int.floor_eq_iff]
  have hceil : ⌈(5 / 2 : ℚ)⌉ = 3 := by norm_num [Int.ceil_eq_iff]
  have haway : Rv32f.nearestAway (5 / 2) = 3 := by
    norm_num [Rv32f.nearestAway, Int.floor_eq_iff]
  have heven : Rv32f.nearestEven (5 / 2) = 2 := by
    norm_num [Rv32f.nearestEven, hfloor]
  have htrunc : Rv32f.truncate (5 / 2) = 2 := by norm_num [Rv32f.truncate, hfloor]
  have hinf : Rv32f.F32.isInf 0x40200000 = false := by decide
  refine ⟨?_, ?_, ?_, ?_, ?_⟩ <;>
    refine ⟨fun _ => by decide, fun _ => ?_, fun h => absurd (hinf.symm.trans h) (by decide)⟩ <;>
    rw [value_operand]
  · rw [htrunc]
    exact_mod_cast htwo
  · rw [hfloor]
    exact_mod_cast htwo
  · rw [hceil]
    exact_mod_cast hthree
  · rw [haway]
    exact_mod_cast hthree
  · rw [heven]
    exact_mod_cast htwo

/-- FCVT.W.S x2, f1 rounding up, after 2.5 was moved to f1: it writes 3, inexactly. -/
theorem float_convert_run_up :
    let _ := roundingHost
    let mem := SimpleMemory.new 0
    let actions := [0x402000B7, 0xF00080D3].map fun op => Action.step mem (.inject op)
    let cpu := (machine {}).run (CPU.new {}) actions
    let out := cpu.stepOn mem (.inject 0xC000B153)
    out.2.1.regs = cpu.regs.write 2 3 ∧
      out.2.1.csrs.get CsrAddr.fcsr = cpu.csrs.get CsrAddr.fcsr ||| 1 := by
  intro host mem actions cpu out
  have hx : cpu.fregs.readBits (Rv32f.decode 0xC000B153).rs1 = 0x40200000 := by decide
  have h := float_convert_run {} actions mem (.inject 0xC000B153) (Rv32f.decode 0xC000B153)
    (by decide) (by decide) (hx ▸ roundingHost_rounds)
  have hwrote := h.1 (by decide)
  have hrm : cpu.floatRm (Rv32f.decode 0xC000B153) = .rup := by decide
  have hspec : Rv32f.convertSpec (-2147483648) 2147483647 .rup 0x40200000 =
      (3, { nx := true }) := by
    have hceil : Rv32f.RoundingMode.toInt .rup (5 / 2) = 3 := by
      norm_num [Rv32f.RoundingMode.toInt, Int.ceil_eq_iff]
    have hnan : Rv32f.F32.isnan 0x40200000 = false := by decide
    have hinf : Rv32f.F32.isInf 0x40200000 = false := by decide
    unfold Rv32f.convertSpec
    rw [hnan, hinf, value_operand, hceil]
    norm_num
    rfl
  rw [hx, hrm, hspec] at hwrote
  exact ⟨hwrote.regs, hwrote.fcsr⟩

end Riscv

import Riscv.FloatStep
import Riscv.FloatValue
import Riscv.Lib.Fused

/- The fused multiply-adds.

   FMADD.S is the host's `std::fma`; FNMADD.S and FNMSUB.S negate what it returns, after
   the rounding. With a host that rounds as the standard says FMADD.S is exact, and the
   negated forms are, too, unless the sum is an exact cancellation or is rounded in a
   directed mode. -/
namespace Riscv

open Zicsr Run Binary

namespace Rv32f

/-- The mode of a binary format a host rounding mode is. -/
def HostRounding.mode : HostRounding → Mode
  | toNearest => .toNearest
  | towardZero => .towardZero
  | downward => .downward
  | upward => .upward

namespace F32

/-- binary32, in units of `2 ^ -298`. -/
def format : Format where
  point k := mag 23 k * 2 ^ 149
  zero := by rw [mag_zero, Nat.zero_mul]
  succ k := Nat.mul_lt_mul_of_pos_right (mag_strictMono 23 k.lt_succ_self) (by positivity)
  infinity := infinity
  infinity_pos := by decide
  bits := 31
  infinity_le := by decide
  unit := 2 ^ 149
  normal := 0x800000
  belowNormal := 0x800000 * 2 ^ 149 - 2 ^ 148

/-- The value and the kind of a pattern. -/
def datum (f : Word) : Datum :=
  { kind :=
      if isSnan f then .signaling else if isnan f then .quiet
      else if isInf f then .infinite else .finite
    neg := sign f
    mag := mag 23 (pattern f) }

/-- A register as the result of an operation: all NaNs are one. -/
def result (f : Word) : Result := if isnan f then .nan else .number (sign f) (pattern f)

/-- The bits a result is stored as. -/
def ofResult : Result → Word
  | .nan => canonicalNan
  | .number neg k => BitVec.ofNat 32 ((if neg then 2147483648 else 0) + k)

/-- The flags of the exceptions an operation signals. -/
def flags (e : Exceptions) : FFlags :=
  { nx := e.inexact
    uf := e.underflow
    of := e.overflow
    nv := e.invalid }

end F32

/-- The fused multiply-add of the standard: `a * b + c`, rounded once. -/
def fusedSpec (ch : Choices) (rm : RoundingMode) (a b c : Word) : Word × FFlags :=
  let r := F32.format.fma ch (hostRounding rm).mode (F32.datum a) (F32.datum b) (F32.datum c)
  (F32.ofResult r.1, F32.flags r.2)

/-- `std::fma` is the standard's, up to the bits of a NaN. -/
def HostFma [HostFloat] (ch : Choices) : Prop :=
  ∀ host a b c,
    let r := F32.format.fma ch host.mode (F32.datum a) (F32.datum b) (F32.datum c)
    F32.result (HostFloat.fma host a b c).1 = r.1 ∧
      (HostFloat.fma host a b c).2 = F32.flags r.2

/-- Negating the rounded `a * b + c` is rounding the negated: no number cancels to zero,
and a directed mode has nothing to round. -/
def NegationExact (rm : RoundingMode) (a b c : Word) : Prop :=
  F32.isFinite a = true → F32.isFinite b = true → F32.isFinite c = true →
    (F32.value a * F32.value b + F32.value c = 0 →
      xor (F32.sign a) (F32.sign b) = F32.sign c) ∧
      (rm = .rne ∨ rm = .rtz ∨
        ∃ x, F32.isFinite x = true ∧ F32.value x = F32.value a * F32.value b + F32.value c)

namespace F32

/-! ## Results and bits -/

theorem fields_ofResult (neg : Bool) {k : Nat} (hk : k < 2147483648) :
    sign (ofResult (.number neg k)) = neg ∧ pattern (ofResult (.number neg k)) = k := by
  have hnat : (ofResult (.number neg k)).toNat = (if neg then 2147483648 else 0) + k := by
    unfold ofResult
    rw [BitVec.toNat_ofNat, Nat.mod_eq_of_lt (by split <;> omega)]
  generalize ofResult (.number neg k) = f at hnat ⊢
  have hbits := toNat_eq f
  have hlt := pattern_lt f
  rw [hnat] at hbits
  cases neg <;> cases hsign : sign f <;>
    simp only [hsign, Bool.false_eq_true, if_true, if_false] at hbits ⊢ <;>
    first | exact ⟨trivial, by omega⟩ | omega

/-- A result is read back from its bits. -/
theorem result_ofResult {r : Result} (h : ∀ neg k, r = .number neg k → k ≤ infinity) :
    result (ofResult r) = r := by
  cases r with
  | nan =>
    have hnan : isnan canonicalNan = true := by decide
    unfold result ofResult
    dsimp only
    rw [if_pos hnan]
  | number neg k =>
    have hk := h neg k rfl
    have hmax : infinity < 2147483648 := by decide
    obtain ⟨hsign, hpattern⟩ := fields_ofResult neg (k := k) (by omega)
    have hnumber : isnan (ofResult (.number neg k)) = false := by
      rw [← Bool.not_eq_true, isnan_iff, hpattern]
      omega
    unfold result
    rw [hnumber, hsign, hpattern]
    rfl

/-- `write_canonical` stores the bits of the result. -/
theorem ofResult_result (f : Word) :
    ofResult (result f) = if isnan f then canonicalNan else f := by
  unfold result
  split
  · rfl
  · have hlt := pattern_lt f
    obtain ⟨hsign, hpattern⟩ := fields_ofResult (sign f) hlt
    exact eq_of_fields hsign hpattern

theorem result_of_bits {f g : Word} (h : ofResult (result f) = ofResult (result g)) :
    result f = result g := by
  have hback : ∀ f, result (ofResult (result f)) = result f := by
    intro f
    refine result_ofResult fun neg k hr => ?_
    unfold result at hr
    split at hr
    · cases hr
    · rename_i hnan
      cases hr
      rw [isnan_iff] at hnan
      exact not_lt.mp hnan
  rw [← hback f, h, hback]

theorem result_neg (f : Word) : result (neg f) = (result f).opposite := by
  unfold result
  rw [isnan_neg, sign_neg, pattern_neg]
  split <;> rfl

theorem datum_neg (f : Word) : datum (neg f) = (datum f).opposite := by
  have hsnan : isSnan (neg f) = isSnan f := by
    unfold isSnan
    rw [exp_neg, frac_neg]
  have hinf : isInf (neg f) = isInf f := by
    unfold isInf
    rw [exp_neg, frac_neg]
  unfold datum Datum.opposite
  rw [hsnan, isnan_neg, hinf, sign_neg, pattern_neg]

theorem finite_datum (f : Word) : (datum f).kind = .finite ↔ isFinite f = true := by
  unfold datum
  dsimp only
  constructor
  · intro h
    split at h
    · cases h
    · split at h
      · cases h
      · split at h
        · cases h
        · rename_i hnan hinf
          exact finite_of_number (Bool.eq_false_of_not_eq_true hnan)
            (Bool.eq_false_of_not_eq_true hinf)
  · intro h
    have hnan := isnan_of_finite h
    have hnumber : isInf f = false := by
      rw [isFinite_iff] at h
      rw [← Bool.not_eq_true, isInf_iff]
      omega
    have hsnan : isSnan f = false := by
      unfold isnan at hnan
      unfold isSnan
      rw [hnan]
      rfl
    rw [hsnan, hnan, hnumber]
    rfl

/-! ## The exact sum -/

theorem total_value (a b c : Word) :
    (format.total (datum a) (datum b) (datum c) : ℚ) =
      (value a * value b + value c) * (2 ^ 149 * 2 ^ 149) := by
  have hscaled : ∀ f, signed (sign f) (mag 23 (pattern f)) = scaled f := fun f =>
    (scaled_eq f).symm
  have htotal : format.total (datum a) (datum b) (datum c) =
      scaled a * scaled b + scaled c * 2 ^ 149 := by
    have hunit := signed_mul (sign c) (mag 23 (pattern c)) format.unit
    unfold Format.total
    rw [signed_xor]
    dsimp only [datum]
    rw [hscaled, hscaled, hunit, hscaled]
    rfl
  rw [htotal, Int.cast_add, Int.cast_mul, Int.cast_mul, Int.cast_pow, Int.cast_ofNat]
  unfold value
  field_simp

theorem exact_iff_value (a b c : Word) :
    format.Exact (format.total (datum a) (datum b) (datum c)).natAbs ↔
      ∃ x, isFinite x = true ∧ value x = value a * value b + value c := by
  have hvalue := total_value a b c
  generalize format.total (datum a) (datum b) (datum c) = s at hvalue
  -- cleared of the denominators, the sum is a number of steps of 2^-298
  have hiff : ∀ x, value x = value a * value b + value c ↔ scaled x * 2 ^ 149 = s := by
    intro x
    rw [← Int.cast_inj (α := ℚ), hvalue, Int.cast_mul, Int.cast_pow, Int.cast_ofNat]
    unfold value
    rw [div_eq_iff (by positivity), ← mul_left_inj' (c := (2 : ℚ) ^ 149) (by positivity),
      ← mul_assoc]
  simp only [hiff]
  constructor
  · rintro ⟨k, hk, hpoint⟩
    have hk' : k < infinity := hk
    have hmax : infinity < 2147483648 := by decide
    obtain ⟨hsign, hpattern⟩ := fields_ofResult (decide (s < 0)) (k := k) (by omega)
    refine ⟨ofResult (.number (decide (s < 0)) k), by rw [isFinite_iff, hpattern]; exact hk', ?_⟩
    have hpoint' : mag 23 k * 2 ^ 149 = s.natAbs := hpoint
    rw [scaled_eq, hsign, hpattern]
    by_cases hs : s < 0
    · rw [decide_eq_true hs, if_pos rfl]
      push_cast [← @Nat.cast_inj ℤ] at hpoint'
      rw [abs_of_neg hs] at hpoint'
      linarith
    · rw [decide_eq_false hs, if_neg Bool.false_ne_true]
      push_cast [← @Nat.cast_inj ℤ] at hpoint'
      rw [abs_of_nonneg (not_lt.mp hs)] at hpoint'
      exact hpoint'
  · rintro ⟨x, hx, rfl⟩
    refine ⟨pattern x, (isFinite_iff x).mp hx, ?_⟩
    have habs : (scaled x).natAbs = mag 23 (pattern x) := by
      rw [scaled_eq]
      split <;> simp
    rw [Int.natAbs_mul, habs]
    rfl

end F32

/-- What the library asks for a negation, said of values. -/
theorem negationSafe_iff {rm : RoundingMode} (hrm : rm.toNat ≤ RoundingMode.rup.toNat)
    (a b c : Word) :
    F32.format.NegationSafe (hostRounding rm).mode (F32.datum a) (F32.datum b) (F32.datum c) ↔
      NegationExact rm a b c := by
  have hmode : (hostRounding rm).mode.mirror = (hostRounding rm).mode ↔ rm = .rne ∨ rm = .rtz := by
    cases rm <;> revert hrm <;> decide
  have hzero : F32.format.total (F32.datum a) (F32.datum b) (F32.datum c) = 0 ↔
      F32.value a * F32.value b + F32.value c = 0 := by
    rw [← Int.cast_eq_zero (α := ℚ), F32.total_value, mul_eq_zero,
      or_iff_left (by positivity : (2 : ℚ) ^ 149 * 2 ^ 149 ≠ 0)]
  unfold Format.NegationSafe NegationExact
  rw [F32.finite_datum, F32.finite_datum, F32.finite_datum, hzero, hmode, F32.exact_iff_value,
    or_assoc]
  rfl

/-! ## The host -/

namespace HostFma

variable [HostFloat] {ch : Choices} (hhost : HostFma ch)
include hhost

/-- FMADD.S stores what the standard says. -/
theorem fused (rm : RoundingMode) (a b c : Word) :
    let r := HostFloat.fma (hostRounding rm) a b c
    (F32.ofResult (F32.result r.1), r.2) = fusedSpec ch rm a b c := by
  intro r
  obtain ⟨hresult, hflags⟩ := hhost (hostRounding rm) a b c
  exact Prod.ext (congrArg F32.ofResult hresult) hflags

variable {rm : RoundingMode} (hrm : rm.toNat ≤ RoundingMode.rup.toNat) {a b c : Word}
include hrm

/-- A negated result is that of the negated operands where `NegationExact` holds, -/
theorem negated (h : NegationExact rm a b c) :
    let r := HostFloat.fma (hostRounding rm) a b c
    (F32.ofResult (F32.result (F32.neg r.1)), r.2) =
      fusedSpec ch rm (F32.neg a) b (F32.neg c) := by
  intro r
  obtain ⟨hresult, hflags⟩ := hhost (hostRounding rm) a b c
  have hopposite : F32.format.fma ch _ _ _ _ = _ :=
    Format.fma_opposite ((negationSafe_iff hrm a b c).mpr h)
  have hspec : fusedSpec ch rm (F32.neg a) b (F32.neg c) =
      (F32.ofResult (F32.result r.1).opposite, r.2) := by
    unfold fusedSpec
    dsimp only
    rw [F32.datum_neg, F32.datum_neg, hopposite, hresult, hflags]
  rw [hspec, F32.result_neg]

/-- and has other bits elsewhere. -/
theorem exact_of_negated
    (h : F32.ofResult (F32.result (F32.neg (HostFloat.fma (hostRounding rm) a b c).1)) =
      (fusedSpec ch rm (F32.neg a) b (F32.neg c)).1) :
    NegationExact rm a b c := by
  obtain ⟨hresult, -⟩ := hhost (hostRounding rm) a b c
  obtain ⟨hresult', -⟩ := hhost (hostRounding rm) (F32.neg a) b (F32.neg c)
  have hstored := hhost.fused rm (F32.neg a) b (F32.neg c)
  rw [← hstored] at h
  have hsame := F32.result_of_bits h
  rw [F32.result_neg, hresult, hresult', F32.datum_neg, F32.datum_neg] at hsame
  exact (negationSafe_iff hrm a b c).mp (Format.safe_of_opposite hsame.symm)

end HostFma

end Rv32f

/-! ## Steps -/

theorem WroteFloat.unique {cpu : CPU} {d : Rv32f.DecodedInstr} {r r' : Word × Rv32f.FFlags}
    {out : CPUExecResult × CPU} (h : WroteFloat cpu d r out) (h' : WroteFloat cpu d r' out) :
    r.1 = r'.1 := by
  have hread : ∀ v : Word, (cpu.fregs.writeBits d.rd v).readBits d.rd = v := fun _ => if_pos rfl
  rw [← hread r.1, ← h.fregs, h'.fregs, hread]

section
variable {β : Type} [Bus β] [Rv32f.HostFloat] {config : CPUConfig} {cpu : CPU} {bus : β}
  {stim : Stimulus} {d : Rv32f.DecodedInstr} {ch : Choices}

omit [Rv32f.HostFloat] in
theorem accepted_of_rm (hlegal : d.type ≠ .illegal)
    (hrm : (cpu.floatRm d).toNat ≤ Rv32f.RoundingMode.rup.toNat) :
    ¬Rv32f.Refused d cpu.fcsrView := by
  have hmax : Rv32f.RoundingMode.rup.toNat ≤ Rv32f.RoundingMode.rmm.toNat := by decide
  rintro (h | ⟨-, h⟩)
  · exact hlegal h
  · exact absurd (hrm.trans hmax) (Nat.not_le_of_gt h)

/-- A step that negates the host's result. -/
theorem wrote_negated_iff (hwell : cpu.WellFormed config) (h : cpu.floatInstr bus stim = some d)
    (hhost : Rv32f.HostFma ch) (hlegal : d.type ≠ .illegal)
    (hrm : (cpu.floatRm d).toNat ≤ Rv32f.RoundingMode.rup.toNat) {a b c : Word}
    (hop : Rv32f.Executor.executeOp { allowMisaligned := cpu.config.allowMisalignedData } d
      (cpu.floatRm d) (cpu.floatState bus stim) =
        let r := Rv32f.HostFloat.fma (Rv32f.hostRounding (cpu.floatRm d)) a b c
        Rv32f.Executor.writeArith d (cpu.floatState bus stim) (Rv32f.F32.neg r.1, r.2)) :
    let out := cpu.stepOn bus stim
    WroteFloat cpu d
        (Rv32f.fusedSpec ch (cpu.floatRm d) (Rv32f.F32.neg a) b (Rv32f.F32.neg c))
        (out.1, out.2.1) ↔
      Rv32f.NegationExact (cpu.floatRm d) a b c := by
  intro out
  have hwrote := wroteFloat_arith hwell h (accepted_of_rm hlegal hrm) hop
  rw [← Rv32f.F32.ofResult_result] at hwrote
  constructor
  · exact fun hspec => hhost.exact_of_negated hrm (hwrote.unique hspec)
  · intro hexact
    rw [← hhost.negated hrm hexact]
    exact hwrote

/-- **The negated multiply-adds.** In every step of every run FMADD.S writes and raises what
the standard says of `a * b + c`, and FNMADD.S and FNMSUB.S what it says of
`(-a) * b + (-c)` and `(-a) * b + c` exactly where `NegationExact` holds, if the host's
`std::fma` is the standard's. -/
theorem float_negated_run (hhost : Rv32f.HostFma ch) (config : CPUConfig) (actions : List Action)
    (bus : β) (stim : Stimulus) (d : Rv32f.DecodedInstr) :
    let cpu := (machine config).run (CPU.new config) actions
    let out := cpu.stepOn bus stim
    let a := cpu.fregs.readBits d.rs1
    let b := cpu.fregs.readBits d.rs2
    let c := cpu.fregs.readBits d.rs3
    let rm := cpu.floatRm d
    cpu.floatInstr bus stim = some d → rm.toNat ≤ Rv32f.RoundingMode.rup.toNat →
      (d.type = .fmaddS → WroteFloat cpu d (Rv32f.fusedSpec ch rm a b c) (out.1, out.2.1)) ∧
      (d.type = .fnmaddS →
        (WroteFloat cpu d (Rv32f.fusedSpec ch rm (Rv32f.F32.neg a) b (Rv32f.F32.neg c))
            (out.1, out.2.1) ↔ Rv32f.NegationExact rm a b c)) ∧
      (d.type = .fnmsubS →
        (WroteFloat cpu d (Rv32f.fusedSpec ch rm (Rv32f.F32.neg a) b c) (out.1, out.2.1) ↔
          Rv32f.NegationExact rm a b (Rv32f.F32.neg c))) := by
  intro cpu out a b c rm hd hrm
  have hwell : cpu.WellFormed config := Reachable.wellFormed ⟨actions, rfl⟩
  refine ⟨fun htype => ?_, fun htype => ?_, fun htype => ?_⟩
  -- FMADD stores the host's own result; the other two negate it after rounding
  · have hlegal : d.type ≠ .illegal := by rw [htype]; decide
    have hwrote := wroteFloat_arith hwell hd (accepted_of_rm hlegal hrm)
      (r := Rv32f.HostFloat.fma (Rv32f.hostRounding rm) a b c) (by
        unfold Rv32f.Executor.executeOp
        rw [htype]
        rfl)
    rw [← Rv32f.F32.ofResult_result, hhost.fused] at hwrote
    exact hwrote
  · refine wrote_negated_iff hwell hd hhost (by rw [htype]; decide) hrm ?_
    unfold Rv32f.Executor.executeOp
    rw [htype]
    rfl
  · have hstep := wrote_negated_iff (a := a) (b := b) (c := Rv32f.F32.neg c) hwell hd hhost
      (by rw [htype]; decide) hrm (by
        unfold Rv32f.Executor.executeOp
        rw [htype]
        rfl)
    rw [Rv32f.F32.neg_twice] at hstep
    exact hstep

end

/-- A host whose `std::fma` is the standard's. -/
@[reducible] def fusedHost (ch : Choices) : Rv32f.HostFloat :=
  { Rv32f.nanHost with
    fma := fun host a b c =>
      let r := Rv32f.F32.format.fma ch host.mode (Rv32f.F32.datum a) (Rv32f.F32.datum b)
        (Rv32f.F32.datum c)
      (Rv32f.F32.ofResult r.1, Rv32f.F32.flags r.2) }

theorem fusedHost_fma (ch : Choices) :
    let _ := fusedHost ch
    Rv32f.HostFma ch := by
  intro _ host a b c
  exact ⟨Rv32f.F32.result_ofResult fun _ _ h => Format.fma_pattern h, rfl⟩

/-- FNMADD.S f3, f1, f1, f2 to nearest, with 1 in f1 and f2: it writes -2. -/
theorem float_negated_run_sum :
    let _ := fusedHost { tinyAfterRounding := true, invalidQuiet := false }
    let mem := SimpleMemory.new 0
    let actions := [0x3F8000B7, 0xF00080D3, 0xF0008153].map fun op => Action.step mem (.inject op)
    let cpu := (machine {}).run (CPU.new {}) actions
    let out := cpu.stepOn mem (.inject 0x101081CF)
    out.2.1.fregs = cpu.fregs.writeBits 3 0xC0000000 := by
  intro host mem actions cpu out
  have h := float_negated_run (fusedHost_fma _) {} actions mem (.inject 0x101081CF)
    (Rv32f.decode 0x101081CF) (by decide) (by decide)
  have hwrote := (h.2.1 (by decide)).mpr fun _ _ _ => ⟨fun _ => by decide, .inl (by decide)⟩
  have hspec : Rv32f.fusedSpec { tinyAfterRounding := true, invalidQuiet := false } .rne
      (Rv32f.F32.neg 0x3F800000) 0x3F800000 (Rv32f.F32.neg 0x3F800000) = (0xC0000000, {}) := by
    decide +kernel
  have hfregs := hwrote.fregs
  have hone : cpu.fregs.readBits (Rv32f.decode 0x101081CF).rs1 = 0x3F800000 ∧
      cpu.fregs.readBits (Rv32f.decode 0x101081CF).rs2 = 0x3F800000 ∧
      cpu.fregs.readBits (Rv32f.decode 0x101081CF).rs3 = 0x3F800000 := by decide
  have hrm : cpu.floatRm (Rv32f.decode 0x101081CF) = .rne := by decide
  rw [hone.1, hone.2.1, hone.2.2, hrm, hspec] at hfregs
  exact hfregs

/-- FNMADD.S f3, f1, f1, f2 to nearest, with 1 in f1 and -1 in f2: the sum cancels, and the
negated zero is written where `-1 + 1` is the positive one. -/
theorem float_negated_cancels :
    ¬∀ (ch : Choices) [Rv32f.HostFloat], Rv32f.HostFma ch →
      ∀ (config : CPUConfig) (actions : List Action) (bus : SimpleMemory) (stim : Stimulus)
        (d : Rv32f.DecodedInstr),
        let cpu := (machine config).run (CPU.new config) actions
        let out := cpu.stepOn bus stim
        let a := cpu.fregs.readBits d.rs1
        let b := cpu.fregs.readBits d.rs2
        let c := cpu.fregs.readBits d.rs3
        let rm := cpu.floatRm d
        cpu.floatInstr bus stim = some d → rm.toNat ≤ Rv32f.RoundingMode.rup.toNat →
          d.type = .fnmaddS →
            WroteFloat cpu d (Rv32f.fusedSpec ch rm (Rv32f.F32.neg a) b (Rv32f.F32.neg c))
              (out.1, out.2.1) := by
  intro h
  let mem := SimpleMemory.new 0
  let actions := [0x3F8000B7, 0xF00080D3, 0xBF800137, 0xF0010153].map fun op =>
    Action.step mem (.inject op)
  have hwrote := @h { tinyAfterRounding := true, invalidQuiet := false } (fusedHost _)
    (fusedHost_fma _) {} actions mem (.inject 0x101081CF) (Rv32f.decode 0x101081CF)
    (by decide) (by decide) (by decide)
  have hbits := congrArg (·.readBits 3) hwrote.fregs
  revert hbits
  decide +kernel

end Riscv

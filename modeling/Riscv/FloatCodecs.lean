import Riscv.EncoderFields
import Riscv.Lib.Codec
import Riscv.RvcFields

/- F and Zcf: their encoders and decoders are inverse. -/
namespace Riscv

/-! ## F -/

namespace Rv32f

/-- A call of a helper of `rv32f::encode`, with its rounding mode where it takes one. -/
inductive Call where
  | flw (rd rs1 : BitVec 8) (imm : Word)
  | fsw (rs2 rs1 : BitVec 8) (imm : Word)
  | faddS (rd rs1 rs2 rm : BitVec 8)
  | fsubS (rd rs1 rs2 rm : BitVec 8)
  | fmulS (rd rs1 rs2 rm : BitVec 8)
  | fdivS (rd rs1 rs2 rm : BitVec 8)
  | fsqrtS (rd rs1 rm : BitVec 8)
  | fminS (rd rs1 rs2 : BitVec 8)
  | fmaxS (rd rs1 rs2 : BitVec 8)
  | fmaddS (rd rs1 rs2 rs3 rm : BitVec 8)
  | fmsubS (rd rs1 rs2 rs3 rm : BitVec 8)
  | fnmaddS (rd rs1 rs2 rs3 rm : BitVec 8)
  | fnmsubS (rd rs1 rs2 rs3 rm : BitVec 8)
  | fcvtWS (rd rs1 rm : BitVec 8)
  | fcvtWuS (rd rs1 rm : BitVec 8)
  | fcvtSW (rd rs1 rm : BitVec 8)
  | fcvtSWu (rd rs1 rm : BitVec 8)
  | fmvXW (rd rs1 : BitVec 8)
  | fmvWX (rd rs1 : BitVec 8)
  | feqS (rd rs1 rs2 : BitVec 8)
  | fltS (rd rs1 rs2 : BitVec 8)
  | fleS (rd rs1 rs2 : BitVec 8)
  | fsgnjS (rd rs1 rs2 : BitVec 8)
  | fsgnjnS (rd rs1 rs2 : BitVec 8)
  | fsgnjxS (rd rs1 rs2 : BitVec 8)
  | fclassS (rd rs1 : BitVec 8)
  deriving DecidableEq, Repr

namespace Call

/-- The word the helper makes. -/
def encode : Call → Word
  | flw rd rs1 imm => Encode.flw rd rs1 imm
  | fsw rs2 rs1 imm => Encode.fsw rs2 rs1 imm
  | faddS rd rs1 rs2 rm => Encode.faddS rd rs1 rs2 rm
  | fsubS rd rs1 rs2 rm => Encode.fsubS rd rs1 rs2 rm
  | fmulS rd rs1 rs2 rm => Encode.fmulS rd rs1 rs2 rm
  | fdivS rd rs1 rs2 rm => Encode.fdivS rd rs1 rs2 rm
  | fsqrtS rd rs1 rm => Encode.fsqrtS rd rs1 rm
  | fminS rd rs1 rs2 => Encode.fminS rd rs1 rs2
  | fmaxS rd rs1 rs2 => Encode.fmaxS rd rs1 rs2
  | fmaddS rd rs1 rs2 rs3 rm => Encode.fmaddS rd rs1 rs2 rs3 rm
  | fmsubS rd rs1 rs2 rs3 rm => Encode.fmsubS rd rs1 rs2 rs3 rm
  | fnmaddS rd rs1 rs2 rs3 rm => Encode.fnmaddS rd rs1 rs2 rs3 rm
  | fnmsubS rd rs1 rs2 rs3 rm => Encode.fnmsubS rd rs1 rs2 rs3 rm
  | fcvtWS rd rs1 rm => Encode.fcvtWS rd rs1 rm
  | fcvtWuS rd rs1 rm => Encode.fcvtWuS rd rs1 rm
  | fcvtSW rd rs1 rm => Encode.fcvtSW rd rs1 rm
  | fcvtSWu rd rs1 rm => Encode.fcvtSWu rd rs1 rm
  | fmvXW rd rs1 => Encode.fmvXW rd rs1
  | fmvWX rd rs1 => Encode.fmvWX rd rs1
  | feqS rd rs1 rs2 => Encode.feqS rd rs1 rs2
  | fltS rd rs1 rs2 => Encode.fltS rd rs1 rs2
  | fleS rd rs1 rs2 => Encode.fleS rd rs1 rs2
  | fsgnjS rd rs1 rs2 => Encode.fsgnjS rd rs1 rs2
  | fsgnjnS rd rs1 rs2 => Encode.fsgnjnS rd rs1 rs2
  | fsgnjxS rd rs1 rs2 => Encode.fsgnjxS rd rs1 rs2
  | fclassS rd rs1 => Encode.fclassS rd rs1

/-- Registers are below 32, offsets are of twelve bits, and `rm` is of three. -/
def InRange : Call → Prop
  | flw rd rs1 imm => IsReg rd ∧ IsReg rs1 ∧ IsImm12 imm
  | fsw rs2 rs1 imm => IsReg rs2 ∧ IsReg rs1 ∧ IsImm12 imm
  | faddS rd rs1 rs2 rm | fsubS rd rs1 rs2 rm | fmulS rd rs1 rs2 rm | fdivS rd rs1 rs2 rm =>
    IsReg rd ∧ IsReg rs1 ∧ IsReg rs2 ∧ IsRm rm
  | fsqrtS rd rs1 rm | fcvtWS rd rs1 rm | fcvtWuS rd rs1 rm | fcvtSW rd rs1 rm
  | fcvtSWu rd rs1 rm => IsReg rd ∧ IsReg rs1 ∧ IsRm rm
  | fmaddS rd rs1 rs2 rs3 rm | fmsubS rd rs1 rs2 rs3 rm | fnmaddS rd rs1 rs2 rs3 rm
  | fnmsubS rd rs1 rs2 rs3 rm => IsReg rd ∧ IsReg rs1 ∧ IsReg rs2 ∧ IsReg rs3 ∧ IsRm rm
  | fminS rd rs1 rs2 | fmaxS rd rs1 rs2 | feqS rd rs1 rs2 | fltS rd rs1 rs2 | fleS rd rs1 rs2
  | fsgnjS rd rs1 rs2 | fsgnjnS rd rs1 rs2 | fsgnjxS rd rs1 rs2 =>
    IsReg rd ∧ IsReg rs1 ∧ IsReg rs2
  | fmvXW rd rs1 | fmvWX rd rs1 | fclassS rd rs1 => IsReg rd ∧ IsReg rs1

/-- The fields a word of the call has. -/
def Fields : Call → Word → Prop
  | flw rd rs1 imm, w => FlwFields w imm rs1 rd
  | fsw rs2 rs1 imm, w => FswFields w imm rs2 rs1
  | faddS rd rs1 rs2 rm, w => IsRm rm ∧ RFields w Funct7.faddS rs2 rs1 rm rd Opcode.opFp
  | fsubS rd rs1 rs2 rm, w => IsRm rm ∧ RFields w Funct7.fsubS rs2 rs1 rm rd Opcode.opFp
  | fmulS rd rs1 rs2 rm, w => IsRm rm ∧ RFields w Funct7.fmulS rs2 rs1 rm rd Opcode.opFp
  | fdivS rd rs1 rs2 rm, w => IsRm rm ∧ RFields w Funct7.fdivS rs2 rs1 rm rd Opcode.opFp
  | fsqrtS rd rs1 rm, w => IsRm rm ∧ RFields w Funct7.fsqrtS 0 rs1 rm rd Opcode.opFp
  | fminS rd rs1 rs2, w => RFields w Funct7.fminmaxS rs2 rs1 0b000 rd Opcode.opFp
  | fmaxS rd rs1 rs2, w => RFields w Funct7.fminmaxS rs2 rs1 0b001 rd Opcode.opFp
  | fmaddS rd rs1 rs2 rs3 rm, w => IsRm rm ∧ R4Fields w rs3 rs2 rs1 rm rd Opcode.madd
  | fmsubS rd rs1 rs2 rs3 rm, w => IsRm rm ∧ R4Fields w rs3 rs2 rs1 rm rd Opcode.msub
  | fnmaddS rd rs1 rs2 rs3 rm, w => IsRm rm ∧ R4Fields w rs3 rs2 rs1 rm rd Opcode.nmadd
  | fnmsubS rd rs1 rs2 rs3 rm, w => IsRm rm ∧ R4Fields w rs3 rs2 rs1 rm rd Opcode.nmsub
  | fcvtWS rd rs1 rm, w => IsRm rm ∧ RFields w Funct7.fcvtWS 0 rs1 rm rd Opcode.opFp
  | fcvtWuS rd rs1 rm, w => IsRm rm ∧ RFields w Funct7.fcvtWS 1 rs1 rm rd Opcode.opFp
  | fcvtSW rd rs1 rm, w => IsRm rm ∧ RFields w Funct7.fcvtSW 0 rs1 rm rd Opcode.opFp
  | fcvtSWu rd rs1 rm, w => IsRm rm ∧ RFields w Funct7.fcvtSW 1 rs1 rm rd Opcode.opFp
  | fmvXW rd rs1, w => RFields w Funct7.fmvFclass 0 rs1 0b000 rd Opcode.opFp
  | fmvWX rd rs1, w => RFields w Funct7.fmvWX 0 rs1 0b000 rd Opcode.opFp
  | feqS rd rs1 rs2, w => RFields w Funct7.fcmpS rs2 rs1 0b010 rd Opcode.opFp
  | fltS rd rs1 rs2, w => RFields w Funct7.fcmpS rs2 rs1 0b001 rd Opcode.opFp
  | fleS rd rs1 rs2, w => RFields w Funct7.fcmpS rs2 rs1 0b000 rd Opcode.opFp
  | fsgnjS rd rs1 rs2, w => RFields w Funct7.fsgnjS rs2 rs1 0b000 rd Opcode.opFp
  | fsgnjnS rd rs1 rs2, w => RFields w Funct7.fsgnjS rs2 rs1 0b001 rd Opcode.opFp
  | fsgnjxS rd rs1 rs2, w => RFields w Funct7.fsgnjS rs2 rs1 0b010 rd Opcode.opFp
  | fclassS rd rs1, w => RFields w Funct7.fmvFclass 0 rs1 0b001 rd Opcode.opFp

theorem encode_iff (c : Call) (w : Word) : c.InRange ∧ c.encode = w ↔ c.Fields w := by
  cases c
  case flw => exact flw_iff
  case fsw => exact fsw_iff
  case faddS | fsubS | fmulS | fdivS => exact rTypeF_iff (by decide) (by decide)
  case fsqrtS | fcvtWS | fcvtWuS | fcvtSW | fcvtSWu =>
    exact rTypeF_unary_iff (by decide) (by decide) (by decide)
  case fmaddS | fmsubS | fnmaddS | fnmsubS => exact r4Type_iff (by decide)
  case fmvXW | fmvWX | fclassS =>
    exact rTypeF_funct3_unary_iff (by decide) (by decide) (by decide) isReg_zero
  all_goals exact rTypeF_funct3_iff (by decide) (by decide) (by decide)

end Call

/-- The helper call a decoded instruction stands for. -/
def DecodedInstr.call (d : DecodedInstr) : Option Call :=
  match d.type with
  | .flw => some (.flw d.rd d.rs1 d.imm)
  | .fsw => some (.fsw d.rs2 d.rs1 d.imm)
  | .faddS => some (.faddS d.rd d.rs1 d.rs2 d.rm)
  | .fsubS => some (.fsubS d.rd d.rs1 d.rs2 d.rm)
  | .fmulS => some (.fmulS d.rd d.rs1 d.rs2 d.rm)
  | .fdivS => some (.fdivS d.rd d.rs1 d.rs2 d.rm)
  | .fsqrtS => some (.fsqrtS d.rd d.rs1 d.rm)
  | .fminS => some (.fminS d.rd d.rs1 d.rs2)
  | .fmaxS => some (.fmaxS d.rd d.rs1 d.rs2)
  | .fmaddS => some (.fmaddS d.rd d.rs1 d.rs2 d.rs3 d.rm)
  | .fmsubS => some (.fmsubS d.rd d.rs1 d.rs2 d.rs3 d.rm)
  | .fnmaddS => some (.fnmaddS d.rd d.rs1 d.rs2 d.rs3 d.rm)
  | .fnmsubS => some (.fnmsubS d.rd d.rs1 d.rs2 d.rs3 d.rm)
  | .fcvtWS => some (.fcvtWS d.rd d.rs1 d.rm)
  | .fcvtWuS => some (.fcvtWuS d.rd d.rs1 d.rm)
  | .fcvtSW => some (.fcvtSW d.rd d.rs1 d.rm)
  | .fcvtSWu => some (.fcvtSWu d.rd d.rs1 d.rm)
  | .fmvXW => some (.fmvXW d.rd d.rs1)
  | .fmvWX => some (.fmvWX d.rd d.rs1)
  | .feqS => some (.feqS d.rd d.rs1 d.rs2)
  | .fltS => some (.fltS d.rd d.rs1 d.rs2)
  | .fleS => some (.fleS d.rd d.rs1 d.rs2)
  | .fsgnjS => some (.fsgnjS d.rd d.rs1 d.rs2)
  | .fsgnjnS => some (.fsgnjnS d.rd d.rs1 d.rs2)
  | .fsgnjxS => some (.fsgnjxS d.rd d.rs1 d.rs2)
  | .fclassS => some (.fclassS d.rd d.rs1)
  | .illegal => none

theorem isSome_call (d : DecodedInstr) : d.call.isSome ↔ d.type ≠ .illegal := by
  unfold DecodedInstr.call
  cases d.type <;> simp

/-- The switch read the call `c`, and its rounding mode is one. -/
def DecodedInstr.Reads (d : DecodedInstr) (c : Call) : Prop :=
  d.call = some c ∧ (usesRm d.type = true → IsRm d.rm)

/-- The opcode switch decides, except for a reserved rounding mode. -/
theorem call_iff (w : Word) (c : Call) :
    (decode w).call = some c ↔ (decodeOpcode w).Reads c := by
  have hlt : (decodeOpcode w).rm.toNat < 8 :=
    ((funct3_iff w).mp (decodeOpcode_rm w).symm).1
  simp only [decode, DecodedInstr.Reads]
  split
  · next hres =>
    have hnot : ¬ IsRm (decodeOpcode w).rm := by
      rintro ⟨-, h5, h6⟩
      exact hres.2.elim h5 h6
    simp [DecodedInstr.call, hres.1, hnot]
  · next hres =>
    have hrm : usesRm (decodeOpcode w).type = true → IsRm (decodeOpcode w).rm := by
      intro huse
      exact ⟨hlt, fun h5 => hres ⟨huse, .inl h5⟩, fun h6 => hres ⟨huse, .inr h6⟩⟩
    exact (and_iff_left hrm).symm

theorem call_of_fields (c : Call) (w : Word) (f : c.Fields w) : (decode w).call = some c := by
  rw [call_iff]
  cases c
  case flw =>
    obtain ⟨himm, h1, h3, hd, hop⟩ := f
    simp [DecodedInstr.Reads, decodeOpcode, DecodedInstr.call, usesRm, himm, h1, h3, hd, hop]
  case fsw =>
    obtain ⟨himm, h2, h1, h3, hop⟩ := f
    simp [DecodedInstr.Reads, decodeOpcode, DecodedInstr.call, usesRm, himm, h2, h1, h3, hop, Opcode.loadFp,
      Opcode.storeFp]
  case fmaddS | fmsubS | fnmaddS | fnmsubS =>
    obtain ⟨hok, h3, hfmt, h2, h1, hrm, hd, hop⟩ := f
    simp [DecodedInstr.Reads, decodeOpcode, DecodedInstr.call, hok, h3, hfmt, h2, h1, hrm, hd, hop, Opcode.loadFp,
      Opcode.storeFp, Opcode.madd, Opcode.msub, Opcode.nmsub, Opcode.nmadd]
  case faddS | fsubS | fmulS | fdivS | fsqrtS | fcvtWS | fcvtWuS | fcvtSW | fcvtSWu =>
    obtain ⟨hok, h7, h2, h1, hrm, hd, hop⟩ := f
    simp [DecodedInstr.Reads, decodeOpcode, decodeOpFp, DecodedInstr.call, hok, h7, h2, h1, hrm, hd, hop,
      Opcode.loadFp, Opcode.storeFp, Opcode.madd, Opcode.msub, Opcode.nmsub, Opcode.nmadd,
      Opcode.opFp, Funct7.faddS, Funct7.fsubS, Funct7.fmulS, Funct7.fdivS, Funct7.fsqrtS,
      Funct7.fsgnjS, Funct7.fminmaxS, Funct7.fcvtWS, Funct7.fmvFclass, Funct7.fcmpS, Funct7.fcvtSW]
  all_goals
    obtain ⟨h7, h2, h1, h3, hd, hop⟩ := f
    simp [DecodedInstr.Reads, decodeOpcode, decodeOpFp, DecodedInstr.call, usesRm, h7, h2, h1, h3, hd, hop,
      Opcode.loadFp, Opcode.storeFp, Opcode.madd, Opcode.msub, Opcode.nmsub, Opcode.nmadd,
      Opcode.opFp, Funct7.faddS, Funct7.fsubS, Funct7.fmulS, Funct7.fdivS, Funct7.fsqrtS,
      Funct7.fsgnjS, Funct7.fminmaxS, Funct7.fcvtWS, Funct7.fmvFclass, Funct7.fcmpS,
      Funct7.fcvtSW, Funct7.fmvWX]

/-- What an `if` reads, one of its branches reads. -/
theorem reads_ite {p q : Prop} [Decidable p] {x y : DecodedInstr} {c : Call}
    (hx : p → x.Reads c → q) (hy : ¬ p → y.Reads c → q) :
    (if p then x else y).Reads c → q := by
  split
  · exact hx ‹p›
  · exact hy ‹¬ p›

theorem not_reads_illegal {d : DecodedInstr} {c : Call} (hd : d.type = .illegal) :
    ¬ d.Reads c := by
  rintro ⟨hc, -⟩
  simp [DecodedInstr.call, hd] at hc

/-- The fields behind a call read on OP-FP: `funct7`, then `rs2` or `funct3` where they
are part of the operation. -/
theorem fields_of_opFp {w : Word} {d : DecodedInstr} {c : Call} (hd : d.type = .illegal)
    (hrm : d.rm = d.funct3) (f : RFields w d.funct7 d.rs2 d.rs1 d.rm d.rd Opcode.opFp) :
    (decodeOpFp d).Reads c → c.Fields w := by
  obtain ⟨h7, h2, h1, h3, hrd, hop⟩ := f
  unfold decodeOpFp
  repeat' refine reads_ite (fun hsel => ?_) (fun _ => ?_)
  all_goals first
    | exact fun h => absurd h (not_reads_illegal hd)
    | rintro ⟨hc, hok⟩
      cases hc
      first
        | exact ⟨hok rfl, h7.trans ‹_›, h2.trans hsel, h1, h3, hrd, hop⟩
        | exact ⟨hok rfl, h7.trans hsel, h2, h1, h3, hrd, hop⟩
        | exact ⟨h7.trans ‹_›, h2.trans hsel, h1, (h3.trans hrm).trans ‹_›, hrd, hop⟩
        | exact ⟨h7.trans ‹_›, h2.trans hsel.2, h1, (h3.trans hrm).trans hsel.1, hrd, hop⟩
        | exact ⟨h7.trans ‹_›, h2, h1, (h3.trans hrm).trans hsel, hrd, hop⟩

theorem fields_of_call (w : Word) (c : Call) (h : (decode w).call = some c) : c.Fields w := by
  have hill : (Encoding.blankF w).Reads c → c.Fields w := fun h => absurd h (not_reads_illegal rfl)
  rw [call_iff, decodeOpcode] at h
  revert h
  dsimp only
  refine reads_ite (fun hop => ?flw) fun _ => reads_ite (fun hop => ?fsw) fun _ => ?_
  case flw =>
    refine reads_ite (fun h3 => ?_) fun _ => hill
    rintro ⟨hc, -⟩
    cases hc
    exact ⟨rfl, rfl, h3, rfl, hop⟩
  case fsw =>
    refine reads_ite (fun h3 => ?_) fun _ => hill
    rintro ⟨hc, -⟩
    cases hc
    exact ⟨rfl, rfl, rfl, h3, hop⟩
  -- the four fused operations
  iterate 4
    refine reads_ite (fun hop => ?_) fun _ => ?_
    · refine reads_ite (fun hfmt => ?_) fun _ => hill
      rintro ⟨hc, hok⟩
      cases hc
      exact ⟨hok rfl, rfl, hfmt, rfl, rfl, rfl, rfl, hop⟩
  refine reads_ite (fun hop => ?_) fun _ => hill
  exact fields_of_opFp rfl rfl ⟨rfl, rfl, rfl, rfl, rfl, hop⟩

theorem codec : Codec.Inverse Call.InRange Call.encode fun w => (decode w).call :=
  .of_format Call.encode_iff call_of_fields fields_of_call

theorem roundTrip : Codec.RoundTrip Call.InRange Call.encode decode (·.type ≠ .illegal)
    DecodedInstr.call :=
  codec.roundTrip isSome_call

/-- The helpers that name a use of another helper. -/
inductive Pseudo where
  | fmvS (rd rs : BitVec 8)
  | fnegS (rd rs : BitVec 8)
  | fabsS (rd rs : BitVec 8)
  deriving DecidableEq, Repr

namespace Pseudo

/-- The word the helper makes: a sign injection of a register with itself. -/
def encode : Pseudo → Word
  | fmvS rd rs => Encode.fmvS rd rs
  | fnegS rd rs => Encode.fnegS rd rs
  | fabsS rd rs => Encode.fabsS rd rs

/-- Registers are below 32. -/
def InRange : Pseudo → Prop
  | fmvS rd rs | fnegS rd rs | fabsS rd rs => IsReg rd ∧ IsReg rs

/-- The instruction a pseudo-instruction stands for. -/
def call : Pseudo → Call
  | fmvS rd rs => .fsgnjS rd rs rs
  | fnegS rd rs => .fsgnjnS rd rs rs
  | fabsS rd rs => .fsgnjxS rd rs rs

theorem decode_encode (p : Pseudo) (h : p.InRange) : (decode p.encode).call = some p.call := by
  cases p with
  | fmvS rd rs => exact codec.read_encode (c := .fsgnjS rd rs rs) ⟨h.1, h.2, h.2⟩
  | fnegS rd rs => exact codec.read_encode (c := .fsgnjnS rd rs rs) ⟨h.1, h.2, h.2⟩
  | fabsS rd rs => exact codec.read_encode (c := .fsgnjxS rd rs rs) ⟨h.1, h.2, h.2⟩

end Pseudo

end Rv32f

/-! ## Zcf: offsets and registers -/

namespace Rv32fc

open Rvc

/-- `x8` to `x15`. -/
def IsCReg (r : BitVec 8) : Prop := 8 ≤ r.toNat ∧ r.toNat ≤ 15

/-- A word-scaled offset of at most `max`. -/
def IsUimm (max : Nat) (uimm : Word) : Prop := uimm.toNat % 4 = 0 ∧ uimm.toNat ≤ max

instance (r : BitVec 8) : Decidable (IsCReg r) := inferInstanceAs (Decidable (_ ∧ _))

instance (max : Nat) (uimm : Word) : Decidable (IsUimm max uimm) :=
  inferInstanceAs (Decidable (_ ∧ _))

theorem toNat_scaled {n : Nat} (v : BitVec n) (hn : n ≤ 8) :
    ((scaled v).signExtend 32).toNat = v.toNat * 4 := by
  have hlt : v.toNat < 256 := Nat.lt_of_lt_of_le v.isLt (Nat.pow_le_pow_right (by decide) hn)
  have hscaled : (scaled v).toNat = v.toNat * 4 := by
    rw [scaled, BitVec.toNat_setWidth, BitVec.toNat_append]
    simp [Nat.shiftLeft_eq]
    omega
  have hmsb : (scaled v).msb = false := by
    rw [BitVec.msb_eq_false_iff_two_mul_lt]
    omega
  rw [BitVec.signExtend_eq_setWidth_of_msb_false hmsb, BitVec.toNat_setWidth, hscaled]
  omega

theorem scaled_iff {n : Nat} (max : Nat) {v : BitVec n} {uimm : Word} (hn : n ≤ 8)
    (hmax : 4 * (1 <<< n) = max + 4) :
    (scaled v).signExtend 32 = uimm ↔ IsUimm max uimm ∧ uimm.extractLsb' 2 n = v := by
  rw [Nat.one_shiftLeft] at hmax
  have hlt := v.isLt
  have hcut : (uimm.extractLsb' 2 n).toNat = uimm.toNat / 4 % 2 ^ n := by
    rw [BitVec.extractLsb'_toNat, Nat.shiftRight_eq_div_pow]
  rw [← BitVec.toNat_inj, ← BitVec.toNat_inj, toNat_scaled v hn, hcut, IsUimm]
  constructor
  · intro h
    refine ⟨by omega, ?_⟩
    rw [← h, Nat.mul_div_cancel _ (by decide), Nat.mod_eq_of_lt hlt]
  · rintro ⟨⟨hmod, hle⟩, he⟩
    rw [Nat.mod_eq_of_lt (by omega)] at he
    omega

theorem creg_iff {p : BitVec 16} {lo : Nat} {r : BitVec 8} :
    cregToReg (u8 (field p lo 0x7)) = r ↔ IsCReg r ∧ p.extractLsb' lo 3 = r.setWidth 3 := by
  have hcases : ∀ (x : BitVec 3) (r : BitVec 8),
      (0b01#2 ++ x).setWidth 8 = r ↔ (8 ≤ r.toNat ∧ r.toNat ≤ 15) ∧ x = r.setWidth 3 := by
    decide
  rw [creg_eq, Rvc.creg]
  exact hcases _ r

/-- `(r - 8) & 0x7` is the low bits of `r`. -/
theorem encodeCreg_eq (r : BitVec 8) : Encode.creg r = (r.setWidth 3).setWidth 32 := by
  have hcases : ∀ r : BitVec 8,
      ((r - 8) &&& 0x7).setWidth 32 = ((r.setWidth 3).setWidth 32 : Word) := by decide
  exact hcases r

/-! ## Zcf: quadrant 0 -/

/-- What the decoder reads of C.FLW and C.FSW. -/
structure ClFields (p : BitVec 16) (f3 : Word) (r rs1 : BitVec 8) (uimm : Word) : Prop where
  op : p &&& 0x3 = 0b00
  funct3 : field p 13 0x7 = f3
  r : cregToReg (u8 (field p 2 0x7)) = r
  rs1 : cregToReg (u8 (field p 7 0x7)) = rs1
  uimm : clUimm p = uimm

section Cl
variable {p : BitVec 16} {r rs1 : BitVec 8} {uimm : Word}

theorem packCl_eq (f3 : BitVec 3) : Encode.packCl (f3.setWidth 32) r rs1 uimm =
    f3 ++ uimm.extractLsb' 3 3 ++ rs1.setWidth 3 ++ uimm.extractLsb' 2 1 ++
      uimm.extractLsb' 6 1 ++ r.setWidth 3 ++ 0b00#2 := by
  have hmask : ∀ i < 32, (0x1 : Word).getLsbD i = decide (i < 1) := by decide
  have hmask3 : ∀ i < 32, (0x7 : Word).getLsbD i = decide (i < 3) := by decide
  apply BitVec.eq_of_getLsbD_eq
  intro i hi
  simp only [Encode.packCl, encodeCreg_eq, u16, BitVec.getLsbD_setWidth, BitVec.getLsbD_or,
    BitVec.getLsbD_shiftLeft, BitVec.getLsbD_and, BitVec.getLsbD_ushiftRight,
    BitVec.getLsbD_append, BitVec.getLsbD_extractLsb', BitVec.getLsbD_zero]
  grind

theorem packCl_eq_iff (f3 : BitVec 3) : Encode.packCl (f3.setWidth 32) r rs1 uimm = p ↔
    ((((((p.extractLsb' 13 3 = f3 ∧ p.extractLsb' 10 3 = uimm.extractLsb' 3 3) ∧
      p.extractLsb' 7 3 = rs1.setWidth 3) ∧ p.extractLsb' 6 1 = uimm.extractLsb' 2 1) ∧
      p.extractLsb' 5 1 = uimm.extractLsb' 6 1) ∧ p.extractLsb' 2 3 = r.setWidth 3) ∧
      p.extractLsb' 0 2 = 0b00) := by
  have hself : Encode.packCl (f3.setWidth 32) r rs1 uimm = p ↔
      p.extractLsb' 0 (3 + 3 + 3 + 1 + 1 + 3 + 2) = f3 ++ uimm.extractLsb' 3 3 ++
        rs1.setWidth 3 ++ uimm.extractLsb' 2 1 ++ uimm.extractLsb' 6 1 ++ r.setWidth 3 ++
        0b00#2 := by
    rw [packCl_eq, BitVec.extractLsb'_eq_self]
    exact eq_comm
  rw [hself]
  iterate 6 rw [BitVec.extractLsb'_eq_append_iff]
  rfl

theorem clUimm_iff : clUimm p = uimm ↔ IsUimm 124 uimm ∧
    (uimm.extractLsb' 6 1 = p.extractLsb' 5 1 ∧ uimm.extractLsb' 3 3 = p.extractLsb' 10 3) ∧
      uimm.extractLsb' 2 1 = p.extractLsb' 6 1 := by
  rw [clUimm_eq, scaled_iff 124 (by decide) (by decide)]
  exact and_congr_right' ((BitVec.extractLsb'_eq_append_iff (n := 4) (m := 1) uimm 2).trans
    (and_congr_left' (BitVec.extractLsb'_eq_append_iff (n := 1) (m := 3) uimm 3)))

theorem packCl_iff (f3 : BitVec 3) :
    (IsCReg r ∧ IsCReg rs1 ∧ IsUimm 124 uimm) ∧ Encode.packCl (f3.setWidth 32) r rs1 uimm = p ↔
      ClFields p (f3.setWidth 32) r rs1 uimm := by
  rw [packCl_eq_iff]
  constructor
  · rintro ⟨⟨lr, l1, lu⟩, ⟨⟨⟨⟨⟨h3, h10⟩, h1⟩, h6⟩, h5⟩, hr⟩, hop⟩
    exact ⟨(Rv32c.quadrant_iff p 0b00 rfl).mpr hop, (Rv32c.funct3_iff p f3 rfl).mpr h3,
      creg_iff.mpr ⟨lr, hr⟩, creg_iff.mpr ⟨l1, h1⟩,
      clUimm_iff.mpr ⟨lu, ⟨h5.symm, h10.symm⟩, h6.symm⟩⟩
  · rintro ⟨hop, h3, hr, h1, hu⟩
    replace hop := (Rv32c.quadrant_iff p 0b00 rfl).mp hop
    replace h3 := (Rv32c.funct3_iff p f3 rfl).mp h3
    rw [creg_iff] at hr h1
    rw [clUimm_iff] at hu
    exact ⟨⟨hr.1, h1.1, hu.1⟩, ⟨⟨⟨⟨⟨h3, hu.2.1.2.symm⟩, h1.2⟩, hu.2.2.symm⟩, hu.2.1.1.symm⟩,
      hr.2⟩, hop⟩

end Cl

/-! ## Zcf: quadrant 2 -/

/-- What the decoder reads of C.FLWSP. -/
structure LwspFields (p : BitVec 16) (rd : BitVec 8) (uimm : Word) : Prop where
  op : p &&& 0x3 = 0b10
  funct3 : field p 13 0x7 = 0b011
  rd : u8 (field p 7 0x1F) = rd
  uimm : (field p 12 0x1 <<< 5) ||| (field p 4 0x7 <<< 2) ||| (field p 2 0x3 <<< 6) = uimm

/-- What the decoder reads of C.FSWSP. -/
structure SwspFields (p : BitVec 16) (rs2 : BitVec 8) (uimm : Word) : Prop where
  op : p &&& 0x3 = 0b10
  funct3 : field p 13 0x7 = 0b111
  rs2 : u8 (field p 2 0x1F) = rs2
  uimm : (field p 9 0xF <<< 2) ||| (field p 7 0x3 <<< 6) = uimm

section Sp
variable {p : BitVec 16} {r : BitVec 8} {uimm : Word}

theorem reg_iff {lo : Nat} :
    u8 (field p lo 0x1F) = r ↔ IsReg r ∧ p.extractLsb' lo 5 = r.setWidth 5 := by
  have hcut : ((p.extractLsb' lo 5).setWidth 8).setWidth 5 = p.extractLsb' lo 5 := by
    rw [BitVec.setWidth_setWidth_of_le _ (by decide), BitVec.setWidth_eq]
  have hreg : IsReg r ↔ (r.setWidth 5).setWidth 8 = r :=
    (BitVec.setWidth_setWidth_eq_iff r (n := 5) (by decide) rfl).symm
  rw [reg_eq, Rvc.reg, hreg]
  constructor
  · rintro rfl
    rw [hcut]
    exact ⟨rfl, rfl⟩
  · rintro ⟨hr, hx⟩
    rw [hx, hr]

theorem cFlwsp_eq_iff : Encode.cFlwsp r uimm = p ↔
    ((((p.extractLsb' 13 3 = 0b011 ∧ p.extractLsb' 12 1 = uimm.extractLsb' 5 1) ∧
      p.extractLsb' 7 5 = r.setWidth 5) ∧ p.extractLsb' 4 3 = uimm.extractLsb' 2 3) ∧
      p.extractLsb' 2 2 = uimm.extractLsb' 6 2) ∧ p.extractLsb' 0 2 = 0b10 := by
  have hmask1 : ∀ i < 32, (0x1 : Word).getLsbD i = decide (i < 1) := by decide
  have hmask2 : ∀ i < 32, (0x3 : Word).getLsbD i = decide (i < 2) := by decide
  have hmask3 : ∀ i < 32, (0x7 : Word).getLsbD i = decide (i < 3) := by decide
  have hop : ∀ i < 32, (0b10 : Word).getLsbD i = (0b10#2).getLsbD i := by decide
  have hfunct3 : ∀ i < 32, (0b011 : Word).getLsbD i = (0b011#3).getLsbD i := by decide
  -- the parcel as its pieces side by side, from the top
  have hpack : Encode.cFlwsp r uimm =
      0b011#3 ++ uimm.extractLsb' 5 1 ++ r.setWidth 5 ++ uimm.extractLsb' 2 3 ++
        uimm.extractLsb' 6 2 ++ 0b10#2 := by
    apply BitVec.eq_of_getLsbD_eq
    intro i hi
    simp only [Encode.cFlwsp, field5_eq, u16, BitVec.getLsbD_setWidth, BitVec.getLsbD_or,
      BitVec.getLsbD_shiftLeft, BitVec.getLsbD_and, BitVec.getLsbD_ushiftRight,
      BitVec.getLsbD_append, BitVec.getLsbD_extractLsb', hop i (by omega),
      hfunct3 (i - 13) (by omega)]
    grind
  have hself : Encode.cFlwsp r uimm = p ↔ p.extractLsb' 0 (3 + 1 + 5 + 3 + 2 + 2) =
      0b011#3 ++ uimm.extractLsb' 5 1 ++ r.setWidth 5 ++ uimm.extractLsb' 2 3 ++
        uimm.extractLsb' 6 2 ++ 0b10#2 := by
    rw [hpack, BitVec.extractLsb'_eq_self]
    exact eq_comm
  rw [hself]
  iterate 5 rw [BitVec.extractLsb'_eq_append_iff]
  rfl

theorem lwspUimm_iff :
    (field p 12 0x1 <<< 5) ||| (field p 4 0x7 <<< 2) ||| (field p 2 0x3 <<< 6) = uimm ↔
      IsUimm 252 uimm ∧ (uimm.extractLsb' 6 2 = p.extractLsb' 2 2 ∧
        uimm.extractLsb' 5 1 = p.extractLsb' 12 1) ∧
          uimm.extractLsb' 2 3 = p.extractLsb' 4 3 := by
  rw [lwspUimm_eq, scaled_iff 252 (by decide) (by decide)]
  exact and_congr_right' ((BitVec.extractLsb'_eq_append_iff (n := 3) (m := 3) uimm 2).trans
    (and_congr_left' (BitVec.extractLsb'_eq_append_iff (n := 2) (m := 1) uimm 5)))

theorem cFlwsp_iff : (IsReg r ∧ IsUimm 252 uimm) ∧ Encode.cFlwsp r uimm = p ↔
    LwspFields p r uimm := by
  rw [cFlwsp_eq_iff]
  constructor
  · rintro ⟨⟨lr, lu⟩, ⟨⟨⟨⟨h3, h12⟩, hr⟩, h4⟩, h2⟩, hop⟩
    exact ⟨(Rv32c.quadrant_iff p 0b10 rfl).mpr hop, (Rv32c.funct3_iff p 0b011 rfl).mpr h3,
      reg_iff.mpr ⟨lr, hr⟩, lwspUimm_iff.mpr ⟨lu, ⟨h2.symm, h12.symm⟩, h4.symm⟩⟩
  · rintro ⟨hop, h3, hr, hu⟩
    replace hop := (Rv32c.quadrant_iff p 0b10 rfl).mp hop
    replace h3 := (Rv32c.funct3_iff p 0b011 rfl).mp h3
    rw [reg_iff] at hr
    rw [lwspUimm_iff] at hu
    exact ⟨⟨hr.1, hu.1⟩, ⟨⟨⟨⟨h3, hu.2.1.2.symm⟩, hr.2⟩, hu.2.2.symm⟩, hu.2.1.1.symm⟩, hop⟩

theorem cFswsp_eq_iff : Encode.cFswsp r uimm = p ↔
    (((p.extractLsb' 13 3 = 0b111 ∧ p.extractLsb' 9 4 = uimm.extractLsb' 2 4) ∧
      p.extractLsb' 7 2 = uimm.extractLsb' 6 2) ∧ p.extractLsb' 2 5 = r.setWidth 5) ∧
      p.extractLsb' 0 2 = 0b10 := by
  have hmask2 : ∀ i < 32, (0x3 : Word).getLsbD i = decide (i < 2) := by decide
  have hmask4 : ∀ i < 32, (0xF : Word).getLsbD i = decide (i < 4) := by decide
  have hop : ∀ i < 32, (0b10 : Word).getLsbD i = (0b10#2).getLsbD i := by decide
  have hfunct3 : ∀ i < 32, (0b111 : Word).getLsbD i = (0b111#3).getLsbD i := by decide
  have hpack : Encode.cFswsp r uimm =
      0b111#3 ++ uimm.extractLsb' 2 4 ++ uimm.extractLsb' 6 2 ++ r.setWidth 5 ++ 0b10#2 := by
    apply BitVec.eq_of_getLsbD_eq
    intro i hi
    simp only [Encode.cFswsp, field5_eq, u16, BitVec.getLsbD_setWidth, BitVec.getLsbD_or,
      BitVec.getLsbD_shiftLeft, BitVec.getLsbD_and, BitVec.getLsbD_ushiftRight,
      BitVec.getLsbD_append, BitVec.getLsbD_extractLsb', hop i (by omega),
      hfunct3 (i - 13) (by omega)]
    grind
  have hself : Encode.cFswsp r uimm = p ↔ p.extractLsb' 0 (3 + 4 + 2 + 5 + 2) =
      0b111#3 ++ uimm.extractLsb' 2 4 ++ uimm.extractLsb' 6 2 ++ r.setWidth 5 ++ 0b10#2 := by
    rw [hpack, BitVec.extractLsb'_eq_self]
    exact eq_comm
  rw [hself]
  iterate 4 rw [BitVec.extractLsb'_eq_append_iff]
  rfl

theorem swspUimm_iff : (field p 9 0xF <<< 2) ||| (field p 7 0x3 <<< 6) = uimm ↔
    IsUimm 252 uimm ∧ uimm.extractLsb' 6 2 = p.extractLsb' 7 2 ∧
      uimm.extractLsb' 2 4 = p.extractLsb' 9 4 := by
  rw [swspUimm_eq, scaled_iff 252 (by decide) (by decide)]
  exact and_congr_right' (BitVec.extractLsb'_eq_append_iff (n := 2) (m := 4) uimm 2)

theorem cFswsp_iff : (IsReg r ∧ IsUimm 252 uimm) ∧ Encode.cFswsp r uimm = p ↔
    SwspFields p r uimm := by
  rw [cFswsp_eq_iff]
  constructor
  · rintro ⟨⟨lr, lu⟩, ⟨⟨⟨h3, h9⟩, h7⟩, hr⟩, hop⟩
    exact ⟨(Rv32c.quadrant_iff p 0b10 rfl).mpr hop, (Rv32c.funct3_iff p 0b111 rfl).mpr h3,
      reg_iff.mpr ⟨lr, hr⟩, swspUimm_iff.mpr ⟨lu, h7.symm, h9.symm⟩⟩
  · rintro ⟨hop, h3, hr, hu⟩
    replace hop := (Rv32c.quadrant_iff p 0b10 rfl).mp hop
    replace h3 := (Rv32c.funct3_iff p 0b111 rfl).mp h3
    rw [reg_iff] at hr
    rw [swspUimm_iff] at hu
    exact ⟨⟨hr.1, hu.1⟩, ⟨⟨⟨h3, hu.2.2.symm⟩, hu.2.1.symm⟩, hr.2⟩, hop⟩

end Sp

/-! ## Zcf: calls -/

/-- A call of a helper of `rv32fc::encode`. -/
inductive Call where
  | cFlw (rd rs1 : BitVec 8) (uimm : Word)
  | cFsw (rs2 rs1 : BitVec 8) (uimm : Word)
  | cFlwsp (rd : BitVec 8) (uimm : Word)
  | cFswsp (rs2 : BitVec 8) (uimm : Word)
  deriving DecidableEq, Repr

namespace Call

/-- The parcel the helper makes. -/
def encode : Call → BitVec 16
  | cFlw rd rs1 uimm => Encode.cFlw rd rs1 uimm
  | cFsw rs2 rs1 uimm => Encode.cFsw rs2 rs1 uimm
  | cFlwsp rd uimm => Encode.cFlwsp rd uimm
  | cFswsp rs2 uimm => Encode.cFswsp rs2 uimm

/-- Every register fits its field, and every offset is a multiple of four that does. -/
def InRange : Call → Prop
  | cFlw r rs1 uimm | cFsw r rs1 uimm => IsCReg r ∧ IsCReg rs1 ∧ IsUimm 124 uimm
  | cFlwsp r uimm | cFswsp r uimm => IsReg r ∧ IsUimm 252 uimm

/-- The fields a parcel of the call has. -/
def Fields : Call → BitVec 16 → Prop
  | cFlw rd rs1 uimm, p => ClFields p 0b011 rd rs1 uimm
  | cFsw rs2 rs1 uimm, p => ClFields p 0b111 rs2 rs1 uimm
  | cFlwsp rd uimm, p => LwspFields p rd uimm
  | cFswsp rs2 uimm, p => SwspFields p rs2 uimm

theorem encode_iff (c : Call) (p : BitVec 16) : c.InRange ∧ c.encode = p ↔ c.Fields p := by
  cases c with
  | cFlw rd rs1 uimm => exact packCl_iff 0b011
  | cFsw rs2 rs1 uimm => exact packCl_iff 0b111
  | cFlwsp rd uimm => exact cFlwsp_iff
  | cFswsp rs2 uimm => exact cFswsp_iff

end Call

/-- The base register of the stack-pointer-based forms is no operand. -/
def DecodedInstr.call (d : DecodedInstr) : Option Call :=
  match d.type with
  | .cFlw => some (.cFlw d.rd d.rs1 d.uimm)
  | .cFsw => some (.cFsw d.rs2 d.rs1 d.uimm)
  | .cFlwsp => some (.cFlwsp d.rd d.uimm)
  | .cFswsp => some (.cFswsp d.rs2 d.uimm)
  | .illegal => none

theorem isSome_call (d : DecodedInstr) : d.call.isSome ↔ d.type ≠ .illegal := by
  unfold DecodedInstr.call
  cases d.type <;> simp

theorem call_of_fields (c : Call) (p : BitVec 16) (f : c.Fields p) :
    (decode p).call = some c := by
  cases c with
  | cFlw rd rs1 uimm =>
    obtain ⟨hop, h3, hd, h1, hu⟩ := f
    simp only [decode, decodeQuadrant0, hop, h3, hd, h1, hu]
    rfl
  | cFsw rs2 rs1 uimm =>
    obtain ⟨hop, h3, h2, h1, hu⟩ := f
    simp only [decode, decodeQuadrant0, hop, h3, h2, h1, hu]
    rfl
  | cFlwsp rd uimm =>
    obtain ⟨hop, h3, hd, hu⟩ := f
    simp only [decode, decodeQuadrant2, hop, h3, hd, hu]
    rfl
  | cFswsp rs2 uimm =>
    obtain ⟨hop, h3, h2, hu⟩ := f
    simp only [decode, decodeQuadrant2, hop, h3, h2, hu]
    rfl

theorem fields_of_call (p : BitVec 16) (c : Call) (h : (decode p).call = some c) :
    c.Fields p := by
  simp only [decode] at h
  split at h
  · next hop =>
    simp only [decodeQuadrant0] at h
    repeat' split at h
    all_goals cases h <;> exact ⟨hop, ‹_›, rfl, rfl, rfl⟩
  · split at h
    · next hop =>
      simp only [decodeQuadrant2] at h
      repeat' split at h
      all_goals cases h <;> exact ⟨hop, ‹_›, rfl, rfl⟩
    · cases h

theorem codec : Codec.Inverse Call.InRange Call.encode fun p => (decode p).call :=
  .of_format Call.encode_iff call_of_fields fields_of_call

theorem roundTrip : Codec.RoundTrip Call.InRange Call.encode decode (·.type ≠ .illegal)
    DecodedInstr.call :=
  codec.roundTrip isSome_call

end Rv32fc

end Riscv

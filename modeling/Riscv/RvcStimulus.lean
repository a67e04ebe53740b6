import Riscv.OpgenCodec
import Riscv.RvcFields
import Riscv.RvcOpgen

/- The RV32C generators produce what they name.

   `drawn` says what a type stands for: the operands in the order the generator draws
   them, and the instruction they make. A generator and `drawn` of its type are compared
   draw by draw; where they end, the parcel decodes to the instruction. The windows of the
   parcel are those of its pieces, and an operand is known as a few bits, extended. -/
namespace Riscv.Rv32c

open Sample Riscv.Opgen Rvc

/-- The decoded instruction is a HINT: it computes into x0, or shifts or adds by zero. -/
def DecodedInstr.isHint (d : DecodedInstr) : Bool :=
  match d.type with
  | .cNop => decide (d.imm ≠ 0)
  | .cAddi => decide (d.imm = 0)
  | .cLi | .cLui | .cMv | .cAdd => decide (d.rd = 0)
  | .cSlli => decide (d.rd = 0 ∨ d.imm = 0)
  | .cSrli | .cSrai => decide (d.imm = 0)
  | _ => false

namespace Opgen

open RNG

/-! ## What a type stands for -/

def blank (type : Rv32c.InstrType) : DecodedInstr :=
  { type := type, rd := 0, rs1 := 0, rs2 := 0, imm := 0, raw := 0 }

/-- The loads and stores of quadrant 0 draw a data register, a base and a word offset. -/
def drawnMem (make : BitVec 8 → BitVec 8 → Word → DecodedInstr) : Gen DecodedInstr := do
  let r ← creg
  let rs1 ← creg
  let uimm := (← range 0 31) * 4
  return make (u8 r + 8) (u8 rs1 + 8) uimm

def drawnShift (type : Rv32c.InstrType) : Gen DecodedInstr := do
  let rd ← creg
  let shamt ← shamt
  return { blank type with rd := u8 rd + 8, rs1 := u8 rd + 8, imm := shamt }

def drawnAlu (type : Rv32c.InstrType) : Gen DecodedInstr := do
  let rd ← creg
  let rs2 ← creg
  return { blank type with rd := u8 rd + 8, rs1 := u8 rd + 8, rs2 := u8 rs2 + 8 }

def drawnBranch (type : Rv32c.InstrType) : Gen DecodedInstr := do
  let rs1 ← creg
  let imm := (← srange (-128) 127) * 2
  return { blank type with rs1 := u8 rs1 + 8, imm := imm }

/-- The operands of a type, as its generator draws them, and the instruction they make. -/
def drawn : InstrType → Gen DecodedInstr
  | .cAddi4spn => do
    let rd ← creg
    let nzuimm := (← range 1 255) * 4
    return { blank .cAddi4spn with rd := u8 rd + 8, rs1 := 2, imm := nzuimm }
  | .cLw => drawnMem fun r rs1 uimm => { blank .cLw with rd := r, rs1 := rs1, imm := uimm }
  | .cSw => drawnMem fun r rs1 uimm => { blank .cSw with rs2 := r, rs1 := rs1, imm := uimm }
  | .cNop => pure (blank .cNop)
  | .cAddi => do
    let rd ← regNz
    let nzimm ← imm6Nz
    return { blank .cAddi with rd := u8 rd, rs1 := u8 rd, imm := nzimm }
  | .cJal => do
    let imm := (← srange (-1024) 1023) * 2
    return { blank .cJal with rd := 1, imm := imm }
  | .cLi => do
    let rd ← regNz
    let imm ← imm6
    return { blank .cLi with rd := u8 rd, imm := imm }
  | .cAddi16sp => do
    let multiple : Gen Word := do return (← srange (-32) 31) * 16
    let nzimm ← Gen.repeatUntil multiple fun v => decide (v ≠ 0)
    return { blank .cAddi16sp with rd := 2, rs1 := 2, imm := nzimm }
  | .cLui => do
    let rd ← Gen.repeatUntil regNz fun rd => decide (rd ≠ 2)
    let nzimm ← Gen.repeatUntil imm6 fun v => decide (v ≠ 0)
    return { blank .cLui with rd := u8 rd, imm := nzimm <<< 12 }
  | .cSrli => drawnShift .cSrli
  | .cSrai => drawnShift .cSrai
  | .cAndi => do
    let rd ← creg
    let imm ← imm6
    return { blank .cAndi with rd := u8 rd + 8, rs1 := u8 rd + 8, imm := imm }
  | .cSub => drawnAlu .cSub
  | .cXor => drawnAlu .cXor
  | .cOr => drawnAlu .cOr
  | .cAnd => drawnAlu .cAnd
  | .cJ => do
    let imm := (← srange (-1024) 1023) * 2
    return { blank .cJ with imm := imm }
  | .cBeqz => drawnBranch .cBeqz
  | .cBnez => drawnBranch .cBnez
  | .cSlli => do
    let rd ← regNz
    let shamt ← shamt
    return { blank .cSlli with rd := u8 rd, rs1 := u8 rd, imm := shamt }
  | .cLwsp => do
    let rd ← regNz
    let uimm := (← range 0 63) * 4
    return { blank .cLwsp with rd := u8 rd, rs1 := 2, imm := uimm }
  | .cJr => do
    let rs1 ← regNz
    return { blank .cJr with rs1 := u8 rs1 }
  | .cMv => do
    let rd ← regNz
    let rs2 ← regNz
    return { blank .cMv with rd := u8 rd, rs2 := u8 rs2 }
  | .cEbreak => pure (blank .cEbreak)
  | .cJalr => do
    let rs1 ← regNz
    return { blank .cJalr with rd := 1, rs1 := u8 rs1 }
  | .cAdd => do
    let rd ← regNz
    let rs2 ← regNz
    return { blank .cAdd with rd := u8 rd, rs1 := u8 rd, rs2 := u8 rs2 }
  | .cSwsp => do
    let rs2 ← reg
    let uimm := (← range 0 63) * 4
    return { blank .cSwsp with rs1 := 2, rs2 := u8 rs2, imm := uimm }

/-- The decoder's name of a type. -/
def InstrType.named : InstrType → Rv32c.InstrType
  | .cAddi4spn => .cAddi4spn
  | .cLw => .cLw
  | .cSw => .cSw
  | .cNop => .cNop
  | .cAddi => .cAddi
  | .cJal => .cJal
  | .cLi => .cLi
  | .cAddi16sp => .cAddi16sp
  | .cLui => .cLui
  | .cSrli => .cSrli
  | .cSrai => .cSrai
  | .cAndi => .cAndi
  | .cSub => .cSub
  | .cXor => .cXor
  | .cOr => .cOr
  | .cAnd => .cAnd
  | .cJ => .cJ
  | .cBeqz => .cBeqz
  | .cBnez => .cBnez
  | .cSlli => .cSlli
  | .cLwsp => .cLwsp
  | .cJr => .cJr
  | .cMv => .cMv
  | .cEbreak => .cEbreak
  | .cJalr => .cJalr
  | .cAdd => .cAdd
  | .cSwsp => .cSwsp

/-- What a type stands for is an instruction of its name. -/
theorem drawn_named (type : InstrType) : (drawn type).Yields fun d => d.type = type.named := by
  cases type
  case cNop | cEbreak => exact .pure rfl
  case cJal | cJ | cJr | cJalr | cAddi16sp => exact .bind .any fun _ _ => .pure rfl
  case cLw | cSw =>
    exact .bind .any fun _ _ => .bind .any fun _ _ => .bind .any fun _ _ => .pure rfl
  all_goals exact .bind .any fun _ _ => .bind .any fun _ _ => .pure rfl

/-- The parcel decodes to the instruction, which is no HINT. -/
def Encodes (p : BitVec 16) (d : DecodedInstr) : Prop :=
  decode p = { d with raw := p } ∧ (decode p).isHint = false

/-! ## The operands as bits -/

section Draws
variable {k : Nat}

theorem exists_setWidth {v : Word} (hk : k ≤ 32) (h : v.toNat < 2 ^ k) :
    ∃ x : BitVec k, v = x.setWidth 32 :=
  ⟨v.setWidth k, ((BitVec.setWidth_setWidth_eq_iff v hk (Nat.one_shiftLeft k)).mpr h).symm⟩

theorem exists_signExtend {v : Word} {N : Nat} (hk : k + 1 ≤ 32) (hN : 1 <<< k = N)
    (h : -(N : Int) ≤ v.toInt ∧ v.toInt < N) : ∃ x : BitVec (k + 1), v = x.signExtend 32 :=
  ⟨v.setWidth (k + 1), ((BitVec.signExtend_setWidth_eq_iff v hk hN).mpr h).symm⟩

theorem yields_reg : reg.Yields fun v => ∃ x : BitVec 5, v = x.setWidth 32 := by
  refine (uniformWord_yields (by decide) (by decide)).mono fun v hv => ?_
  exact exists_setWidth (by decide) (by omega)

theorem yields_creg : creg.Yields fun v => ∃ x : BitVec 3, v = x.setWidth 32 := by
  refine (uniformWord_yields (by decide) (by decide)).mono fun v hv => ?_
  exact exists_setWidth (by decide) (by omega)

theorem yields_range {hi : Nat} (hk : k ≤ 32) (hhi : hi < 2 ^ k) :
    (range 0 hi).Yields fun v => ∃ x : BitVec k, v = x.setWidth 32 := by
  have hpow : 2 ^ k ≤ 2 ^ 32 := Nat.pow_le_pow_right (by decide) hk
  refine (uniformWord_yields (Nat.zero_le _) (by omega)).mono fun v hv => ?_
  exact exists_setWidth hk (by omega)

theorem yields_nonzero {hi : Nat} (hk : k ≤ 32) (h : 1 ≤ hi) (hhi : hi < 2 ^ k) :
    (uniformWord 1 hi).Yields fun v => ∃ x : BitVec k, v = x.setWidth 32 ∧ x ≠ 0 := by
  have hpow : 2 ^ k ≤ 2 ^ 32 := Nat.pow_le_pow_right (by decide) hk
  refine (uniformWord_yields h (by omega)).mono fun v hv => ?_
  obtain ⟨x, rfl⟩ := exists_setWidth hk (show v.toNat < 2 ^ k by omega)
  refine ⟨x, rfl, ?_⟩
  rintro rfl
  simp at hv

theorem yields_regNz : regNz.Yields fun v => ∃ x : BitVec 5, v = x.setWidth 32 ∧ x ≠ 0 :=
  yields_nonzero (by decide) (by decide) (by decide)

theorem yields_shamt : shamt.Yields fun v => ∃ x : BitVec 5, v = x.setWidth 32 ∧ x ≠ 0 :=
  yields_nonzero (by decide) (by decide) (by decide)

theorem yields_imm6 : imm6.Yields fun v => ∃ x : BitVec 6, v = x.signExtend 32 := by
  refine (uniformSigned_yields (by decide) (by decide) (by decide)).mono fun v hv => ?_
  exact exists_signExtend (k := 5) (N := 32) (by decide) rfl (by omega)

theorem yields_imm6Nz : imm6Nz.Yields fun v => ∃ x : BitVec 6, v = x.signExtend 32 ∧ x ≠ 0 := by
  refine (Gen.Yields.repeatUntil yields_imm6).mono ?_
  rintro v ⟨⟨x, rfl⟩, hne⟩
  refine ⟨x, rfl, ?_⟩
  rintro rfl
  exact absurd hne (by decide)

end Draws

/-! ## The windows of a parcel -/

theorem windows {ps : List (Pack.Piece 32)} (h : Pack.layout 16 ps = true) :
    ∀ q ∈ ps, (parcel ps).extractLsb' q.pos q.width = q.value.extractLsb' q.lo q.width := by
  intro q hq
  obtain ⟨i, hi⟩ := List.getElem?_of_mem hq
  exact Pack.extract_pack (by decide) h hi

section Windows
variable {p : BitVec 16}

theorem quadrant_of {k : BitVec 2} (h : p.extractLsb' 0 2 = k) : p &&& 3#16 = k.setWidth 16 :=
  (quadrant_iff p k rfl).mpr h

theorem funct3_of {k : BitVec 3} (h : p.extractLsb' 13 3 = k) :
    field p 13 7#32 = k.setWidth 32 :=
  (funct3_iff p k rfl).mpr h

theorem bit_of {k : BitVec 1} (h : p.extractLsb' 12 1 = k) : field p 12 1#32 = k.setWidth 32 :=
  (field_one_iff p 12 k rfl).mpr h

theorem funct2_of {lo : Nat} {k : BitVec 2} (h : p.extractLsb' lo 2 = k) :
    field p lo 3#32 = k.setWidth 32 :=
  (field_two_iff p lo k rfl).mpr h

theorem regField_of {lo : Nat} {x : BitVec 5}
    (h : p.extractLsb' lo 5 = (x.setWidth 32 : Word).extractLsb' 0 5) :
    regField p lo = x.setWidth 8 := by
  rw [regField_eq, Rvc.reg, h]
  clear h
  revert x
  decide

theorem cregField_of {lo : Nat} {x : BitVec 3}
    (h : p.extractLsb' lo 3 = (x.setWidth 32 : Word).extractLsb' 0 3) :
    cregField p lo = u8 (x.setWidth 32) + 8 := by
  rw [cregField_eq, Rvc.creg, h]
  clear h
  revert x
  decide

theorem shamt_of {x : BitVec 5} (h : p.extractLsb' 2 5 = (x.setWidth 32 : Word).extractLsb' 0 5) :
    field p 2 31#32 = x.setWidth 32 := by
  refine (field_five p 2).trans ?_
  rw [h]
  clear h
  revert x
  decide

/-- A shift amount has no sixth bit. -/
theorem shamt_bit_of {x : BitVec 5}
    (h : p.extractLsb' 12 1 = (x.setWidth 32 : Word).extractLsb' 5 1) : field p 12 1#32 = 0#32 := by
  rw [bit_of h]
  clear h
  revert x
  decide

theorem ciImm_of {x : BitVec 6}
    (h2 : p.extractLsb' 2 5 = (x.signExtend 32 : Word).extractLsb' 0 5)
    (h12 : p.extractLsb' 12 1 = (x.signExtend 32 : Word).extractLsb' 5 1) : ciImm p = x := by
  rw [ciImm, bit, h2, h12]
  clear h2 h12
  revert x
  decide

theorem addi4spnImm_of {x : BitVec 8}
    (h5 : p.extractLsb' 5 1 = (x.setWidth 32 * 4 : Word).extractLsb' 3 1)
    (h6 : p.extractLsb' 6 1 = (x.setWidth 32 * 4 : Word).extractLsb' 2 1)
    (h7 : p.extractLsb' 7 4 = (x.setWidth 32 * 4 : Word).extractLsb' 6 4)
    (h11 : p.extractLsb' 11 2 = (x.setWidth 32 * 4 : Word).extractLsb' 4 2) :
    decodeCiwImm p = x.setWidth 32 * 4 := by
  rw [decodeCiwImm_eq, addi4spnImm, bit, bit, h5, h6, h7, h11]
  clear h5 h6 h7 h11
  revert x
  decide

theorem clImm_of {x : BitVec 5}
    (h5 : p.extractLsb' 5 1 = (x.setWidth 32 * 4 : Word).extractLsb' 6 1)
    (h6 : p.extractLsb' 6 1 = (x.setWidth 32 * 4 : Word).extractLsb' 2 1)
    (h10 : p.extractLsb' 10 3 = (x.setWidth 32 * 4 : Word).extractLsb' 3 3) :
    decodeClImm p = x.setWidth 32 * 4 := by
  rw [decodeClImm_eq, clImm, bit, bit, h5, h6, h10]
  clear h5 h6 h10
  revert x
  decide

theorem lwspImm_of {x : BitVec 6}
    (h2 : p.extractLsb' 2 2 = (x.setWidth 32 * 4 : Word).extractLsb' 6 2)
    (h4 : p.extractLsb' 4 3 = (x.setWidth 32 * 4 : Word).extractLsb' 2 3)
    (h12 : p.extractLsb' 12 1 = (x.setWidth 32 * 4 : Word).extractLsb' 5 1) :
    decodeLwspImm p = x.setWidth 32 * 4 := by
  rw [decodeLwspImm_eq, lwspImm, bit, h2, h4, h12]
  clear h2 h4 h12
  revert x
  decide

theorem swspImm_of {x : BitVec 6}
    (h7 : p.extractLsb' 7 2 = (x.setWidth 32 * 4 : Word).extractLsb' 6 2)
    (h9 : p.extractLsb' 9 4 = (x.setWidth 32 * 4 : Word).extractLsb' 2 4) :
    decodeSwspImm p = x.setWidth 32 * 4 := by
  rw [decodeSwspImm_eq, swspImm, h7, h9]
  clear h7 h9
  revert x
  decide

theorem addi16spImm_of {x : BitVec 6}
    (h2 : p.extractLsb' 2 1 = (x.signExtend 32 * 16 : Word).extractLsb' 5 1)
    (h3 : p.extractLsb' 3 2 = (x.signExtend 32 * 16 : Word).extractLsb' 7 2)
    (h5 : p.extractLsb' 5 1 = (x.signExtend 32 * 16 : Word).extractLsb' 6 1)
    (h6 : p.extractLsb' 6 1 = (x.signExtend 32 * 16 : Word).extractLsb' 4 1)
    (h12 : p.extractLsb' 12 1 = (x.signExtend 32 * 16 : Word).extractLsb' 9 1) :
    addi16spImm p = x := by
  rw [addi16spImm, bit, bit, bit, bit, h2, h3, h5, h6, h12]
  clear h2 h3 h5 h6 h12
  revert x
  decide

theorem cjOff_of {imm : Word} (h2 : p.extractLsb' 2 1 = imm.extractLsb' 5 1)
    (h3 : p.extractLsb' 3 3 = imm.extractLsb' 1 3) (h6 : p.extractLsb' 6 1 = imm.extractLsb' 7 1)
    (h7 : p.extractLsb' 7 1 = imm.extractLsb' 6 1) (h8 : p.extractLsb' 8 1 = imm.extractLsb' 10 1)
    (h9 : p.extractLsb' 9 2 = imm.extractLsb' 8 2) (h11 : p.extractLsb' 11 1 = imm.extractLsb' 4 1)
    (h12 : p.extractLsb' 12 1 = imm.extractLsb' 11 1) : cjOff p = imm.extractLsb' 1 11 := by
  rw [cjOff, bit, bit, bit, bit, bit, bit, h2, h3, h6, h7, h8, h9, h11, h12]
  apply BitVec.eq_of_getLsbD_eq
  intro i hi
  simp only [BitVec.getLsbD_append, BitVec.getLsbD_extractLsb']
  grind

theorem cbOff_of {imm : Word} (h2 : p.extractLsb' 2 1 = imm.extractLsb' 5 1)
    (h3 : p.extractLsb' 3 2 = imm.extractLsb' 1 2) (h5 : p.extractLsb' 5 2 = imm.extractLsb' 6 2)
    (h10 : p.extractLsb' 10 2 = imm.extractLsb' 3 2)
    (h12 : p.extractLsb' 12 1 = imm.extractLsb' 8 1) : cbOff p = imm.extractLsb' 1 8 := by
  rw [cbOff, bit, bit, h2, h3, h5, h10, h12]
  apply BitVec.eq_of_getLsbD_eq
  intro i hi
  simp only [BitVec.getLsbD_append, BitVec.getLsbD_extractLsb']
  grind

end Windows

/-! ## Type by type -/

/-- A parcel is known by its windows. -/
theorem encodes_of {ps : List (Pack.Piece 32)} {d : DecodedInstr}
    (hlayout : Pack.layout 16 ps = true)
    (h : ∀ p : BitVec 16, (∀ q ∈ ps, p.extractLsb' q.pos q.width = q.value.extractLsb' q.lo q.width) →
      decode p = { d with raw := p })
    (hint : d.isHint = false) : Encodes (parcel ps) d := by
  have hdecode := h (parcel ps) (windows hlayout)
  exact ⟨hdecode, hdecode ▸ hint⟩

section Operands

theorem u8_reg (x : BitVec 5) : u8 (x.setWidth 32) = x.setWidth 8 := by
  revert x
  decide

theorem reg_ne_zero {x : BitVec 5} (h : x ≠ 0) : x.setWidth 8 ≠ 0#8 := by
  revert x
  decide

theorem shamt_ne_zero {x : BitVec 5} (h : x ≠ 0) : (x.setWidth 32 : Word) ≠ 0#32 := by
  revert x
  decide

theorem imm_ne_zero {x : BitVec 6} (h : x ≠ 0) : (x.signExtend 32 : Word) ≠ 0#32 := by
  revert x
  decide

end Operands

theorem encodes_cAddi4spn : genCAddi4spn.Alike (drawn .cAddi4spn) Encodes := by
  refine .draw yields_creg fun rd hrd => .draw (yields_nonzero (k := 8) (by decide) (by decide)
    (by decide)) fun n hn => .pure (encodes_of rfl ?_ rfl)
  obtain ⟨x, rfl⟩ := hrd
  obtain ⟨y, rfl, hy⟩ := hn
  intro p hw
  simp only [List.forall_mem_cons] at hw
  obtain ⟨h0, h2, h5, h6, h7, h11, h13, -⟩ := hw
  have himm : (y.setWidth 32 * 4#32 : Word) ≠ 0#32 := by
    clear h5 h6 h7 h11
    revert y
    decide
  simp [decode, decodeC0, blank, quadrant_of h0, funct3_of h13, cregField_of h2,
    addi4spnImm_of h5 h6 h7 h11, himm]

/-- The makers of C.LW and C.SW. -/
def memTypes : List (Word × (BitVec 8 → BitVec 8 → Word → DecodedInstr)) :=
  [(0b010, fun r rs1 uimm => { blank .cLw with rd := r, rs1 := rs1, imm := uimm }),
    (0b110, fun r rs1 uimm => { blank .cSw with rs2 := r, rs1 := rs1, imm := uimm })]

theorem encodes_cMem {funct3 : Word} {make : BitVec 8 → BitVec 8 → Word → DecodedInstr}
    (h : (funct3, make) ∈ memTypes) : (genCMem funct3).Alike (drawnMem make) Encodes := by
  simp only [memTypes, List.mem_cons, List.not_mem_nil, or_false, Prod.mk.injEq] at h
  refine .draw yields_creg fun r hr => .draw yields_creg fun rs1 hrs1 =>
    .draw (yields_range (k := 5) (by decide) (by decide)) fun n hn =>
      .pure (encodes_of rfl ?_ ?_)
  · obtain ⟨x, rfl⟩ := hr
    obtain ⟨y, rfl⟩ := hrs1
    obtain ⟨z, rfl⟩ := hn
    intro p hw
    simp only [List.forall_mem_cons] at hw
    obtain ⟨h0, h2, h5, h6, h7, h10, h13, -⟩ := hw
    rcases h with ⟨rfl, rfl⟩ | ⟨rfl, rfl⟩ <;>
      simp [decode, decodeC0, blank, quadrant_of h0, funct3_of h13, cregField_of h2,
        cregField_of h7, clImm_of h5 h6 h10]
  · rcases h with ⟨rfl, rfl⟩ | ⟨rfl, rfl⟩ <;> rfl

theorem encodes_cAddi : genCAddi.Alike (drawn .cAddi) Encodes := by
  refine .draw yields_regNz fun rd hrd => .draw yields_imm6Nz fun nzimm himm =>
    .pure (encodes_of rfl ?_ ?_)
  all_goals
    obtain ⟨x, rfl, hx⟩ := hrd
    obtain ⟨y, rfl, hy⟩ := himm
  · intro p hw
    simp only [List.forall_mem_cons] at hw
    obtain ⟨h0, h2, h7, h12, h13, -⟩ := hw
    simp [decode, decodeC1, blank, quadrant_of h0, funct3_of h13, regField_of h7, u8_reg,
      reg_ne_zero hx, decodeCiImm_eq, ciImm_of h2 h12]
  · simp [DecodedInstr.isHint, blank, imm_ne_zero hy]

theorem jump_imm {p : BitVec 16} {v : Word} (hv : -1024 ≤ v.toInt ∧ v.toInt ≤ 1023)
    (h : cjOff p = (v * 2).extractLsb' 1 11) : decodeCjImm p = v * 2 := by
  have hdouble := toInt_double (v := v) (by omega)
  rw [decodeCjImm_eq, h]
  exact Rv32i.Opgen.signExtend_offset (n := 11) (N := 2048) (by decide) rfl (by omega) (by omega)
    (by omega)

theorem branch_imm {p : BitVec 16} {v : Word} (hv : -128 ≤ v.toInt ∧ v.toInt ≤ 127)
    (h : cbOff p = (v * 2).extractLsb' 1 8) : decodeCbImm p = v * 2 := by
  have hdouble := toInt_double (v := v) (by omega)
  rw [decodeCbImm_eq, h]
  exact Rv32i.Opgen.signExtend_offset (n := 8) (N := 256) (by decide) rfl (by omega) (by omega)
    (by omega)

theorem encodes_cJal : genCJal.Alike (drawn .cJal) Encodes := by
  refine .draw (uniformSigned_yields (by decide) (by decide) (by decide)) fun v hv =>
    .pure (encodes_of rfl ?_ rfl)
  intro p hw
  simp only [List.forall_mem_cons] at hw
  obtain ⟨h0, h2, h3, h6, h7, h8, h9, h11, h12, h13, -⟩ := hw
  simp [decode, decodeC1, blank, quadrant_of h0, funct3_of h13,
    jump_imm hv (cjOff_of h2 h3 h6 h7 h8 h9 h11 h12)]

theorem encodes_cJ : genCJ.Alike (drawn .cJ) Encodes := by
  refine .draw (uniformSigned_yields (by decide) (by decide) (by decide)) fun v hv =>
    .pure (encodes_of rfl ?_ rfl)
  intro p hw
  simp only [List.forall_mem_cons] at hw
  obtain ⟨h0, h2, h3, h6, h7, h8, h9, h11, h12, h13, -⟩ := hw
  simp [decode, decodeC1, blank, quadrant_of h0, funct3_of h13,
    jump_imm hv (cjOff_of h2 h3 h6 h7 h8 h9 h11 h12)]

theorem encodes_cLi : genCLi.Alike (drawn .cLi) Encodes := by
  refine .draw yields_regNz fun rd hrd => .draw yields_imm6 fun imm himm =>
    .pure (encodes_of rfl ?_ ?_)
  all_goals
    obtain ⟨x, rfl, hx⟩ := hrd
    obtain ⟨y, rfl⟩ := himm
  · intro p hw
    simp only [List.forall_mem_cons] at hw
    obtain ⟨h0, h2, h7, h12, h13, -⟩ := hw
    simp [decode, decodeC1, blank, quadrant_of h0, funct3_of h13, regField_of h7, u8_reg,
      decodeCiImm_eq, ciImm_of h2 h12]
  · simp [DecodedInstr.isHint, blank, u8_reg, reg_ne_zero hx]

theorem encodes_cAddi16sp : genCAddi16sp.Alike (drawn .cAddi16sp) Encodes := by
  have hmultiple : (do return (← srange (-32) 31) * 16 : Gen Word).Yields fun v =>
      ∃ x : BitVec 6, v = x.signExtend 32 * 16 := by
    refine .bind yields_imm6 ?_
    rintro v ⟨x, rfl⟩
    exact .pure ⟨x, rfl⟩
  refine .draw (.repeatUntil hmultiple) fun nzimm himm => .pure (encodes_of rfl ?_ rfl)
  obtain ⟨⟨x, rfl⟩, hne⟩ := himm
  have hx : x ≠ 0 := by
    rintro rfl
    exact absurd hne (by decide)
  have himm : ((x ++ 0#4).signExtend 32 : Word) = x.signExtend 32 * 16#32 := by
    clear hne hx
    revert x
    decide
  intro p hw
  simp only [List.forall_mem_cons] at hw
  obtain ⟨h0, h2, h3, h5, h6, h7, h12, h13, -⟩ := hw
  have hrd : regField p 7 = 2#8 := regField_of (x := 2) h7
  have hzero := (addi16sp_ne_zero p).mpr (addi16spImm_of h2 h3 h5 h6 h12 ▸ hx)
  have hsign := addi16sp_eq p
  rw [addi16spImm_of h2 h3 h5 h6 h12, himm] at hsign
  simp only [decode, decodeC1, blank, if_pos hzero, hsign]
  simp [quadrant_of h0, funct3_of h13, hrd]

theorem encodes_cLui : genCLui.Alike (drawn .cLui) Encodes := by
  refine .draw (.repeatUntil yields_regNz) fun rd hrd => .draw (.repeatUntil yields_imm6)
    fun nzimm himm => .pure (encodes_of rfl ?_ ?_)
  all_goals
    obtain ⟨⟨x, rfl, hx⟩, htwo⟩ := hrd
    obtain ⟨⟨y, rfl⟩, hne⟩ := himm
  -- rd = x2 would be C.ADDI16SP, and a zero immediate is reserved
  · have hx2 : x.setWidth 8 ≠ 2#8 := by
      clear hx
      revert x
      decide
    have hy : y ≠ 0 := by
      rintro rfl
      exact absurd hne (by decide)
    have himm : (y.signExtend 20 ++ 0#12 : BitVec (20 + 12)) = (y.signExtend 32 : Word) <<< 12 := by
      clear hne hy
      revert y
      decide
    intro p hw
    simp only [List.forall_mem_cons] at hw
    obtain ⟨h0, h2, h7, h12, h13, -⟩ := hw
    have hzero := (lui_ne_zero p).mpr (ciImm_of h2 h12 ▸ hy)
    have hsign := lui_eq p
    rw [ciImm_of h2 h12, himm] at hsign
    simp only [decode, decodeC1, blank, if_pos hzero, hsign]
    simp [quadrant_of h0, funct3_of h13, regField_of h7, u8_reg, hx2]
  · simp [DecodedInstr.isHint, blank, u8_reg, reg_ne_zero hx]

theorem encodes_cShift {funct2 : Word} {type : Rv32c.InstrType}
    (h : (funct2, type) ∈ [((0b00 : Word), Rv32c.InstrType.cSrli), (0b01, .cSrai)]) :
    (genCShift funct2).Alike (drawnShift type) Encodes := by
  simp only [List.mem_cons, List.not_mem_nil, or_false, Prod.mk.injEq] at h
  refine .draw yields_creg fun rd hrd => .draw yields_shamt fun shamt hshamt =>
    .pure (encodes_of rfl ?_ ?_)
  all_goals
    obtain ⟨x, rfl⟩ := hrd
    obtain ⟨y, rfl, hy⟩ := hshamt
  · intro p hw
    simp only [List.forall_mem_cons] at hw
    obtain ⟨h0, h2, h7, h10, h12, h13, -⟩ := hw
    rcases h with ⟨rfl, rfl⟩ | ⟨rfl, rfl⟩ <;>
      simp [decode, decodeC1, decodeC1Alu, blank, quadrant_of h0, funct3_of h13, funct2_of h10,
        cregField_of h7, shamt_of h2, shamt_bit_of h12]
  · rcases h with ⟨-, rfl⟩ | ⟨-, rfl⟩ <;>
      simp [DecodedInstr.isHint, blank, shamt_ne_zero hy]

theorem encodes_cAndi : genCAndi.Alike (drawn .cAndi) Encodes := by
  refine .draw yields_creg fun rd hrd => .draw yields_imm6 fun imm himm =>
    .pure (encodes_of rfl ?_ rfl)
  obtain ⟨x, rfl⟩ := hrd
  obtain ⟨y, rfl⟩ := himm
  intro p hw
  simp only [List.forall_mem_cons] at hw
  obtain ⟨h0, h2, h7, h10, h12, h13, -⟩ := hw
  simp [decode, decodeC1, decodeC1Alu, blank, quadrant_of h0, funct3_of h13, funct2_of h10,
    cregField_of h7, decodeCiImm_eq, ciImm_of h2 h12]

theorem encodes_cAlu {funct2 : Word} {type : Rv32c.InstrType}
    (h : (funct2, type) ∈ [((0b00 : Word), Rv32c.InstrType.cSub), (0b01, .cXor), (0b10, .cOr),
      (0b11, .cAnd)]) : (genCAlu funct2).Alike (drawnAlu type) Encodes := by
  simp only [List.mem_cons, List.not_mem_nil, or_false, Prod.mk.injEq] at h
  refine .draw yields_creg fun rd hrd => .draw yields_creg fun rs2 hrs2 =>
    .pure (encodes_of rfl ?_ ?_)
  · obtain ⟨x, rfl⟩ := hrd
    obtain ⟨y, rfl⟩ := hrs2
    intro p hw
    simp only [List.forall_mem_cons] at hw
    obtain ⟨h0, h2, h5, h7, h10, h12, h13, -⟩ := hw
    rcases h with ⟨rfl, rfl⟩ | ⟨rfl, rfl⟩ | ⟨rfl, rfl⟩ | ⟨rfl, rfl⟩ <;>
      simp [decode, decodeC1, decodeC1Alu, blank, quadrant_of h0, funct3_of h13, funct2_of h10,
        funct2_of h5, cregField_of h7, cregField_of h2, bit_of h12]
  · rcases h with ⟨-, rfl⟩ | ⟨-, rfl⟩ | ⟨-, rfl⟩ | ⟨-, rfl⟩ <;> rfl

theorem encodes_cBranch {funct3 : Word} {type : Rv32c.InstrType}
    (h : (funct3, type) ∈ [((0b110 : Word), Rv32c.InstrType.cBeqz), (0b111, .cBnez)]) :
    (genCBranch funct3).Alike (drawnBranch type) Encodes := by
  simp only [List.mem_cons, List.not_mem_nil, or_false, Prod.mk.injEq] at h
  refine .draw yields_creg fun rs1 hrs1 =>
    .draw (uniformSigned_yields (by decide) (by decide) (by decide)) fun v hv =>
      .pure (encodes_of rfl ?_ ?_)
  · obtain ⟨x, rfl⟩ := hrs1
    intro p hw
    simp only [List.forall_mem_cons] at hw
    obtain ⟨h0, h2, h3, h5, h7, h10, h12, h13, -⟩ := hw
    rcases h with ⟨rfl, rfl⟩ | ⟨rfl, rfl⟩ <;>
      simp [decode, decodeC1, blank, quadrant_of h0, funct3_of h13, cregField_of h7,
        branch_imm hv (cbOff_of h2 h3 h5 h10 h12)]
  · rcases h with ⟨-, rfl⟩ | ⟨-, rfl⟩ <;> rfl

theorem encodes_cSlli : genCSlli.Alike (drawn .cSlli) Encodes := by
  refine .draw yields_regNz fun rd hrd => .draw yields_shamt fun shamt hshamt =>
    .pure (encodes_of rfl ?_ ?_)
  all_goals
    obtain ⟨x, rfl, hx⟩ := hrd
    obtain ⟨y, rfl, hy⟩ := hshamt
  · intro p hw
    simp only [List.forall_mem_cons] at hw
    obtain ⟨h0, h2, h7, h12, h13, -⟩ := hw
    simp [decode, decodeC2, blank, quadrant_of h0, funct3_of h13, regField_of h7, u8_reg,
      shamt_of h2, shamt_bit_of h12]
  · simp [DecodedInstr.isHint, blank, u8_reg, reg_ne_zero hx, shamt_ne_zero hy]

theorem encodes_cLwsp : genCLwsp.Alike (drawn .cLwsp) Encodes := by
  refine .draw yields_regNz fun rd hrd =>
    .draw (yields_range (k := 6) (by decide) (by decide)) fun n hn =>
      .pure (encodes_of rfl ?_ rfl)
  obtain ⟨x, rfl, hx⟩ := hrd
  obtain ⟨y, rfl⟩ := hn
  intro p hw
  simp only [List.forall_mem_cons] at hw
  obtain ⟨h0, h2, h4, h7, h12, h13, -⟩ := hw
  simp [decode, decodeC2, blank, quadrant_of h0, funct3_of h13, regField_of h7, u8_reg,
    reg_ne_zero hx, lwspImm_of h2 h4 h12]

theorem encodes_cSwsp : genCSwsp.Alike (drawn .cSwsp) Encodes := by
  refine .draw yields_reg fun rs2 hrs2 =>
    .draw (yields_range (k := 6) (by decide) (by decide)) fun n hn =>
      .pure (encodes_of rfl ?_ rfl)
  obtain ⟨x, rfl⟩ := hrs2
  obtain ⟨y, rfl⟩ := hn
  intro p hw
  simp only [List.forall_mem_cons] at hw
  obtain ⟨h0, h2, h7, h9, h13, -⟩ := hw
  simp [decode, decodeC2, blank, quadrant_of h0, funct3_of h13, regField_of h2, u8_reg,
    swspImm_of h7 h9]

theorem crReg_of {p : BitVec 16} (h2 : p.extractLsb' 2 5 = (0 : Word).extractLsb' 0 5) :
    regField p 2 = 0#8 :=
  regField_of (x := 0) h2

theorem encodes_cJr : genCJr.Alike (drawn .cJr) Encodes := by
  refine .draw yields_regNz fun rs1 hrs1 => .pure (encodes_of rfl ?_ rfl)
  obtain ⟨x, rfl, hx⟩ := hrs1
  intro p hw
  simp only [List.forall_mem_cons] at hw
  obtain ⟨h0, h2, h7, h12, h13, -⟩ := hw
  simp [decode, decodeC2, decodeC2Reg, blank, quadrant_of h0, funct3_of h13, bit_of h12,
    regField_of h7, u8_reg, reg_ne_zero hx, crReg_of h2]

theorem encodes_cJalr : genCJalr.Alike (drawn .cJalr) Encodes := by
  refine .draw yields_regNz fun rs1 hrs1 => .pure (encodes_of rfl ?_ rfl)
  obtain ⟨x, rfl, hx⟩ := hrs1
  intro p hw
  simp only [List.forall_mem_cons] at hw
  obtain ⟨h0, h2, h7, h12, h13, -⟩ := hw
  simp [decode, decodeC2, decodeC2Reg, blank, quadrant_of h0, funct3_of h13, bit_of h12,
    regField_of h7, u8_reg, reg_ne_zero hx, crReg_of h2]

theorem encodes_cMv : genCMv.Alike (drawn .cMv) Encodes := by
  refine .draw yields_regNz fun rd hrd => .draw yields_regNz fun rs2 hrs2 =>
    .pure (encodes_of rfl ?_ ?_)
  all_goals
    obtain ⟨x, rfl, hx⟩ := hrd
    obtain ⟨y, rfl, hy⟩ := hrs2
  · intro p hw
    simp only [List.forall_mem_cons] at hw
    obtain ⟨h0, h2, h7, h12, h13, -⟩ := hw
    simp [decode, decodeC2, decodeC2Reg, blank, quadrant_of h0, funct3_of h13, bit_of h12,
      regField_of h7, regField_of h2, u8_reg, reg_ne_zero hy]
  · simp [DecodedInstr.isHint, blank, u8_reg, reg_ne_zero hx]

theorem encodes_cAdd : genCAdd.Alike (drawn .cAdd) Encodes := by
  refine .draw yields_regNz fun rd hrd => .draw yields_regNz fun rs2 hrs2 =>
    .pure (encodes_of rfl ?_ ?_)
  all_goals
    obtain ⟨x, rfl, hx⟩ := hrd
    obtain ⟨y, rfl, hy⟩ := hrs2
  · intro p hw
    simp only [List.forall_mem_cons] at hw
    obtain ⟨h0, h2, h7, h12, h13, -⟩ := hw
    simp [decode, decodeC2, decodeC2Reg, blank, quadrant_of h0, funct3_of h13, bit_of h12,
      regField_of h7, regField_of h2, u8_reg, reg_ne_zero hx, reg_ne_zero hy]
  · simp [DecodedInstr.isHint, blank, u8_reg, reg_ne_zero hx]

/-- **The generator of a type draws what the type stands for, and encodes it.** -/
theorem generate_encodes (type : InstrType) : (generate type).Alike (drawn type) Encodes := by
  cases type with
  | cAddi4spn => exact encodes_cAddi4spn
  | cLw => exact encodes_cMem (.head _)
  | cSw => exact encodes_cMem (.tail _ (.head _))
  | cNop => exact .pure ⟨rfl, rfl⟩
  | cAddi => exact encodes_cAddi
  | cJal => exact encodes_cJal
  | cLi => exact encodes_cLi
  | cAddi16sp => exact encodes_cAddi16sp
  | cLui => exact encodes_cLui
  | cSrli => exact encodes_cShift (.head _)
  | cSrai => exact encodes_cShift (.tail _ (.head _))
  | cAndi => exact encodes_cAndi
  | cSub => exact encodes_cAlu (.head _)
  | cXor => exact encodes_cAlu (.tail _ (.head _))
  | cOr => exact encodes_cAlu (.tail _ (.tail _ (.head _)))
  | cAnd => exact encodes_cAlu (.tail _ (.tail _ (.tail _ (.head _))))
  | cJ => exact encodes_cJ
  | cBeqz => exact encodes_cBranch (.head _)
  | cBnez => exact encodes_cBranch (.tail _ (.head _))
  | cSlli => exact encodes_cSlli
  | cLwsp => exact encodes_cLwsp
  | cJr => exact encodes_cJr
  | cMv => exact encodes_cMv
  | cEbreak => exact .pure ⟨rfl, rfl⟩
  | cJalr => exact encodes_cJalr
  | cAdd => exact encodes_cAdd
  | cSwsp => exact encodes_cSwsp

end Opgen

end Riscv.Rv32c

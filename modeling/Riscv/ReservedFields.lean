import Riscv.Compressed
import Riscv.Dispatch
import Riscv.EncoderFields

/- Reserved encodings, by their fields.

   `reserved` says of an opcode, funct3, funct7 and rs2 that no instruction of any
   extension has them, whatever the other fields are. It is written from the encoding
   tables, one function for each major opcode; that the decoders reject what it
   reserves is proved decoder by decoder. -/
namespace Riscv

/-! ## The tables -/

namespace Reserved

def branch (funct3 : BitVec 8) : Bool := decide (funct3 ∈ [0b010, 0b011])

/-- No width of 64 bits, and no unsigned word. -/
def load (funct3 : BitVec 8) : Bool := decide (funct3 ∉ [0b000, 0b001, 0b010, 0b100, 0b101])

def store (funct3 : BitVec 8) : Bool := decide (funct3 ∉ [0b000, 0b001, 0b010])

def jalr (funct3 : BitVec 8) : Bool := decide (funct3 ≠ 0b000)

/-- The two shift slots are divided between RV32I, Zbb and Zbs. -/
def opImm (funct3 funct7 rs2 : BitVec 8) : Bool :=
  if funct3 = 0b001 then
    if funct7 = 0b0110000 then decide (rs2 ∉ [0, 1, 2, 4, 5])
    else decide (funct7 ∉ [0b0000000, 0b0010100, 0b0100100, 0b0110100])
  else if funct3 = 0b101 then
    if funct7 = 0b0010100 then decide (rs2 ≠ 7)
    else if funct7 = 0b0110100 then decide (rs2 ≠ 24)
    else decide (funct7 ∉ [0b0000000, 0b0100000, 0b0110000, 0b0100100])
  else false

/-- By `funct7`, whose extension leaves some `funct3` free. -/
def op (funct3 funct7 rs2 : BitVec 8) : Bool :=
  if funct7 = 0b0000000 ∨ funct7 = 0b0000001 then false
  else if funct7 = 0b0100000 then decide (funct3 ∉ [0b000, 0b100, 0b101, 0b110, 0b111])
  else if funct7 = 0b0010000 then decide (funct3 ∉ [0b010, 0b100, 0b110])
  else if funct7 = 0b0000101 then decide (funct3 ∉ [0b100, 0b101, 0b110, 0b111])
  else if funct7 = 0b0110000 ∨ funct7 = 0b0100100 then decide (funct3 ∉ [0b001, 0b101])
  else if funct7 = 0b0010100 ∨ funct7 = 0b0110100 then decide (funct3 ≠ 0b001)
  else if funct7 = 0b0000111 then decide (funct3 ∉ [0b101, 0b111])
  -- ZEXT.H; with another rs2 this is PACK
  else if funct7 = 0b0000100 then decide (¬(funct3 = 0b100 ∧ rs2 = 0))
  else true

/-- Neither FENCE nor FENCE.I. -/
def misc (funct3 : BitVec 8) : Bool := decide (funct3 ∉ [0b000, 0b001])

/-- With funct3 000 the whole word matters. -/
def system (funct3 : BitVec 8) : Bool := decide (funct3 = 0b100)

/-- `funct5` of the atomics, LR.W first. -/
def amoFunct5 : List (BitVec 8) :=
  [0b00010, 0b00011, 0b00001, 0b00000, 0b00100, 0b01100, 0b01000, 0b10000, 0b10100, 0b11000,
    0b11100]

/-- Another width, another operation, or LR with a second source. -/
def amo (funct3 funct5 rs2 : BitVec 8) : Bool :=
  decide (funct3 ≠ 0b010) || decide (funct5 ∉ amoFunct5) ||
    decide (funct5 = 0b00010 ∧ rs2 ≠ 0)

/-- The rounding modes no instruction may name. -/
def rm (funct3 : BitVec 8) : Bool := decide (funct3 ∈ [0b101, 0b110])

/-- The two fields a fused instruction can have wrong. -/
def madd (funct3 fmt : BitVec 8) : Bool := rm funct3 || decide (fmt ≠ 0b00)

/-- By `funct7`; what is checked differs between those that round and those that do not. -/
def opFp (funct3 funct7 rs2 : BitVec 8) : Bool :=
  if funct7 ∈ [0b0000000, 0b0000100, 0b0001000, 0b0001100] then rm funct3
  else if funct7 = 0b0101100 then rm funct3 || decide (rs2 ≠ 0)
  else if funct7 = 0b1100000 ∨ funct7 = 0b1101000 then rm funct3 || decide (rs2 ∉ [0, 1])
  else if funct7 = 0b0010000 ∨ funct7 = 0b1010000 then
    decide (funct3 ∉ [0b000, 0b001, 0b010])
  else if funct7 = 0b0010100 then decide (funct3 ∉ [0b000, 0b001])
  else if funct7 = 0b1110000 then decide (funct3 ∉ [0b000, 0b001]) || decide (rs2 ≠ 0)
  else if funct7 = 0b1111000 then decide (¬(funct3 = 0b000 ∧ rs2 = 0))
  else true

end Reserved

/-- No instruction has these fields. -/
def reserved (op funct3 funct7 rs2 : BitVec 8) : Bool :=
  if op ∈ [0b0110111, 0b0010111, 0b1101111] then false
  else if op = 0b1100111 then Reserved.jalr funct3
  else if op = 0b1100011 then Reserved.branch funct3
  else if op = 0b0000011 then Reserved.load funct3
  else if op = 0b0100011 then Reserved.store funct3
  else if op = 0b0010011 then Reserved.opImm funct3 funct7 rs2
  else if op = 0b0110011 then Reserved.op funct3 funct7 rs2
  else if op = 0b0001111 then Reserved.misc funct3
  else if op = 0b1110011 then Reserved.system funct3
  else if op = 0b0101111 then Reserved.amo funct3 (funct7 >>> 2) rs2
  else if op = 0b0000111 ∨ op = 0b0100111 then decide (funct3 ≠ 0b010)
  else if op ∈ [0b1000011, 0b1000111, 0b1001011, 0b1001111] then
    Reserved.madd funct3 (funct7 &&& 0b11)
  else if op = 0b1010011 then Reserved.opFp funct3 funct7 rs2
  else true

/-- The fields of a word are reserved. -/
def reservedWord (w : Word) : Bool :=
  reserved (u8 (bits w 6 0)) (u8 (bits w 14 12)) (u8 (bits w 31 25)) (u8 (bits w 24 20))

/-- No decoder accepts the word. -/
def Unclaimed (w : Word) : Prop :=
  ∀ (c : OpcodeClassifier) (e : Extension), c.accepts e w = false

theorem Unclaimed.not_legal {w : Word} (h : Unclaimed w) (config : CPUConfig) :
    ¬config.Legal w := by
  rintro ⟨e, -, haccepts⟩
  rw [h] at haccepts
  cases haccepts

/-! ## What the decoders accept is not reserved -/

section
variable {w : Word}

/-- The fields inside funct7: funct5 of an atomic, fmt of a fused multiply-add. -/
theorem funct5_of_funct7 (w : Word) : u8 (bits w 31 27) = u8 (bits w 31 25) >>> 2 := by
  apply BitVec.eq_of_getLsbD_eq
  intro i hi
  have h5 := fun i => getLsbD_bits w (show 31 - 27 < 31 by decide) i
  have h7 := fun i => getLsbD_bits w (show 31 - 25 < 31 by decide) i
  have hidx : 25 + (2 + i) = 27 + i := by omega
  simp only [u8, BitVec.getLsbD_setWidth, BitVec.getLsbD_ushiftRight, h5, h7, hidx, hi]
  by_cases h : i ≤ 4
  · have hin : 2 + i < 8 := by omega
    have hfield : 2 + i ≤ 6 := by omega
    simp [h, hin, hfield]
  · have hfield : ¬2 + i ≤ 6 := by omega
    simp [h, hfield]

theorem fmt_of_funct7 (w : Word) : u8 (bits w 26 25) = u8 (bits w 31 25) &&& 0b11 := by
  have hmask : ∀ i < 8, (0b11 : BitVec 8).getLsbD i = decide (i ≤ 1) := by decide
  apply BitVec.eq_of_getLsbD_eq
  intro i hi
  have h2 := fun i => getLsbD_bits w (show 26 - 25 < 31 by decide) i
  have h7 := fun i => getLsbD_bits w (show 31 - 25 < 31 by decide) i
  simp only [u8, BitVec.getLsbD_setWidth, BitVec.getLsbD_and, h2, h7, hi, hmask i hi]
  by_cases h : i ≤ 1 <;> simp [h]
  omega

theorem free_decodeOpImm {d : Rv32i.DecodedInstr} (hd : d.type = .illegal)
    (h : (Rv32i.Decoder.decodeOpImm d).type ≠ .illegal) :
    Reserved.opImm d.funct3 d.funct7 d.rs2 = false := by
  have hfields : d.funct3 ≠ 0b001 ∧ d.funct3 ≠ 0b101 ∨ d.funct3 = 0b001 ∧ d.funct7 = 0b0000000 ∨
      d.funct3 = 0b101 ∧ (d.funct7 = 0b0000000 ∨ d.funct7 = 0b0100000) := by
    unfold Rv32i.Decoder.decodeOpImm at h
    grind -ext
  rcases hfields with ⟨hslli, hsrli⟩ | ⟨hfunct3, hfunct7⟩ | ⟨hfunct3, hfunct7 | hfunct7⟩
  · unfold Reserved.opImm
    rw [if_neg hslli, if_neg hsrli]
  all_goals
    rw [hfunct3, hfunct7]
    rfl

/-- A base instruction, if legal, has fields that are not reserved. -/
def Rv32i.DecodedInstr.Free (r : Bool) (d : Rv32i.DecodedInstr) : Prop :=
  d.type ≠ .illegal → r = false

theorem free_rv32i (dec : Rv32i.Decoder) (h : (dec.decode w).type ≠ .illegal) :
    reservedWord w = false := by
  revert h
  show (dec.decode w).Free (reservedWord w)
  unfold Rv32i.Decoder.decode reservedWord
  dsimp only
  generalize u8 (bits w 6 0) = op, u8 (bits w 14 12) = funct3, u8 (bits w 31 25) = funct7,
    u8 (bits w 24 20) = rs2
  -- the decoder branches on the opcode, and `reservedWord` on the same fields
  have hpart : ∀ {c : Prop} [Decidable c] {x y : Rv32i.DecodedInstr},
      (c → x.Free (reserved op funct3 funct7 rs2)) → (¬c → y.Free (reserved op funct3 funct7 rs2)) →
        (if c then x else y).Free (reserved op funct3 funct7 rs2) :=
    fun hx hy => iteInduction hx hy
  refine hpart (fun hop => ?lui) fun _ => ?_
  case lui => subst hop; exact fun _ => rfl
  refine hpart (fun hop => ?auipc) fun _ => ?_
  case auipc => subst hop; exact fun _ => rfl
  refine hpart (fun hop => ?jal) fun _ => ?_
  case jal => subst hop; exact fun _ => rfl
  refine hpart (fun hop => ?jalr) fun _ => ?_
  case jalr =>
    subst hop
    refine hpart (fun hfunct3 => ?_) fun _ h => absurd rfl h
    subst hfunct3
    exact fun _ => rfl
  refine hpart (fun hop => ?branch) fun _ => ?_
  case branch =>
    subst hop
    show _ → Reserved.branch funct3 = false
    unfold Rv32i.Decoder.decodeBranch Reserved.branch
    grind -ext
  refine hpart (fun hop => ?load) fun _ => ?_
  case load =>
    subst hop
    show _ → Reserved.load funct3 = false
    unfold Rv32i.Decoder.decodeLoad Reserved.load
    grind -ext
  refine hpart (fun hop => ?store) fun _ => ?_
  case store =>
    subst hop
    show _ → Reserved.store funct3 = false
    unfold Rv32i.Decoder.decodeStore Reserved.store
    grind -ext
  refine hpart (fun hop => ?opImm) fun _ => ?_
  case opImm =>
    subst hop
    exact free_decodeOpImm rfl
  refine hpart (fun hop => ?op) fun _ => ?_
  case op =>
    subst hop
    show _ → Reserved.op funct3 funct7 rs2 = false
    unfold Rv32i.Decoder.decodeOp Reserved.op
    grind -ext
  refine hpart (fun hop => ?misc) fun _ => ?_
  case misc =>
    subst hop
    intro h
    have hfunct3 : funct3 = 0 := funct3_decodeFence rfl h
    rw [hfunct3]
    rfl
  refine hpart (fun hop => ?system) fun _ => ?_
  case system =>
    subst hop
    intro h
    have hfunct3 : funct3 = 0 := funct3_decodeSystem rfl h
    rw [hfunct3]
    rfl
  exact fun h => absurd rfl h

theorem free_rv32m (h : (Rv32m.decode w).type ≠ .illegal) : reservedWord w = false := by
  have htest := isM_of_decode h
  unfold Rv32m.isMInstruction at htest
  simp only [Bool.and_eq_true, decide_eq_true_eq] at htest
  unfold reservedWord
  rw [htest.1, htest.2]
  rfl

theorem free_rv32a (h : (Rv32a.decode w).type ≠ .illegal) : reservedWord w = false := by
  have htest := isAtomic_of_decode h
  unfold Rv32a.isAtomicInstruction at htest
  simp only [Bool.and_eq_true, decide_eq_true_eq] at htest
  have haccepted : Rv32a.typeOf (u8 (bits w 31 27)) ≠ .illegal ∧
      ¬(Rv32a.typeOf (u8 (bits w 31 27)) = .lrW ∧ u8 (bits w 24 20) ≠ 0) := by
    unfold Rv32a.decode at h
    simp only [htest.1, htest.2, ne_eq, not_true_eq_false, or_self, if_false] at h
    split at h
    · exact absurd rfl h
    · exact ⟨h, ‹_›⟩
  unfold reservedWord
  rw [htest.1, htest.2]
  show Reserved.amo 0b010 (u8 (bits w 31 25) >>> 2) (u8 (bits w 24 20)) = false
  rw [← funct5_of_funct7]
  have hdefined : ∀ f : BitVec 8, Rv32a.typeOf f ≠ .illegal →
      f ∈ Reserved.amoFunct5 := by decide +kernel
  have hlr : ∀ f : BitVec 8, f = 0b00010 → Rv32a.typeOf f = .lrW := by decide +kernel
  have hrs2 : u8 (bits w 31 27) = 0b00010 → u8 (bits w 24 20) = 0 := fun h =>
    Decidable.of_not_not fun hne => haccepted.2 ⟨hlr _ h, hne⟩
  unfold Reserved.amo
  simp only [hdefined _ haccepted.1, not_true_eq_false, decide_false, Bool.or_false, ne_eq,
    Bool.false_or, decide_eq_false_iff_not, not_and, Decidable.not_not]
  exact hrs2

/-- A float instruction, if legal and of a valid rounding mode, has fields that are not
reserved. -/
def Rv32f.DecodedInstr.Free (badRm r : Bool) (d : Rv32f.DecodedInstr) : Prop :=
  d.type ≠ .illegal → (Rv32f.usesRm d.type = true → badRm = false) → r = false

theorem Rv32f.DecodedInstr.Free.ite {badRm r : Bool} {c : Prop} [Decidable c]
    {x y : Rv32f.DecodedInstr} (hx : c → x.Free badRm r) (hy : ¬c → y.Free badRm r) :
    (if c then x else y).Free badRm r := iteInduction hx hy

theorem Rv32f.DecodedInstr.Free.of_illegal {badRm r : Bool} {d : Rv32f.DecodedInstr}
    (hd : d.type = .illegal) : d.Free badRm r := fun h => absurd hd h

theorem free_decodeOpFp {d : Rv32f.DecodedInstr} (hd : d.type = .illegal) :
    (Rv32f.decodeOpFp d).Free (Reserved.rm d.funct3) (Reserved.opFp d.funct3 d.funct7 d.rs2) := by
  unfold Rv32f.decodeOpFp
  generalize d.funct7 = funct7, d.funct3 = funct3, d.rs2 = rs2
  -- where the mode is read, and where rs2 has to be 0 or 1
  refine .ite (fun h => ?fadd) fun _ => ?_
  case fadd => subst h; exact fun _ hrm => hrm rfl
  refine .ite (fun h => ?fsub) fun _ => ?_
  case fsub => subst h; exact fun _ hrm => hrm rfl
  refine .ite (fun h => ?fmul) fun _ => ?_
  case fmul => subst h; exact fun _ hrm => hrm rfl
  refine .ite (fun h => ?fdiv) fun _ => ?_
  case fdiv => subst h; exact fun _ hrm => hrm rfl
  refine .ite (fun h => ?fsqrt) fun _ => ?_
  case fsqrt =>
    subst h
    refine .ite (fun hrs2 => ?_) fun _ => .of_illegal hd
    subst hrs2
    exact fun _ hrm => (Bool.or_false _).trans (hrm rfl)
  refine .ite (fun h => ?fsgnj) fun _ => ?_
  case fsgnj =>
    subst h
    refine .ite (fun h3 => ?_) fun _ => .ite (fun h3 => ?_) fun _ => .ite (fun h3 => ?_) fun _ =>
      .of_illegal hd
    all_goals
      subst h3
      exact fun _ _ => rfl
  refine .ite (fun h => ?fminmax) fun _ => ?_
  case fminmax =>
    subst h
    refine .ite (fun h3 => ?_) fun _ => .ite (fun h3 => ?_) fun _ => .of_illegal hd
    all_goals
      subst h3
      exact fun _ _ => rfl
  refine .ite (fun h => ?fcvtWS) fun _ => ?_
  case fcvtWS =>
    subst h
    refine .ite (fun hrs2 => ?_) fun _ => .ite (fun hrs2 => ?_) fun _ => .of_illegal hd
    all_goals
      subst hrs2
      exact fun _ hrm => (Bool.or_false _).trans (hrm rfl)
  refine .ite (fun h => ?fmvFclass) fun _ => ?_
  case fmvFclass =>
    subst h
    refine .ite (fun h3 => ?_) fun _ => .ite (fun h3 => ?_) fun _ => .of_illegal hd
    all_goals
      subst h3
      refine .ite (fun hrs2 => ?_) fun _ => .of_illegal hd
      subst hrs2
      exact fun _ _ => rfl
  refine .ite (fun h => ?fcmp) fun _ => ?_
  case fcmp =>
    subst h
    refine .ite (fun h3 => ?_) fun _ => .ite (fun h3 => ?_) fun _ => .ite (fun h3 => ?_) fun _ =>
      .of_illegal hd
    all_goals
      subst h3
      exact fun _ _ => rfl
  refine .ite (fun h => ?fcvtSW) fun _ => ?_
  case fcvtSW =>
    subst h
    refine .ite (fun hrs2 => ?_) fun _ => .ite (fun hrs2 => ?_) fun _ => .of_illegal hd
    all_goals
      subst hrs2
      exact fun _ hrm => (Bool.or_false _).trans (hrm rfl)
  refine .ite (fun h => ?fmvWX) fun _ => .of_illegal hd
  case fmvWX =>
    subst h
    refine .ite (fun hfields => ?_) fun _ => .of_illegal hd
    obtain ⟨h3, hrs2⟩ := hfields
    subst h3 hrs2
    exact fun _ _ => rfl

theorem free_rv32f (h : (Rv32f.decode w).type ≠ .illegal) : reservedWord w = false := by
  have hrm := Rv32f.decodeOpcode_rm w
  unfold Rv32f.decode at h
  dsimp only at h
  split at h
  · exact absurd rfl h
  rename_i hmode
  rw [hrm] at hmode
  -- a word decoded with a reserved mode is illegal, so the mode read is a valid one
  have hvalid : Rv32f.usesRm (Rv32f.decodeOpcode w).type = true →
      Reserved.rm (u8 (bits w 14 12)) = false := by
    intro huses
    have hnot := fun hbad => hmode ⟨huses, hbad⟩
    unfold Reserved.rm
    simpa using hnot
  refine (?_ : (Rv32f.decodeOpcode w).Free _ _) h hvalid
  have hfmt := fmt_of_funct7 w
  unfold Rv32f.decodeOpcode reservedWord
  dsimp only
  generalize u8 (bits w 6 0) = op, u8 (bits w 31 25) = funct7, u8 (bits w 26 25) = fmt at hfmt ⊢
  -- the four fused opcodes: fmt, the low bits of funct7, has to be that of single precision
  have hmadd : ∀ {x y : Rv32f.DecodedInstr} {badRm : Bool}, y.type = .illegal →
      Rv32f.usesRm x.type = true →
        (if fmt = 0b00 then x else y).Free badRm (badRm || decide (funct7 &&& 0b11 ≠ 0b00)) := by
    intro x y badRm hy hx
    refine .ite (fun hfmt' => ?_) fun _ => .of_illegal hy
    rw [← hfmt, hfmt']
    exact fun _ hrm => (Bool.or_false _).trans (hrm hx)
  refine .ite (fun hop => ?loadFp) fun _ => ?_
  case loadFp =>
    subst hop
    refine .ite (fun h3 => ?_) fun _ => .of_illegal rfl
    rw [h3]
    exact fun _ _ => rfl
  refine .ite (fun hop => ?storeFp) fun _ => ?_
  case storeFp =>
    subst hop
    refine .ite (fun h3 => ?_) fun _ => .of_illegal rfl
    rw [h3]
    exact fun _ _ => rfl
  refine .ite (fun hop => ?madd) fun _ => ?_
  case madd => subst hop; exact hmadd rfl rfl
  refine .ite (fun hop => ?msub) fun _ => ?_
  case msub => subst hop; exact hmadd rfl rfl
  refine .ite (fun hop => ?nmsub) fun _ => ?_
  case nmsub => subst hop; exact hmadd rfl rfl
  refine .ite (fun hop => ?nmadd) fun _ => ?_
  case nmadd => subst hop; exact hmadd rfl rfl
  refine .ite (fun hop => ?opFp) fun _ => .of_illegal rfl
  case opFp => subst hop; exact free_decodeOpFp rfl

theorem free_zicsr (h : (Zicsr.decode w).type ≠ .illegal) : reservedWord w = false := by
  have htest := isCsr_of_decode h
  unfold Zicsr.isCsrInstruction at htest
  simp only [Bool.and_eq_true, decide_eq_true_eq] at htest
  unfold reservedWord
  rw [htest.1.1]
  exact decide_eq_false htest.2

theorem free_zifencei (h : (Zifencei.decode w).type ≠ .illegal) : reservedWord w = false := by
  have htest := isZifencei_of_decode h
  unfold Zifencei.isZifenceiInstruction at htest
  simp only [Bool.and_eq_true, decide_eq_true_eq] at htest
  unfold reservedWord
  rw [htest.1, htest.2]
  rfl

theorem free_zba (h : (Zba.decode w).type ≠ .illegal) : reservedWord w = false := by
  have htest := isZba_of_decode h
  unfold Zba.isZbaInstruction at htest
  dsimp only at htest
  split at htest
  · cases htest
  rename_i hfields
  simp only [not_or, Decidable.not_not] at hfields
  simp only [Bool.or_eq_true, decide_eq_true_eq] at htest
  unfold reservedWord
  rw [hfields.1, hfields.2]
  rcases htest with (htest | htest) | htest <;> rw [htest] <;> rfl

theorem free_decodeRType {d : Zbb.DecodedInstr} (hd : d.type = .illegal) {funct3 funct7 : BitVec 8}
    (h : (Zbb.decodeRType d funct3 funct7).type ≠ .illegal) :
    Reserved.op funct3 funct7 d.rs2 = false := by
  unfold Zbb.decodeRType at h
  unfold Reserved.op
  grind -ext [Zbb.Funct7.andn, Zbb.Funct7.minmax, Zbb.Funct7.rol]

theorem free_decodeIType {d : Zbb.DecodedInstr} (hd : d.type = .illegal)
    {funct3 funct7 : BitVec 8} {funct12 : BitVec 16}
    (horcB : funct12 = 0b001010000111 → funct7 = 0b0010100 ∧ d.rs2 = 7)
    (hrev8 : funct12 = 0b011010011000 → funct7 = 0b0110100 ∧ d.rs2 = 24)
    (h : (Zbb.decodeIType d funct3 funct7 funct12).type ≠ .illegal) :
    Reserved.opImm funct3 funct7 d.rs2 = false := by
  unfold Zbb.decodeIType at h
  unfold Reserved.opImm
  grind -ext [Zbb.Funct7.rori, Zbb.Rs2Val.clz, Zbb.Rs2Val.ctz, Zbb.Rs2Val.cpop, Zbb.Rs2Val.sextB,
    Zbb.Rs2Val.sextH]

theorem free_zbb (h : (Zbb.decode w).type ≠ .illegal) : reservedWord w = false := by
  have hsplit : ∀ {funct7 rs2 : BitVec 8} {v : BitVec 16}, IsCsr v → funct7.toNat < 128 →
      IsReg rs2 → v.setWidth 12 = funct7.setWidth 7 ++ rs2.setWidth 5 →
        u16 (bits w 31 20) = v → u8 (bits w 31 25) = funct7 ∧ u8 (bits w 24 20) = rs2 :=
    fun h h7 h2 hs => (imm12_split_iff h h7 h2 hs).mp
  unfold Zbb.decode at h
  dsimp only at h
  unfold reservedWord
  split at h
  · rename_i hop
    rw [hop]
    exact free_decodeRType rfl h
  split at h
  · rename_i hop
    rw [hop]
    exact free_decodeIType rfl (hsplit (by decide) (by decide) (by decide) (by decide))
      (hsplit (by decide) (by decide) (by decide) (by decide)) h
  · exact absurd rfl h

theorem free_zbs (h : (Zbs.decode w).type ≠ .illegal) : reservedWord w = false := by
  have hfields := zbs_fields (decide_eq_true h)
  unfold reservedWord
  obtain ⟨hop | hop, ⟨hfunct3, hfunct7 | hfunct7 | hfunct7⟩ | ⟨hfunct3, hfunct7⟩⟩ := hfields <;>
    rw [hop, hfunct3, hfunct7] <;> rfl

theorem free_zicond (h : (Zicond.decode w).type ≠ .illegal) : reservedWord w = false := by
  have htest := isZicond_of_decode h
  unfold Zicond.isZicondInstruction at htest
  dsimp only at htest
  split at htest
  · cases htest
  rename_i hfields
  simp only [not_or, Decidable.not_not] at hfields
  simp only [Bool.or_eq_true, decide_eq_true_eq] at htest
  unfold reservedWord
  rw [hfields.1, hfields.2]
  rcases htest with htest | htest <;> rw [htest] <;> rfl

/-! ## Words no decoder accepts -/

/-- **A word of reserved fields is no instruction.** -/
theorem unclaimed_of_reserved (hsize : OpcodeClassifier.isCompressed w = false)
    (h : reservedWord w = true) : Unclaimed w := by
  intro c e
  cases haccepts : c.accepts e w with
  | false => rfl
  | true =>
  obtain ⟨hsize16, hdecodes⟩ := OpcodeClassifier.accepts_iff.mp haccepts
  rw [hsize] at hsize16
  have hno : reservedWord w = false := by
    cases e with
    | rv32i => exact free_rv32i _ hdecodes
    | rv32m => exact free_rv32m hdecodes
    | rv32a => exact free_rv32a hdecodes
    | rv32f => exact free_rv32f hdecodes
    | zicsr => exact free_zicsr hdecodes
    | zifencei => exact free_zifencei hdecodes
    | zba => exact free_zba hdecodes
    | zbb => exact free_zbb hdecodes
    | zbs => exact free_zbs hdecodes
    | zicond => exact free_zicond hdecodes
    | rv32c | rv32fc => cases hsize16
  exact absurd (h.symm.trans hno) (by decide)

/-- With funct3 000 the system opcode has six instructions, SFENCE.VMA with two free
registers. -/
theorem unclaimed_system (hop : u8 (bits w 6 0) = 0b1110011) (h3 : u8 (bits w 14 12) = 0b000)
    (hsize : OpcodeClassifier.isCompressed w = false)
    (h : w ∉ [0x00000073, 0x00100073, 0x30200073, 0x10500073, 0x10200073] ∧
      w &&& 0xFE007FFF ≠ 0x12000073) : Unclaimed w := by
  obtain ⟨hlist, hfence⟩ := h
  simp only [List.mem_cons, List.not_mem_nil, or_false, not_or] at hlist
  obtain ⟨hecall, hebreak, hmret, hwfi, hsret⟩ := hlist
  intro c e
  cases haccepts : c.accepts e w with
  | false => rfl
  | true =>
  have hext := accepts_extensionOf haccepts
  -- no extension but the base set owns the opcode with this funct3
  have hbase : extensionOf w = .rv32i := by
    unfold extensionOf ownerOf
    rw [hsize, hop, h3]
    rfl
  have hillegal : (c.rv32iDec.decode w).type = .illegal := by
    unfold Rv32i.Decoder.decode
    dsimp only
    rw [hop]
    show (c.rv32iDec.decodeSystem _).type = .illegal
    unfold Rv32i.Decoder.decodeSystem
    simp only [h3, hecall, hebreak, hmret, hwfi, hsret, hfence, if_false, ite_self]
  rw [← hext, hbase] at haccepts
  exact absurd hillegal (OpcodeClassifier.accepts_iff.mp haccepts).2

/-- A parcel that abbreviates nothing is no instruction. -/
theorem unclaimed_parcel (hsize : OpcodeClassifier.isCompressed w = true)
    (h : Rvc.expand (u16 w) = none) : Unclaimed w := by
  have hc : (Rv32c.decode (u16 w)).type = .illegal := by
    refine Decidable.byContradiction fun hlegal => ?_
    obtain ⟨v, hv, -⟩ := expands_decode (u16 w) hlegal
    rw [h] at hv
    cases hv
  have hfc : (Rv32fc.decode (u16 w)).type = .illegal := by
    refine Decidable.byContradiction fun hlegal => ?_
    obtain ⟨v, hv, -⟩ := expands_zcf (u16 w) hlegal
    rw [h] at hv
    cases hv
  intro c e
  refine Bool.eq_false_iff.mpr fun haccepts => ?_
  obtain ⟨hsize16, hdecodes⟩ := OpcodeClassifier.accepts_iff.mp haccepts
  rw [hsize] at hsize16
  cases e with
  | rv32c => exact hdecodes hc
  | rv32fc => exact hdecodes hfc
  | _ => cases hsize16

end

end Riscv

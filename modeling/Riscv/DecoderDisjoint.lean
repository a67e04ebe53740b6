import Riscv.OpcodeClassify

/- Disjoint decoders.

   `ownerOf` divides the 32-bit encodings between the extensions by opcode, funct3
   and funct7 alone. Whatever a decoder accepts, and whatever a dispatch test
   claims, lies in the part of its extension; so no two decoders accept one word
   and no two tests claim one. -/
namespace Riscv

/-! ## Extensions -/

/-- The extensions the classifier tells apart. -/
inductive Extension where
  | rv32i | rv32m | rv32a | rv32f | zicsr | zifencei | zba | zbb | zbs | zicond
  | rv32c | rv32fc
  deriving DecidableEq, Repr

/-- The predicate of an extension. -/
def OpcodeClassifier.accepts (c : OpcodeClassifier) (e : Extension) (opcode : Word) : Bool :=
  match e with
  | .rv32i => c.opcodeIsRv32i opcode
  | .rv32m => c.opcodeIsRv32m opcode
  | .rv32a => c.opcodeIsRv32a opcode
  | .rv32f => c.opcodeIsRv32f opcode
  | .zicsr => c.opcodeIsZicsr opcode
  | .zifencei => c.opcodeIsZifencei opcode
  | .zba => c.opcodeIsZba opcode
  | .zbb => c.opcodeIsZbb opcode
  | .zbs => c.opcodeIsZbs opcode
  | .zicond => c.opcodeIsZicond opcode
  | .rv32c => c.opcodeIsRv32c opcode
  | .rv32fc => c.opcodeIsRv32fc opcode

/-- Whether the extension is one of 16-bit instructions. -/
def Extension.is16bit : Extension → Bool
  | .rv32c | .rv32fc => true
  | _ => false

/-- The decoder of the extension makes an instruction of the word, or of its low
parcel. -/
def OpcodeClassifier.Decodes (c : OpcodeClassifier) (e : Extension) (opcode : Word) : Prop :=
  match e with
  | .rv32i => (c.rv32iDec.decode opcode).type ≠ .illegal
  | .rv32m => (Rv32m.decode opcode).type ≠ .illegal
  | .rv32a => (Rv32a.decode opcode).type ≠ .illegal
  | .rv32f => (Rv32f.decode opcode).type ≠ .illegal
  | .zicsr => (Zicsr.decode opcode).type ≠ .illegal
  | .zifencei => (Zifencei.decode opcode).type ≠ .illegal
  | .zba => (Zba.decode opcode).type ≠ .illegal
  | .zbb => (Zbb.decode opcode).type ≠ .illegal
  | .zbs => (Zbs.decode opcode).type ≠ .illegal
  | .zicond => (Zicond.decode opcode).type ≠ .illegal
  | .rv32c => (Rv32c.decode (u16 opcode)).type ≠ .illegal
  | .rv32fc => (Rv32fc.decode (u16 opcode)).type ≠ .illegal

/-- **A predicate asks for the size and for the decoder of its extension.** -/
theorem OpcodeClassifier.accepts_iff {c : OpcodeClassifier} {e : Extension} {opcode : Word} :
    c.accepts e opcode = true ↔
      OpcodeClassifier.isCompressed opcode = e.is16bit ∧ c.Decodes e opcode := by
  have h32 : ∀ {p : Prop} [Decidable p],
      (!OpcodeClassifier.isCompressed opcode && decide p) = true ↔
        OpcodeClassifier.isCompressed opcode = false ∧ p := by
    intro p _
    rw [Bool.and_eq_true, Bool.not_eq_true', decide_eq_true_eq]
  have h16 : ∀ {p : Prop} [Decidable p],
      (OpcodeClassifier.isCompressed opcode && decide p) = true ↔
        OpcodeClassifier.isCompressed opcode = true ∧ p := by
    intro p _
    rw [Bool.and_eq_true, decide_eq_true_eq]
  cases e with
  | rv32c | rv32fc => exact h16
  | _ => exact h32

/-! ## Who owns a 32-bit encoding -/

/-- The owner of a register-register word. -/
def ownerOp (funct3 funct7 : BitVec 8) : Extension :=
  if funct7 = 0b0000000 then .rv32i
  else if funct7 = 0b0000001 then .rv32m
  else if funct7 = 0b0100000 then
    if funct3 = 0b000 ∨ funct3 = 0b101 then .rv32i else .zbb
  else if funct7 = 0b0010000 then .zba
  else if funct7 = 0b0000111 then .zicond
  else if funct7 = 0b0010100 ∨ funct7 = 0b0100100 ∨ funct7 = 0b0110100 then .zbs
  else .zbb

/-- The owner of a register-immediate word: only the shifts are divided. -/
def ownerOpImm (funct3 funct7 : BitVec 8) : Extension :=
  if funct3 = 0b001 then
    if funct7 = 0b0000000 then .rv32i else if funct7 = 0b0110000 then .zbb else .zbs
  else if funct3 = 0b101 then
    if funct7 = 0b0000000 ∨ funct7 = 0b0100000 then .rv32i
    else if funct7 = 0b0100100 then .zbs
    else .zbb
  else .rv32i

/-- The one extension whose part of the encoding space the fields are in. -/
def owner32 (op funct3 funct7 : BitVec 8) : Extension :=
  if op = 0b0110011 then ownerOp funct3 funct7
  else if op = 0b0010011 then ownerOpImm funct3 funct7
  else if op = 0b0001111 then if funct3 = 0b001 then .zifencei else .rv32i
  else if op = 0b1110011 then if funct3 = 0b000 then .rv32i else .zicsr
  else if op = 0b0101111 then .rv32a
  else if op = 0b0000111 ∨ op = 0b0100111 ∨ op = 0b1000011 ∨ op = 0b1000111 ∨
      op = 0b1001011 ∨ op = 0b1001111 ∨ op = 0b1010011 then .rv32f
  else .rv32i

/-- The only extension whose decoder may accept a 32-bit word. -/
def ownerOf (instr : Word) : Extension :=
  owner32 (u8 (bits instr 6 0)) (u8 (bits instr 14 12)) (u8 (bits instr 31 25))

/-! ## Fields -/

theorem funct7_of_funct12 (instr : Word) :
    u8 (bits instr 31 25) = (u16 (bits instr 31 20) >>> 5).setWidth 8 := by
  have h7 := fun i => getLsbD_bits instr (show 31 - 25 < 31 by decide) i
  have h12 := fun i => getLsbD_bits instr (show 31 - 20 < 31 by decide) i
  apply BitVec.eq_of_getLsbD_eq
  intro i hi
  have hidx : 20 + (5 + i) = 25 + i := by omega
  have h16 : 5 + i < 16 := by omega
  simp only [u8, u16, BitVec.getLsbD_setWidth, BitVec.getLsbD_ushiftRight, h7, h12, hidx, hi, h16]
  by_cases h : i ≤ 6 <;> simp [h] <;> omega

/-! ## Every decoder stays in its part -/

section Owner
variable {instr : Word}

/-- The size of an encoding is read from its opcode. -/
theorem op_and_three (w : Word) : w &&& 0x3 = 0x3 ↔ u8 (bits w 6 0) &&& 0x3 = 0x3 := by
  have hword : (w >>> 0) &&& 0x3 = _ := BitVec.ushiftRight_and_three w 0
  have hop : (u8 (bits w 6 0) >>> 0) &&& 0x3 = _ :=
    BitVec.ushiftRight_and_three (u8 (bits w 6 0)) 0
  have hbits := fun i => getLsbD_bits w (show 6 - 0 < 31 by decide) i
  rw [BitVec.ushiftRight_zero] at hword hop
  rw [hword, hop]
  simp only [u8, BitVec.getLsbD_setWidth, hbits]
  cases w.getLsbD 0 <;> cases w.getLsbD 1 <;> simp

theorem owner_rv32m (h : Rv32m.isMInstruction instr = true) : ownerOf instr = .rv32m := by
  unfold Rv32m.isMInstruction at h
  simp only [Bool.and_eq_true, decide_eq_true_eq] at h
  unfold ownerOf
  rw [h.1, h.2]
  rfl

theorem owner_rv32a (h : Rv32a.isAtomicInstruction instr = true) : ownerOf instr = .rv32a := by
  unfold Rv32a.isAtomicInstruction at h
  simp only [Bool.and_eq_true, decide_eq_true_eq] at h
  unfold ownerOf
  rw [h.1]
  rfl

theorem owner_rv32f (h : Rv32f.isFInstruction instr = true) : ownerOf instr = .rv32f := by
  unfold Rv32f.isFInstruction at h
  simp only [Bool.or_eq_true, decide_eq_true_eq] at h
  unfold ownerOf
  rcases h with (((((h | h) | h) | h) | h) | h) | h <;> rw [h] <;> rfl

theorem owner_zicsr (h : Zicsr.isCsrInstruction instr = true) : ownerOf instr = .zicsr := by
  unfold Zicsr.isCsrInstruction at h
  simp only [Bool.and_eq_true, decide_eq_true_eq] at h
  have hfunct3 : ¬u8 (bits instr 14 12) = 0b000 := by
    intro hzero
    rw [hzero] at h
    exact absurd h.1.2 (by decide)
  unfold ownerOf
  rw [h.1.1]
  exact if_neg hfunct3

theorem owner_zifencei (h : Zifencei.isZifenceiInstruction instr = true) :
    ownerOf instr = .zifencei := by
  unfold Zifencei.isZifenceiInstruction at h
  simp only [Bool.and_eq_true, decide_eq_true_eq] at h
  unfold ownerOf
  rw [h.1, h.2]
  rfl

theorem owner_zba (h : Zba.isZbaInstruction instr = true) : ownerOf instr = .zba := by
  unfold Zba.isZbaInstruction at h
  dsimp only at h
  split at h
  · cases h
  rename_i hfields
  simp only [not_or, Decidable.not_not] at hfields
  unfold ownerOf
  rw [hfields.1, hfields.2]
  rfl

theorem owner_decodeRType {d : Zbb.DecodedInstr} (hd : d.type = .illegal)
    {funct3 funct7 : BitVec 8} (h : (Zbb.decodeRType d funct3 funct7).type ≠ .illegal) :
    ownerOp funct3 funct7 = .zbb := by
  unfold Zbb.decodeRType at h
  grind [ownerOp, Zbb.Funct7.andn, Zbb.Funct7.minmax, Zbb.Funct7.rol]

theorem owner_decodeIType {d : Zbb.DecodedInstr} (hd : d.type = .illegal)
    {funct3 funct7 : BitVec 8} {funct12 : BitVec 16}
    (hfield : funct7 = (funct12 >>> 5).setWidth 8)
    (h : (Zbb.decodeIType d funct3 funct7 funct12).type ≠ .illegal) :
    ownerOpImm funct3 funct7 = .zbb := by
  have horcB : funct12 = 0b001010000111 → funct7 = 0b0010100 := fun h12 => by
    rw [hfield, h12]
    rfl
  have hrev8 : funct12 = 0b011010011000 → funct7 = 0b0110100 := fun h12 => by
    rw [hfield, h12]
    rfl
  clear hfield
  unfold Zbb.decodeIType at h
  grind [ownerOpImm, Zbb.Funct7.rori]

theorem owner_zbb (h : Zbb.isZbbInstruction instr = true) : ownerOf instr = .zbb := by
  have h := of_decide_eq_true h
  unfold Zbb.decode at h
  dsimp only at h
  unfold ownerOf
  split at h
  · rename_i hop
    rw [hop]
    exact owner_decodeRType rfl h
  split at h
  · rename_i hop
    rw [hop]
    exact owner_decodeIType rfl (funct7_of_funct12 instr) h
  · exact absurd rfl h

theorem zbs_fields (h : Zbs.isZbsInstruction instr = true) :
    (u8 (bits instr 6 0) = Zbs.Opcode.op ∨ u8 (bits instr 6 0) = Zbs.Opcode.opImm) ∧
      ((u8 (bits instr 14 12) = Zbs.Funct3.bsetBclrBinv ∧
          (u8 (bits instr 31 25) = Zbs.Funct7.bset ∨ u8 (bits instr 31 25) = Zbs.Funct7.bclr ∨
            u8 (bits instr 31 25) = Zbs.Funct7.binv)) ∨
        (u8 (bits instr 14 12) = Zbs.Funct3.bext ∧ u8 (bits instr 31 25) = Zbs.Funct7.bext)) := by
  unfold Zbs.isZbsInstruction Zbs.decode at h
  grind

theorem owner_zbs (h : Zbs.isZbsInstruction instr = true) : ownerOf instr = .zbs := by
  have hfields := zbs_fields h
  unfold ownerOf
  obtain ⟨hop | hop, ⟨hfunct3, hfunct7 | hfunct7 | hfunct7⟩ | ⟨hfunct3, hfunct7⟩⟩ := hfields <;>
    rw [hop, hfunct3, hfunct7] <;> rfl

theorem owner_zicond (h : Zicond.isZicondInstruction instr = true) : ownerOf instr = .zicond := by
  unfold Zicond.isZicondInstruction at h
  dsimp only at h
  split at h
  · cases h
  rename_i hfields
  simp only [not_or, Decidable.not_not] at hfields
  unfold ownerOf
  rw [hfields.1, hfields.2]
  rfl

theorem owner_decodeOp {d : Rv32i.DecodedInstr} (hd : d.type = .illegal)
    (h : (Rv32i.Decoder.decodeOp d).type ≠ .illegal) : ownerOp d.funct3 d.funct7 = .rv32i := by
  unfold Rv32i.Decoder.decodeOp at h
  grind [ownerOp]

theorem owner_decodeOpImm {d : Rv32i.DecodedInstr} (hd : d.type = .illegal)
    (h : (Rv32i.Decoder.decodeOpImm d).type ≠ .illegal) :
    ownerOpImm d.funct3 d.funct7 = .rv32i := by
  unfold Rv32i.Decoder.decodeOpImm at h
  grind -ext [ownerOpImm]

theorem funct3_decodeFence {d : Rv32i.DecodedInstr} (hd : d.type = .illegal)
    (h : (Rv32i.Decoder.decodeFence d).type ≠ .illegal) : d.funct3 = 0 := by
  unfold Rv32i.Decoder.decodeFence at h
  split at h
  · assumption
  · exact absurd hd h

theorem funct3_decodeSystem {dec : Rv32i.Decoder} {d : Rv32i.DecodedInstr}
    (hd : d.type = .illegal) (h : (dec.decodeSystem d).type ≠ .illegal) : d.funct3 = 0 := by
  unfold Rv32i.Decoder.decodeSystem at h
  split at h
  · assumption
  · exact absurd hd h

/-- A base instruction, if legal, lies in the part of RV32I. -/
def Rv32i.DecodedInstr.OwnedBy (owner : Extension) (d : Rv32i.DecodedInstr) : Prop :=
  d.type ≠ .illegal → owner = .rv32i

theorem decode_ownedBy (dec : Rv32i.Decoder) (instr : Word) :
    (dec.decode instr).OwnedBy (ownerOf instr) := by
  unfold Rv32i.Decoder.decode ownerOf
  dsimp only
  generalize u8 (bits instr 6 0) = op, u8 (bits instr 14 12) = funct3,
    u8 (bits instr 31 25) = funct7
  -- the owner is read from the same three fields the decoder branches on
  have hpart : ∀ {c : Prop} [Decidable c] {x y : Rv32i.DecodedInstr},
      (c → x.OwnedBy (owner32 op funct3 funct7)) → (¬c → y.OwnedBy (owner32 op funct3 funct7)) →
        (if c then x else y).OwnedBy (owner32 op funct3 funct7) :=
    fun hx hy => iteInduction hx hy
  refine hpart (fun hop => ?lui) fun _ => ?_
  case lui => subst hop; exact fun _ => rfl
  refine hpart (fun hop => ?auipc) fun _ => ?_
  case auipc => subst hop; exact fun _ => rfl
  refine hpart (fun hop => ?jal) fun _ => ?_
  case jal => subst hop; exact fun _ => rfl
  refine hpart (fun hop => ?jalr) fun _ => ?_
  case jalr => subst hop; exact fun _ => rfl
  refine hpart (fun hop => ?branch) fun _ => ?_
  case branch => subst hop; exact fun _ => rfl
  refine hpart (fun hop => ?load) fun _ => ?_
  case load => subst hop; exact fun _ => rfl
  refine hpart (fun hop => ?store) fun _ => ?_
  case store => subst hop; exact fun _ => rfl
  refine hpart (fun hop => ?opImm) fun _ => ?_
  case opImm => subst hop; exact owner_decodeOpImm rfl
  refine hpart (fun hop => ?op) fun _ => ?_
  case op => subst hop; exact owner_decodeOp rfl
  refine hpart (fun hop => ?misc) fun _ => ?_
  case misc =>
    subst hop
    intro h
    have hfunct3 : funct3 = 0 := funct3_decodeFence rfl h
    rw [hfunct3]
    rfl
  refine hpart (fun hop => ?system) fun _ => ?_
  case system =>
    subst hop
    intro h
    have hfunct3 : funct3 = 0 := funct3_decodeSystem rfl h
    rw [hfunct3]
    rfl
  exact fun h => absurd rfl h

/-! ## The dispatch tests -/

/-- What a decoder accepts, its dispatch test claims; for Zbb and Zbs the test is
that the decoder accepts. -/
theorem isM_of_decode (h : (Rv32m.decode instr).type ≠ .illegal) :
    Rv32m.isMInstruction instr = true := by
  unfold Rv32m.decode at h
  unfold Rv32m.isMInstruction
  grind

theorem isAtomic_of_decode (h : (Rv32a.decode instr).type ≠ .illegal) :
    Rv32a.isAtomicInstruction instr = true := by
  unfold Rv32a.decode at h
  unfold Rv32a.isAtomicInstruction
  grind

theorem isF_of_decodeOpcode (h : (Rv32f.decodeOpcode instr).type ≠ .illegal) :
    Rv32f.isFInstruction instr = true := by
  unfold Rv32f.decodeOpcode at h
  unfold Rv32f.isFInstruction
  grind

theorem isF_of_decode (h : (Rv32f.decode instr).type ≠ .illegal) :
    Rv32f.isFInstruction instr = true := by
  refine isF_of_decodeOpcode fun hopcode => h ?_
  unfold Rv32f.decode
  dsimp only
  split
  · rfl
  · exact hopcode

theorem isCsr_of_decode (h : (Zicsr.decode instr).type ≠ .illegal) :
    Zicsr.isCsrInstruction instr = true := by
  have hfields : u8 (bits instr 6 0) = Zicsr.Opcode.system ∧
      (u8 (bits instr 14 12) = Zicsr.Funct3.csrrw ∨ u8 (bits instr 14 12) = Zicsr.Funct3.csrrs ∨
        u8 (bits instr 14 12) = Zicsr.Funct3.csrrc ∨ u8 (bits instr 14 12) = Zicsr.Funct3.csrrwi ∨
        u8 (bits instr 14 12) = Zicsr.Funct3.csrrsi ∨
        u8 (bits instr 14 12) = Zicsr.Funct3.csrrci) := by
    unfold Zicsr.decode at h
    grind
  unfold Zicsr.isCsrInstruction
  rw [hfields.1]
  rcases hfields.2 with hf | hf | hf | hf | hf | hf <;> rw [hf] <;> rfl

theorem isZifencei_of_decode (h : (Zifencei.decode instr).type ≠ .illegal) :
    Zifencei.isZifenceiInstruction instr = true := by
  unfold Zifencei.decode at h
  unfold Zifencei.isZifenceiInstruction
  grind

theorem isZba_of_decode (h : (Zba.decode instr).type ≠ .illegal) :
    Zba.isZbaInstruction instr = true := by
  unfold Zba.decode at h
  unfold Zba.isZbaInstruction
  grind

theorem isZicond_of_decode (h : (Zicond.decode instr).type ≠ .illegal) :
    Zicond.isZicondInstruction instr = true := by
  unfold Zicond.decode at h
  unfold Zicond.isZicondInstruction
  grind

end Owner

/-! ## The compressed encodings -/

theorem isCompressedFloat_of_decode {p : BitVec 16} (h : (Rv32fc.decode p).type ≠ .illegal) :
    Rv32fc.isCompressedFloat p = true := by
  unfold Rv32fc.decode Rv32fc.decodeQuadrant0 Rv32fc.decodeQuadrant2 at h
  unfold Rv32fc.isCompressedFloat
  grind

theorem decode_of_isCompressedFloat {p : BitVec 16} (h : Rv32fc.isCompressedFloat p = true) :
    (Rv32c.decode p).type = .illegal := by
  unfold Rv32fc.isCompressedFloat at h
  unfold Rv32c.decode Rv32c.decodeC0 Rv32c.decodeC2
  have hfield : Rv32fc.field p 13 0x7 = Rv32c.field p 13 0x7 := rfl
  rw [hfield] at h
  grind

/-! ## One extension a word -/

/-- The extension a word, compressed or not, can belong to. -/
def extensionOf (opcode : Word) : Extension :=
  if OpcodeClassifier.isCompressed opcode then
    if Rv32fc.isCompressedFloat (u16 opcode) then .rv32fc else .rv32c
  else ownerOf opcode

/-- **A predicate holds only of words of its extension.** -/
theorem accepts_extensionOf {c : OpcodeClassifier} {e : Extension} {opcode : Word}
    (h : c.accepts e opcode = true) : extensionOf opcode = e := by
  obtain ⟨hsize, hdecodes⟩ := OpcodeClassifier.accepts_iff.mp h
  unfold extensionOf
  rw [hsize]
  cases e with
  | rv32i => exact decode_ownedBy _ _ hdecodes
  | rv32m => exact owner_rv32m (isM_of_decode hdecodes)
  | rv32a => exact owner_rv32a (isAtomic_of_decode hdecodes)
  | rv32f => exact owner_rv32f (isF_of_decode hdecodes)
  | zicsr => exact owner_zicsr (isCsr_of_decode hdecodes)
  | zifencei => exact owner_zifencei (isZifencei_of_decode hdecodes)
  | zba => exact owner_zba (isZba_of_decode hdecodes)
  | zbb => exact owner_zbb (decide_eq_true hdecodes)
  | zbs => exact owner_zbs (decide_eq_true hdecodes)
  | zicond => exact owner_zicond (isZicond_of_decode hdecodes)
  | rv32c =>
    -- the two compressed decoders have no parcel in common
    cases hf : Rv32fc.isCompressedFloat (u16 opcode) with
    | false => rfl
    | true => exact absurd (decode_of_isCompressedFloat hf) hdecodes
  | rv32fc =>
    rw [isCompressedFloat_of_decode hdecodes]
    rfl

end Riscv

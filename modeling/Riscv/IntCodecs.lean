import Riscv.EncoderFields
import Riscv.Lib.Codec

/- The integer extensions: their encoders and decoders are inverse.

   A `Call` is a helper of an `encode` namespace with its arguments. The helper
   makes a word of it (`Call.encode`) and the decoder reads one back
   (`DecodedInstr.call`), none when it rejects the word. Between the two stands the
   format, the fields a word of the call has (`Call.Fields`). -/
namespace Riscv

/-! ## M -/

namespace Rv32m

/-- A call of a helper of `rv32m::encode`. -/
inductive Call where
  | mul (rd rs1 rs2 : BitVec 8)
  | mulh (rd rs1 rs2 : BitVec 8)
  | mulhsu (rd rs1 rs2 : BitVec 8)
  | mulhu (rd rs1 rs2 : BitVec 8)
  | div (rd rs1 rs2 : BitVec 8)
  | divu (rd rs1 rs2 : BitVec 8)
  | rem (rd rs1 rs2 : BitVec 8)
  | remu (rd rs1 rs2 : BitVec 8)
  deriving DecidableEq, Repr

namespace Call

/-- The word the helper makes. -/
def encode : Call → Word
  | mul rd rs1 rs2 => Encode.mul rd rs1 rs2
  | mulh rd rs1 rs2 => Encode.mulh rd rs1 rs2
  | mulhsu rd rs1 rs2 => Encode.mulhsu rd rs1 rs2
  | mulhu rd rs1 rs2 => Encode.mulhu rd rs1 rs2
  | div rd rs1 rs2 => Encode.div rd rs1 rs2
  | divu rd rs1 rs2 => Encode.divu rd rs1 rs2
  | rem rd rs1 rs2 => Encode.rem rd rs1 rs2
  | remu rd rs1 rs2 => Encode.remu rd rs1 rs2

/-- Registers are below 32; the helper masks them. -/
def InRange : Call → Prop
  | mul rd rs1 rs2 | mulh rd rs1 rs2 | mulhsu rd rs1 rs2 | mulhu rd rs1 rs2
  | div rd rs1 rs2 | divu rd rs1 rs2 | rem rd rs1 rs2 | remu rd rs1 rs2 =>
    IsReg rd ∧ IsReg rs1 ∧ IsReg rs2

/-- The fields a word of the call has. -/
def Fields : Call → Word → Prop
  | mul rd rs1 rs2, w => RFields w Funct7.muldiv rs2 rs1 Funct3.mul rd Opcode.op
  | mulh rd rs1 rs2, w => RFields w Funct7.muldiv rs2 rs1 Funct3.mulh rd Opcode.op
  | mulhsu rd rs1 rs2, w => RFields w Funct7.muldiv rs2 rs1 Funct3.mulhsu rd Opcode.op
  | mulhu rd rs1 rs2, w => RFields w Funct7.muldiv rs2 rs1 Funct3.mulhu rd Opcode.op
  | div rd rs1 rs2, w => RFields w Funct7.muldiv rs2 rs1 Funct3.div rd Opcode.op
  | divu rd rs1 rs2, w => RFields w Funct7.muldiv rs2 rs1 Funct3.divu rd Opcode.op
  | rem rd rs1 rs2, w => RFields w Funct7.muldiv rs2 rs1 Funct3.rem rd Opcode.op
  | remu rd rs1 rs2, w => RFields w Funct7.muldiv rs2 rs1 Funct3.remu rd Opcode.op

theorem encode_iff (c : Call) (w : Word) : c.InRange ∧ c.encode = w ↔ c.Fields w := by
  cases c <;> exact packR_iff (by decide) (by decide) (by decide)

end Call

/-- The helper call a decoded instruction stands for. -/
def DecodedInstr.call (d : DecodedInstr) : Option Call :=
  match d.type with
  | .mul => some (.mul d.rd d.rs1 d.rs2)
  | .mulh => some (.mulh d.rd d.rs1 d.rs2)
  | .mulhsu => some (.mulhsu d.rd d.rs1 d.rs2)
  | .mulhu => some (.mulhu d.rd d.rs1 d.rs2)
  | .div => some (.div d.rd d.rs1 d.rs2)
  | .divu => some (.divu d.rd d.rs1 d.rs2)
  | .rem => some (.rem d.rd d.rs1 d.rs2)
  | .remu => some (.remu d.rd d.rs1 d.rs2)
  | .illegal => none

theorem isSome_call (d : DecodedInstr) : d.call.isSome ↔ d.type ≠ .illegal := by
  unfold DecodedInstr.call
  cases d.type <;> simp

theorem call_of_fields (c : Call) (w : Word) (f : c.Fields w) : (decode w).call = some c := by
  cases c <;> obtain ⟨h7, h2, h1, h3, hd, hop⟩ := f
  all_goals
    simp only [decode, h7, h2, h1, h3, hd, hop]
    rfl

theorem fields_of_call (w : Word) (c : Call) (h : (decode w).call = some c) : c.Fields w := by
  simp only [decode] at h
  split at h
  · cases h
  · next hsel =>
    rw [not_or, not_not, not_not] at hsel
    obtain ⟨hop, h7⟩ := hsel
    repeat' split at h
    all_goals cases h <;> exact ⟨h7, rfl, rfl, ‹_›, rfl, hop⟩

theorem codec : Codec.Inverse Call.InRange Call.encode fun w => (decode w).call :=
  .of_format Call.encode_iff call_of_fields fields_of_call

theorem roundTrip : Codec.RoundTrip Call.InRange Call.encode decode (·.type ≠ .illegal)
    DecodedInstr.call :=
  codec.roundTrip isSome_call

end Rv32m

/-! ## Zba -/

namespace Zba

/-- A call of a helper of `zba::encode`. -/
inductive Call where
  | sh1add (rd rs1 rs2 : BitVec 8)
  | sh2add (rd rs1 rs2 : BitVec 8)
  | sh3add (rd rs1 rs2 : BitVec 8)
  deriving DecidableEq, Repr

namespace Call

def encode : Call → Word
  | sh1add rd rs1 rs2 => Encode.sh1add rd rs1 rs2
  | sh2add rd rs1 rs2 => Encode.sh2add rd rs1 rs2
  | sh3add rd rs1 rs2 => Encode.sh3add rd rs1 rs2

def InRange : Call → Prop
  | sh1add rd rs1 rs2 | sh2add rd rs1 rs2 | sh3add rd rs1 rs2 =>
    IsReg rd ∧ IsReg rs1 ∧ IsReg rs2

def Fields : Call → Word → Prop
  | sh1add rd rs1 rs2, w => RFields w Funct7.shadd rs2 rs1 Funct3.sh1add rd Opcode.op
  | sh2add rd rs1 rs2, w => RFields w Funct7.shadd rs2 rs1 Funct3.sh2add rd Opcode.op
  | sh3add rd rs1 rs2, w => RFields w Funct7.shadd rs2 rs1 Funct3.sh3add rd Opcode.op

theorem encode_iff (c : Call) (w : Word) : c.InRange ∧ c.encode = w ↔ c.Fields w := by
  cases c <;> exact packR_iff (by decide) (by decide) (by decide)

end Call

def DecodedInstr.call (d : DecodedInstr) : Option Call :=
  match d.type with
  | .sh1add => some (.sh1add d.rd d.rs1 d.rs2)
  | .sh2add => some (.sh2add d.rd d.rs1 d.rs2)
  | .sh3add => some (.sh3add d.rd d.rs1 d.rs2)
  | .illegal => none

theorem isSome_call (d : DecodedInstr) : d.call.isSome ↔ d.type ≠ .illegal := by
  unfold DecodedInstr.call
  cases d.type <;> simp

theorem call_of_fields (c : Call) (w : Word) (f : c.Fields w) : (decode w).call = some c := by
  cases c <;> obtain ⟨h7, h2, h1, h3, hd, hop⟩ := f
  all_goals
    simp only [decode, h7, h2, h1, h3, hd, hop]
    rfl

theorem fields_of_call (w : Word) (c : Call) (h : (decode w).call = some c) : c.Fields w := by
  simp only [decode] at h
  split at h
  · next hsel =>
    obtain ⟨hop, h7⟩ := hsel
    repeat' split at h
    all_goals cases h <;> exact ⟨h7, rfl, rfl, ‹_›, rfl, hop⟩
  · cases h

theorem codec : Codec.Inverse Call.InRange Call.encode fun w => (decode w).call :=
  .of_format Call.encode_iff call_of_fields fields_of_call

theorem roundTrip : Codec.RoundTrip Call.InRange Call.encode decode (·.type ≠ .illegal)
    DecodedInstr.call :=
  codec.roundTrip isSome_call

end Zba

/-! ## Zicond -/

namespace Zicond

/-- A call of a helper of `zicond::encode`. -/
inductive Call where
  | czeroEqz (rd rs1 rs2 : BitVec 8)
  | czeroNez (rd rs1 rs2 : BitVec 8)
  deriving DecidableEq, Repr

namespace Call

def encode : Call → Word
  | czeroEqz rd rs1 rs2 => Encode.czeroEqz rd rs1 rs2
  | czeroNez rd rs1 rs2 => Encode.czeroNez rd rs1 rs2

def InRange : Call → Prop
  | czeroEqz rd rs1 rs2 | czeroNez rd rs1 rs2 => IsReg rd ∧ IsReg rs1 ∧ IsReg rs2

def Fields : Call → Word → Prop
  | czeroEqz rd rs1 rs2, w => RFields w Funct7.czero rs2 rs1 Funct3.czeroEqz rd Opcode.op
  | czeroNez rd rs1 rs2, w => RFields w Funct7.czero rs2 rs1 Funct3.czeroNez rd Opcode.op

theorem encode_iff (c : Call) (w : Word) : c.InRange ∧ c.encode = w ↔ c.Fields w := by
  cases c <;> exact packR_iff (by decide) (by decide) (by decide)

end Call

def DecodedInstr.call (d : DecodedInstr) : Option Call :=
  match d.type with
  | .czeroEqz => some (.czeroEqz d.rd d.rs1 d.rs2)
  | .czeroNez => some (.czeroNez d.rd d.rs1 d.rs2)
  | .illegal => none

theorem isSome_call (d : DecodedInstr) : d.call.isSome ↔ d.type ≠ .illegal := by
  unfold DecodedInstr.call
  cases d.type <;> simp

theorem call_of_fields (c : Call) (w : Word) (f : c.Fields w) : (decode w).call = some c := by
  cases c <;> obtain ⟨h7, h2, h1, h3, hd, hop⟩ := f
  all_goals
    simp only [decode, h7, h2, h1, h3, hd, hop]
    rfl

theorem fields_of_call (w : Word) (c : Call) (h : (decode w).call = some c) : c.Fields w := by
  simp only [decode] at h
  split at h
  · next hsel =>
    obtain ⟨hop, h7⟩ := hsel
    repeat' split at h
    all_goals cases h <;> exact ⟨h7, rfl, rfl, ‹_›, rfl, hop⟩
  · cases h

theorem codec : Codec.Inverse Call.InRange Call.encode fun w => (decode w).call :=
  .of_format Call.encode_iff call_of_fields fields_of_call

theorem roundTrip : Codec.RoundTrip Call.InRange Call.encode decode (·.type ≠ .illegal)
    DecodedInstr.call :=
  codec.roundTrip isSome_call

end Zicond

/-! ## Zbs -/

namespace Zbs

/-- A call of a helper of `zbs::encode`, with a register or an amount. -/
inductive Call where
  | bset (rd rs1 rs2 : BitVec 8)
  | bclr (rd rs1 rs2 : BitVec 8)
  | binv (rd rs1 rs2 : BitVec 8)
  | bext (rd rs1 rs2 : BitVec 8)
  | bseti (rd rs1 shamt : BitVec 8)
  | bclri (rd rs1 shamt : BitVec 8)
  | binvi (rd rs1 shamt : BitVec 8)
  | bexti (rd rs1 shamt : BitVec 8)
  deriving DecidableEq, Repr

namespace Call

def encode : Call → Word
  | bset rd rs1 rs2 => Encode.bset rd rs1 rs2
  | bclr rd rs1 rs2 => Encode.bclr rd rs1 rs2
  | binv rd rs1 rs2 => Encode.binv rd rs1 rs2
  | bext rd rs1 rs2 => Encode.bext rd rs1 rs2
  | bseti rd rs1 shamt => Encode.bseti rd rs1 shamt
  | bclri rd rs1 shamt => Encode.bclri rd rs1 shamt
  | binvi rd rs1 shamt => Encode.binvi rd rs1 shamt
  | bexti rd rs1 shamt => Encode.bexti rd rs1 shamt

/-- A shift amount is a five-bit field, as a register is. -/
def InRange : Call → Prop
  | bset rd rs1 rs2 | bclr rd rs1 rs2 | binv rd rs1 rs2 | bext rd rs1 rs2
  | bseti rd rs1 rs2 | bclri rd rs1 rs2 | binvi rd rs1 rs2 | bexti rd rs1 rs2 =>
    IsReg rd ∧ IsReg rs1 ∧ IsReg rs2

/-- The amount of an immediate form is where `rs2` would be. -/
def Fields : Call → Word → Prop
  | bset rd rs1 rs2, w => RFields w Funct7.bset rs2 rs1 Funct3.bsetBclrBinv rd Opcode.op
  | bclr rd rs1 rs2, w => RFields w Funct7.bclr rs2 rs1 Funct3.bsetBclrBinv rd Opcode.op
  | binv rd rs1 rs2, w => RFields w Funct7.binv rs2 rs1 Funct3.bsetBclrBinv rd Opcode.op
  | bext rd rs1 rs2, w => RFields w Funct7.bext rs2 rs1 Funct3.bext rd Opcode.op
  | bseti rd rs1 shamt, w => RFields w Funct7.bset shamt rs1 Funct3.bsetBclrBinv rd Opcode.opImm
  | bclri rd rs1 shamt, w => RFields w Funct7.bclr shamt rs1 Funct3.bsetBclrBinv rd Opcode.opImm
  | binvi rd rs1 shamt, w => RFields w Funct7.binv shamt rs1 Funct3.bsetBclrBinv rd Opcode.opImm
  | bexti rd rs1 shamt, w => RFields w Funct7.bext shamt rs1 Funct3.bext rd Opcode.opImm

theorem encode_iff (c : Call) (w : Word) : c.InRange ∧ c.encode = w ↔ c.Fields w := by
  cases c <;> exact packR_iff (by decide) (by decide) (by decide)

end Call

def DecodedInstr.call (d : DecodedInstr) : Option Call :=
  match d.type with
  | .bset => some (.bset d.rd d.rs1 d.rs2)
  | .bclr => some (.bclr d.rd d.rs1 d.rs2)
  | .binv => some (.binv d.rd d.rs1 d.rs2)
  | .bext => some (.bext d.rd d.rs1 d.rs2)
  | .bseti => some (.bseti d.rd d.rs1 d.shamt)
  | .bclri => some (.bclri d.rd d.rs1 d.shamt)
  | .binvi => some (.binvi d.rd d.rs1 d.shamt)
  | .bexti => some (.bexti d.rd d.rs1 d.shamt)
  | .illegal => none

theorem isSome_call (d : DecodedInstr) : d.call.isSome ↔ d.type ≠ .illegal := by
  unfold DecodedInstr.call
  cases d.type <;> simp

theorem call_of_fields (c : Call) (w : Word) (f : c.Fields w) : (decode w).call = some c := by
  cases c <;> obtain ⟨h7, h2, h1, h3, hd, hop⟩ := f
  all_goals
    simp only [decode, h7, h2, h1, h3, hd, hop]
    rfl

theorem fields_of_call (w : Word) (c : Call) (h : (decode w).call = some c) : c.Fields w := by
  simp only [decode] at h
  repeat' split at h
  case isTrue.isFalse.isTrue hop _ hsel => cases h; exact ⟨hsel.2, rfl, rfl, hsel.1, rfl, hop⟩
  case isFalse.isTrue.isFalse.isTrue hop _ hsel =>
    cases h
    exact ⟨hsel.2, rfl, rfl, hsel.1, rfl, hop⟩
  all_goals cases h <;> exact ⟨‹_›, rfl, rfl, ‹_›, rfl, ‹_›⟩

theorem codec : Codec.Inverse Call.InRange Call.encode fun w => (decode w).call :=
  .of_format Call.encode_iff call_of_fields fields_of_call

theorem roundTrip : Codec.RoundTrip Call.InRange Call.encode decode (·.type ≠ .illegal)
    DecodedInstr.call :=
  codec.roundTrip isSome_call

end Zbs

/-! ## Zbb -/

namespace Zbb

/-- A call of a helper of `zbb::encode`; the unary ones have two arguments. -/
inductive Call where
  | andn (rd rs1 rs2 : BitVec 8)
  | orn (rd rs1 rs2 : BitVec 8)
  | xnor (rd rs1 rs2 : BitVec 8)
  | clz (rd rs1 : BitVec 8)
  | ctz (rd rs1 : BitVec 8)
  | cpop (rd rs1 : BitVec 8)
  | min (rd rs1 rs2 : BitVec 8)
  | minu (rd rs1 rs2 : BitVec 8)
  | max (rd rs1 rs2 : BitVec 8)
  | maxu (rd rs1 rs2 : BitVec 8)
  | sextB (rd rs1 : BitVec 8)
  | sextH (rd rs1 : BitVec 8)
  | zextH (rd rs1 : BitVec 8)
  | rol (rd rs1 rs2 : BitVec 8)
  | ror (rd rs1 rs2 : BitVec 8)
  | rori (rd rs1 shamt : BitVec 8)
  | orcB (rd rs1 : BitVec 8)
  | rev8 (rd rs1 : BitVec 8)
  deriving DecidableEq, Repr

namespace Call

def encode : Call → Word
  | andn rd rs1 rs2 => Encode.andn rd rs1 rs2
  | orn rd rs1 rs2 => Encode.orn rd rs1 rs2
  | xnor rd rs1 rs2 => Encode.xnor rd rs1 rs2
  | clz rd rs1 => Encode.clz rd rs1
  | ctz rd rs1 => Encode.ctz rd rs1
  | cpop rd rs1 => Encode.cpop rd rs1
  | min rd rs1 rs2 => Encode.min rd rs1 rs2
  | minu rd rs1 rs2 => Encode.minu rd rs1 rs2
  | max rd rs1 rs2 => Encode.max rd rs1 rs2
  | maxu rd rs1 rs2 => Encode.maxu rd rs1 rs2
  | sextB rd rs1 => Encode.sextB rd rs1
  | sextH rd rs1 => Encode.sextH rd rs1
  | zextH rd rs1 => Encode.zextH rd rs1
  | rol rd rs1 rs2 => Encode.rol rd rs1 rs2
  | ror rd rs1 rs2 => Encode.ror rd rs1 rs2
  | rori rd rs1 shamt => Encode.rori rd rs1 shamt
  | orcB rd rs1 => Encode.orcB rd rs1
  | rev8 rd rs1 => Encode.rev8 rd rs1

/-- Registers and the amount of RORI are below 32. -/
def InRange : Call → Prop
  | andn rd rs1 rs2 | orn rd rs1 rs2 | xnor rd rs1 rs2 | min rd rs1 rs2 | minu rd rs1 rs2
  | max rd rs1 rs2 | maxu rd rs1 rs2 | rol rd rs1 rs2 | ror rd rs1 rs2 | rori rd rs1 rs2 =>
    IsReg rd ∧ IsReg rs1 ∧ IsReg rs2
  | clz rd rs1 | ctz rd rs1 | cpop rd rs1 | sextB rd rs1 | sextH rd rs1 | zextH rd rs1
  | orcB rd rs1 | rev8 rd rs1 => IsReg rd ∧ IsReg rs1

/-- The unary instructions have a constant where `rs2` would be. -/
def Fields : Call → Word → Prop
  | andn rd rs1 rs2, w => RFields w Funct7.andn rs2 rs1 0b111 rd Opcode.op
  | orn rd rs1 rs2, w => RFields w Funct7.andn rs2 rs1 0b110 rd Opcode.op
  | xnor rd rs1 rs2, w => RFields w Funct7.andn rs2 rs1 0b100 rd Opcode.op
  | clz rd rs1, w => RFields w 0b0110000 Rs2Val.clz rs1 0b001 rd Opcode.opImm
  | ctz rd rs1, w => RFields w 0b0110000 Rs2Val.ctz rs1 0b001 rd Opcode.opImm
  | cpop rd rs1, w => RFields w 0b0110000 Rs2Val.cpop rs1 0b001 rd Opcode.opImm
  | min rd rs1 rs2, w => RFields w Funct7.minmax rs2 rs1 0b100 rd Opcode.op
  | minu rd rs1 rs2, w => RFields w Funct7.minmax rs2 rs1 0b101 rd Opcode.op
  | max rd rs1 rs2, w => RFields w Funct7.minmax rs2 rs1 0b110 rd Opcode.op
  | maxu rd rs1 rs2, w => RFields w Funct7.minmax rs2 rs1 0b111 rd Opcode.op
  | sextB rd rs1, w => RFields w 0b0110000 Rs2Val.sextB rs1 0b001 rd Opcode.opImm
  | sextH rd rs1, w => RFields w 0b0110000 Rs2Val.sextH rs1 0b001 rd Opcode.opImm
  | zextH rd rs1, w => RFields w 0b0000100 0 rs1 0b100 rd Opcode.op
  | rol rd rs1 rs2, w => RFields w Funct7.rol rs2 rs1 0b001 rd Opcode.op
  | ror rd rs1 rs2, w => RFields w Funct7.rol rs2 rs1 0b101 rd Opcode.op
  | rori rd rs1 shamt, w => RFields w Funct7.rori shamt rs1 0b101 rd Opcode.opImm
  | orcB rd rs1, w => RFields w 0b0010100 0b00111 rs1 0b101 rd Opcode.opImm
  | rev8 rd rs1, w => RFields w 0b0110100 0b11000 rs1 0b101 rd Opcode.opImm

theorem encode_iff (c : Call) (w : Word) : c.InRange ∧ c.encode = w ↔ c.Fields w := by
  cases c
  case rori rd rs1 shamt =>
    have hsplit : ∀ v : BitVec 8,
        (((0b0110000 : BitVec 16) <<< 5) ||| (v &&& 0x1F).setWidth 16).setWidth 12 =
          Funct7.rori.setWidth 7 ++ v.setWidth 5 := by decide
    constructor
    · rintro ⟨⟨hd, h1, h2⟩, he⟩
      exact (packI_split_iff (by decide) h2 (by decide) (by decide) (hsplit shamt)).mp
        ⟨⟨hd, h1⟩, he⟩
    · intro f
      have h2 := ((rs2_iff w).mp f.rs2).1
      obtain ⟨⟨hd, h1⟩, he⟩ :=
        (packI_split_iff (by decide) h2 (by decide) (by decide) (hsplit shamt)).mpr f
      exact ⟨⟨hd, h1, h2⟩, he⟩
  case zextH => exact packR_unary_iff (by decide) (by decide) (by decide) isReg_zero
  case clz | ctz | cpop | sextB | sextH | orcB | rev8 =>
    exact packI_split_iff (by decide) (by decide) (by decide) (by decide) (by decide)
  all_goals exact packR_iff (by decide) (by decide) (by decide)

end Call

def DecodedInstr.call (d : DecodedInstr) : Option Call :=
  match d.type with
  | .andn => some (.andn d.rd d.rs1 d.rs2)
  | .orn => some (.orn d.rd d.rs1 d.rs2)
  | .xnor => some (.xnor d.rd d.rs1 d.rs2)
  | .clz => some (.clz d.rd d.rs1)
  | .ctz => some (.ctz d.rd d.rs1)
  | .cpop => some (.cpop d.rd d.rs1)
  | .max => some (.max d.rd d.rs1 d.rs2)
  | .maxu => some (.maxu d.rd d.rs1 d.rs2)
  | .min => some (.min d.rd d.rs1 d.rs2)
  | .minu => some (.minu d.rd d.rs1 d.rs2)
  | .sextB => some (.sextB d.rd d.rs1)
  | .sextH => some (.sextH d.rd d.rs1)
  | .zextH => some (.zextH d.rd d.rs1)
  | .rol => some (.rol d.rd d.rs1 d.rs2)
  | .ror => some (.ror d.rd d.rs1 d.rs2)
  | .rori => some (.rori d.rd d.rs1 d.shamt)
  | .orcB => some (.orcB d.rd d.rs1)
  | .rev8 => some (.rev8 d.rd d.rs1)
  | .illegal => none

theorem isSome_call (d : DecodedInstr) : d.call.isSome ↔ d.type ≠ .illegal := by
  unfold DecodedInstr.call
  cases d.type <;> simp

/-- ORC.B is told by all twelve upper bits. -/
theorem orcB_iff (w : Word) : u16 (bits w 31 20) = 0b001010000111 ↔
    u8 (bits w 31 25) = 0b0010100 ∧ u8 (bits w 24 20) = 0b00111 :=
  imm12_split_iff (by decide) (by decide) (by decide) (by decide)

theorem rev8_iff (w : Word) : u16 (bits w 31 20) = 0b011010011000 ↔
    u8 (bits w 31 25) = 0b0110100 ∧ u8 (bits w 24 20) = 0b11000 :=
  imm12_split_iff (by decide) (by decide) (by decide) (by decide)

theorem call_of_fields (c : Call) (w : Word) (f : c.Fields w) : (decode w).call = some c := by
  cases c <;> obtain ⟨h7, h2, h1, h3, hd, hop⟩ := f
  case orcB =>
    simp only [decode, decodeIType, (orcB_iff w).mpr ⟨h7, h2⟩, h7, h1, h3, hd, hop]
    rfl
  case rev8 =>
    simp only [decode, decodeIType, (rev8_iff w).mpr ⟨h7, h2⟩, h7, h1, h3, hd, hop]
    rfl
  all_goals
    simp only [decode, decodeRType, decodeIType, h7, h2, h1, h3, hd, hop]
    rfl

theorem fields_of_call (w : Word) (c : Call) (h : (decode w).call = some c) : c.Fields w := by
  simp only [decode] at h
  split at h
  · next hop =>
    simp only [decodeRType] at h
    repeat' split at h
    case isFalse.isFalse.isFalse.isTrue hsel =>
      cases h
      exact ⟨hsel.1, hsel.2.2, rfl, hsel.2.1, rfl, hop⟩
    all_goals cases h <;> exact ⟨‹_›, rfl, rfl, ‹_›, rfl, hop⟩
  · split at h
    · next hop =>
      simp only [decodeIType, orcB_iff, rev8_iff] at h
      split at h
      -- the five told apart by `rs2`
      · next hsel =>
        repeat' split at h
        all_goals cases h <;> exact ⟨hsel.2, ‹_›, rfl, hsel.1, rfl, hop⟩
      · repeat' split at h
        case isTrue hsel =>
          cases h
          exact ⟨hsel.2, rfl, rfl, hsel.1, rfl, hop⟩
        case isFalse.isTrue hsel =>
          cases h
          exact ⟨hsel.2.1, hsel.2.2, rfl, hsel.1, rfl, hop⟩
        case isFalse.isFalse.isTrue hsel =>
          cases h
          exact ⟨hsel.2.1, hsel.2.2, rfl, hsel.1, rfl, hop⟩
        case isFalse.isFalse.isFalse => cases h
    · cases h

theorem codec : Codec.Inverse Call.InRange Call.encode fun w => (decode w).call :=
  .of_format Call.encode_iff call_of_fields fields_of_call

theorem roundTrip : Codec.RoundTrip Call.InRange Call.encode decode (·.type ≠ .illegal)
    DecodedInstr.call :=
  codec.roundTrip isSome_call

end Zbb

/-! ## Zicsr -/

namespace Zicsr

/-- A call of a helper of `zicsr::encode`. -/
inductive Call where
  | csrrw (rd : BitVec 8) (csr : BitVec 16) (rs1 : BitVec 8)
  | csrrs (rd : BitVec 8) (csr : BitVec 16) (rs1 : BitVec 8)
  | csrrc (rd : BitVec 8) (csr : BitVec 16) (rs1 : BitVec 8)
  | csrrwi (rd : BitVec 8) (csr : BitVec 16) (uimm : BitVec 8)
  | csrrsi (rd : BitVec 8) (csr : BitVec 16) (uimm : BitVec 8)
  | csrrci (rd : BitVec 8) (csr : BitVec 16) (uimm : BitVec 8)
  deriving DecidableEq, Repr

namespace Call

def encode : Call → Word
  | csrrw rd csr rs1 => Encode.csrrw rd csr rs1
  | csrrs rd csr rs1 => Encode.csrrs rd csr rs1
  | csrrc rd csr rs1 => Encode.csrrc rd csr rs1
  | csrrwi rd csr uimm => Encode.csrrwi rd csr uimm
  | csrrsi rd csr uimm => Encode.csrrsi rd csr uimm
  | csrrci rd csr uimm => Encode.csrrci rd csr uimm

/-- An immediate is a five-bit field, as a register is. -/
def InRange : Call → Prop
  | csrrw rd csr rs1 | csrrs rd csr rs1 | csrrc rd csr rs1
  | csrrwi rd csr rs1 | csrrsi rd csr rs1 | csrrci rd csr rs1 =>
    IsReg rd ∧ IsCsr csr ∧ IsReg rs1

/-- A CSR address is where the immediate of an I-type word would be. -/
def Fields : Call → Word → Prop
  | csrrw rd csr rs1, w => IFields w csr rs1 Funct3.csrrw rd Opcode.system
  | csrrs rd csr rs1, w => IFields w csr rs1 Funct3.csrrs rd Opcode.system
  | csrrc rd csr rs1, w => IFields w csr rs1 Funct3.csrrc rd Opcode.system
  | csrrwi rd csr uimm, w => IFields w csr uimm Funct3.csrrwi rd Opcode.system
  | csrrsi rd csr uimm, w => IFields w csr uimm Funct3.csrrsi rd Opcode.system
  | csrrci rd csr uimm, w => IFields w csr uimm Funct3.csrrci rd Opcode.system

theorem encode_iff (c : Call) (w : Word) : c.InRange ∧ c.encode = w ↔ c.Fields w := by
  cases c <;> exact packI_iff (by decide) (by decide)

end Call

def DecodedCSRInstr.call (d : DecodedCSRInstr) : Option Call :=
  match d.type with
  | .csrrw => some (.csrrw d.rd d.csr d.rs1)
  | .csrrs => some (.csrrs d.rd d.csr d.rs1)
  | .csrrc => some (.csrrc d.rd d.csr d.rs1)
  | .csrrwi => some (.csrrwi d.rd d.csr d.uimm)
  | .csrrsi => some (.csrrsi d.rd d.csr d.uimm)
  | .csrrci => some (.csrrci d.rd d.csr d.uimm)
  | .illegal => none

theorem isSome_call (d : DecodedCSRInstr) : d.call.isSome ↔ d.type ≠ .illegal := by
  unfold DecodedCSRInstr.call
  cases d.type <;> simp

theorem call_of_fields (c : Call) (w : Word) (f : c.Fields w) : (decode w).call = some c := by
  cases c <;> obtain ⟨h12, h1, h3, hd, hop⟩ := f
  all_goals
    simp only [decode, h12, h1, h3, hd, hop]
    rfl

theorem fields_of_call (w : Word) (c : Call) (h : (decode w).call = some c) : c.Fields w := by
  simp only [decode] at h
  split at h
  · cases h
  · next hop =>
    rw [not_not] at hop
    repeat' split at h
    all_goals cases h <;> exact ⟨rfl, rfl, ‹_›, rfl, hop⟩

theorem codec : Codec.Inverse Call.InRange Call.encode fun w => (decode w).call :=
  .of_format Call.encode_iff call_of_fields fields_of_call

theorem roundTrip : Codec.RoundTrip Call.InRange Call.encode decode (·.type ≠ .illegal)
    DecodedCSRInstr.call :=
  codec.roundTrip isSome_call

/-- The helpers that name a use of another helper. -/
inductive Pseudo where
  | csrr (rd : BitVec 8) (csr : BitVec 16)
  | csrw (csr : BitVec 16) (rs1 : BitVec 8)
  | csrs (csr : BitVec 16) (rs1 : BitVec 8)
  | csrc (csr : BitVec 16) (rs1 : BitVec 8)
  deriving DecidableEq, Repr

namespace Pseudo

/-- The word the helper makes, through one of the six. -/
def encode : Pseudo → Word
  | csrr rd csr => Encode.csrr rd csr
  | csrw csr rs1 => Encode.csrw csr rs1
  | csrs csr rs1 => Encode.csrs csr rs1
  | csrc csr rs1 => Encode.csrc csr rs1

/-- The register and the address fit their fields. -/
def InRange : Pseudo → Prop
  | csrr r csr | csrw csr r | csrs csr r | csrc csr r => IsReg r ∧ IsCsr csr

/-- The instruction a pseudo-instruction stands for. -/
def call : Pseudo → Call
  | csrr rd csr => .csrrs rd csr 0
  | csrw csr rs1 => .csrrw 0 csr rs1
  | csrs csr rs1 => .csrrs 0 csr rs1
  | csrc csr rs1 => .csrrc 0 csr rs1

theorem decode_encode (p : Pseudo) (h : p.InRange) : (decode p.encode).call = some p.call := by
  cases p with
  | csrr rd csr => exact codec.read_encode (c := .csrrs rd csr 0) ⟨h.1, h.2, isReg_zero⟩
  | csrw csr rs1 => exact codec.read_encode (c := .csrrw 0 csr rs1) ⟨isReg_zero, h.2, h.1⟩
  | csrs csr rs1 => exact codec.read_encode (c := .csrrs 0 csr rs1) ⟨isReg_zero, h.2, h.1⟩
  | csrc csr rs1 => exact codec.read_encode (c := .csrrc 0 csr rs1) ⟨isReg_zero, h.2, h.1⟩

end Pseudo

end Zicsr

/-! ## A -/

namespace Rv32a

/-- A call of a helper of `rv32a::encode`, with its two ordering bits. -/
inductive Call where
  | lrW (rd rs1 : BitVec 8) (aq rl : Bool)
  | scW (rd rs2 rs1 : BitVec 8) (aq rl : Bool)
  | amoswapW (rd rs2 rs1 : BitVec 8) (aq rl : Bool)
  | amoaddW (rd rs2 rs1 : BitVec 8) (aq rl : Bool)
  | amoxorW (rd rs2 rs1 : BitVec 8) (aq rl : Bool)
  | amoandW (rd rs2 rs1 : BitVec 8) (aq rl : Bool)
  | amoorW (rd rs2 rs1 : BitVec 8) (aq rl : Bool)
  | amominW (rd rs2 rs1 : BitVec 8) (aq rl : Bool)
  | amomaxW (rd rs2 rs1 : BitVec 8) (aq rl : Bool)
  | amominuW (rd rs2 rs1 : BitVec 8) (aq rl : Bool)
  | amomaxuW (rd rs2 rs1 : BitVec 8) (aq rl : Bool)
  deriving DecidableEq, Repr

namespace Call

def encode : Call → Word
  | lrW rd rs1 aq rl => Encode.lrW rd rs1 aq rl
  | scW rd rs2 rs1 aq rl => Encode.scW rd rs2 rs1 aq rl
  | amoswapW rd rs2 rs1 aq rl => Encode.amoswapW rd rs2 rs1 aq rl
  | amoaddW rd rs2 rs1 aq rl => Encode.amoaddW rd rs2 rs1 aq rl
  | amoxorW rd rs2 rs1 aq rl => Encode.amoxorW rd rs2 rs1 aq rl
  | amoandW rd rs2 rs1 aq rl => Encode.amoandW rd rs2 rs1 aq rl
  | amoorW rd rs2 rs1 aq rl => Encode.amoorW rd rs2 rs1 aq rl
  | amominW rd rs2 rs1 aq rl => Encode.amominW rd rs2 rs1 aq rl
  | amomaxW rd rs2 rs1 aq rl => Encode.amomaxW rd rs2 rs1 aq rl
  | amominuW rd rs2 rs1 aq rl => Encode.amominuW rd rs2 rs1 aq rl
  | amomaxuW rd rs2 rs1 aq rl => Encode.amomaxuW rd rs2 rs1 aq rl

def InRange : Call → Prop
  | lrW rd rs1 _ _ => IsReg rd ∧ IsReg rs1
  | scW rd rs2 rs1 _ _ | amoswapW rd rs2 rs1 _ _ | amoaddW rd rs2 rs1 _ _
  | amoxorW rd rs2 rs1 _ _ | amoandW rd rs2 rs1 _ _ | amoorW rd rs2 rs1 _ _
  | amominW rd rs2 rs1 _ _ | amomaxW rd rs2 rs1 _ _ | amominuW rd rs2 rs1 _ _
  | amomaxuW rd rs2 rs1 _ _ => IsReg rd ∧ IsReg rs2 ∧ IsReg rs1

/-- The ordering bits stand between `funct5` and `rs2`. -/
def Fields : Call → Word → Prop
  | lrW rd rs1 aq rl, w => AFields w Funct5.lr aq rl 0 rs1 rd
  | scW rd rs2 rs1 aq rl, w => AFields w Funct5.sc aq rl rs2 rs1 rd
  | amoswapW rd rs2 rs1 aq rl, w => AFields w Funct5.amoswap aq rl rs2 rs1 rd
  | amoaddW rd rs2 rs1 aq rl, w => AFields w Funct5.amoadd aq rl rs2 rs1 rd
  | amoxorW rd rs2 rs1 aq rl, w => AFields w Funct5.amoxor aq rl rs2 rs1 rd
  | amoandW rd rs2 rs1 aq rl, w => AFields w Funct5.amoand aq rl rs2 rs1 rd
  | amoorW rd rs2 rs1 aq rl, w => AFields w Funct5.amoor aq rl rs2 rs1 rd
  | amominW rd rs2 rs1 aq rl, w => AFields w Funct5.amomin aq rl rs2 rs1 rd
  | amomaxW rd rs2 rs1 aq rl, w => AFields w Funct5.amomax aq rl rs2 rs1 rd
  | amominuW rd rs2 rs1 aq rl, w => AFields w Funct5.amominu aq rl rs2 rs1 rd
  | amomaxuW rd rs2 rs1 aq rl, w => AFields w Funct5.amomaxu aq rl rs2 rs1 rd

theorem encode_iff (c : Call) (w : Word) : c.InRange ∧ c.encode = w ↔ c.Fields w := by
  cases c
  case lrW => exact amoInstr_unary_iff (by decide) isReg_zero
  all_goals exact amoInstr_iff (by decide)

end Call

def DecodedInstr.call (d : DecodedInstr) : Option Call :=
  match d.type with
  | .lrW => some (.lrW d.rd d.rs1 d.aq d.rl)
  | .scW => some (.scW d.rd d.rs2 d.rs1 d.aq d.rl)
  | .amoswapW => some (.amoswapW d.rd d.rs2 d.rs1 d.aq d.rl)
  | .amoaddW => some (.amoaddW d.rd d.rs2 d.rs1 d.aq d.rl)
  | .amoxorW => some (.amoxorW d.rd d.rs2 d.rs1 d.aq d.rl)
  | .amoandW => some (.amoandW d.rd d.rs2 d.rs1 d.aq d.rl)
  | .amoorW => some (.amoorW d.rd d.rs2 d.rs1 d.aq d.rl)
  | .amominW => some (.amominW d.rd d.rs2 d.rs1 d.aq d.rl)
  | .amomaxW => some (.amomaxW d.rd d.rs2 d.rs1 d.aq d.rl)
  | .amominuW => some (.amominuW d.rd d.rs2 d.rs1 d.aq d.rl)
  | .amomaxuW => some (.amomaxuW d.rd d.rs2 d.rs1 d.aq d.rl)
  | .illegal => none

theorem isSome_call (d : DecodedInstr) : d.call.isSome ↔ d.type ≠ .illegal := by
  unfold DecodedInstr.call
  cases d.type <;> simp

theorem call_of_fields (c : Call) (w : Word) (f : c.Fields w) : (decode w).call = some c := by
  cases c <;> obtain ⟨h5, rfl, rfl, h2, h1, h3, hd, hop⟩ := f
  all_goals
    simp only [decode, h5, h2, h1, h3, hd, hop]
    rfl

theorem funct5_of_typeOf {funct5 : BitVec 8} {t : InstrType} (h : typeOf funct5 = t) :
    match t with
    | .lrW => funct5 = Funct5.lr
    | .scW => funct5 = Funct5.sc
    | .amoswapW => funct5 = Funct5.amoswap
    | .amoaddW => funct5 = Funct5.amoadd
    | .amoxorW => funct5 = Funct5.amoxor
    | .amoandW => funct5 = Funct5.amoand
    | .amoorW => funct5 = Funct5.amoor
    | .amominW => funct5 = Funct5.amomin
    | .amomaxW => funct5 = Funct5.amomax
    | .amominuW => funct5 = Funct5.amominu
    | .amomaxuW => funct5 = Funct5.amomaxu
    | .illegal => True := by
  unfold typeOf at h
  repeat' split at h
  all_goals
    subst h
    first | assumption | trivial

theorem fields_of_call (w : Word) (c : Call) (h : (decode w).call = some c) : c.Fields w := by
  simp only [decode] at h
  split at h
  · cases h
  · next hsel =>
    rw [not_or, not_not, not_not] at hsel
    obtain ⟨hop, h3⟩ := hsel
    generalize htype : typeOf (u8 (bits w 31 27)) = t at h
    have h5 := funct5_of_typeOf htype
    split at h
    · cases h
    · next hlr =>
      cases t <;> cases h
      case lrW =>
        have h2 : u8 (bits w 24 20) = 0 := not_not.mp fun hne => hlr ⟨rfl, hne⟩
        exact ⟨h5, rfl, rfl, h2, rfl, h3, rfl, hop⟩
      all_goals exact ⟨h5, rfl, rfl, rfl, rfl, h3, rfl, hop⟩

theorem codec : Codec.Inverse Call.InRange Call.encode fun w => (decode w).call :=
  .of_format Call.encode_iff call_of_fields fields_of_call

theorem roundTrip : Codec.RoundTrip Call.InRange Call.encode decode (·.type ≠ .illegal)
    DecodedInstr.call :=
  codec.roundTrip isSome_call

end Rv32a

end Riscv

import Riscv.Rv32i

/- RV32F: decoder and executor of the single-precision instructions, the float
   register file and fcsr (`riscv_rv32f.hpp`).

   A `float` is its 32 bits. What the source leaves to the host FPU is the class
   `HostFloat`: the rounded arithmetic, with the exceptions it raises, and the
   `<cmath>` roundings to an integral value. What the language itself fixes on
   bit patterns is defined here: `isnan`, negation, the comparisons and the cast
   of an integral value to an integer. The host rounding mode the guard selects
   is an argument of each host operation, so saving and restoring it leaves no
   trace. -/
namespace Riscv.Rv32f

/-! ## Registers and fcsr -/

/-- The 32 float registers, as raw bits. -/
structure FRegFile where
  regs : BitVec 5 → Word

namespace FRegFile

/-- The index is masked, as that of an integer register; `f0` is a register like the others. -/
def readBits (r : FRegFile) (idx : BitVec 8) : Word := r.regs (idx.setWidth 5)

def writeBits (r : FRegFile) (idx : BitVec 8) (val : Word) : FRegFile :=
  { regs := fun i => if i = idx.setWidth 5 then val else r.regs i }

def zero : FRegFile := { regs := fun _ => 0 }

end FRegFile

/-- The eight values of the three-bit field; 101 and 110 have no enumerator. -/
inductive RoundingMode where
  | rne | rtz | rdn | rup | rmm | reserved5 | reserved6 | dyn
  deriving DecidableEq, Repr

namespace RoundingMode

def toNat : RoundingMode → Nat
  | rne => 0
  | rtz => 1
  | rdn => 2
  | rup => 3
  | rmm => 4
  | reserved5 => 5
  | reserved6 => 6
  | dyn => 7

def toWord (rm : RoundingMode) : Word := BitVec.ofNat 32 rm.toNat

def ofBits (b : BitVec 3) : RoundingMode :=
  if b = 0 then rne
  else if b = 1 then rtz
  else if b = 2 then rdn
  else if b = 3 then rup
  else if b = 4 then rmm
  else if b = 5 then reserved5
  else if b = 6 then reserved6
  else dyn

end RoundingMode

/-- The exception flags an operation raises. -/
structure FFlags where
  nx : Bool := false
  uf : Bool := false
  of : Bool := false
  dz : Bool := false
  nv : Bool := false
  deriving DecidableEq, Repr

namespace FFlags

/-- NX is the lowest bit, NV the highest of five. -/
def toBits (f : FFlags) : Word :=
  ((BitVec.ofBool f.nv).setWidth 32 <<< 4) ||| ((BitVec.ofBool f.dz).setWidth 32 <<< 3) |||
    ((BitVec.ofBool f.of).setWidth 32 <<< 2) ||| ((BitVec.ofBool f.uf).setWidth 32 <<< 1) |||
    (BitVec.ofBool f.nx).setWidth 32

def fromBits (b : Word) : FFlags :=
  { nx := b.getLsbD 0
    uf := b.getLsbD 1
    of := b.getLsbD 2
    dz := b.getLsbD 3
    nv := b.getLsbD 4 }

/-- Flags accrue: a flag of either is a flag of both. -/
def merge (f other : FFlags) : FFlags :=
  { nx := f.nx || other.nx
    uf := f.uf || other.uf
    of := f.of || other.of
    dz := f.dz || other.dz
    nv := f.nv || other.nv }

theorem merge_empty (f : FFlags) : f.merge {} = f := by
  cases f
  simp [merge]

end FFlags

/-- fcsr as the two fields of its bit-field object. -/
structure FCSR where
  fflags : FFlags := {}
  frm : RoundingMode := .rne
  deriving DecidableEq, Repr

namespace FCSR

/-- The packed register: frm above the flags. -/
def read (f : FCSR) : Word := (f.frm.toWord <<< 5) ||| f.fflags.toBits

/-- Every bit above the eighth is dropped. -/
def write (_ : FCSR) (val : Word) : FCSR :=
  { fflags := FFlags.fromBits (val &&& 0x1F)
    frm := RoundingMode.ofBits ((val >>> 5).setWidth 3) }

/-- A dynamic mode is looked up in frm. -/
def effectiveRm (f : FCSR) (instrRm : RoundingMode) : RoundingMode :=
  if instrRm = .dyn then f.frm else instrRm

end FCSR

/-! ## Floats -/

/-- The host rounding modes the guard selects. -/
inductive HostRounding where
  | toNearest | towardZero | downward | upward
  deriving DecidableEq, Repr

/-- The host FPU: rounded binary32 arithmetic with the exceptions it raises, and
the `<cmath>` roundings to an integral value. -/
class HostFloat where
  add : HostRounding → Word → Word → Word × FFlags
  sub : HostRounding → Word → Word → Word × FFlags
  mul : HostRounding → Word → Word → Word × FFlags
  div : HostRounding → Word → Word → Word × FFlags
  sqrt : HostRounding → Word → Word × FFlags
  fma : HostRounding → Word → Word → Word → Word × FFlags
  ofInt32 : HostRounding → Word → Word × FFlags
  ofUInt32 : HostRounding → Word → Word × FFlags
  trunc : Word → Word
  floor : Word → Word
  ceil : Word → Word
  round : Word → Word
  nearbyint : HostRounding → Word → Word

/-- A host whose every result is the canonical NaN. It makes runs that reach no
float operation evaluate. -/
@[reducible] def nanHost : HostFloat where
  add _ _ _ := (0x7FC00000, {})
  sub _ _ _ := (0x7FC00000, {})
  mul _ _ _ := (0x7FC00000, {})
  div _ _ _ := (0x7FC00000, {})
  sqrt _ _ := (0x7FC00000, {})
  fma _ _ _ _ := (0x7FC00000, {})
  ofInt32 _ _ := (0x7FC00000, {})
  ofUInt32 _ _ := (0x7FC00000, {})
  trunc _ := 0x7FC00000
  floor _ := 0x7FC00000
  ceil _ := 0x7FC00000
  round _ := 0x7FC00000
  nearbyint _ _ := 0x7FC00000

namespace F32

def exp (f : Word) : Word := (f >>> 23) &&& 0xFF

def frac (f : Word) : Word := f &&& 0x7FFFFF

/-- The exponent is all ones and the fraction is not zero. -/
def isnan (f : Word) : Bool := decide (exp f = 0xFF) && decide (frac f ≠ 0)

/-- A NaN whose top fraction bit is clear. -/
def isSnan (f : Word) : Bool :=
  decide (exp f = 0xFF) && decide (frac f ≠ 0) && decide (frac f &&& 0x400000 = 0)

/-- `-f`: the sign bit flipped. -/
def neg (f : Word) : Word := f ^^^ 0x80000000

/-- Sign and magnitude as one integer: the order of the host's comparisons, on
which both zeros are 0. -/
def key (f : Word) : Int :=
  if f.getLsbD 31 then -((f &&& 0x7FFFFFFF).toNat : Int) else (f &&& 0x7FFFFFFF).toNat

/-- The comparison of the host: false with a NaN, and zeros of either sign are equal. -/
def eq (a b : Word) : Bool := !isnan a && !isnan b && decide (key a = key b)

def lt (a b : Word) : Bool := !isnan a && !isnan b && decide (key a < key b)

def le (a b : Word) : Bool := !isnan a && !isnan b && decide (key a ≤ key b)

/-- The integer part of a finite value, rounded towards zero: the value a cast
to an integer type has where it fits. -/
def toIntTrunc (f : Word) : Int :=
  let e := (exp f).toNat
  let m := if e = 0 then (frac f).toNat else (frac f).toNat + 0x800000
  let e := if e = 0 then 1 else e
  let mag := if 150 ≤ e then m <<< (e - 150) else m >>> (150 - e)
  if f.getLsbD 31 then -(mag : Int) else mag

/-- The cast to `int32_t` or `uint32_t` of a value in range. -/
def toWord (f : Word) : Word := BitVec.ofInt 32 (toIntTrunc f)

/-- The quiet NaN every operation gives that makes one. -/
def canonicalNan : Word := 0x7FC00000

end F32

namespace FClass
def negInf : Word := 0x001
def negNormal : Word := 0x002
def negSubnorm : Word := 0x004
def negZero : Word := 0x008
def posZero : Word := 0x010
def posSubnorm : Word := 0x020
def posNormal : Word := 0x040
def posInf : Word := 0x080
def signalingNan : Word := 0x100
def quietNan : Word := 0x200
end FClass

/-- The one bit of the class, by exponent, fraction and sign. -/
def classifyFloat (f : Word) : Word :=
  let sign := f.getLsbD 31
  let exp := F32.exp f
  let frac := F32.frac f
  if exp = 0xFF then
    if frac = 0 then (if sign then FClass.negInf else FClass.posInf)
    else if frac &&& 0x400000 ≠ 0 then FClass.quietNan
    else FClass.signalingNan
  else if exp = 0 then
    if frac = 0 then (if sign then FClass.negZero else FClass.posZero)
    else (if sign then FClass.negSubnorm else FClass.posSubnorm)
  else (if sign then FClass.negNormal else FClass.posNormal)

/-! ## Instructions -/

/-- The instructions of F in the order of the source. -/
inductive InstrType where
  | flw | fsw
  | faddS | fsubS | fmulS | fdivS | fsqrtS | fminS | fmaxS
  | fmaddS | fmsubS | fnmaddS | fnmsubS
  | fcvtWS | fcvtWuS | fcvtSW | fcvtSWu
  | fmvXW | fmvWX
  | feqS | fltS | fleS
  | fsgnjS | fsgnjnS | fsgnjxS
  | fclassS
  | illegal
  deriving DecidableEq, Repr

/-- `roundingMode` is the field `funct3` of the instructions that round. -/
structure DecodedInstr where
  type : InstrType
  rd : BitVec 8
  rs1 : BitVec 8
  rs2 : BitVec 8
  rs3 : BitVec 8
  rm : BitVec 8
  imm : Word
  funct7 : BitVec 8
  funct3 : BitVec 8
  raw : Word
  deriving DecidableEq, Repr

/-- `rm` is a three-bit field, so the cast names one of the eight values. -/
def DecodedInstr.roundingMode (d : DecodedInstr) : RoundingMode :=
  RoundingMode.ofBits (d.rm.setWidth 3)

/-- The flags of the result, and the trap of a failed access. -/
structure ExecResult where
  valid : Bool := true
  flags : FFlags := {}
  intResult : Word := 0
  floatResult : Word := 0
  wroteIntReg : Bool := false
  wroteFloatReg : Bool := false
  memoryRead : Bool := false
  memoryWritten : Bool := false
  trapCause : Word := 0
  trapValue : Word := 0
  error : String := ""
  deriving DecidableEq, Repr

namespace Opcode
def loadFp : BitVec 8 := 0b0000111
def storeFp : BitVec 8 := 0b0100111
def madd : BitVec 8 := 0b1000011
def msub : BitVec 8 := 0b1000111
def nmsub : BitVec 8 := 0b1001011
def nmadd : BitVec 8 := 0b1001111
def opFp : BitVec 8 := 0b1010011
end Opcode

namespace Funct7
def faddS : BitVec 8 := 0b0000000
def fsubS : BitVec 8 := 0b0000100
def fmulS : BitVec 8 := 0b0001000
def fdivS : BitVec 8 := 0b0001100
def fsqrtS : BitVec 8 := 0b0101100
def fsgnjS : BitVec 8 := 0b0010000
def fminmaxS : BitVec 8 := 0b0010100
def fcvtWS : BitVec 8 := 0b1100000
def fmvFclass : BitVec 8 := 0b1110000
def fcmpS : BitVec 8 := 0b1010000
def fcvtSW : BitVec 8 := 0b1101000
def fmvWX : BitVec 8 := 0b1111000
end Funct7

namespace Funct3
def w : BitVec 8 := 0b010
end Funct3

/-! ## Decoder -/

/-- Whether the `rm` field is a rounding mode. -/
def usesRm : InstrType → Bool
  | .faddS | .fsubS | .fmulS | .fdivS | .fsqrtS
  | .fmaddS | .fmsubS | .fnmaddS | .fnmsubS
  | .fcvtWS | .fcvtWuS | .fcvtSW | .fcvtSWu => true
  | _ => false

/-- OP-FP, by `funct7`; `rs2` or `funct3` tells the instructions of one value apart. -/
def decodeOpFp (d : DecodedInstr) : DecodedInstr :=
  if d.funct7 = Funct7.faddS then { d with type := .faddS }
  else if d.funct7 = Funct7.fsubS then { d with type := .fsubS }
  else if d.funct7 = Funct7.fmulS then { d with type := .fmulS }
  else if d.funct7 = Funct7.fdivS then { d with type := .fdivS }
  else if d.funct7 = Funct7.fsqrtS then
    if d.rs2 = 0 then { d with type := .fsqrtS } else d
  else if d.funct7 = Funct7.fsgnjS then
    if d.funct3 = 0b000 then { d with type := .fsgnjS }
    else if d.funct3 = 0b001 then { d with type := .fsgnjnS }
    else if d.funct3 = 0b010 then { d with type := .fsgnjxS }
    else d
  else if d.funct7 = Funct7.fminmaxS then
    if d.funct3 = 0b000 then { d with type := .fminS }
    else if d.funct3 = 0b001 then { d with type := .fmaxS }
    else d
  else if d.funct7 = Funct7.fcvtWS then
    if d.rs2 = 0 then { d with type := .fcvtWS }
    else if d.rs2 = 1 then { d with type := .fcvtWuS }
    else d
  else if d.funct7 = Funct7.fmvFclass then
    if d.funct3 = 0b000 then
      if d.rs2 = 0 then { d with type := .fmvXW } else d
    else if d.funct3 = 0b001 then
      if d.rs2 = 0 then { d with type := .fclassS } else d
    else d
  else if d.funct7 = Funct7.fcmpS then
    if d.funct3 = 0b010 then { d with type := .feqS }
    else if d.funct3 = 0b001 then { d with type := .fltS }
    else if d.funct3 = 0b000 then { d with type := .fleS }
    else d
  else if d.funct7 = Funct7.fcvtSW then
    if d.rs2 = 0 then { d with type := .fcvtSW }
    else if d.rs2 = 1 then { d with type := .fcvtSWu }
    else d
  else if d.funct7 = Funct7.fmvWX then
    if d.funct3 = 0 ∧ d.rs2 = 0 then { d with type := .fmvWX } else d
  else d

/-- The opcode switch, before the check of the rounding mode. -/
def decodeOpcode (instr : Word) : DecodedInstr :=
  let d : DecodedInstr :=
    { raw := instr
      type := .illegal
      rd := u8 (bits instr 11 7)
      rs1 := u8 (bits instr 19 15)
      rs2 := u8 (bits instr 24 20)
      rs3 := u8 (bits instr 31 27)
      rm := u8 (bits instr 14 12)
      funct7 := u8 (bits instr 31 25)
      funct3 := u8 (bits instr 14 12)
      imm := 0 }
  let op := u8 (bits instr 6 0)
  let fmt := u8 (bits instr 26 25)
  if op = Opcode.loadFp then
    if d.funct3 = Funct3.w then
      { d with type := .flw, imm := signExtend32 (bits instr 31 20) 11 }
    else d
  else if op = Opcode.storeFp then
    if d.funct3 = Funct3.w then
      { d with
        type := .fsw
        imm := signExtend32 ((bits instr 31 25 <<< 5) ||| bits instr 11 7) 11 }
    else d
  else if op = Opcode.madd then if fmt = 0b00 then { d with type := .fmaddS } else d
  else if op = Opcode.msub then if fmt = 0b00 then { d with type := .fmsubS } else d
  else if op = Opcode.nmsub then if fmt = 0b00 then { d with type := .fnmsubS } else d
  else if op = Opcode.nmadd then if fmt = 0b00 then { d with type := .fnmaddS } else d
  else if op = Opcode.opFp then decodeOpFp d
  else d

theorem decodeOpcode_rm (w : Word) : (decodeOpcode w).rm = u8 (bits w 14 12) := by
  simp only [decodeOpcode, decodeOpFp, apply_ite DecodedInstr.rm, ite_self]

/-- The statically reserved rounding modes 101 and 110 are illegal; DYN is
checked against frm when the instruction executes. -/
def decode (instr : Word) : DecodedInstr :=
  let d := decodeOpcode instr
  if usesRm d.type ∧ (d.rm = 0b101 ∨ d.rm = 0b110) then { d with type := .illegal } else d

/-- Coarser than `decode`: the CPU claims the seven opcodes for F. -/
def isFInstruction (instr : Word) : Bool :=
  let op := u8 (bits instr 6 0)
  decide (op = Opcode.loadFp) || decide (op = Opcode.storeFp) || decide (op = Opcode.madd) ||
    decide (op = Opcode.msub) || decide (op = Opcode.nmsub) || decide (op = Opcode.nmadd) ||
    decide (op = Opcode.opFp)

/-! ## Executor -/

/-- The only setting is whether accesses may be misaligned. -/
structure Executor where
  allowMisaligned : Bool := false
  deriving DecidableEq, Repr

/-- The mode `HostRoundingGuard` selects; RMM arithmetic is approximated by RNE. -/
def hostRounding : RoundingMode → HostRounding
  | .rtz => .towardZero
  | .rdn => .downward
  | .rup => .upward
  | _ => .toNearest

/-- `write_canonical`: NaN results are stored as the canonical NaN. -/
def writeCanonical (fregs : FRegFile) (rd : BitVec 8) (r : Word) : FRegFile :=
  if F32.isnan r then fregs.writeBits rd F32.canonicalNan else fregs.writeBits rd r

section Host
variable [HostFloat]

/-- The host's rounding function of the mode; to nearest, ties away, is `round`. -/
def roundToInt (f : Word) (rm : RoundingMode) : Word :=
  match rm with
  | .rtz => HostFloat.trunc f
  | .rdn => HostFloat.floor f
  | .rup => HostFloat.ceil f
  | .rmm => HostFloat.round f
  | _ => HostFloat.nearbyint .toNearest f

end Host

/-- The smaller operand; -0 is below +0, and a NaN gives way to a number. -/
def fmin (a b : Word) : Word :=
  if F32.isnan a && F32.isnan b then F32.canonicalNan
  else if F32.isnan a then b
  else if F32.isnan b then a
  else if F32.eq a 0 && F32.eq b 0 then (if a &&& 0x80000000 ≠ 0 then a else b)
  else if F32.lt a b then a else b

/-- As `fmin`: with one NaN the other operand, with two the canonical one. -/
def fmax (a b : Word) : Word :=
  if F32.isnan a && F32.isnan b then F32.canonicalNan
  else if F32.isnan a then b
  else if F32.isnan b then a
  else if F32.eq a 0 && F32.eq b 0 then (if a &&& 0x80000000 ≠ 0 then b else a)
  else if F32.lt b a then a else b

/-- NV for a signaling operand: FMIN, FMAX and FEQ. -/
def snanFlags (a b : Word) : FFlags := { nv := F32.isSnan a || F32.isSnan b }

/-- NV for any NaN operand: FLT and FLE. -/
def nanFlags (a b : Word) : FFlags := { nv := F32.isnan a || F32.isnan b }

section Convert
variable [HostFloat]

/-- FCVT.W.S: saturating, NV out of range, NX when inexact in range. -/
def fcvtWS (a : Word) (rm : RoundingMode) : Word × FFlags :=
  if F32.isnan a then (0x7FFFFFFF, { nv := true })
  else
    let rounded := roundToInt a rm
    if F32.le 0x4F000000 rounded then (0x7FFFFFFF, { nv := true })
    else if F32.lt rounded 0xCF000000 then (0x80000000, { nv := true })
    else (F32.toWord rounded, { nx := !F32.eq rounded a })

/-- FCVT.WU.S; a value that rounds to zero from below is in range. -/
def fcvtWuS (a : Word) (rm : RoundingMode) : Word × FFlags :=
  if F32.isnan a then (0xFFFFFFFF, { nv := true })
  else
    let rounded := roundToInt a rm
    if F32.le 0x4F800000 rounded then (0xFFFFFFFF, { nv := true })
    else if F32.lt rounded 0 then (0, { nv := true })
    else (F32.toWord rounded, { nx := !F32.eq rounded a })

end Convert

/-- The state an F instruction works on. -/
structure FState (β : Type) where
  iregs : RegFile
  fregs : FRegFile
  bus : β

namespace Executor

variable {β : Type} [Bus β] [HostFloat]

/-- The end of an arithmetic instruction: the canonicalised result and the
flags the host raised. -/
def writeArith (d : DecodedInstr) (s : FState β) (r : Word × FFlags) : ExecResult × FState β :=
  ({ flags := r.2, floatResult := r.1, wroteFloatReg := true },
    { s with fregs := writeCanonical s.fregs d.rd r.1 })

/-- A result for an integer register; its flags accrue. -/
def writeInt (d : DecodedInstr) (s : FState β) (r : Word) (flags : FFlags) :
    ExecResult × FState β :=
  ({ flags := flags, intResult := r, wroteIntReg := true },
    { s with iregs := s.iregs.write d.rd r })

/-- A result that raises no flag, bit for bit. -/
def writeBitsResult (d : DecodedInstr) (s : FState β) (r : Word) : ExecResult × FState β :=
  ({ wroteFloatReg := true }, { s with fregs := s.fregs.writeBits d.rd r })

/-- The word is loaded before the register is written. -/
def executeFlw (ex : Executor) (d : DecodedInstr) (s : FState β) : ExecResult × FState β :=
  match MemAccess.load s.bus (s.iregs.read d.rs1 + d.imm) 4 ex.allowMisaligned with
  | (.ok val, bus) =>
    ({ wroteFloatReg := true, memoryRead := true },
      { s with fregs := s.fregs.writeBits d.rd val, bus := bus })
  | (.error e, bus) =>
    ({ valid := false
       trapCause := e.cause
       trapValue := e.tval
       error := MemAccess.loadError e.cause }, { s with bus := bus })

/-- The bits of the register go to memory as they are. -/
def executeFsw (ex : Executor) (d : DecodedInstr) (s : FState β) : ExecResult × FState β :=
  match MemAccess.store s.bus (s.iregs.read d.rs1 + d.imm) 4 (s.fregs.readBits d.rs2)
      ex.allowMisaligned with
  | (.ok _, bus) => ({ memoryWritten := true }, { s with bus := bus })
  | (.error e, bus) =>
    ({ valid := false
       trapCause := e.cause
       trapValue := e.tval
       error := MemAccess.storeError e.cause }, { s with bus := bus })

/-- The instruction switch, with the rounding mode resolved. -/
def executeOp (ex : Executor) (d : DecodedInstr) (rm : RoundingMode) (s : FState β) :
    ExecResult × FState β :=
  let host := hostRounding rm
  let a := s.fregs.readBits d.rs1
  let b := s.fregs.readBits d.rs2
  let c := s.fregs.readBits d.rs3
  match d.type with
  | .flw => ex.executeFlw d s
  | .fsw => ex.executeFsw d s
  | .faddS => writeArith d s (HostFloat.add host a b)
  | .fsubS => writeArith d s (HostFloat.sub host a b)
  | .fmulS => writeArith d s (HostFloat.mul host a b)
  | .fdivS => writeArith d s (HostFloat.div host a b)
  | .fsqrtS => writeArith d s (HostFloat.sqrt host a)
  | .fminS => writeArith d s (fmin a b, snanFlags a b)
  | .fmaxS => writeArith d s (fmax a b, snanFlags a b)
  | .fmaddS => writeArith d s (HostFloat.fma host a b c)
  | .fmsubS => writeArith d s (HostFloat.fma host a b (F32.neg c))
  -- the two negated forms negate the rounded result
  | .fnmaddS =>
    let r := HostFloat.fma host a b c
    writeArith d s (F32.neg r.1, r.2)
  | .fnmsubS =>
    let r := HostFloat.fma host a b (F32.neg c)
    writeArith d s (F32.neg r.1, r.2)
  | .fcvtWS =>
    let r := fcvtWS a rm
    writeInt d s r.1 r.2
  | .fcvtWuS =>
    let r := fcvtWuS a rm
    writeInt d s r.1 r.2
  | .fcvtSW => writeArith d s (HostFloat.ofInt32 host (s.iregs.read d.rs1))
  | .fcvtSWu => writeArith d s (HostFloat.ofUInt32 host (s.iregs.read d.rs1))
  | .fmvXW => writeInt d s a {}
  | .fmvWX => writeBitsResult d s (s.iregs.read d.rs1)
  | .feqS => writeInt d s (Rv32i.Executor.ofBool (F32.eq a b)) (snanFlags a b)
  | .fltS => writeInt d s (Rv32i.Executor.ofBool (F32.lt a b)) (nanFlags a b)
  | .fleS => writeInt d s (Rv32i.Executor.ofBool (F32.le a b)) (nanFlags a b)
  | .fsgnjS => writeBitsResult d s ((a &&& 0x7FFFFFFF) ||| (b &&& 0x80000000))
  | .fsgnjnS => writeBitsResult d s ((a &&& 0x7FFFFFFF) ||| (~~~b &&& 0x80000000))
  | .fsgnjxS => writeBitsResult d s ((a &&& 0x7FFFFFFF) ||| ((a ^^^ b) &&& 0x80000000))
  | .fclassS => writeInt d s (classifyFloat a) {}
  | .illegal =>
    ({ valid := false
       trapCause := Exc.illegalInstruction
       trapValue := d.raw
       error := "Unknown F instruction" }, s)

/-- The flags an instruction raised are merged at the end, also when a load or a
store failed; the two early returns leave fcsr alone. -/
def execute (ex : Executor) (d : DecodedInstr) (s : FState β) (fcsr : FCSR) :
    ExecResult × FState β × FCSR :=
  if d.type = .illegal then
    ({ valid := false
       trapCause := Exc.illegalInstruction
       trapValue := d.raw
       error := "Illegal F instruction" }, s, fcsr)
  else
    let rm := fcsr.effectiveRm d.roundingMode
    if usesRm d.type ∧ rm.toNat > RoundingMode.rmm.toNat then
      ({ valid := false
         trapCause := Exc.illegalInstruction
         trapValue := d.raw
         error := "Invalid dynamic rounding mode" }, s, fcsr)
    else
      let (result, s) := ex.executeOp d rm s
      (result, s, { fcsr with fflags := fcsr.fflags.merge result.flags })

end Executor

/-! ## Mnemonics -/

/-- The rounding mode in a listing: the dynamic one is not shown, a reserved one as `???`. -/
def rmSuffix (rm : BitVec 8) : String :=
  if rm = 0b000 then ", rne"
  else if rm = 0b001 then ", rtz"
  else if rm = 0b010 then ", rdn"
  else if rm = 0b011 then ", rup"
  else if rm = 0b100 then ", rmm"
  else if rm = 0b111 then ""
  else ", ???"

/-- A float register's name. -/
def fregName (r : BitVec 8) : String := "f" ++ toString r.toNat

def DecodedInstr.mnemonic (d : DecodedInstr) : String :=
  let rdS := fregName d.rd
  let rs1S := fregName d.rs1
  let rs2S := fregName d.rs2
  let rs3S := fregName d.rs3
  let xrdS := regAbiName d.rd
  let xrs1S := regAbiName d.rs1
  let immS := Rv32i.immStr d.imm
  let rm := rmSuffix d.rm
  let fff := fun (name : String) => name ++ " " ++ rdS ++ ", " ++ rs1S ++ ", " ++ rs2S
  let ffff := fun (name : String) => fff name ++ ", " ++ rs3S ++ rm
  let xff := fun (name : String) => name ++ " " ++ xrdS ++ ", " ++ rs1S ++ ", " ++ rs2S
  match d.type with
  | .flw => "flw " ++ rdS ++ ", " ++ immS ++ "(" ++ xrs1S ++ ")"
  | .fsw => "fsw " ++ rs2S ++ ", " ++ immS ++ "(" ++ xrs1S ++ ")"
  | .faddS => fff "fadd.s" ++ rm
  | .fsubS => fff "fsub.s" ++ rm
  | .fmulS => fff "fmul.s" ++ rm
  | .fdivS => fff "fdiv.s" ++ rm
  | .fsqrtS => "fsqrt.s " ++ rdS ++ ", " ++ rs1S ++ rm
  | .fminS => fff "fmin.s"
  | .fmaxS => fff "fmax.s"
  | .fmaddS => ffff "fmadd.s"
  | .fmsubS => ffff "fmsub.s"
  | .fnmaddS => ffff "fnmadd.s"
  | .fnmsubS => ffff "fnmsub.s"
  | .fcvtWS => "fcvt.w.s " ++ xrdS ++ ", " ++ rs1S ++ rm
  | .fcvtWuS => "fcvt.wu.s " ++ xrdS ++ ", " ++ rs1S ++ rm
  | .fcvtSW => "fcvt.s.w " ++ rdS ++ ", " ++ xrs1S ++ rm
  | .fcvtSWu => "fcvt.s.wu " ++ rdS ++ ", " ++ xrs1S ++ rm
  | .fmvXW => "fmv.x.w " ++ xrdS ++ ", " ++ rs1S
  | .fmvWX => "fmv.w.x " ++ rdS ++ ", " ++ xrs1S
  | .feqS => xff "feq.s"
  | .fltS => xff "flt.s"
  | .fleS => xff "fle.s"
  -- the pseudo-instructions fmv.s, fneg.s and fabs.s
  | .fsgnjS => if d.rs1 = d.rs2 then "fmv.s " ++ rdS ++ ", " ++ rs1S else fff "fsgnj.s"
  | .fsgnjnS => if d.rs1 = d.rs2 then "fneg.s " ++ rdS ++ ", " ++ rs1S else fff "fsgnjn.s"
  | .fsgnjxS => if d.rs1 = d.rs2 then "fabs.s " ++ rdS ++ ", " ++ rs1S else fff "fsgnjx.s"
  | .fclassS => "fclass.s " ++ xrdS ++ ", " ++ rs1S
  | .illegal => "ILLEGAL"

end Riscv.Rv32f

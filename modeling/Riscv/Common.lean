import Riscv.Lib.Bits

/- Shared types of the hart model: the bus interface and its faults, the integer
   register file, privilege levels, exception causes, the bit helpers every
   decoder uses and the data-access helpers every executor uses.

   Correspondence (`riscv_common.hpp` ↔ Lean):
     `BusFault`, `Bus`                 ↔ `BusFault`, `Bus`
     `RegFile`                         ↔ `RegFile`
     `PrivilegeLevel`, `exception::*`  ↔ `PrivilegeLevel`, `Exc.*`
     `bits`, `sign_extend`             ↔ `bits`, `signExtend32`
     `mem_access::load` / `store`      ↔ `MemAccess.load` / `MemAccess.store`

   A bus call may throw and may change the bus, so every call returns an
   `Except` together with the bus after it. `uintN_t` is `BitVec N`; an
   `int32_t` is the same 32 bits, read with `toInt` where its sign matters. -/
namespace Riscv

/-- `uint32_t`, and the bits of an `int32_t`. -/
abbrev Word := BitVec 32

/-- `static_cast<uint8_t>`. -/
def u8 (w : Word) : BitVec 8 := w.setWidth 8

/-- `static_cast<uint16_t>`. -/
def u16 (w : Word) : BitVec 16 := w.setWidth 16

/-! ## Bus -/

/-- Thrown by a bus on an access error, with the faulting address. -/
structure BusFault where
  addr : Word
  deriving DecidableEq, Repr

/-- The bus interface. The fetch methods default to the data reads, as the
virtual methods of the source do. -/
class Bus (β : Type) where
  read8 : β → Word → Except BusFault (BitVec 8) × β
  write8 : β → Word → BitVec 8 → Except BusFault Unit × β
  read16 : β → Word → Except BusFault (BitVec 16) × β
  write16 : β → Word → BitVec 16 → Except BusFault Unit × β
  read32 : β → Word → Except BusFault Word × β
  write32 : β → Word → Word → Except BusFault Unit × β
  fetch32 : β → Word → Except BusFault Word × β := read32
  fetch16 : β → Word → Except BusFault (BitVec 16) × β := read16

/-! ## Register file -/

/-- The 32 integer registers. The five-bit index is the source's masked one. -/
structure RegFile where
  x : BitVec 5 → Word

namespace RegFile

/-- `x0` reads as zero, whatever the file holds there. -/
def read (r : RegFile) (idx : BitVec 8) : Word :=
  let idx := idx.setWidth 5
  if idx = 0 then 0 else r.x idx

/-- A write of `x0` is dropped. -/
def write (r : RegFile) (idx : BitVec 8) (val : Word) : RegFile :=
  let idx := idx.setWidth 5
  if idx = 0 then r else { x := fun i => if i = idx then val else r.x i }

/-- `reset`: every register is zero. -/
def zero : RegFile := { x := fun _ => 0 }

/-- A second write of a register hides the first. -/
@[simp] theorem write_write (r : RegFile) (idx : BitVec 8) (v w : Word) :
    (r.write idx v).write idx w = r.write idx w := by
  simp only [write]
  split
  · rfl
  · congr 1
    funext i
    by_cases h : i = idx.setWidth 5 <;> simp [h]

theorem write_zero (r : RegFile) (v : Word) : r.write 0 v = r := by
  simp [write]

theorem read_zero (r : RegFile) : r.read 0 = 0 := by
  simp [read]

/-- Writing back what a register reads changes nothing. -/
theorem write_read (r : RegFile) (idx : BitVec 8) : r.write idx (r.read idx) = r := by
  simp only [write, read]
  split
  · rfl
  · congr 1
    funext i
    by_cases h : i = idx.setWidth 5 <;> simp [h]

end RegFile

/-! ## Privilege levels -/

/-- The levels of the two-bit field, with the encoding no level has. -/
inductive PrivilegeLevel where
  | user
  | supervisor
  | reserved
  | machine
  deriving DecidableEq, Repr

namespace PrivilegeLevel

/-- The enumerator's value. -/
def toNat : PrivilegeLevel → Nat
  | user => 0
  | supervisor => 1
  | reserved => 2
  | machine => 3

/-- `static_cast<uint32_t>`. -/
def toWord (p : PrivilegeLevel) : Word := BitVec.ofNat 32 p.toNat

/-- `static_cast<PrivilegeLevel>` of a two-bit field. -/
def ofBits (b : BitVec 2) : PrivilegeLevel :=
  if b = 0 then user else if b = 1 then supervisor else if b = 2 then reserved else machine

theorem toNat_le (p : PrivilegeLevel) : p.toNat ≤ 3 := by
  cases p <;> decide

end PrivilegeLevel

/-! ## Exception causes -/

namespace Exc
def instrAddrMisaligned : Word := 0
def instrAccessFault : Word := 1
def illegalInstruction : Word := 2
def breakpoint : Word := 3
def loadAddrMisaligned : Word := 4
def loadAccessFault : Word := 5
def storeAddrMisaligned : Word := 6
def storeAccessFault : Word := 7
def ecallFromU : Word := 8
def ecallFromS : Word := 9
def ecallFromM : Word := 11
/-- The top bit of a cause: an interrupt, not an exception. -/
def interruptBit : Word := 0x80000000
end Exc

/-! ## Bit helpers -/

/-- Bits `hi` down to `lo` of `val`. -/
def bits (val : Word) (hi lo : Nat) : Word :=
  let width := hi - lo + 1
  let mask : Word := if width ≥ 32 then 0xFFFFFFFF else ((1 : Word) <<< width) - 1
  (val >>> lo) &&& mask

theorem getLsbD_bits (val : Word) {hi lo : Nat} (h : hi - lo < 31) (i : Nat) :
    (bits val hi lo).getLsbD i = (decide (i ≤ hi - lo) && val.getLsbD (lo + i)) := by
  have hmask : (((1 : Word) <<< (hi - lo + 1)) - 1).toNat = 2 ^ (hi - lo + 1) - 1 := by
    have hpow : 2 ^ (hi - lo + 1) < 2 ^ 32 := Nat.pow_lt_pow_right (by decide) (by omega)
    have hpos : 0 < 2 ^ (hi - lo + 1) := Nat.two_pow_pos _
    rw [BitVec.toNat_sub, BitVec.toNat_shiftLeft, Nat.shiftLeft_eq]
    simp
    omega
  unfold bits
  dsimp only
  rw [if_neg (by omega), BitVec.getLsbD_and, BitVec.getLsbD_ushiftRight,
    ← BitVec.testBit_toNat (((1 : Word) <<< (hi - lo + 1)) - 1), hmask,
    Nat.testBit_two_pow_sub_one, Bool.and_comm]
  have hle : i < hi - lo + 1 ↔ i ≤ hi - lo := by omega
  rw [decide_eq_decide.mpr hle]

/-- `sign_extend`: sign extension from bit `signBit`. -/
def signExtend32 (val : Word) (signBit : Nat) : Word :=
  let mask := (1 : Word) <<< signBit
  (val ^^^ mask) - mask

theorem signExtend32_setWidth (x : BitVec 12) :
    signExtend32 (x.setWidth 32) 11 = x.signExtend 32 := by
  have hmsb : x.getLsbD 11 = x.msb := by simp [BitVec.msb_eq_getLsbD_last]
  have hout : ∀ i, 12 ≤ i → x.getLsbD i = false := fun i => BitVec.getLsbD_of_ge x i
  have hword : ∀ i < 32, (x.setWidth 32).getLsbD i = x.getLsbD i := fun i hi => by
    rw [BitVec.getLsbD_setWidth, decide_eq_true hi, Bool.true_and]
  have hsign : ∀ i < 32, (0x800#32).getLsbD i = decide (i = 11) := by decide
  have hfill : ∀ i < 32, (0xFFFFF800#32).getLsbD i = decide (11 ≤ i) := by decide
  show (x.setWidth 32 ^^^ 0x800#32) - 0x800#32 = _
  cases h : x.msb
  · -- the sign bit is clear, so `^^^` sets it and the subtraction takes it back
    have hxor : x.setWidth 32 ^^^ 0x800#32 = x.setWidth 32 + 0x800#32 := by
      rw [BitVec.add_eq_or_of_and_eq_zero]
      · apply BitVec.eq_of_getLsbD_eq
        intro i hi
        rw [BitVec.getLsbD_xor, BitVec.getLsbD_or, hword i hi, hsign i hi]
        by_cases hbit : i = 11
        · rw [hbit, hmsb, h]
          rfl
        · simp [hbit]
      · apply BitVec.eq_of_getLsbD_eq
        intro i hi
        rw [BitVec.getLsbD_and, hword i hi, hsign i hi]
        by_cases hbit : i = 11
        · rw [hbit, hmsb, h]
          rfl
        · simp [hbit]
    rw [hxor, BitVec.add_sub_cancel, BitVec.signExtend_eq_setWidth_of_msb_false h]
  · -- the sign bit is set, so `^^^` clears it and the subtraction borrows into every bit above
    have hneg : -(0x800#32) = 0xFFFFF800#32 := by decide
    rw [BitVec.sub_eq_add_neg, hneg, BitVec.add_eq_or_of_and_eq_zero]
    · apply BitVec.eq_of_getLsbD_eq
      intro i hi
      rw [BitVec.getLsbD_signExtend, BitVec.getLsbD_or, BitVec.getLsbD_xor, hword i hi, hsign i hi,
        hfill i hi, h, decide_eq_true hi, Bool.true_and]
      rcases Nat.lt_trichotomy i 11 with hlt | heq | hgt
      · simp [show i ≠ 11 by omega, show ¬11 ≤ i by omega, show i < 12 by omega]
      · rw [heq, hmsb, h]
        rfl
      · simp [show 11 ≤ i by omega, show ¬i < 12 by omega]
    · apply BitVec.eq_of_getLsbD_eq
      intro i hi
      rw [BitVec.getLsbD_and, BitVec.getLsbD_xor, hword i hi, hsign i hi, hfill i hi]
      rcases Nat.lt_trichotomy i 11 with hlt | heq | hgt
      · simp [show ¬11 ≤ i by omega]
      · rw [heq, hmsb, h]
        rfl
      · rw [hout i hgt]
        simp [show i ≠ 11 by omega]
/-- The other way the decoders extend a sign: with the sign bit set, every bit
above the immediate is set. -/
theorem signFill {n : Nat} (x : BitVec (n + 1)) {imm sign fill : Word}
    (himm : imm = x.setWidth 32) (hn : n < 32) (hsign : sign = BitVec.twoPow 32 n)
    (hfill : ∀ i < 32, fill.getLsbD i = decide (n < i)) :
    (if imm &&& sign ≠ 0 then imm ||| fill else imm) = x.signExtend 32 := by
  have hmsb : imm.getLsbD n = x.msb := by
    simp [himm, BitVec.msb_eq_getLsbD_last, hn]
  simp only [hsign, BitVec.and_twoPow_ne_zero hn imm, hmsb]
  apply BitVec.eq_of_getLsbD_eq
  intro i hi
  rw [BitVec.getLsbD_signExtend]
  cases x.msb
  · rw [if_neg (by simp), himm, BitVec.getLsbD_setWidth]
    split
    · rfl
    · rw [BitVec.getLsbD_of_ge x i (by omega)]
  · rw [if_pos rfl, BitVec.getLsbD_or, himm, BitVec.getLsbD_setWidth, hfill i hi]
    split
    · simp [hi]
      omega
    · simp [hi]
      omega

/-- Compressed register numbers name `x8` to `x15`. -/
def cregToReg (creg : BitVec 8) : BitVec 8 := 8 + (creg &&& 0x7)

/-- The name of a register in the calling convention; an index out of range has none. -/
def regAbiName (r : BitVec 8) : String :=
  (#["zero", "ra", "sp", "gp", "tp", "t0", "t1", "t2",
     "s0", "s1", "a0", "a1", "a2", "a3", "a4", "a5",
     "a6", "a7", "s2", "s3", "s4", "s5", "s6", "s7",
     "s8", "s9", "s10", "s11", "t3", "t4", "t5", "t6"])[r.toNat]?.getD "x?"

/-! ## Data accesses

The alignment check and the mapping of bus errors to access faults, shared by
the executors of RV32I, C, F and Zcf. -/

/-- Cause and trap value of a failed access. -/
structure MemFault where
  cause : Word
  tval : Word
  deriving DecidableEq, Repr

namespace MemAccess

variable {β : Type} [Bus β]

/-- A bus read as the helpers see it: the value zero-extended, a thrown
exception turned into a load access fault at `addr`. -/
def readBus (bus : β) (addr : Word) (size : Nat) : Except MemFault Word × β :=
  match size with
  | 1 =>
    match Bus.read8 bus addr with
    | (.ok v, bus) => (.ok (v.setWidth 32), bus)
    | (.error _, bus) => (.error ⟨Exc.loadAccessFault, addr⟩, bus)
  | 2 =>
    match Bus.read16 bus addr with
    | (.ok v, bus) => (.ok (v.setWidth 32), bus)
    | (.error _, bus) => (.error ⟨Exc.loadAccessFault, addr⟩, bus)
  | _ =>
    match Bus.read32 bus addr with
    | (.ok v, bus) => (.ok v, bus)
    | (.error _, bus) => (.error ⟨Exc.loadAccessFault, addr⟩, bus)

/-- The low bytes of the word, by the call of their size. -/
def writeBus (bus : β) (addr : Word) (size : Nat) (data : Word) : Except MemFault Unit × β :=
  let outcome := match size with
    | 1 => Bus.write8 bus addr ((data &&& 0xFF).setWidth 8)
    | 2 => Bus.write16 bus addr ((data &&& 0xFFFF).setWidth 16)
    | _ => Bus.write32 bus addr data
  match outcome with
  | (.ok _, bus) => (.ok (), bus)
  | (.error _, bus) => (.error ⟨Exc.storeAccessFault, addr⟩, bus)

/-- The natural-alignment check made before the bus is touched. -/
def misaligned (addr : Word) (size : Nat) (allowMisaligned : Bool) : Bool :=
  !allowMisaligned && decide (size > 1) && decide (addr.toNat % size ≠ 0)

/-- `load`: the alignment check comes before the bus is asked. -/
def load (bus : β) (addr : Word) (size : Nat) (allowMisaligned : Bool) :
    Except MemFault Word × β :=
  if misaligned addr size allowMisaligned then (.error ⟨Exc.loadAddrMisaligned, addr⟩, bus)
  else readBus bus addr size

/-- `store`: the alignment check comes before the bus is asked. -/
def store (bus : β) (addr : Word) (size : Nat) (data : Word) (allowMisaligned : Bool) :
    Except MemFault Unit × β :=
  if misaligned addr size allowMisaligned then (.error ⟨Exc.storeAddrMisaligned, addr⟩, bus)
  else writeBus bus addr size data

/-- The text the executors attach to a failed load. -/
def loadError (cause : Word) : String :=
  if cause = Exc.loadAddrMisaligned then "Load address misaligned" else "Load access fault"

/-- The text the executors attach to a failed store. -/
def storeError (cause : Word) : String :=
  if cause = Exc.storeAddrMisaligned then "Store address misaligned" else "Store access fault"

end MemAccess

end Riscv

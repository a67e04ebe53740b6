import Riscv.BaseOpgen

/- The opcode generator of Zicsr (`riscv_zicsr_opgen.hpp`).

   The addresses come from pools kept by hand next to the CSR file: those software may
   write, of every configuration, with a delegation, with S-mode, and those it may only
   read. The flags of the generator say which pools count. -/
namespace Riscv.Zicsr.Opgen

open Sample Riscv.Opgen

/-- `encode_csr`: the source field is a register or an immediate. -/
def encodeCsr (csr rs1OrUimm funct3 rd : Word) : Word :=
  ((csr &&& 0xFFF) <<< 20) ||| ((rs1OrUimm &&& 0x1F) <<< 15) ||| ((funct3 &&& 0x7) <<< 12) |||
    ((rd &&& 0x1F) <<< 7) ||| 0b1110011

/-! ## Random numbers -/

/-- The flags `set_s_mode` and `set_u_mode` of a generator set. -/
structure RNG where
  sMode : Bool := false
  uMode : Bool := false

/-- fflags, frm, fcsr, mstatus, mie, mtvec, mcounteren, mstatush, menvcfg, menvcfgh,
mscratch, mepc, mcause, mtval, mip, mcycle, minstret, mcycleh, minstreth. -/
def wrBase : List Word :=
  [0x001, 0x002, 0x003, 0x300, 0x304, 0x305, 0x306, 0x310, 0x30A, 0x31A, 0x340, 0x341, 0x342,
    0x343, 0x344, 0xB00, 0xB02, 0xB80, 0xB82]

/-- medeleg and mideleg. -/
def wrDeleg : List Word := [0x302, 0x303]

/-- sstatus, sie, stvec, scounteren, sscratch, sepc, scause, stval, sip, satp. -/
def wrSmode : List Word :=
  [0x100, 0x104, 0x105, 0x106, 0x140, 0x141, 0x142, 0x143, 0x144, 0x180]

/-- cycle, time, instret and their upper halves, mvendorid, marchid, mimpid, mhartid,
mconfigptr, and misa, whose writes are ignored. -/
def roPool : List Word :=
  [0xC00, 0xC01, 0xC02, 0xC80, 0xC81, 0xC82, 0xF11, 0xF12, 0xF13, 0xF14, 0xF15, 0x301]

namespace RNG

def reg : Gen Word := uniformWord 0 31

def uimm5 : Gen Word := uniformWord 0 31

def range (lo hi : Nat) : Gen Word := uniformWord lo hi

def chance : Gen Bool := coin

/-- A uniform index into the pool. -/
def pick (pool : List Word) : Gen Word := do
  return pool.getD (← range 0 (pool.length - 1)).toNat 0

/-- One index over the three writable pools, one after the other. -/
def writableCsr (rng : RNG) : Gen Word := do
  let nBase := wrBase.length
  let nDeleg := if rng.sMode || rng.uMode then wrDeleg.length else 0
  let nSmode := if rng.sMode then wrSmode.length else 0
  let idx := (← range 0 (nBase + nDeleg + nSmode - 1)).toNat
  return if idx < nBase then wrBase.getD idx 0
    else if idx - nBase < nDeleg then wrDeleg.getD (idx - nBase) 0
    else wrSmode.getD (idx - nBase - nDeleg) 0

/-- Only reads may name one of these. -/
def readonlyCsr : Gen Word := pick roPool

/-- For a read: a CSR of either kind. -/
def csr (rng : RNG) : Gen Word := do
  if ← chance then rng.writableCsr else readonlyCsr

end RNG

open RNG

/-! ## Generators -/

/-- CSRRW and CSRRWI write whatever their source is. -/
def genWrite (funct3 : Word) (source : Gen Word) (rng : RNG) : Gen Word := do
  let csr ← rng.writableCsr
  let src ← source
  let rd ← reg
  return encodeCsr csr src funct3 rd

/-- The set and clear forms; a source field of 0 makes them reads. -/
def genSetClear (funct3 : Word) (source : Gen Word) (rng : RNG) : Gen Word := do
  let zero ← chance
  let src ← (if zero then pure 0 else source)
  let csr ← (if src = 0 then rng.csr else rng.writableCsr)
  let rd ← reg
  return encodeCsr csr src funct3 rd

def genCsrrw : RNG → Gen Word := genWrite 0b001 reg
def genCsrrs : RNG → Gen Word := genSetClear 0b010 reg
def genCsrrc : RNG → Gen Word := genSetClear 0b011 reg
def genCsrrwi : RNG → Gen Word := genWrite 0b101 uimm5
def genCsrrsi : RNG → Gen Word := genSetClear 0b110 uimm5
def genCsrrci : RNG → Gen Word := genSetClear 0b111 uimm5

/-- The six forms, in the order of the table. -/
inductive InstrType where
  | csrrw | csrrs | csrrc | csrrwi | csrrsi | csrrci
  deriving DecidableEq, Repr

/-- The table `generate` indexes by the form. -/
def generators (rng : RNG) : List (Gen Word) :=
  [genCsrrw rng, genCsrrs rng, genCsrrc rng, genCsrrwi rng, genCsrrsi rng, genCsrrci rng]

/-- `generate(type)`: the mask does not matter. -/
def generate (rng : RNG) (type : InstrType) : Gen Word := Gen.nth (generators rng) type.ctorIdx

end Riscv.Zicsr.Opgen

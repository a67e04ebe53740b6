import Riscv.Common

/- Zicsr: the CSR file with its permission checks, WARL legalisation and
   aliases, and the decoder and executor of the six CSR instructions
   (`riscv_zicsr.hpp`).

   The storage is a partial map from addresses to words, as the source's hash
   map is: `exists'` asks whether an address is in it, `set` puts it in. The read
   and write callbacks are not modelled: the CPU installs none, and without one
   `read_raw` is `get`. -/
namespace Riscv.Zicsr

/-! ## Addresses -/

namespace CsrAddr
/-- The accrued flags, the low bits of fcsr. -/
def fflags : BitVec 16 := 0x001
/-- The rounding mode, the bits of fcsr above the flags. -/
def frm : BitVec 16 := 0x002
def fcsr : BitVec 16 := 0x003
/-- A view of mcycle. -/
def cycle : BitVec 16 := 0xC00
/-- Another view of mcycle: time counts cycles here. -/
def time : BitVec 16 := 0xC01
/-- A view of minstret. -/
def instret : BitVec 16 := 0xC02
def cycleh : BitVec 16 := 0xC80
def timeh : BitVec 16 := 0xC81
def instreth : BitVec 16 := 0xC82
/-- A view of mstatus. -/
def sstatus : BitVec 16 := 0x100
/-- The bits of mie that are delegated. -/
def sie : BitVec 16 := 0x104
def stvec : BitVec 16 := 0x105
def scounteren : BitVec 16 := 0x106
def sscratch : BitVec 16 := 0x140
def sepc : BitVec 16 := 0x141
def scause : BitVec 16 := 0x142
def stval : BitVec 16 := 0x143
/-- The bits of mip that are delegated. -/
def sip : BitVec 16 := 0x144
def satp : BitVec 16 := 0x180
def mvendorid : BitVec 16 := 0xF11
def marchid : BitVec 16 := 0xF12
def mimpid : BitVec 16 := 0xF13
def mhartid : BitVec 16 := 0xF14
def mconfigptr : BitVec 16 := 0xF15
def mstatus : BitVec 16 := 0x300
/-- The extensions the configuration has; writes are ignored. -/
def misa : BitVec 16 := 0x301
def medeleg : BitVec 16 := 0x302
def mideleg : BitVec 16 := 0x303
def mie : BitVec 16 := 0x304
def mtvec : BitVec 16 := 0x305
def mcounteren : BitVec 16 := 0x306
def mstatush : BitVec 16 := 0x310
def menvcfg : BitVec 16 := 0x30A
def menvcfgh : BitVec 16 := 0x31A
def mscratch : BitVec 16 := 0x340
def mepc : BitVec 16 := 0x341
def mcause : BitVec 16 := 0x342
def mtval : BitVec 16 := 0x343
def mip : BitVec 16 := 0x344
def mcycle : BitVec 16 := 0xB00
def minstret : BitVec 16 := 0xB02
def mcycleh : BitVec 16 := 0xB80
def minstreth : BitVec 16 := 0xB82
end CsrAddr

/-! ## Access permissions -/

/-- What the address of a CSR says about its accesses. -/
structure CSRPermissions where
  readable : Bool
  writable : Bool
  minPrivilege : PrivilegeLevel
  deriving DecidableEq, Repr

/-- Bits 11:10 of an address say whether it is read-only, bits 9:8 the least
privilege that may access it. -/
def CSRPermissions.fromAddress (addr : BitVec 16) : CSRPermissions :=
  { readable := true
    writable := decide ((addr >>> 10) &&& 0x3 ≠ 0x3)
    minPrivilege := PrivilegeLevel.ofBits ((addr >>> 8).setWidth 2) }

/-! ## CSR file -/

/-- The CSRs that are stored, and the flags that decide which there are. An absent address
reads as zero. -/
structure CSRFile where
  csrs : BitVec 16 → Option Word
  currentPrivilege : PrivilegeLevel := .machine
  fExtension : Bool := true
  sModeEnabled : Bool := false
  uModeEnabled : Bool := false
  /-- `~1` with C (IALIGN = 16), `~3` without. -/
  mepcMask : Word := ~~~1

namespace CSRFile

def mstatusSie : Word := (1 : Word) <<< 1
def mstatusMie : Word := (1 : Word) <<< 3
def mstatusSpie : Word := (1 : Word) <<< 5
def mstatusMpie : Word := (1 : Word) <<< 7
def mstatusSpp : Word := (1 : Word) <<< 8
def mstatusMpp : Word := (3 : Word) <<< 11
/-- Hardwired to dirty with F, and to off without. -/
def mstatusFs : Word := (3 : Word) <<< 13
def mstatusMprv : Word := (1 : Word) <<< 17
def mstatusSum : Word := (1 : Word) <<< 18
def mstatusMxr : Word := (1 : Word) <<< 19
def mstatusTvm : Word := (1 : Word) <<< 20
def mstatusTw : Word := (1 : Word) <<< 21
def mstatusTsr : Word := (1 : Word) <<< 22
/-- Read-only: whether FS is dirty. -/
def mstatusSd : Word := (1 : Word) <<< 31

def miSsi : Word := (1 : Word) <<< 1
def miMsi : Word := (1 : Word) <<< 3
def miSti : Word := (1 : Word) <<< 5
def miMti : Word := (1 : Word) <<< 7
def miSei : Word := (1 : Word) <<< 9
def miMei : Word := (1 : Word) <<< 11

/-- The six interrupts that are implemented. -/
def miMask : Word := miSsi ||| miMsi ||| miSti ||| miMti ||| miSei ||| miMei

/-- MTIP and MEIP are read-only in mip. -/
def mipWritableMask (f : CSRFile) : Word :=
  if f.sModeEnabled then miMsi ||| miSsi ||| miSti ||| miSei else miMsi

/-- The bits of mstatus S-mode sees. -/
def sstatusReadMask : Word :=
  mstatusSie ||| mstatusSpie ||| mstatusSpp ||| mstatusMxr ||| mstatusSum ||| mstatusFs |||
    mstatusSd

/-- The bits of mstatus S-mode writes. -/
def sstatusWriteMask : Word :=
  mstatusSie ||| mstatusSpie ||| mstatusSpp ||| mstatusMxr ||| mstatusSum

/-- FS reads as Dirty and SD as 1 when F is present. -/
def mstatusHardwired (f : CSRFile) : Word :=
  if f.fExtension then mstatusFs ||| mstatusSd else 0

/-- The bits of mstatus the modes there are leave writable. -/
def mstatusLegalMask (f : CSRFile) : Word :=
  let mask := mstatusSie ||| mstatusSpie ||| mstatusSpp ||| mstatusMie ||| mstatusMpie |||
    mstatusMpp ||| mstatusMprv ||| mstatusSum ||| mstatusMxr ||| mstatusTvm ||| mstatusTw |||
    mstatusTsr
  let mask :=
    if !f.sModeEnabled then
      mask &&& ~~~(mstatusSie ||| mstatusSpie ||| mstatusSpp ||| mstatusSum ||| mstatusTvm |||
        mstatusTsr) &&& ~~~mstatusTw
    else mask
  if !f.uModeEnabled then
    mask &&& ~~~(mstatusMprv ||| mstatusSum ||| mstatusMxr ||| mstatusTw)
  else mask

/-- The reserved mode and the modes that are not implemented become M. -/
def legalizeMpp (f : CSRFile) (mpp : Word) : Word :=
  let mpp := if mpp = 2 then 3 else mpp
  let mpp := if !f.uModeEnabled ∧ mpp = 0 then 3 else mpp
  if !f.sModeEnabled ∧ mpp = 1 then 3 else mpp

/-- The raw backdoor: no legalisation, no aliasing. -/
def set (f : CSRFile) (addr : BitVec 16) (value : Word) : CSRFile :=
  { f with csrs := fun a => if a = addr then some value else f.csrs a }

/-- The stored word, as `csrs[addr]` reads it. -/
def get (f : CSRFile) (addr : BitVec 16) : Word := (f.csrs addr).getD 0

def setPrivilege (f : CSRFile) (priv : PrivilegeLevel) : CSRFile :=
  { f with currentPrivilege := priv }

/-- `init_storage`: the registers of the configuration and their reset values. -/
def initStorage (f : CSRFile) : CSRFile :=
  let f := { f with csrs := fun _ => none }
  let f := f.set CsrAddr.fcsr 0
  let f := f.set CsrAddr.misa 0x40000100
  let f := f.set CsrAddr.mvendorid 0
  let f := f.set CsrAddr.marchid 0
  let f := f.set CsrAddr.mimpid 0
  let f := f.set CsrAddr.mhartid 0
  let f := f.set CsrAddr.mconfigptr 0
  let f := f.set CsrAddr.mstatush 0
  let f := f.set CsrAddr.menvcfg 0
  let f := f.set CsrAddr.menvcfgh 0
  let f := f.set CsrAddr.mstatus (f.mstatusHardwired ||| mstatusMpp)
  let f := f.set CsrAddr.mtvec 0
  let f := f.set CsrAddr.mie 0
  let f := f.set CsrAddr.mepc 0
  let f := f.set CsrAddr.mcause 0
  let f := f.set CsrAddr.mtval 0
  let f := f.set CsrAddr.mscratch 0
  let f := f.set CsrAddr.mip 0
  let f :=
    if f.sModeEnabled || f.uModeEnabled then (f.set CsrAddr.medeleg 0).set CsrAddr.mideleg 0
    else f
  let f := f.set CsrAddr.mcounteren 0
  let f :=
    if f.sModeEnabled then
      let f := f.set CsrAddr.sstatus 0
      let f := f.set CsrAddr.sie 0
      let f := f.set CsrAddr.stvec 0
      let f := f.set CsrAddr.scounteren 0
      let f := f.set CsrAddr.sscratch 0
      let f := f.set CsrAddr.sepc 0
      let f := f.set CsrAddr.scause 0
      let f := f.set CsrAddr.stval 0
      let f := f.set CsrAddr.sip 0
      f.set CsrAddr.satp 0
    else f
  let f := f.set CsrAddr.mcycle 0
  let f := f.set CsrAddr.mcycleh 0
  let f := f.set CsrAddr.minstret 0
  f.set CsrAddr.minstreth 0

/-- The constructor. -/
def new : CSRFile := initStorage { csrs := fun _ => none }

def setSMode (f : CSRFile) (enabled : Bool) : CSRFile := { f with sModeEnabled := enabled }

def setUMode (f : CSRFile) (enabled : Bool) : CSRFile := { f with uModeEnabled := enabled }

/-- Re-legalises mstatus under the new hardwired bits. -/
def setFExtension (f : CSRFile) (enabled : Bool) : CSRFile :=
  let f := { f with fExtension := enabled }
  f.set CsrAddr.mstatus ((f.get CsrAddr.mstatus &&& f.mstatusLegalMask) ||| f.mstatusHardwired)

/-- IALIGN decides which low bits of mepc and sepc exist. -/
def setMepcMask (f : CSRFile) (mask : Word) : CSRFile := { f with mepcMask := mask }

def setMisa (f : CSRFile) (value : Word) : CSRFile := f.set CsrAddr.misa value

/-- The user-level counters, which the counter-enable registers guard. -/
def isCounterCsr (addr : BitVec 16) : Bool :=
  decide (addr = CsrAddr.cycle) || decide (addr = CsrAddr.cycleh) ||
    decide (addr = CsrAddr.time) || decide (addr = CsrAddr.timeh) ||
    decide (addr = CsrAddr.instret) || decide (addr = CsrAddr.instreth)

/-- `exists`: fflags, frm and fcsr exist with F, the counter shadows always. -/
def exists' (f : CSRFile) (addr : BitVec 16) : Bool :=
  if addr = CsrAddr.fflags ∨ addr = CsrAddr.frm ∨ addr = CsrAddr.fcsr then f.fExtension
  else if isCounterCsr addr then true
  else (f.csrs addr).isSome

/-- The bit of the counter-enable registers. -/
def counterIndex (addr : BitVec 16) : Nat := (addr &&& 0x1F).toNat

/-- Below M mcounteren decides, and in U scounteren too. -/
def counterReadable (f : CSRFile) (addr : BitVec 16) : Bool :=
  if f.currentPrivilege = .machine then true
  else if (f.get CsrAddr.mcounteren >>> counterIndex addr) &&& 1 = 0 then false
  else if f.currentPrivilege = .supervisor then true
  else if !f.sModeEnabled then true
  else decide ((f.get CsrAddr.scounteren >>> counterIndex addr) &&& 1 ≠ 0)

/-- The privilege first, then the counters. -/
def canRead (f : CSRFile) (addr : BitVec 16) : Bool :=
  if f.currentPrivilege.toNat < (CSRPermissions.fromAddress addr).minPrivilege.toNat then false
  else if isCounterCsr addr then f.counterReadable addr
  else true

/-- Writes are not guarded by the counter-enable registers: counters are read-only by address. -/
def canWrite (f : CSRFile) (addr : BitVec 16) : Bool :=
  if !(CSRPermissions.fromAddress addr).writable then false
  else
    decide (f.currentPrivilege.toNat ≥ (CSRPermissions.fromAddress addr).minPrivilege.toNat)

/-- The architectural read, aliases resolved. -/
def read (f : CSRFile) (addr : BitVec 16) : Word :=
  if addr = CsrAddr.fflags then f.get CsrAddr.fcsr &&& 0x1F
  else if addr = CsrAddr.frm then (f.get CsrAddr.fcsr >>> 5) &&& 0x7
  else if addr = CsrAddr.cycle then f.get CsrAddr.mcycle
  else if addr = CsrAddr.cycleh then f.get CsrAddr.mcycleh
  else if addr = CsrAddr.time then f.get CsrAddr.mcycle
  else if addr = CsrAddr.timeh then f.get CsrAddr.mcycleh
  else if addr = CsrAddr.instret then f.get CsrAddr.minstret
  else if addr = CsrAddr.instreth then f.get CsrAddr.minstreth
  else if addr = CsrAddr.sstatus then f.get CsrAddr.mstatus &&& sstatusReadMask
  else if addr = CsrAddr.sie then f.get CsrAddr.mie &&& f.get CsrAddr.mideleg
  else if addr = CsrAddr.sip then f.get CsrAddr.mip &&& f.get CsrAddr.mideleg
  else f.get addr

/-- What a write of mstatus stores: the legal bits, with a legal MPP. -/
def legalizeMstatus (f : CSRFile) (value : Word) : Word :=
  let v := value &&& f.mstatusLegalMask
  let mpp := f.legalizeMpp ((v >>> 11) &&& 3)
  let v := v &&& ~~~mstatusMpp
  let v := v ||| (mpp <<< 11)
  v ||| f.mstatusHardwired

/-- What a write of mtvec or stvec stores: the reserved modes become Direct. -/
def legalizeTvec (value : Word) : Word :=
  let mode := value &&& 0x3
  let mode := if mode > 1 then 0 else mode
  (value &&& ~~~0x3) ||| mode

/-- The bits sstatus does not show are kept from mstatus. -/
def legalizeSstatus (f : CSRFile) (value : Word) : Word :=
  let mstatus := f.get CsrAddr.mstatus
  let v := (mstatus &&& ~~~sstatusWriteMask) ||| (value &&& sstatusWriteMask)
  let v := v &&& ~~~mstatusSd
  (v &&& f.mstatusLegalMask) ||| f.mstatusHardwired

/-- Bare or Sv32: the mode is one bit. -/
def legalizeSatp (value : Word) : Word :=
  let mode := value >>> 31
  let mode := if mode > 1 then 0 else mode
  (value &&& 0x7FFFFFFF) ||| (mode <<< 31)

/-- The architectural write. -/
def write (f : CSRFile) (addr : BitVec 16) (value : Word) : CSRFile :=
  if addr = CsrAddr.fflags then
    f.set CsrAddr.fcsr ((f.get CsrAddr.fcsr &&& ~~~(0x1F : Word)) ||| (value &&& 0x1F))
  else if addr = CsrAddr.frm then
    f.set CsrAddr.fcsr ((f.get CsrAddr.fcsr &&& ~~~(0xE0 : Word)) ||| ((value &&& 0x7) <<< 5))
  else if addr = CsrAddr.fcsr then f.set CsrAddr.fcsr (value &&& 0xFF)
  else if addr = CsrAddr.mstatus then f.set CsrAddr.mstatus (f.legalizeMstatus value)
  else if addr = CsrAddr.mtvec then f.set CsrAddr.mtvec (legalizeTvec value)
  else if addr = CsrAddr.mepc then f.set CsrAddr.mepc (value &&& f.mepcMask)
  else if addr = CsrAddr.misa then f
  else if addr = CsrAddr.mstatush ∨ addr = CsrAddr.menvcfg ∨ addr = CsrAddr.menvcfgh then f
  else if addr = CsrAddr.mie then f.set CsrAddr.mie (value &&& miMask)
  else if addr = CsrAddr.mip then
    f.set CsrAddr.mip
      ((f.get CsrAddr.mip &&& ~~~f.mipWritableMask) ||| (value &&& f.mipWritableMask))
  -- bit 11 is ECALL from M, which is never delegated
  else if addr = CsrAddr.medeleg then f.set CsrAddr.medeleg (value &&& 0xF7FF)
  else if addr = CsrAddr.mideleg then f.set CsrAddr.mideleg (value &&& miMask)
  else if addr = CsrAddr.mcounteren then f.set CsrAddr.mcounteren value
  else if addr = CsrAddr.sstatus then f.set CsrAddr.mstatus (f.legalizeSstatus value)
  else if addr = CsrAddr.sie then
    if !f.sModeEnabled then f
    else
      let deleg := f.get CsrAddr.mideleg
      f.set CsrAddr.mie ((f.get CsrAddr.mie &&& ~~~deleg) ||| (value &&& deleg &&& miMask))
  else if addr = CsrAddr.sip then
    if !f.sModeEnabled then f
    else
      -- only SSIP is writable through sip, and only when delegated
      let wmask := miSsi &&& f.get CsrAddr.mideleg
      f.set CsrAddr.mip ((f.get CsrAddr.mip &&& ~~~wmask) ||| (value &&& wmask))
  else if addr = CsrAddr.stvec then f.set CsrAddr.stvec (legalizeTvec value)
  else if addr = CsrAddr.sepc then f.set CsrAddr.sepc (value &&& f.mepcMask)
  else if addr = CsrAddr.scause then f.set CsrAddr.scause value
  else if addr = CsrAddr.stval then f.set CsrAddr.stval value
  else if addr = CsrAddr.sscratch then f.set CsrAddr.sscratch value
  else if addr = CsrAddr.satp then f.set CsrAddr.satp (legalizeSatp value)
  else if addr = CsrAddr.scounteren then f.set CsrAddr.scounteren value
  else f.set addr value

/-- The flags stay; the storage and the privilege start anew. -/
def reset (f : CSRFile) : CSRFile := (initStorage f).setPrivilege .machine

/-! ## Reading after a write -/

theorem get_set (f : CSRFile) (a b : BitVec 16) (v : Word) :
    (f.set a v).get b = if b = a then v else f.get b := by
  simp only [get, set]
  split <;> rfl

@[simp] theorem get_set_same (f : CSRFile) (a : BitVec 16) (v : Word) :
    (f.set a v).get a = v := by
  simp [get_set]

theorem get_set_ne (f : CSRFile) {a b : BitVec 16} (v : Word) (h : b ≠ a) :
    (f.set a v).get b = f.get b := by
  simp [get_set, h]

@[simp] theorem set_currentPrivilege (f : CSRFile) (a : BitVec 16) (v : Word) :
    (f.set a v).currentPrivilege = f.currentPrivilege := rfl

@[simp] theorem set_fExtension (f : CSRFile) (a : BitVec 16) (v : Word) :
    (f.set a v).fExtension = f.fExtension := rfl

@[simp] theorem set_sModeEnabled (f : CSRFile) (a : BitVec 16) (v : Word) :
    (f.set a v).sModeEnabled = f.sModeEnabled := rfl

@[simp] theorem set_uModeEnabled (f : CSRFile) (a : BitVec 16) (v : Word) :
    (f.set a v).uModeEnabled = f.uModeEnabled := rfl

@[simp] theorem set_mepcMask (f : CSRFile) (a : BitVec 16) (v : Word) :
    (f.set a v).mepcMask = f.mepcMask := rfl

@[simp] theorem setPrivilege_currentPrivilege (f : CSRFile) (p : PrivilegeLevel) :
    (f.setPrivilege p).currentPrivilege = p := rfl

@[simp] theorem setPrivilege_csrs (f : CSRFile) (p : PrivilegeLevel) :
    (f.setPrivilege p).csrs = f.csrs := rfl

@[simp] theorem setPrivilege_fExtension (f : CSRFile) (p : PrivilegeLevel) :
    (f.setPrivilege p).fExtension = f.fExtension := rfl

@[simp] theorem setPrivilege_sModeEnabled (f : CSRFile) (p : PrivilegeLevel) :
    (f.setPrivilege p).sModeEnabled = f.sModeEnabled := rfl

@[simp] theorem setPrivilege_uModeEnabled (f : CSRFile) (p : PrivilegeLevel) :
    (f.setPrivilege p).uModeEnabled = f.uModeEnabled := rfl

@[simp] theorem setPrivilege_mepcMask (f : CSRFile) (p : PrivilegeLevel) :
    (f.setPrivilege p).mepcMask = f.mepcMask := rfl

@[simp] theorem get_setPrivilege (f : CSRFile) (p : PrivilegeLevel) (a : BitVec 16) :
    (f.setPrivilege p).get a = f.get a := rfl

theorem set_set (f : CSRFile) (a : BitVec 16) (v w : Word) :
    (f.set a v).set a w = f.set a w := by
  simp only [set]
  congr 1
  funext b
  by_cases h : b = a <;> simp [h]

theorem set_comm (f : CSRFile) {a b : BitVec 16} (h : a ≠ b) (v w : Word) :
    (f.set a v).set b w = (f.set b w).set a v := by
  simp only [set]
  congr 1
  funext c
  by_cases ha : c = a
  · subst ha
    simp [h]
  · simp [ha]

theorem set_get_self (f : CSRFile) {a : BitVec 16} (h : (f.csrs a).isSome) :
    f.set a (f.get a) = f := by
  obtain ⟨v, hv⟩ := Option.isSome_iff_exists.mp h
  have hcsrs : (fun b => if b = a then some (f.get a) else f.csrs b) = f.csrs := by
    funext b
    by_cases hb : b = a
    · simp [hb, get, hv]
    · simp [hb]
  simp only [set, hcsrs]

end CSRFile

/-! ## CSR instructions -/

/-- The three operations, from a register or an immediate. -/
inductive CSRInstrType where
  | csrrw | csrrs | csrrc | csrrwi | csrrsi | csrrci
  | illegal
  deriving DecidableEq, Repr

/-- `rs1` and `uimm` are the same five bits. -/
structure DecodedCSRInstr where
  type : CSRInstrType
  rd : BitVec 8
  rs1 : BitVec 8
  csr : BitVec 16
  funct3 : BitVec 8
  raw : Word
  deriving DecidableEq, Repr

/-- The immediate forms use the `rs1` field as an unsigned immediate. -/
def DecodedCSRInstr.uimm (d : DecodedCSRInstr) : BitVec 8 := d.rs1

/-- The value read, and the error of a refused access. -/
structure CSRExecResult where
  valid : Bool := true
  oldCsrValue : Word := 0
  newCsrValue : Word := 0
  csrRead : Bool := false
  csrWritten : Bool := false
  exception : Bool := false
  exceptionCause : Word := 0
  trapValue : Word := 0
  error : String := ""
  deriving DecidableEq, Repr

namespace Opcode
def system : BitVec 8 := 0b1110011
end Opcode

namespace Funct3
def csrrw : BitVec 8 := 0b001
def csrrs : BitVec 8 := 0b010
def csrrc : BitVec 8 := 0b011
def csrrwi : BitVec 8 := 0b101
def csrrsi : BitVec 8 := 0b110
def csrrci : BitVec 8 := 0b111
end Funct3

/-- The `funct3` values 000 and 100 are not CSR instructions. -/
def decode (instr : Word) : DecodedCSRInstr :=
  let d : DecodedCSRInstr :=
    { raw := instr
      rd := u8 (bits instr 11 7)
      rs1 := u8 (bits instr 19 15)
      csr := u16 (bits instr 31 20)
      funct3 := u8 (bits instr 14 12)
      type := .illegal }
  if u8 (bits instr 6 0) ≠ Opcode.system then d
  else if d.funct3 = Funct3.csrrw then { d with type := .csrrw }
  else if d.funct3 = Funct3.csrrs then { d with type := .csrrs }
  else if d.funct3 = Funct3.csrrc then { d with type := .csrrc }
  else if d.funct3 = Funct3.csrrwi then { d with type := .csrrwi }
  else if d.funct3 = Funct3.csrrsi then { d with type := .csrrsi }
  else if d.funct3 = Funct3.csrrci then { d with type := .csrrci }
  else d

/-- The test the dispatcher makes; `funct3` 000 and 100 go to RV32I. -/
def isCsrInstruction (instr : Word) : Bool :=
  let f3 := u8 (bits instr 14 12)
  decide (u8 (bits instr 6 0) = Opcode.system) && decide (f3 ≥ 1) && decide (f3 ≠ 4)

/-- Whether the instruction writes its CSR: the set and clear forms do not when
the source field is 0. -/
def willWrite (instr : DecodedCSRInstr) : Bool :=
  match instr.type with
  | .csrrw | .csrrwi => true
  | .csrrs | .csrrc => decide (instr.rs1 ≠ 0)
  | .csrrsi | .csrrci => decide (instr.uimm ≠ 0)
  | .illegal => false

/-- CSRRW and CSRRWI with `rd` = x0 do not read. -/
def willRead (instr : DecodedCSRInstr) : Bool :=
  match instr.type with
  | .csrrw | .csrrwi => decide (instr.rd ≠ 0)
  | _ => true

/-- The register, or the immediate extended by zeros. -/
def sourceValue (instr : DecodedCSRInstr) (regs : RegFile) : Word :=
  match instr.type with
  | .csrrw | .csrrs | .csrrc => regs.read instr.rs1
  | _ => instr.uimm.setWidth 32

/-- A set or clear form without a source bit keeps the value. -/
def newValue (instr : DecodedCSRInstr) (csrVal srcVal : Word) : Word :=
  match instr.type with
  | .csrrw | .csrrwi => srcVal
  | .csrrs | .csrrsi => if willWrite instr then csrVal ||| srcVal else csrVal
  | .csrrc | .csrrci => if willWrite instr then csrVal &&& ~~~srcVal else csrVal
  | .illegal => csrVal

/-- Every rejection is an illegal-instruction exception carrying the instruction. -/
def rejected (instr : DecodedCSRInstr) (error : String) : CSRExecResult :=
  { valid := false
    exception := true
    exceptionCause := Exc.illegalInstruction
    trapValue := instr.raw
    error := error }

/-- Permissions first; `rd` gets the value read before the write. -/
def execute (instr : DecodedCSRInstr) (regs : RegFile) (csrs : CSRFile) :
    CSRExecResult × RegFile × CSRFile :=
  if instr.type = .illegal then (rejected instr "Illegal instruction", regs, csrs)
  else if !csrs.exists' instr.csr then (rejected instr "CSR does not exist", regs, csrs)
  else if !csrs.canRead instr.csr then (rejected instr "CSR read permission denied", regs, csrs)
  else if willWrite instr && !csrs.canWrite instr.csr then
    (rejected instr "CSR write permission denied", regs, csrs)
  else
    let csrVal := if willRead instr then csrs.read instr.csr else 0
    let newVal := newValue instr csrVal (sourceValue instr regs)
    ({ oldCsrValue := csrVal
       newCsrValue := newVal
       csrRead := willRead instr
       csrWritten := willWrite instr },
      regs.write instr.rd csrVal,
      if willWrite instr then csrs.write instr.csr newVal else csrs)

/-! ## Mnemonics -/

/-- The names the disassembler knows. -/
def csrNames : List (BitVec 16 × String) :=
  [(CsrAddr.fflags, "fflags"), (CsrAddr.frm, "frm"), (CsrAddr.fcsr, "fcsr"),
   (CsrAddr.cycle, "cycle"), (CsrAddr.time, "time"), (CsrAddr.instret, "instret"),
   (CsrAddr.cycleh, "cycleh"), (CsrAddr.timeh, "timeh"), (CsrAddr.instreth, "instreth"),
   (CsrAddr.sstatus, "sstatus"), (CsrAddr.sie, "sie"), (CsrAddr.stvec, "stvec"),
   (CsrAddr.scounteren, "scounteren"), (CsrAddr.sscratch, "sscratch"),
   (CsrAddr.sepc, "sepc"), (CsrAddr.scause, "scause"), (CsrAddr.stval, "stval"),
   (CsrAddr.sip, "sip"), (CsrAddr.satp, "satp"),
   (CsrAddr.mstatus, "mstatus"), (CsrAddr.misa, "misa"), (CsrAddr.medeleg, "medeleg"),
   (CsrAddr.mideleg, "mideleg"), (CsrAddr.mie, "mie"), (CsrAddr.mtvec, "mtvec"),
   (CsrAddr.mcounteren, "mcounteren"), (CsrAddr.mscratch, "mscratch"),
   (CsrAddr.mepc, "mepc"), (CsrAddr.mcause, "mcause"), (CsrAddr.mtval, "mtval"),
   (CsrAddr.mip, "mip"), (CsrAddr.mvendorid, "mvendorid"), (CsrAddr.marchid, "marchid"),
   (CsrAddr.mimpid, "mimpid"), (CsrAddr.mhartid, "mhartid"), (CsrAddr.mcycle, "mcycle"),
   (CsrAddr.minstret, "minstret"), (CsrAddr.mcycleh, "mcycleh"),
   (CsrAddr.minstreth, "minstreth")]

/-- `snprintf` with `0x%03X`. -/
def hexName (addr : BitVec 16) : String :=
  let digits := (Nat.toDigits 16 addr.toNat).map Char.toUpper
  "0x" ++ String.ofList (List.replicate (3 - digits.length) '0' ++ digits)

/-- A CSR without a name is shown by its address. -/
def csrName (addr : BitVec 16) : String := (csrNames.lookup addr).getD (hexName addr)

/-- `name rd, csr, rs1`. -/
def DecodedCSRInstr.regStr (d : DecodedCSRInstr) (name : String) : String :=
  name ++ " " ++ regAbiName d.rd ++ ", " ++ csrName d.csr ++ ", " ++ regAbiName d.rs1

/-- `name rd, csr, uimm`. -/
def DecodedCSRInstr.immStr (d : DecodedCSRInstr) (name : String) : String :=
  name ++ " " ++ regAbiName d.rd ++ ", " ++ csrName d.csr ++ ", " ++ toString d.uimm.toNat

def DecodedCSRInstr.mnemonic (d : DecodedCSRInstr) : String :=
  match d.type with
  | .csrrw => d.regStr "csrrw"
  | .csrrs => d.regStr "csrrs"
  | .csrrc => d.regStr "csrrc"
  | .csrrwi => d.immStr "csrrwi"
  | .csrrsi => d.immStr "csrrsi"
  | .csrrci => d.immStr "csrrci"
  | .illegal => "ILLEGAL"

end Riscv.Zicsr

import Riscv.ExecutorSpec

/- The data accesses of an instruction.

   `Accesses` lists what these can be, together with the exception that ends the
   instruction: none, one access, or the read and the write of an AMO. Every
   executor is shown to be of that form, through `MemAccess` or, for the A
   extension, by its own check. -/
namespace Riscv

/-! ## Data accesses -/

/-- The number of bytes of a call. -/
def BusOp.size : BusOp → Nat
  | .read8 _ | .write8 .. => 1
  | .read16 _ | .write16 .. | .fetch16 _ => 2
  | .read32 _ | .write32 .. | .fetch32 _ => 4

/-- The exception a result reports, if it reports one. -/
def exceptionOf (trap : Bool) (cause : Word) : Option Word := if trap then some cause else none

/-- A load or store access fault. -/
def isAccessFault (cause : Word) : Bool :=
  decide (cause = Exc.loadAccessFault) || decide (cause = Exc.storeAccessFault)

theorem isAccessFault_accessFaultCause (amo : Bool) (op : BusOp) :
    isAccessFault (accessFaultCause amo op) = true := by
  unfold accessFaultCause
  split <;> rfl

/-- Where the A extension and the others may access memory. -/
def Placed (atomic allowMisaligned : Bool) (op : BusOp) : Prop :=
  (atomic = true → op.addr.toNat % 4 = 0) ∧
    (allowMisaligned = false → op.addr.toNat % op.size = 0)

/-- The data accesses of an instruction that ends with the given exception. -/
inductive Accesses (amo atomic allow : Bool) : Option Word → List BusEvent → Prop
  | silent {cause : Option Word} (other : cause.any isAccessFault = false) :
      Accesses amo atomic allow cause []
  | returned (op : BusOp) (data : op.isFetch = false) (placed : Placed atomic allow op) :
      Accesses amo atomic allow none [⟨op, true⟩]
  | threw (op : BusOp) (data : op.isFetch = false) (placed : Placed atomic allow op) :
      Accesses amo atomic allow (some (accessFaultCause amo op)) [⟨op, false⟩]
  | amo (addr v : Word) (ok : Bool) (isAmo : amo = true) (natural : addr.toNat % 4 = 0) :
      Accesses amo atomic allow (exceptionOf (!ok) Exc.storeAccessFault)
        [⟨.read32 addr, true⟩, ⟨.write32 addr v, ok⟩]

theorem Placed.data {allow : Bool} {op : BusOp}
    (h : allow = false → op.addr.toNat % op.size = 0) : Placed false allow op :=
  ⟨nofun, h⟩

theorem Placed.word {allow : Bool} {op : BusOp} (hsize : op.size = 4)
    (h : op.addr.toNat % 4 = 0) : Placed true allow op :=
  ⟨fun _ => h, fun _ => hsize ▸ h⟩

namespace Accesses

variable {amo atomic allow : Bool} {cause : Option Word} {es : List BusEvent}

theorem data (h : Accesses amo atomic allow cause es) : ∀ e ∈ es, e.op.isFetch = false := by
  cases h <;> simp_all [BusOp.isFetch]

/-- **At most one read and one write**, both only of an AMO. -/
theorem reads_le (h : Accesses amo atomic allow cause es) :
    (es.filter fun e => !e.op.isWrite).length ≤ 1 := by
  cases h with
  | silent _ => simp
  | returned op _ _ | threw op _ _ => exact List.length_filter_le _ _
  | amo addr v ok _ _ => simp [BusOp.isWrite]

theorem writes_le (h : Accesses amo atomic allow cause es) :
    (es.filter fun e => e.op.isWrite).length ≤ 1 := by
  cases h with
  | silent _ => simp
  | returned op _ _ | threw op _ _ => exact List.length_filter_le _ _
  | amo addr v ok _ _ => simp [BusOp.isWrite]

theorem both (h : Accesses amo atomic allow cause es) {r w : BusEvent} (hr : r ∈ es) (hw : w ∈ es)
    (hread : r.op.isWrite = false) (hwrite : w.op.isWrite = true) :
    amo = true ∧ ∃ addr v ok, es = [⟨.read32 addr, true⟩, ⟨.write32 addr v, ok⟩] := by
  cases h with
  | silent _ => cases hr
  | returned op _ _ | threw op _ _ =>
    rw [List.mem_singleton] at hr hw
    rw [hw, ← hr, hread] at hwrite
    cases hwrite
  | amo addr v ok isAmo _ => exact ⟨isAmo, addr, v, ok, rfl⟩

theorem placed (h : Accesses amo atomic allow cause es) : ∀ e ∈ es, Placed atomic allow e.op := by
  cases h with
  | silent _ => simp
  | returned op _ placed | threw op _ placed => simpa using placed
  | amo addr v ok _ natural => simp [Placed, BusOp.addr, BusOp.size, natural]

/-- An exception that is no access fault comes before any access. -/
theorem eq_nil {c : Word} (h : Accesses amo atomic allow (some c) es) (hc : isAccessFault c = false) :
    es = [] := by
  generalize hcause : some c = cause at h
  cases h with
  | silent _ => rfl
  | returned op _ _ => cases hcause
  | threw op _ _ =>
    cases hcause
    rw [isAccessFault_accessFaultCause] at hc
    cases hc
  | amo addr v ok _ _ =>
    cases ok
    · cases hcause
      cases hc
    · cases hcause

/-- With an exception no write has returned. -/
theorem no_write {c : Word} (h : Accesses amo atomic allow (some c) es) :
    ∀ e ∈ es, e.op.isWrite = true → e.ok = false := by
  generalize hcause : some c = cause at h
  cases h with
  | silent _ => simp
  | returned op _ _ => cases hcause
  | threw op _ _ => simp
  | amo addr v ok _ _ =>
    cases ok
    · simp [BusOp.isWrite]
    · cases hcause

end Accesses

section
variable {β : Type} [Bus β]

/-- The bus calls between two buses are such accesses. -/
def Accessed (amo atomic allow : Bool) (cause : Option Word) (bus bus' : β) : Prop :=
  ∃ es, Calls bus es bus' ∧ Accesses amo atomic allow cause es

namespace Accessed

variable {amo atomic allow : Bool} {bus bus' : β}

theorem silent {cause : Option Word} (h : cause.any isAccessFault = false) :
    Accessed amo atomic allow cause bus bus := ⟨[], .nil bus, .silent h⟩

theorem returned {α : Type} (op : BusOp) {out : Except BusFault α × β} {v : α}
    (hdata : op.isFetch = false) (hplaced : Placed atomic allow op)
    (hop : op.perform bus = (out.1.isOk, out.2)) (hout : out = (.ok v, bus')) :
    Accessed amo atomic allow .none bus bus' :=
  ⟨_, Calls.of_call op hop hout, .returned op hdata hplaced⟩

theorem threw {α : Type} (op : BusOp) {out : Except BusFault α × β} {e : BusFault}
    (hdata : op.isFetch = false) (hplaced : Placed atomic allow op)
    (hop : op.perform bus = (out.1.isOk, out.2)) (hout : out = (.error e, bus')) :
    Accessed amo atomic allow (some (accessFaultCause amo op)) bus bus' :=
  ⟨_, Calls.of_call op hop hout, .threw op hdata hplaced⟩

end Accessed

/-! ## Loads and stores -/

/-- The exception of a data access. -/
def faultOf {α : Type} : Except MemFault α → Option Word
  | .ok _ => none
  | .error e => some e.cause

namespace MemAccess

/-- The sizes the executors ask for. -/
def IsSize (size : Nat) : Prop := size = 1 ∨ size = 2 ∨ size = 4

theorem natural_of_aligned {addr : Word} {size : Nat} (hsize : IsSize size)
    {allow : Bool} (h : misaligned addr size allow = false) (hallow : allow = false) :
    addr.toNat % size = 0 := by
  unfold misaligned at h
  rw [hallow, Bool.not_false, Bool.true_and] at h
  rcases hsize with rfl | rfl | rfl
  · exact Nat.mod_one _
  · simpa using h
  · simpa using h

theorem readBus_accessed {allow : Bool} (bus : β) {addr : Word} {size : Nat}
    (hsize : IsSize size) (hnatural : allow = false → addr.toNat % size = 0) :
    Accessed false false allow (faultOf (readBus bus addr size).1) bus (readBus bus addr size).2 := by
  unfold readBus
  rcases hsize with rfl | rfl | rfl
  · rcases hcall : Bus.read8 bus addr with ⟨_ | _, bus'⟩
    · exact .threw (.read8 addr) rfl (.data hnatural) rfl hcall
    · exact .returned (.read8 addr) rfl (.data hnatural) rfl hcall
  · rcases hcall : Bus.read16 bus addr with ⟨_ | _, bus'⟩
    · exact .threw (.read16 addr) rfl (.data hnatural) rfl hcall
    · exact .returned (.read16 addr) rfl (.data hnatural) rfl hcall
  · rcases hcall : Bus.read32 bus addr with ⟨_ | _, bus'⟩
    · exact .threw (.read32 addr) rfl (.data hnatural) rfl hcall
    · exact .returned (.read32 addr) rfl (.data hnatural) rfl hcall

theorem writeBus_accessed {allow : Bool} (bus : β) {addr : Word} {size : Nat} (data : Word)
    (hsize : IsSize size) (hnatural : allow = false → addr.toNat % size = 0) :
    Accessed false false allow (faultOf (writeBus bus addr size data).1) bus
      (writeBus bus addr size data).2 := by
  unfold writeBus
  rcases hsize with rfl | rfl | rfl <;> dsimp only
  · rcases hcall : Bus.write8 bus addr ((data &&& 0xFF).setWidth 8) with ⟨_ | _, bus'⟩
    · exact .threw (.write8 addr _) rfl (.data hnatural) rfl hcall
    · exact .returned (.write8 addr _) rfl (.data hnatural) rfl hcall
  · rcases hcall : Bus.write16 bus addr ((data &&& 0xFFFF).setWidth 16) with ⟨_ | _, bus'⟩
    · exact .threw (.write16 addr _) rfl (.data hnatural) rfl hcall
    · exact .returned (.write16 addr _) rfl (.data hnatural) rfl hcall
  · rcases hcall : Bus.write32 bus addr data with ⟨_ | _, bus'⟩
    · exact .threw (.write32 addr _) rfl (.data hnatural) rfl hcall
    · exact .returned (.write32 addr _) rfl (.data hnatural) rfl hcall

/-- **A load** reads once, or finds the address misaligned. -/
theorem load_accessed (bus : β) (addr : Word) {size : Nat} (hsize : IsSize size)
    (allowMisaligned : Bool) :
    Accessed false false allowMisaligned (faultOf (load bus addr size allowMisaligned).1) bus
      (load bus addr size allowMisaligned).2 := by
  unfold load
  split
  · exact .silent rfl
  · rename_i haligned
    exact readBus_accessed bus hsize
      (natural_of_aligned hsize (Bool.eq_false_iff.mpr haligned))

theorem store_accessed (bus : β) (addr : Word) {size : Nat} (data : Word) (hsize : IsSize size)
    (allowMisaligned : Bool) :
    Accessed false false allowMisaligned (faultOf (store bus addr size data allowMisaligned).1) bus
      (store bus addr size data allowMisaligned).2 := by
  unfold store
  split
  · exact .silent rfl
  · rename_i haligned
    exact writeBus_accessed bus data hsize
      (natural_of_aligned hsize (Bool.eq_false_iff.mpr haligned))

end MemAccess

/-! ## The executors -/

namespace Rv32i.Executor

variable (ex : Executor)

/-- The statement about a result of the base executor. -/
def DataSpec (bus : β) (out : ExecResult × RegFile × β) : Prop :=
  Accessed false false ex.allowMisaligned (exceptionOf out.1.trap out.1.trapCause) bus out.2.2

theorem loadInto_accessed (bus : β) (addr : Word) {size : Nat} (hsize : MemAccess.IsSize size)
    {result : ExecResult} (regs : RegFile) (rd : BitVec 8) (f : Word → Word)
    (hr : result.trap = false) : DataSpec ex bus (ex.loadInto bus addr size result regs rd f) := by
  have hload := MemAccess.load_accessed bus addr hsize ex.allowMisaligned
  unfold loadInto doLoad DataSpec
  rcases h : MemAccess.load bus addr size ex.allowMisaligned with ⟨e | v, bus'⟩
  · rw [h] at hload
    exact hload
  · rw [h] at hload
    dsimp only
    rw [hr]
    exact hload

theorem doStore_accessed (bus : β) (addr : Word) {size : Nat} (data : Word)
    (hsize : MemAccess.IsSize size) {result : ExecResult} (regs : RegFile)
    (hr : result.trap = false) : DataSpec ex bus ((ex.doStore bus addr size data result).1, regs,
      (ex.doStore bus addr size data result).2) := by
  have hstore := MemAccess.store_accessed bus addr data hsize ex.allowMisaligned
  unfold doStore DataSpec
  rcases h : MemAccess.store bus addr size data ex.allowMisaligned with ⟨e | v, bus'⟩
  · rw [h] at hstore
    exact hstore
  · rw [h] at hstore
    dsimp only
    rw [hr]
    exact hstore

theorem execute_accessed (d : DecodedInstr) (regs : RegFile) (bus : β) (pc : Word) :
    DataSpec ex bus (ex.execute d regs bus pc) := by
  unfold execute
  cases htype : d.type <;> dsimp only
  case lb | lbu => exact ex.loadInto_accessed bus _ (.inl rfl) regs _ _ rfl
  case lh | lhu => exact ex.loadInto_accessed bus _ (.inr (.inl rfl)) regs _ _ rfl
  case lw => exact ex.loadInto_accessed bus _ (.inr (.inr rfl)) regs _ _ rfl
  case sb => exact ex.doStore_accessed bus _ _ (.inl rfl) regs rfl
  case sh => exact ex.doStore_accessed bus _ _ (.inr (.inl rfl)) regs rfl
  case sw => exact ex.doStore_accessed bus _ _ (.inr (.inr rfl)) regs rfl
  case jal | jalr => split <;> exact .silent rfl
  case beq | bne | blt | bge | bltu | bgeu =>
    unfold takeBranch
    split
    · split <;> exact .silent rfl
    · exact .silent rfl
  case ecall => cases ex.priv <;> exact .silent rfl
  all_goals exact .silent rfl

end Rv32i.Executor

namespace Rv32c.Executor

variable (ex : Executor)

/-- The statement about a result of a compressed executor. -/
def DataSpec (bus : β) (out : ExecResult × RegFile × β) : Prop :=
  Accessed false false ex.allowMisaligned (exceptionOf out.1.trap out.1.trapCause) bus out.2.2

theorem doLoad32_accessed (bus : β) (addr : Word) {result : ExecResult} (regs : RegFile)
    (rd : BitVec 8) (hr : result.trap = false) :
    DataSpec ex bus (ex.doLoad32 bus addr result regs rd) := by
  have hload := MemAccess.load_accessed bus addr (.inr (.inr rfl)) ex.allowMisaligned
  unfold doLoad32 DataSpec
  rcases h : MemAccess.load bus addr 4 ex.allowMisaligned with ⟨e | v, bus'⟩
  · rw [h] at hload
    exact hload
  · rw [h] at hload
    dsimp only
    rw [hr]
    exact hload

theorem doStore32_accessed (bus : β) (addr data : Word) {result : ExecResult} (regs : RegFile)
    (hr : result.trap = false) : DataSpec ex bus (ex.doStore32 bus addr data result regs) := by
  have hstore := MemAccess.store_accessed bus addr data (.inr (.inr rfl)) ex.allowMisaligned
  unfold doStore32 DataSpec
  rcases h : MemAccess.store bus addr 4 data ex.allowMisaligned with ⟨e | v, bus'⟩
  · rw [h] at hstore
    exact hstore
  · rw [h] at hstore
    dsimp only
    rw [hr]
    exact hstore

theorem execute_accessed (d : DecodedInstr) (regs : RegFile) (bus : β) (pc : Word) :
    DataSpec ex bus (ex.execute d regs bus pc) := by
  unfold execute
  cases htype : d.type <;> dsimp only
  case cLw | cLwsp => exact ex.doLoad32_accessed bus _ regs _ rfl
  case cSw | cSwsp => exact ex.doStore32_accessed bus _ _ regs rfl
  case cBeqz | cBnez => split <;> exact .silent rfl
  all_goals exact .silent rfl

end Rv32c.Executor

namespace Rv32fc.Executor

variable (ex : Executor)

def DataSpec (bus : β) (out : ExecResult × Rv32f.FRegFile × β) : Prop :=
  Accessed false false ex.allowMisaligned (exceptionOf (!out.1.valid) out.1.trapCause) bus out.2.2

theorem doLoad32_accessed (bus : β) (addr : Word) (fregs : Rv32f.FRegFile) (rd : BitVec 8) :
    DataSpec ex bus (ex.doLoad32 bus addr fregs rd) := by
  have hload := MemAccess.load_accessed bus addr (.inr (.inr rfl)) ex.allowMisaligned
  unfold doLoad32 DataSpec
  rcases h : MemAccess.load bus addr 4 ex.allowMisaligned with ⟨e | v, bus'⟩ <;>
    (rw [h] at hload; exact hload)

theorem doStore32_accessed (bus : β) (addr data : Word) (fregs : Rv32f.FRegFile) :
    DataSpec ex bus (ex.doStore32 bus addr data fregs) := by
  have hstore := MemAccess.store_accessed bus addr data (.inr (.inr rfl)) ex.allowMisaligned
  unfold doStore32 DataSpec
  rcases h : MemAccess.store bus addr 4 data ex.allowMisaligned with ⟨e | v, bus'⟩ <;>
    (rw [h] at hstore; exact hstore)

theorem execute_accessed (d : DecodedInstr) (iregs : RegFile) (fregs : Rv32f.FRegFile) (bus : β) :
    DataSpec ex bus (ex.execute d iregs fregs bus) := by
  unfold execute
  cases htype : d.type <;> dsimp only
  case cFlw | cFlwsp => exact ex.doLoad32_accessed bus _ fregs _
  case cFsw | cFswsp => exact ex.doStore32_accessed bus _ _ fregs
  case illegal => exact .silent rfl

end Rv32fc.Executor

namespace Rv32f.Executor

variable (ex : Executor)

def DataSpec (s : FState β) (out : ExecResult × FState β) : Prop :=
  Accessed false false ex.allowMisaligned (exceptionOf (!out.1.valid) out.1.trapCause) s.bus out.2.bus

theorem executeFlw_accessed (d : DecodedInstr) (s : FState β) :
    DataSpec ex s (ex.executeFlw d s) := by
  have hload := MemAccess.load_accessed s.bus (s.iregs.read d.rs1 + d.imm) (.inr (.inr rfl))
    ex.allowMisaligned
  unfold executeFlw DataSpec
  rcases h : MemAccess.load s.bus (s.iregs.read d.rs1 + d.imm) 4 ex.allowMisaligned with
    ⟨e | v, bus'⟩ <;> (rw [h] at hload; exact hload)

theorem executeFsw_accessed (d : DecodedInstr) (s : FState β) :
    DataSpec ex s (ex.executeFsw d s) := by
  have hstore := MemAccess.store_accessed s.bus (s.iregs.read d.rs1 + d.imm)
    (s.fregs.readBits d.rs2) (.inr (.inr rfl)) ex.allowMisaligned
  unfold executeFsw DataSpec
  rcases h : MemAccess.store s.bus (s.iregs.read d.rs1 + d.imm) 4 (s.fregs.readBits d.rs2)
      ex.allowMisaligned with ⟨e | v, bus'⟩ <;> (rw [h] at hstore; exact hstore)

variable [HostFloat]

theorem execute_accessed (d : DecodedInstr) (s : FState β) (fcsr : FCSR) :
    DataSpec ex s ((ex.execute d s fcsr).1, (ex.execute d s fcsr).2.1) := by
  unfold execute
  split
  · exact .silent rfl
  dsimp only
  split
  · exact .silent rfl
  unfold executeOp
  cases htype : d.type <;> dsimp only
  case flw => exact ex.executeFlw_accessed d s
  case fsw => exact ex.executeFsw_accessed d s
  all_goals exact .silent rfl

end Rv32f.Executor

/-! ## The A extension -/

namespace Rv32a

theorem natural_of_low {addr : Word} (h : addr &&& 0x3 = 0) : addr.toNat % 4 = 0 := by
  have hlow := congrArg BitVec.toNat h
  rw [BitVec.toNat_and] at hlow
  have hmask : addr.toNat &&& 3 = addr.toNat % 4 := Nat.and_two_pow_sub_one_eq_mod _ 2
  exact hmask.symm.trans hlow

variable (d : DecodedInstr) (regs : RegFile) (bus : β) (reservation : ReservationSet)

/-- The statement about a result of the A executor. -/
def DataSpec (allow : Bool) (out : ExecResult × RegFile × β × ReservationSet) : Prop :=
  Accessed (isAmo d.type) true allow (exceptionOf (!out.1.valid) out.1.trapCause) bus out.2.2.1

variable {d} {allow : Bool}

theorem executeLr_accessed (hd : d.type = .lrW) {addr : Word} (halign : addr.toNat % 4 = 0) :
    DataSpec d bus allow (executeLr d regs bus reservation addr) := by
  have hamo : isAmo d.type = false := by simp [hd, isAmo, amoOp]
  unfold executeLr DataSpec
  rw [hamo]
  rcases hcall : Bus.read32 bus addr with ⟨_ | v, bus'⟩
  · simp only [accessFault, hd, if_true]
    exact .threw (.read32 addr) rfl (.word rfl halign) rfl hcall
  · exact .returned (.read32 addr) rfl (.word rfl halign) rfl hcall

theorem executeSc_accessed (hd : d.type = .scW) {addr : Word} (halign : addr.toNat % 4 = 0)
    (rs2Val : Word) : DataSpec d bus allow (executeSc d regs bus reservation addr rs2Val) := by
  unfold executeSc DataSpec
  split
  · rcases hcall : Bus.write32 bus addr rs2Val with ⟨_ | v, bus'⟩
    · simp only [accessFault, hd, reduceCtorEq, if_false]
      exact .threw (.write32 addr rs2Val) rfl (.word rfl halign) rfl hcall
    · exact .returned (.write32 addr rs2Val) rfl (.word rfl halign) rfl hcall
  · exact .silent rfl

/-- The read of an AMO that threw is reported as a store. -/
theorem executeAmo_accessed {op : Word → Word → Word} (hd : amoOp d.type = some op) {addr : Word}
    (halign : addr.toNat % 4 = 0) (rs2Val : Word) :
    DataSpec d bus allow (executeAmo op d regs bus reservation addr rs2Val) := by
  have hamo : isAmo d.type = true := by simp [isAmo, hd]
  -- an AMO reports a read that threw as a store, unlike LR
  have hlr : d.type ≠ .lrW := by
    intro h
    simp [h, amoOp] at hd
  unfold executeAmo DataSpec
  rw [hamo]
  rcases hread : Bus.read32 bus addr with ⟨_ | oldVal, bus₁⟩
  · simp only [accessFault, hlr, if_false]
    exact .threw (.read32 addr) rfl (.word rfl halign) rfl hread
  have hfirst := Calls.of_call (.read32 addr) rfl hread
  dsimp only
  rcases hwrite : Bus.write32 bus₁ addr (op oldVal rs2Val) with ⟨_ | _, bus₂⟩
  · have hsecond := Calls.of_call (.write32 addr (op oldVal rs2Val)) rfl hwrite
    simp only [accessFault, hlr, if_false]
    exact ⟨_, hfirst.append hsecond, .amo addr _ false rfl halign⟩
  · have hsecond := Calls.of_call (.write32 addr (op oldVal rs2Val)) rfl hwrite
    exact ⟨_, hfirst.append hsecond, .amo addr _ true rfl halign⟩

variable (d)

theorem execute_accessed : DataSpec d bus allow (execute d regs bus reservation) := by
  unfold execute
  split
  · exact .silent rfl
  dsimp only
  split
  · unfold DataSpec
    dsimp only
    split <;> exact .silent rfl
  rename_i hlow
  have halign := natural_of_low (Classical.not_not.mp hlow)
  split
  · rename_i hlr
    exact executeLr_accessed regs bus reservation hlr halign
  split
  · rename_i hsc
    exact executeSc_accessed regs bus reservation hsc halign _
  split
  · rename_i hop
    exact executeAmo_accessed regs bus reservation hop halign _
  · exact .silent rfl

end Rv32a

end

end Riscv

import Riscv.BusCalls
import Riscv.Rv32a
import Riscv.Rv32c
import Riscv.Rv32fc

/- What the executors that use the bus leave behind.

   Each executor is summed up by one statement: when it reports a trap, the
   registers it was given are the registers it returns and the calls it made were
   reads or the failed access the trap reports; when it reports none, every call
   returned. -/
namespace Riscv

variable {β : Type} [Bus β]

/-! ## Data accesses -/

/-- What a data access leaves: a clean bus, or a fault that the calls account for. -/
def AccessSpec {α : Type} (bus : β) : Except MemFault α × β → Prop
  | (.ok _, bus') => Clean bus bus'
  | (.error e, bus') => Faulted false e.cause e.tval bus bus'

namespace MemAccess

theorem readBus_spec (bus : β) (addr : Word) (size : Nat) :
    AccessSpec bus (readBus bus addr size) := by
  unfold readBus
  split
  · rcases hcall : Bus.read8 bus addr with ⟨_ | _, bus'⟩
    · exact Faulted.of_call false (.read8 addr) rfl rfl hcall
    · exact Clean.of_call (.read8 addr) rfl rfl hcall
  · rcases hcall : Bus.read16 bus addr with ⟨_ | _, bus'⟩
    · exact Faulted.of_call false (.read16 addr) rfl rfl hcall
    · exact Clean.of_call (.read16 addr) rfl rfl hcall
  · rcases hcall : Bus.read32 bus addr with ⟨_ | _, bus'⟩
    · exact Faulted.of_call false (.read32 addr) rfl rfl hcall
    · exact Clean.of_call (.read32 addr) rfl rfl hcall

theorem writeBus_spec (bus : β) (addr : Word) (size : Nat) (data : Word) :
    AccessSpec bus (writeBus bus addr size data) := by
  have hword : AccessSpec bus (writeBus bus addr 4 data) := by
    unfold writeBus
    dsimp only
    rcases hcall : Bus.write32 bus addr data with ⟨_ | _, bus'⟩
    · exact Faulted.of_call false (.write32 addr _) rfl rfl hcall
    · exact Clean.of_call (.write32 addr _) rfl rfl hcall
  rcases size with _ | _ | _ | size
  · exact hword
  · unfold writeBus
    dsimp only
    rcases hcall : Bus.write8 bus addr ((data &&& 0xFF).setWidth 8) with ⟨_ | _, bus'⟩
    · exact Faulted.of_call false (.write8 addr _) rfl rfl hcall
    · exact Clean.of_call (.write8 addr _) rfl rfl hcall
  · unfold writeBus
    dsimp only
    rcases hcall : Bus.write16 bus addr ((data &&& 0xFFFF).setWidth 16) with ⟨_ | _, bus'⟩
    · exact Faulted.of_call false (.write16 addr _) rfl rfl hcall
    · exact Clean.of_call (.write16 addr _) rfl rfl hcall
  · exact hword

theorem load_spec (bus : β) (addr : Word) (size : Nat) (allowMisaligned : Bool) :
    AccessSpec bus (load bus addr size allowMisaligned) := by
  unfold load
  split
  · exact Faulted.refl _ _ _ (.of_eval rfl)
  · exact readBus_spec bus addr size

theorem store_spec (bus : β) (addr : Word) (size : Nat) (data : Word) (allowMisaligned : Bool) :
    AccessSpec bus (store bus addr size data allowMisaligned) := by
  unfold store
  split
  · exact Faulted.refl _ _ _ (.of_eval rfl)
  · exact writeBus_spec bus addr size data

end MemAccess

/-! ## One statement for every executor -/

/-- What an executor leaves. `kept` says that it changed none of its registers. -/
structure ExecSpec (amo trap : Bool) (cause tval : Word) (kept : Prop) (bus bus' : β) : Prop where
  trapped : trap = true → kept ∧ Faulted amo cause tval bus bus'
  completed : trap = false → Clean bus bus'

namespace ExecSpec

variable {amo : Bool} {cause tval : Word} {kept : Prop} {bus bus' : β}

theorem done (h : Clean bus bus') : ExecSpec amo false cause tval kept bus bus' where
  trapped := by simp
  completed := fun _ => h

theorem raised (hk : kept) (h : Faulted amo cause tval bus bus') :
    ExecSpec amo true cause tval kept bus bus' where
  trapped := fun _ => ⟨hk, h⟩
  completed := by simp

end ExecSpec

/-! ## RV32I -/

namespace Rv32i.Executor

/-- The statement about a result of the base executor. -/
def Spec (regs : RegFile) (bus : β) (out : ExecResult × RegFile × β) : Prop :=
  ExecSpec false out.1.trap out.1.trapCause out.1.trapValue (out.2.1 = regs) bus out.2.2

variable (ex : Executor)

theorem loadInto_spec (bus : β) (addr : Word) (size : Nat) {result : ExecResult} (regs : RegFile)
    (rd : BitVec 8) (f : Word → Word) (hr : result.trap = false) :
    Spec regs bus (ex.loadInto bus addr size result regs rd f) := by
  have hload := MemAccess.load_spec bus addr size ex.allowMisaligned
  unfold loadInto doLoad
  rcases h : MemAccess.load bus addr size ex.allowMisaligned with ⟨e | v, bus'⟩
  · rw [h] at hload
    exact .raised rfl hload
  · rw [h] at hload
    unfold Spec
    rw [hr]
    exact .done hload

theorem doStore_spec (bus : β) (addr : Word) (size : Nat) (data : Word) {result : ExecResult}
    (regs : RegFile) (hr : result.trap = false) :
    Spec regs bus ((ex.doStore bus addr size data result).1, regs,
      (ex.doStore bus addr size data result).2) := by
  have hstore := MemAccess.store_spec bus addr size data ex.allowMisaligned
  unfold doStore
  rcases h : MemAccess.store bus addr size data ex.allowMisaligned with ⟨e | v, bus'⟩
  · rw [h] at hstore
    exact .raised rfl hstore
  · rw [h] at hstore
    unfold Spec
    rw [hr]
    exact .done hstore

/-- A jump: the link register is written only when the target is aligned. -/
theorem jump_spec (bus : β) (target : Word) {result : ExecResult} (regs regs' : RegFile)
    (hr : result.trap = false) :
    Spec regs bus
      (if ex.targetMisaligned target then (setFetchMisaligned result target, regs, bus)
        else ({ result with nextPc := target, branchTaken := true }, regs', bus)) := by
  split
  · exact .raised rfl (.refl _ _ _ (.of_eval rfl))
  · unfold Spec
    rw [hr]
    exact .done (.refl bus)

theorem branch_spec (bus : β) (taken : Prop) [Decidable taken] (target : Word)
    {result : ExecResult} (regs : RegFile) (hr : result.trap = false) :
    Spec regs bus (if taken then ex.takeBranch result target else result, regs, bus) := by
  unfold takeBranch
  split
  · split
    · exact .raised rfl (.refl _ _ _ (.of_eval rfl))
    · unfold Spec
      rw [hr]
      exact .done (.refl bus)
  · unfold Spec
    rw [hr]
    exact .done (.refl bus)

theorem execute_spec (d : DecodedInstr) (regs : RegFile) (bus : β) (pc : Word) :
    Spec regs bus (ex.execute d regs bus pc) := by
  unfold execute
  cases htype : d.type <;> dsimp only
  case jal | jalr => exact ex.jump_spec bus _ regs _ rfl
  case beq | bne | blt | bge | bltu | bgeu => exact ex.branch_spec bus _ _ regs rfl
  case lb | lh | lw | lbu | lhu => exact ex.loadInto_spec bus _ _ regs _ _ rfl
  case sb | sh | sw => exact ex.doStore_spec bus _ _ _ regs rfl
  case ecall =>
    refine .raised rfl (.refl _ _ _ ?_)
    cases ex.priv <;> exact .of_eval rfl
  case ebreak | illegal => exact .raised rfl (.refl _ _ _ (.of_eval rfl))
  all_goals exact .done (.refl bus)

end Rv32i.Executor

/-! ## The compressed executors -/

namespace Rv32c.Executor

/-- The statement about a result of the compressed executor. -/
def Spec (regs : RegFile) (bus : β) (out : ExecResult × RegFile × β) : Prop :=
  ExecSpec false out.1.trap out.1.trapCause out.1.trapValue (out.2.1 = regs) bus out.2.2

variable (ex : Executor)

theorem doLoad32_spec (bus : β) (addr : Word) {result : ExecResult} (regs : RegFile)
    (rd : BitVec 8) (hr : result.trap = false) :
    Spec regs bus (ex.doLoad32 bus addr result regs rd) := by
  have hload := MemAccess.load_spec bus addr 4 ex.allowMisaligned
  unfold doLoad32
  rcases h : MemAccess.load bus addr 4 ex.allowMisaligned with ⟨e | v, bus'⟩
  · rw [h] at hload
    exact .raised rfl hload
  · rw [h] at hload
    unfold Spec
    rw [hr]
    exact .done hload

theorem doStore32_spec (bus : β) (addr data : Word) {result : ExecResult} (regs : RegFile)
    (hr : result.trap = false) :
    Spec regs bus (ex.doStore32 bus addr data result regs) := by
  have hstore := MemAccess.store_spec bus addr 4 data ex.allowMisaligned
  unfold doStore32
  rcases h : MemAccess.store bus addr 4 data ex.allowMisaligned with ⟨e | v, bus'⟩
  · rw [h] at hstore
    exact .raised rfl hstore
  · rw [h] at hstore
    unfold Spec
    rw [hr]
    exact .done hstore

theorem execute_spec (d : DecodedInstr) (regs : RegFile) (bus : β) (pc : Word) :
    Spec regs bus (ex.execute d regs bus pc) := by
  unfold execute
  cases htype : d.type <;> dsimp only
  case cLw | cLwsp => exact ex.doLoad32_spec bus _ regs _ rfl
  case cSw | cSwsp => exact ex.doStore32_spec bus _ _ regs rfl
  case cEbreak | illegal => exact .raised rfl (.refl _ _ _ (.of_eval rfl))
  case cBeqz | cBnez =>
    unfold Spec
    split <;> exact .done (.refl bus)
  all_goals exact .done (.refl bus)

end Rv32c.Executor

namespace Rv32fc.Executor

/-- The statement about a result of the Zcf executor, on float registers. -/
def Spec (fregs : Rv32f.FRegFile) (bus : β) (out : ExecResult × Rv32f.FRegFile × β) : Prop :=
  ExecSpec false (!out.1.valid) out.1.trapCause out.1.trapValue (out.2.1 = fregs) bus out.2.2

variable (ex : Executor)

theorem doLoad32_spec (bus : β) (addr : Word) (fregs : Rv32f.FRegFile) (rd : BitVec 8) :
    Spec fregs bus (ex.doLoad32 bus addr fregs rd) := by
  have hload := MemAccess.load_spec bus addr 4 ex.allowMisaligned
  unfold doLoad32
  rcases h : MemAccess.load bus addr 4 ex.allowMisaligned with ⟨e | v, bus'⟩
  · rw [h] at hload
    exact .raised rfl hload
  · rw [h] at hload
    exact .done hload

theorem doStore32_spec (bus : β) (addr data : Word) (fregs : Rv32f.FRegFile) :
    Spec fregs bus (ex.doStore32 bus addr data fregs) := by
  have hstore := MemAccess.store_spec bus addr 4 data ex.allowMisaligned
  unfold doStore32
  rcases h : MemAccess.store bus addr 4 data ex.allowMisaligned with ⟨e | v, bus'⟩
  · rw [h] at hstore
    exact .raised rfl hstore
  · rw [h] at hstore
    exact .done hstore

theorem execute_spec (d : DecodedInstr) (iregs : RegFile) (fregs : Rv32f.FRegFile) (bus : β) :
    Spec fregs bus (ex.execute d iregs fregs bus) := by
  unfold execute
  cases htype : d.type <;> dsimp only
  case cFlw | cFlwsp => exact ex.doLoad32_spec bus _ fregs _
  case cFsw | cFswsp => exact ex.doStore32_spec bus _ _ fregs
  case illegal => exact .raised rfl (.refl _ _ _ (.of_eval rfl))

end Rv32fc.Executor

/-! ## RV32F -/

namespace Rv32f

namespace Executor

/-- A trapping F instruction keeps both register files and raised no flag. -/
def Spec (s : FState β) (out : ExecResult × FState β) : Prop :=
  ExecSpec false (!out.1.valid) out.1.trapCause out.1.trapValue
    (out.2.iregs = s.iregs ∧ out.2.fregs = s.fregs ∧ out.1.flags = {}) s.bus out.2.bus

variable (ex : Executor)

theorem executeFlw_spec (d : DecodedInstr) (s : FState β) : Spec s (ex.executeFlw d s) := by
  have hload := MemAccess.load_spec s.bus (s.iregs.read d.rs1 + d.imm) 4 ex.allowMisaligned
  unfold executeFlw
  rcases h : MemAccess.load s.bus (s.iregs.read d.rs1 + d.imm) 4 ex.allowMisaligned with
    ⟨e | v, bus'⟩
  · rw [h] at hload
    exact .raised ⟨rfl, rfl, rfl⟩ hload
  · rw [h] at hload
    exact .done hload

theorem executeFsw_spec (d : DecodedInstr) (s : FState β) : Spec s (ex.executeFsw d s) := by
  have hstore := MemAccess.store_spec s.bus (s.iregs.read d.rs1 + d.imm) 4
    (s.fregs.readBits d.rs2) ex.allowMisaligned
  unfold executeFsw
  rcases h : MemAccess.store s.bus (s.iregs.read d.rs1 + d.imm) 4 (s.fregs.readBits d.rs2)
      ex.allowMisaligned with ⟨e | v, bus'⟩
  · rw [h] at hstore
    exact .raised ⟨rfl, rfl, rfl⟩ hstore
  · rw [h] at hstore
    exact .done hstore

variable [HostFloat]

theorem executeOp_spec (d : DecodedInstr) (rm : RoundingMode) (s : FState β) :
    Spec s (ex.executeOp d rm s) := by
  unfold executeOp
  cases htype : d.type <;> dsimp only
  case flw => exact ex.executeFlw_spec d s
  case fsw => exact ex.executeFsw_spec d s
  case illegal => exact .raised ⟨rfl, rfl, rfl⟩ (.refl _ _ _ (.of_eval rfl))
  all_goals exact .done (.refl s.bus)

/-- The whole instruction: on a trap fcsr is kept too. -/
theorem execute_spec (d : DecodedInstr) (s : FState β) (fcsr : FCSR) :
    ExecSpec false (!(ex.execute d s fcsr).1.valid) (ex.execute d s fcsr).1.trapCause
      (ex.execute d s fcsr).1.trapValue
      ((ex.execute d s fcsr).2.1.iregs = s.iregs ∧ (ex.execute d s fcsr).2.1.fregs = s.fregs ∧
        (ex.execute d s fcsr).2.2 = fcsr) s.bus (ex.execute d s fcsr).2.1.bus := by
  unfold execute
  split
  · exact .raised ⟨rfl, rfl, rfl⟩ (.refl _ _ _ (.of_eval rfl))
  dsimp only
  split
  · exact .raised ⟨rfl, rfl, rfl⟩ (.refl _ _ _ (.of_eval rfl))
  have hop := ex.executeOp_spec d (fcsr.effectiveRm d.roundingMode) s
  refine ⟨fun htrap => ?_, hop.completed⟩
  obtain ⟨⟨hi, hf, hflags⟩, hbus⟩ := hop.trapped htrap
  refine ⟨⟨hi, hf, ?_⟩, hbus⟩
  dsimp only
  rw [hflags, FFlags.merge_empty]

end Executor

end Rv32f

/-! ## RV32A -/

namespace Rv32a

/-- Whether an instruction of the A space reads memory on behalf of a store. -/
def isAmo (type : InstrType) : Bool := (amoOp type).isSome

/-- The statement about a result of the atomic executor, with the reservation. -/
def Spec (d : DecodedInstr) (regs : RegFile) (bus : β) (reservation : ReservationSet)
    (out : ExecResult × RegFile × β × ReservationSet) : Prop :=
  ExecSpec (isAmo d.type) (!out.1.valid) out.1.trapCause out.1.trapValue
    (out.2.1 = regs ∧ out.2.2.2 = reservation) bus out.2.2.1

theorem executeLr_spec {d : DecodedInstr} (hd : d.type = .lrW) (regs : RegFile) (bus : β)
    (reservation : ReservationSet) (addr : Word) :
    Spec d regs bus reservation (executeLr d regs bus reservation addr) := by
  unfold executeLr
  rcases hcall : Bus.read32 bus addr with ⟨_ | _, bus'⟩
  · have hfault := Faulted.of_call (isAmo d.type) (.read32 addr) rfl rfl hcall
    refine .raised ⟨rfl, rfl⟩ ?_
    simpa [accessFault, hd, isAmo, amoOp, accessFaultCause, BusOp.isWrite, BusOp.addr] using hfault
  · exact .done (Clean.of_call (.read32 addr) rfl rfl hcall)

theorem executeSc_spec {d : DecodedInstr} (hd : d.type = .scW) (regs : RegFile) (bus : β)
    (reservation : ReservationSet) (addr rs2Val : Word) :
    Spec d regs bus reservation (executeSc d regs bus reservation addr rs2Val) := by
  unfold executeSc
  split
  · rcases hcall : Bus.write32 bus addr rs2Val with ⟨_ | _, bus'⟩
    · have hfault := Faulted.of_call (isAmo d.type) (.write32 addr rs2Val) rfl rfl hcall
      refine .raised ⟨rfl, rfl⟩ ?_
      simpa [accessFault, hd, isAmo, amoOp, accessFaultCause, BusOp.isWrite, BusOp.addr] using hfault
    · exact .done (Clean.of_call (.write32 addr rs2Val) rfl rfl hcall)
  · exact .done (.refl bus)

theorem executeAmo_spec {d : DecodedInstr} {op : Word → Word → Word}
    (hd : amoOp d.type = some op) (regs : RegFile) (bus : β) (reservation : ReservationSet)
    (addr rs2Val : Word) :
    Spec d regs bus reservation (executeAmo op d regs bus reservation addr rs2Val) := by
  have hamo : isAmo d.type = true := by simp [isAmo, hd]
  have hlr : d.type ≠ .lrW := by
    intro h
    simp [h, amoOp] at hd
  unfold executeAmo
  rcases hread : Bus.read32 bus addr with ⟨_ | oldVal, bus₁⟩
  · have hfault := Faulted.of_call (isAmo d.type) (.read32 addr) rfl rfl hread
    refine .raised ⟨rfl, rfl⟩ ?_
    simpa [accessFault, hlr, hamo, accessFaultCause, BusOp.isWrite, BusOp.addr]
      using hfault
  · dsimp only
    rcases hwrite : Bus.write32 bus₁ addr (op oldVal rs2Val) with ⟨_ | _, bus₂⟩
    · have hfault := Faulted.of_call (isAmo d.type) (.write32 addr _) rfl rfl hwrite
      have hstore : Faulted (isAmo d.type) (accessFault d addr).trapCause addr bus₁ bus₂ := by
        simpa [accessFault, hlr, hamo, accessFaultCause, BusOp.isWrite, BusOp.addr] using hfault
      have hload : Faulted (isAmo d.type) (accessFault d addr).trapCause addr bus bus₁ :=
        .of_read (.read32 addr) hstore.code rfl rfl rfl hread
      exact .raised ⟨rfl, rfl⟩ (hload.trans hstore)
    · exact .done ((Clean.of_call (.read32 addr) rfl rfl hread).trans
        (Clean.of_call (.write32 addr _) rfl rfl hwrite))

theorem execute_spec (d : DecodedInstr) (regs : RegFile) (bus : β)
    (reservation : ReservationSet) :
    Spec d regs bus reservation (execute d regs bus reservation) := by
  unfold execute
  split
  · exact .raised ⟨rfl, rfl⟩ (.refl _ _ _ (.of_eval rfl))
  dsimp only
  split
  · refine .raised ⟨rfl, rfl⟩ (.refl _ _ _ ?_)
    dsimp only
    split <;> decide
  split
  · rename_i hlr
    exact executeLr_spec hlr regs bus reservation _
  split
  · rename_i hsc
    exact executeSc_spec hsc regs bus reservation _ _
  split
  · rename_i hop
    exact executeAmo_spec hop regs bus reservation _ _
  · exact .raised ⟨rfl, rfl⟩ (.refl _ _ _ (.of_eval rfl))

end Rv32a

end Riscv

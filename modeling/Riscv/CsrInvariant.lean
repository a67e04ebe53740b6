import Riscv.Cpu
import Riscv.Lib.Warl

/- Legality of the CSR file.

   For a configuration every address is stored or not, and every stored register
   has bits software may change and bits that always read the same. `CsrLegal`
   says a CSR file is of that form. Both ways the CPU writes the file keep it:
   the architectural `write`, for an address that exists and may be written, and
   the raw `set`, for a value that is legal for its register; so do the CSR
   changes of trap entry, MRET, SRET, the counters and the interrupt lines. -/
namespace Riscv

open Zicsr Warl

/-! ## The registers of a configuration -/

/-- The registers every configuration stores. -/
def machineCsrs : List (BitVec 16) :=
  [CsrAddr.fcsr, CsrAddr.misa, CsrAddr.mvendorid, CsrAddr.marchid, CsrAddr.mimpid,
   CsrAddr.mhartid, CsrAddr.mconfigptr, CsrAddr.mstatush, CsrAddr.menvcfg, CsrAddr.menvcfgh,
   CsrAddr.mstatus, CsrAddr.mtvec, CsrAddr.mie, CsrAddr.mepc, CsrAddr.mcause, CsrAddr.mtval,
   CsrAddr.mscratch, CsrAddr.mip, CsrAddr.mcounteren, CsrAddr.mcycle, CsrAddr.mcycleh,
   CsrAddr.minstret, CsrAddr.minstreth]

/-- The registers stored with S-mode or U-mode. -/
def delegationCsrs : List (BitVec 16) := [CsrAddr.medeleg, CsrAddr.mideleg]

/-- The registers stored with S-mode. -/
def supervisorCsrs : List (BitVec 16) :=
  [CsrAddr.sstatus, CsrAddr.sie, CsrAddr.stvec, CsrAddr.scounteren, CsrAddr.sscratch,
   CsrAddr.sepc, CsrAddr.scause, CsrAddr.stval, CsrAddr.sip, CsrAddr.satp]

/-- Whether a CSR file of the configuration stores `a`. -/
def stored (config : CPUConfig) (a : BitVec 16) : Bool :=
  decide (a ∈ machineCsrs) ||
    ((config.enableSMode || config.enableUMode) && decide (a ∈ delegationCsrs)) ||
    (config.enableSMode && decide (a ∈ supervisorCsrs))

/-- The registers software cannot change: misa, and those that read as zero. -/
def constantCsrs : List (BitVec 16) :=
  [CsrAddr.misa, CsrAddr.mstatush, CsrAddr.menvcfg, CsrAddr.menvcfgh, CsrAddr.mvendorid,
   CsrAddr.marchid, CsrAddr.mimpid, CsrAddr.mhartid, CsrAddr.mconfigptr]

/-- The legal bits of mstatus with the given modes. -/
def legalMaskWith (sMode uMode : Bool) : Word :=
  CSRFile.mstatusLegalMask
    { csrs := fun _ => none, sModeEnabled := sMode, uModeEnabled := uMode }

/-- The hardwired bits of mstatus with or without F. -/
def hardwiredWith (fExtension : Bool) : Word :=
  CSRFile.mstatusHardwired { csrs := fun _ => none, fExtension := fExtension }

/-- The writable bits of mstatus in a configuration. -/
def legalMaskOf (config : CPUConfig) : Word :=
  legalMaskWith config.enableSMode config.enableUMode

/-- The bits of mstatus that F hardwires. -/
def hardwiredOf (config : CPUConfig) : Word := hardwiredWith config.enableFExtension

/-- The bits of a register that may change. -/
def writableBits (config : CPUConfig) (a : BitVec 16) : Word :=
  if a = CsrAddr.mstatus then legalMaskOf config
  else if a = CsrAddr.mtvec ∨ a = CsrAddr.stvec then ~~~2
  else if a = CsrAddr.mepc ∨ a = CsrAddr.sepc then CPU.mepcMaskOf config
  else if a = CsrAddr.mie ∨ a = CsrAddr.mip ∨ a = CsrAddr.mideleg then CSRFile.miMask
  else if a = CsrAddr.medeleg then 0xF7FF
  else if a = CsrAddr.fcsr then 0xFF
  else if a ∈ constantCsrs then 0
  else BitVec.allOnes 32

/-- What the other bits of a register read as. -/
def fixedBits (config : CPUConfig) (a : BitVec 16) : Word :=
  if a = CsrAddr.mstatus then hardwiredOf config
  else if a = CsrAddr.misa then CPU.misaValue config
  else 0

/-- **The CSR invariant.** The file has the configuration's flags, stores the
configuration's registers, and every register is legal. -/
structure CsrLegal (config : CPUConfig) (f : CSRFile) : Prop where
  fExtension : f.fExtension = config.enableFExtension
  sModeEnabled : f.sModeEnabled = config.enableSMode
  uModeEnabled : f.uModeEnabled = config.enableUMode
  mepcMask : f.mepcMask = CPU.mepcMaskOf config
  stored : ∀ a, (f.csrs a).isSome = stored config a
  legal : ∀ a, Legal (writableBits config a) (fixedBits config a) (f.get a)

namespace CsrLegal

variable {config : CPUConfig} {f : CSRFile}

theorem legalMask (h : CsrLegal config f) : f.mstatusLegalMask = legalMaskOf config := by
  simp only [CSRFile.mstatusLegalMask, legalMaskOf, legalMaskWith, h.sModeEnabled,
    h.uModeEnabled]

theorem hardwired (h : CsrLegal config f) : f.mstatusHardwired = hardwiredOf config := by
  simp only [CSRFile.mstatusHardwired, hardwiredOf, hardwiredWith, h.fExtension]

/-! ## The raw write -/

theorem set {a : BitVec 16} {v : Word} (h : CsrLegal config f)
    (hs : Riscv.stored config a = true)
    (hv : Legal (writableBits config a) (fixedBits config a) v) : CsrLegal config (f.set a v) where
  fExtension := h.fExtension
  sModeEnabled := h.sModeEnabled
  uModeEnabled := h.uModeEnabled
  mepcMask := h.mepcMask
  stored := by
    intro b
    by_cases hb : b = a
    · subst hb
      simp [CSRFile.set, hs]
    · simpa [CSRFile.set, hb] using h.stored b
  legal := by
    intro b
    rw [CSRFile.get_set]
    split
    · rename_i hb
      subst hb
      exact hv
    · exact h.legal b

theorem setFree {a : BitVec 16} {v : Word} (h : CsrLegal config f)
    (hs : Riscv.stored config a = true) (hw : writableBits config a = BitVec.allOnes 32)
    (hf : fixedBits config a = 0) : CsrLegal config (f.set a v) := by
  apply h.set hs
  rw [hw, hf]
  simp [Legal]

theorem setPrivilege (h : CsrLegal config f) (p : PrivilegeLevel) :
    CsrLegal config (f.setPrivilege p) :=
  ⟨h.fExtension, h.sModeEnabled, h.uModeEnabled, h.mepcMask, h.stored, h.legal⟩

/-! ## Reading a legal file -/

theorem mstatus (h : CsrLegal config f) :
    Legal (legalMaskOf config) (hardwiredOf config) (f.get CsrAddr.mstatus) :=
  h.legal CsrAddr.mstatus

theorem mie (h : CsrLegal config f) : Legal CSRFile.miMask 0 (f.get CsrAddr.mie) :=
  h.legal CsrAddr.mie

theorem mip (h : CsrLegal config f) : Legal CSRFile.miMask 0 (f.get CsrAddr.mip) :=
  h.legal CsrAddr.mip

theorem mideleg (h : CsrLegal config f) : Legal CSRFile.miMask 0 (f.get CsrAddr.mideleg) :=
  h.legal CsrAddr.mideleg

theorem fcsr (h : CsrLegal config f) : Legal 0xFF 0 (f.get CsrAddr.fcsr) :=
  h.legal CsrAddr.fcsr

theorem stored_of_exists {a : BitVec 16} (h : CsrLegal config f) (hex : f.exists' a = true)
    (hflags : a ≠ CsrAddr.fflags) (hfrm : a ≠ CsrAddr.frm)
    (hcounter : CSRFile.isCounterCsr a = false) : Riscv.stored config a = true := by
  by_cases hfcsr : a = CsrAddr.fcsr
  · subst hfcsr
    rfl
  · simpa [CSRFile.exists', hflags, hfrm, hfcsr, hcounter, h.stored a] using hex

end CsrLegal

/-! ## What each WARL rule stores -/

theorem hardwired_disjoint (config : CPUConfig) :
    Within (hardwiredOf config) (~~~(legalMaskOf config)) := by
  have h : ∀ f s u, Within (hardwiredWith f) (~~~(legalMaskWith s u)) := by decide
  exact h _ _ _

theorem two_bits (w : Word) : w &&& 3 = 0 ∨ w &&& 3 = 1 ∨ w &&& 3 = 2 ∨ w &&& 3 = 3 := by
  have h : (w &&& 3).toNat < 4 := by
    rw [BitVec.toNat_and]
    exact Nat.and_lt_two_pow _ (by decide : (3 : Nat) < 2 ^ 2)
  generalize w &&& 3 = x at h
  bv_omega

theorem legalizeTvec_legal (v : Word) : Legal (~~~2) 0 (CSRFile.legalizeTvec v) := by
  have hbase : Legal (~~~2) 0 (v &&& ~~~3) := (legal_masked v).mono (by decide)
  unfold CSRFile.legalizeTvec
  apply hbase.of_agree
  apply agree_set
  rcases two_bits v with hm | hm | hm | hm <;> rw [hm] <;> decide

/-- The legalised MPP is one of the modes the file's flags allow. -/
theorem legalizeMpp_cases (f : CSRFile) (w : Word) :
    (f.legalizeMpp (w &&& 3) = 0 ∧ f.uModeEnabled = true) ∨
      (f.legalizeMpp (w &&& 3) = 1 ∧ f.sModeEnabled = true) ∨
      f.legalizeMpp (w &&& 3) = 3 := by
  unfold CSRFile.legalizeMpp
  rcases two_bits w with hm | hm | hm | hm <;> rw [hm] <;>
    cases f.uModeEnabled <;> cases f.sModeEnabled <;> decide

theorem legalizeMstatus_legal {config : CPUConfig} {f : CSRFile} (h : CsrLegal config f)
    (v : Word) : Legal (legalMaskOf config) (hardwiredOf config) (f.legalizeMstatus v) := by
  have hmpp : ∀ s u, Within CSRFile.mstatusMpp (legalMaskWith s u) := by decide
  have hmpp := hmpp config.enableSMode config.enableUMode
  unfold CSRFile.legalizeMstatus
  rw [h.legalMask, h.hardwired]
  -- the word before the hardwired bits go in lies inside the legal mask
  have hword : Legal (legalMaskOf config) 0
      (((v &&& legalMaskOf config) &&& ~~~CSRFile.mstatusMpp) |||
        (f.legalizeMpp (((v &&& legalMaskOf config) >>> 11) &&& 3) <<< 11)) := by
    apply (legal_masked v).of_agree
    refine (agree_set _ ?_).trans (agree_clear _ hmpp)
    refine Within.trans ?_ hmpp
    rcases legalizeMpp_cases f ((v &&& legalMaskOf config) >>> 11) with ⟨hm, -⟩ | ⟨hm, -⟩ | hm <;>
      rw [hm] <;> decide
  have hhard := legal_hardwire (m := legalMaskOf config)
    (((v &&& legalMaskOf config) &&& ~~~CSRFile.mstatusMpp) |||
        (f.legalizeMpp (((v &&& legalMaskOf config) >>> 11) &&& 3) <<< 11))
    (hardwired_disjoint config)
  rw [hword.and_eq] at hhard
  exact hhard

theorem legalizeSstatus_legal {config : CPUConfig} {f : CSRFile} (h : CsrLegal config f)
    (v : Word) : Legal (legalMaskOf config) (hardwiredOf config) (f.legalizeSstatus v) := by
  unfold CSRFile.legalizeSstatus
  rw [h.legalMask, h.hardwired]
  exact legal_hardwire _ (hardwired_disjoint config)

theorem legalizeSstatus_agree {config : CPUConfig} {f : CSRFile} (h : CsrLegal config f)
    (v : Word) :
    Agree CSRFile.sstatusWriteMask (f.legalizeSstatus v) (f.get CsrAddr.mstatus) := by
  have hsd : ∀ s u, Within CSRFile.mstatusSd (~~~(legalMaskWith s u)) := by decide
  unfold CSRFile.legalizeSstatus
  rw [h.legalMask, h.hardwired]
  exact h.mstatus.agree_view v (hsd config.enableSMode config.enableUMode)

/-! ## The architectural write -/

/-- The register a write of `a` goes to: the aliases go to the register they are
views of. -/
def backing (a : BitVec 16) : BitVec 16 :=
  if a = CsrAddr.fflags ∨ a = CsrAddr.frm then CsrAddr.fcsr
  else if a = CsrAddr.sstatus then CsrAddr.mstatus
  else if a = CsrAddr.sie then CsrAddr.mie
  else if a = CsrAddr.sip then CsrAddr.mip
  else a

/-- `g` is `f` with at most the register behind `a` changed. -/
def Written (f : CSRFile) (a : BitVec 16) (g : CSRFile) : Prop :=
  g = f ∨ ∃ w, g = f.set (backing a) w

/-- **A write changes one register**, or none. -/
theorem write_backing (f : CSRFile) (a : BitVec 16) (v : Word) : Written f a (f.write a v) := by
  unfold CSRFile.write
  dsimp only
  repeat' refine iteInduction (motive := Written f a) (fun _ => ?_) fun _ => ?_
  all_goals first
    | exact .inl rfl
    | (subst a; exact .inr ⟨_, rfl⟩)
    | exact .inr ⟨v, by simp [backing, *]⟩

theorem set_csrs_ne (f : CSRFile) {a b : BitVec 16} (v : Word) (h : b ≠ a) :
    (f.set a v).csrs b = f.csrs b := by
  simp [CSRFile.set, h]

theorem write_csrs_ne (f : CSRFile) {a b : BitVec 16} (v : Word) (h : b ≠ backing a) :
    (f.write a v).csrs b = f.csrs b := by
  rcases write_backing f a v with hw | ⟨w, hw⟩ <;> rw [hw]
  exact set_csrs_ne f w h

/-- The views of a register: the other addresses a write of which goes to it. -/
def viewsOf (r : BitVec 16) : List (BitVec 16) :=
  if r = CsrAddr.fcsr then [CsrAddr.fflags, CsrAddr.frm]
  else if r = CsrAddr.mstatus then [CsrAddr.sstatus]
  else if r = CsrAddr.mie then [CsrAddr.sie]
  else if r = CsrAddr.mip then [CsrAddr.sip]
  else []

theorem mem_viewsOf_backing (a : BitVec 16) : a ∈ backing a :: viewsOf (backing a) := by
  unfold backing
  split
  · rename_i ha
    rcases ha with rfl | rfl <;> decide
  split
  · rename_i ha
    rw [ha]
    decide
  split
  · rename_i ha
    rw [ha]
    decide
  split
  · rename_i ha
    rw [ha]
    decide
  · exact .head _

/-- A write under a name that is neither the register's nor a view's leaves it alone. -/
theorem write_csrs_kept (f : CSRFile) {a r : BitVec 16} (v : Word) (h : a ∉ r :: viewsOf r) :
    (f.write a v).csrs r = f.csrs r := by
  refine write_csrs_ne f v fun hr => h ?_
  rw [hr]
  exact mem_viewsOf_backing a

theorem write_get_kept (f : CSRFile) {a r : BitVec 16} (v : Word) (h : a ∉ r :: viewsOf r) :
    (f.write a v).get r = f.get r := by
  unfold CSRFile.get
  rw [write_csrs_kept f v h]

theorem write_get_of_view (f : CSRFile) {a r view : BitVec 16} (v : Word) (hown : a ≠ r)
    (hview : a ≠ view) (hviews : viewsOf r = [view]) : (f.write a v).get r = f.get r := by
  refine write_get_kept f v ?_
  rw [hviews]
  simp only [List.mem_cons, List.not_mem_nil, or_false, not_or]
  exact ⟨hown, hview⟩

theorem write_currentPrivilege (f : CSRFile) (a : BitVec 16) (v : Word) :
    (f.write a v).currentPrivilege = f.currentPrivilege := by
  rcases write_backing f a v with h | ⟨w, h⟩ <;> rw [h]
  rfl

theorem not_canWrite {f : CSRFile} {a : BitVec 16}
    (h : (CSRPermissions.fromAddress a).writable = false) : f.canWrite a = false := by
  simp [CSRFile.canWrite, h]

theorem counter_readOnly {a : BitVec 16} (h : CSRFile.isCounterCsr a = true) :
    (CSRPermissions.fromAddress a).writable = false := by
  simp only [CSRFile.isCounterCsr, Bool.or_eq_true, decide_eq_true_eq] at h
  rcases h with ((((h | h) | h) | h) | h) | h <;> subst h <;> rfl

theorem writable_of_canWrite {f : CSRFile} {a : BitVec 16} (hw : f.canWrite a = true) :
    (CSRPermissions.fromAddress a).writable = true := by
  cases h : (CSRPermissions.fromAddress a).writable with
  | true => rfl
  | false =>
    rw [not_canWrite h] at hw
    cases hw

theorem counter_of_writable {a : BitVec 16}
    (hw : (CSRPermissions.fromAddress a).writable = true) : CSRFile.isCounterCsr a = false := by
  cases hc : CSRFile.isCounterCsr a with
  | false => rfl
  | true =>
    rw [counter_readOnly hc] at hw
    cases hw

theorem CsrLegal.ite {config : CPUConfig} {c : Prop} [Decidable c] {f g : CSRFile}
    (ht : c → CsrLegal config f) (he : ¬c → CsrLegal config g) :
    CsrLegal config (if c then f else g) := by
  split
  · exact ht ‹_›
  · exact he ‹_›

/-- **The architectural write keeps the CSR file legal**, at whatever privilege. -/
theorem CsrLegal.write_of_writable {config : CPUConfig} {f : CSRFile} {a : BitVec 16}
    (h : CsrLegal config f) (hex : f.exists' a = true)
    (hw : (CSRPermissions.fromAddress a).writable = true) (v : Word) :
    CsrLegal config (f.write a v) := by
  have hcounter := counter_of_writable hw
  have hst := fun hflags hfrm => h.stored_of_exists hex hflags hfrm hcounter
  -- one case a rule of `write`, in its order; `hst` says the register is stored where the rule
  -- does not
  unfold CSRFile.write
  refine .ite (fun _ => ?fflags) fun hfflags => ?_
  case fflags => exact h.set rfl (h.fcsr.of_agree (agree_merge _ _ (by decide)))
  refine .ite (fun _ => ?frm) fun hfrm => ?_
  case frm =>
    have hshift : (v &&& 0x7) <<< 5 = (v <<< 5) &&& 0xE0 := by
      rw [BitVec.shiftLeft_and_distrib]; rfl
    rw [hshift]
    exact h.set rfl (h.fcsr.of_agree (agree_merge _ _ (by decide)))
  have hst := hst hfflags hfrm
  refine .ite (fun _ => ?fcsr) fun hfcsr => ?_
  case fcsr => exact h.set rfl (legal_masked v)
  refine .ite (fun _ => ?mstatus) fun hmstatus => ?_
  case mstatus => exact h.set rfl (legalizeMstatus_legal h v)
  refine .ite (fun _ => ?mtvec) fun hmtvec => ?_
  case mtvec => exact h.set rfl (legalizeTvec_legal v)
  refine .ite (fun _ => ?mepc) fun hmepc => ?_
  case mepc => exact h.set rfl (h.mepcMask ▸ legal_masked v)
  refine .ite (fun _ => h) fun hmisa => ?_
  refine .ite (fun _ => h) fun hzero => ?_
  refine .ite (fun _ => ?mie) fun hmie => ?_
  case mie => exact h.set rfl (legal_masked v)
  refine .ite (fun _ => ?mip) fun hmip => ?_
  case mip =>
    have hmask : Within f.mipWritableMask CSRFile.miMask := by
      unfold CSRFile.mipWritableMask
      split <;> decide
    exact h.set rfl (h.mip.of_agree (agree_merge _ _ hmask))
  refine .ite (fun ha => ?medeleg) fun hmedeleg => ?_
  case medeleg => exact h.set (ha ▸ hst) (legal_masked v)
  refine .ite (fun ha => ?mideleg) fun hmideleg => ?_
  case mideleg => exact h.set (ha ▸ hst) (legal_masked v)
  refine .ite (fun _ => h.setFree rfl rfl rfl) fun hmcounteren => ?_
  refine .ite (fun _ => ?sstatus) fun hsstatus => ?_
  case sstatus => exact h.set rfl (legalizeSstatus_legal h v)
  refine .ite (fun _ => .ite (fun _ => h) fun _ => ?sie) fun hsie => ?_
  case sie =>
    -- the bits sie reaches are delegated ones, and mideleg is legal itself
    have hdeleg : Within (f.get CsrAddr.mideleg) CSRFile.miMask := h.mideleg
    dsimp only
    rw [BitVec.and_assoc, BitVec.and_comm (f.get CsrAddr.mideleg), ← BitVec.and_assoc]
    exact h.set rfl (h.mie.of_agree (agree_merge _ _ hdeleg))
  refine .ite (fun _ => .ite (fun _ => h) fun _ => ?sip) fun hsip => ?_
  case sip =>
    have hssi : Within (CSRFile.miSsi &&& f.get CsrAddr.mideleg) CSRFile.miMask :=
      (within_and_left _ _).trans (by decide)
    exact h.set rfl (h.mip.of_agree (agree_merge _ _ hssi))
  refine .ite (fun ha => h.set (ha ▸ hst) (legalizeTvec_legal v)) fun hstvec => ?_
  refine .ite (fun ha => h.set (ha ▸ hst) (h.mepcMask ▸ legal_masked v)) fun hsepc => ?_
  refine .ite (fun ha => h.setFree (ha ▸ hst) rfl rfl) fun _ => ?_
  refine .ite (fun ha => h.setFree (ha ▸ hst) rfl rfl) fun _ => ?_
  refine .ite (fun ha => h.setFree (ha ▸ hst) rfl rfl) fun _ => ?_
  refine .ite (fun ha => h.setFree (ha ▸ hst) rfl rfl) fun _ => ?_
  refine .ite (fun ha => h.setFree (ha ▸ hst) rfl rfl) fun _ => ?_
  -- the registers left have no rule of their own: any value is legal
  have hconst : a ∉ constantCsrs := by
    intro hmem
    simp only [constantCsrs, List.mem_cons, List.not_mem_nil, or_false, hmisa, false_or] at hmem
    rcases hmem with ha | ha | ha | ha | ha | ha | ha | ha
    · exact hzero (.inl ha)
    · exact hzero (.inr (.inl ha))
    · exact hzero (.inr (.inr ha))
    -- the information registers lie in the read-only address space
    all_goals
      subst ha
      cases hw
  apply h.setFree hst
  · simp [writableBits, *]
  · simp [fixedBits, *]

theorem CsrLegal.write {config : CPUConfig} {f : CSRFile} {a : BitVec 16} (h : CsrLegal config f)
    (hex : f.exists' a = true) (hw : f.canWrite a = true) (v : Word) :
    CsrLegal config (f.write a v) :=
  h.write_of_writable hex (writable_of_canWrite hw) v

/-! ## mstatus across traps and returns -/

/-- The mstatus fields of a trap into M. -/
def mTrapFields : Word := CSRFile.mstatusMie ||| CSRFile.mstatusMpie ||| CSRFile.mstatusMpp

/-- The mstatus fields of a trap into S. -/
def sTrapFields : Word := CSRFile.mstatusSie ||| CSRFile.mstatusSpie ||| CSRFile.mstatusSpp

theorem mTrapFields_within (config : CPUConfig) : Within mTrapFields (legalMaskOf config) := by
  have h : ∀ s u, Within mTrapFields (legalMaskWith s u) := by decide
  exact h _ _

theorem sTrapFields_within {config : CPUConfig} (hs : config.enableSMode = true) :
    Within sTrapFields (legalMaskOf config) := by
  have h : ∀ u, Within sTrapFields (legalMaskWith true u) := by decide
  unfold legalMaskOf
  rw [hs]
  exact h _

theorem mTrapStatus_agree (m : Word) (p : PrivilegeLevel) :
    Agree mTrapFields (CPU.mTrapStatus m p) m := by
  unfold CPU.mTrapStatus
  refine (agree_set _ (by cases p <;> decide)).trans ?_
  split
  · exact (agree_set _ (by decide)).trans (agree_clear _ (by decide))
  · exact agree_clear _ (by decide)

theorem sTrapStatus_agree (m : Word) (p : PrivilegeLevel) :
    Agree sTrapFields (CPU.sTrapStatus m p) m := by
  unfold CPU.sTrapStatus
  refine (agree_set _ (by cases p <;> decide)).trans ?_
  split
  · exact (agree_set _ (by decide)).trans (agree_clear _ (by decide))
  · exact agree_clear _ (by decide)

/-- MRET changes the M trap fields and clears MPRV unless MPP was M. -/
theorem mretStatus_cases (m : Word) (u : Bool) :
    ∃ v, Agree mTrapFields v m ∧ CPU.mretStatus m u =
      if (m >>> 11) &&& 3 ≠ 3 then v &&& ~~~CSRFile.mstatusMprv else v := by
  refine ⟨_, ?_, rfl⟩
  refine (agree_set _ (by cases u <;> decide)).trans ?_
  refine (agree_clear _ (by decide)).trans ?_
  refine (agree_set _ (by decide)).trans ?_
  split
  · exact (agree_set _ (by decide)).trans (agree_clear _ (by decide))
  · exact agree_clear _ (by decide)

/-- SRET changes the S trap fields and clears MPRV. -/
theorem sretStatus_cases (m : Word) :
    ∃ v, Agree sTrapFields v m ∧ CPU.sretStatus m = v &&& ~~~CSRFile.mstatusMprv := by
  refine ⟨_, ?_, rfl⟩
  refine (agree_clear _ (by decide)).trans ?_
  refine (agree_set _ (by decide)).trans ?_
  split
  · exact (agree_set _ (by decide)).trans (agree_clear _ (by decide))
  · exact agree_clear _ (by decide)

theorem mprv_not_hardwired (config : CPUConfig) :
    Within CSRFile.mstatusMprv (~~~(hardwiredOf config)) := by
  have h : ∀ f, Within CSRFile.mstatusMprv (~~~(hardwiredWith f)) := by decide
  exact h _

/-! ## Legality across the CPU's own writes -/

theorem write_mepc (f : CSRFile) (v : Word) :
    f.write CsrAddr.mepc v = f.set CsrAddr.mepc (v &&& f.mepcMask) := rfl

theorem write_sepc (f : CSRFile) (v : Word) :
    f.write CsrAddr.sepc v = f.set CsrAddr.sepc (v &&& f.mepcMask) := rfl

theorem write_mstatus (f : CSRFile) (v : Word) :
    f.write CsrAddr.mstatus v = f.set CsrAddr.mstatus (f.legalizeMstatus v) := rfl

theorem write_sstatus (f : CSRFile) (v : Word) :
    f.write CsrAddr.sstatus v = f.set CsrAddr.mstatus (f.legalizeSstatus v) := rfl

theorem write_sie (f : CSRFile) (v : Word) :
    f.write CsrAddr.sie v = if !f.sModeEnabled then f else
      let mideleg := f.get CsrAddr.mideleg
      f.set CsrAddr.mie
        ((f.get CsrAddr.mie &&& ~~~mideleg) ||| (v &&& mideleg &&& CSRFile.miMask)) := rfl

theorem write_sip (f : CSRFile) (v : Word) :
    f.write CsrAddr.sip v = if !f.sModeEnabled then f else
      let wmask := CSRFile.miSsi &&& f.get CsrAddr.mideleg
      f.set CsrAddr.mip ((f.get CsrAddr.mip &&& ~~~wmask) ||| (v &&& wmask)) := rfl

theorem stored_supervisor {config : CPUConfig} {a : BitVec 16}
    (hs : config.enableSMode = true) (ha : a ∈ supervisorCsrs) : stored config a = true := by
  simp [stored, hs, ha]

namespace CsrLegal

variable {config : CPUConfig} {f : CSRFile}

theorem enterMTrap (h : CsrLegal config f) (cause tval pc : Word) :
    CsrLegal config (CPU.enterMTrapCsrs f cause tval pc) := by
  have hstatus := h.mstatus.of_agree ((mTrapStatus_agree (f.get CsrAddr.mstatus)
    f.currentPrivilege).mono (mTrapFields_within config))
  have h1 := (h.set (a := CsrAddr.mstatus) rfl hstatus).setPrivilege .machine
  have h2 := h1.set (a := CsrAddr.mepc) (v := pc &&& CPU.mepcMaskOf config) rfl (legal_masked pc)
  have h3 := h2.setFree (a := CsrAddr.mcause) (v := cause) rfl rfl rfl
  have h4 := h3.setFree (a := CsrAddr.mtval) (v := tval) rfl rfl rfl
  rw [← h.mepcMask] at h4
  exact h4

theorem enterSTrap (h : CsrLegal config f) (hs : config.enableSMode = true)
    (cause tval pc : Word) : CsrLegal config (CPU.enterSTrapCsrs f cause tval pc) := by
  have hstatus := h.mstatus.of_agree ((sTrapStatus_agree (f.get CsrAddr.mstatus)
    f.currentPrivilege).mono (sTrapFields_within hs))
  have h1 := (h.set (a := CsrAddr.mstatus) rfl hstatus).setPrivilege .supervisor
  have h2 := h1.set (a := CsrAddr.sepc) (v := pc &&& CPU.mepcMaskOf config)
    (stored_supervisor hs (by decide)) (legal_masked pc)
  have h3 := h2.setFree (a := CsrAddr.scause) (v := cause)
    (stored_supervisor hs (by decide)) rfl rfl
  have h4 := h3.setFree (a := CsrAddr.stval) (v := tval)
    (stored_supervisor hs (by decide)) rfl rfl
  rw [← h.mepcMask] at h4
  exact h4

theorem mret (h : CsrLegal config f) : CsrLegal config (CPU.mretCsrs f) := by
  refine (h.set rfl ?_).setPrivilege _
  obtain ⟨v, hv, heq⟩ := mretStatus_cases (f.get CsrAddr.mstatus) f.uModeEnabled
  have hlegal := h.mstatus.of_agree (hv.mono (mTrapFields_within config))
  rw [heq]
  split
  · exact hlegal.clear (mprv_not_hardwired config)
  · exact hlegal

theorem sret (h : CsrLegal config f) (hs : config.enableSMode = true) :
    CsrLegal config (CPU.sretCsrs f) := by
  refine (h.set rfl ?_).setPrivilege _
  obtain ⟨v, hv, heq⟩ := sretStatus_cases (f.get CsrAddr.mstatus)
  rw [heq]
  exact (h.mstatus.of_agree (hv.mono (sTrapFields_within hs))).clear (mprv_not_hardwired config)

theorem bumpCycle (h : CsrLegal config f) : CsrLegal config (CPU.bumpCycle f) :=
  (h.setFree (a := CsrAddr.mcycle) rfl rfl rfl).setFree (a := CsrAddr.mcycleh) rfl rfl rfl

theorem bumpInstret (h : CsrLegal config f) : CsrLegal config (CPU.bumpInstret f) :=
  (h.setFree (a := CsrAddr.minstret) rfl rfl rfl).setFree (a := CsrAddr.minstreth) rfl rfl rfl

theorem driveMip (h : CsrLegal config f) {bit : Word} (hbit : Within bit CSRFile.miMask)
    (level : Bool) :
    CsrLegal config (f.set CsrAddr.mip
      (if level then f.get CsrAddr.mip ||| bit else f.get CsrAddr.mip &&& ~~~bit)) := by
  apply h.set rfl
  split
  · exact h.mip.of_agree (agree_set _ hbit)
  · exact h.mip.of_agree (agree_clear _ hbit)

end CsrLegal

/-! ## Reset -/

theorem isSome_set (f : CSRFile) (a b : BitVec 16) (v : Word) :
    ((f.set a v).csrs b).isSome = (decide (b = a) || (f.csrs b).isSome) := by
  by_cases h : b = a <;> simp [CSRFile.set, h]

theorem isSome_ite {c : Prop} [Decidable c] (f g : CSRFile) (b : BitVec 16) :
    ((if c then f else g).csrs b).isSome = if c then (f.csrs b).isSome else (g.csrs b).isSome := by
  split <;> rfl

theorem get_ite {c : Prop} [Decidable c] (f g : CSRFile) (b : BitVec 16) :
    (if c then f else g).get b = if c then f.get b else g.get b := by
  split <;> rfl

theorem initStorage_isSome (f : CSRFile) (a : BitVec 16) {config : CPUConfig}
    (hs : f.sModeEnabled = config.enableSMode) (hu : f.uModeEnabled = config.enableUMode) :
    (f.initStorage.csrs a).isSome = stored config a := by
  dsimp only [CSRFile.initStorage]
  simp only [isSome_set, isSome_ite, CSRFile.set_sModeEnabled, CSRFile.set_uModeEnabled,
    apply_ite CSRFile.sModeEnabled, ite_self, hs, hu, stored, machineCsrs, delegationCsrs,
    supervisorCsrs, List.mem_cons, List.not_mem_nil, or_false, Bool.decide_or]
  cases config.enableSMode <;> cases config.enableUMode <;>
    simp only [Bool.or_self, Bool.or_false, Bool.or_true, Bool.true_and, Bool.false_and,
      Bool.false_eq_true, if_true, if_false, Option.isSome_none] <;>
    ac_rfl

theorem initStorage_get (f : CSRFile) {a : BitVec 16} (hmisa : a ≠ CsrAddr.misa)
    (hmstatus : a ≠ CsrAddr.mstatus) : f.initStorage.get a = 0 := by
  have hempty : ({ f with csrs := fun _ => none } : CSRFile).get a = 0 := rfl
  dsimp only [CSRFile.initStorage]
  simp only [CSRFile.get_set, get_ite, hmisa, hmstatus, if_false, ite_self, hempty]

theorem initStorage_mstatus (f : CSRFile) :
    f.initStorage.get CsrAddr.mstatus = f.mstatusHardwired ||| CSRFile.mstatusMpp := by
  dsimp only [CSRFile.initStorage]
  simp +decide only [CSRFile.get_set, get_ite, if_false, if_true, ite_self]
  rfl

/-- The CSR file with the flags of the configuration, before its storage is
initialised. -/
def configuredCsrs (f : CSRFile) (config : CPUConfig) : CSRFile :=
  (((f.setSMode config.enableSMode).setUMode config.enableUMode).setFExtension
    config.enableFExtension).setMepcMask (CPU.mepcMaskOf config)

theorem resetCsrs_eq (f : CSRFile) (config : CPUConfig) :
    CPU.resetCsrs f config =
      (((configuredCsrs f config).initStorage.setPrivilege .machine).set CsrAddr.mtvec
        (CSRFile.legalizeTvec config.mtvecReset)).set CsrAddr.misa (CPU.misaValue config) := rfl

theorem initStorage_flags (f : CSRFile) :
    f.initStorage.fExtension = f.fExtension ∧ f.initStorage.sModeEnabled = f.sModeEnabled ∧
      f.initStorage.uModeEnabled = f.uModeEnabled ∧ f.initStorage.mepcMask = f.mepcMask := by
  obtain ⟨_, _, _, s, u, _⟩ := f
  cases s <;> cases u <;> exact ⟨rfl, rfl, rfl, rfl⟩

@[simp] theorem resetCsrs_currentPrivilege (f : CSRFile) (config : CPUConfig) :
    (CPU.resetCsrs f config).currentPrivilege = .machine := rfl

theorem resetCsrs_mstatus (f : CSRFile) (config : CPUConfig) :
    (CPU.resetCsrs f config).get CsrAddr.mstatus =
      hardwiredOf config ||| CSRFile.mstatusMpp := by
  rw [resetCsrs_eq, CSRFile.get_set_ne _ _ (by decide), CSRFile.get_set_ne _ _ (by decide),
    CSRFile.get_setPrivilege, initStorage_mstatus]
  rfl

/-- **A reset CSR file is legal**, whatever it held before. -/
theorem resetCsrs_legal (f : CSRFile) (config : CPUConfig) :
    CsrLegal config (CPU.resetCsrs f config) := by
  obtain ⟨hf, hs, hu, hm⟩ := initStorage_flags (configuredCsrs f config)
  -- what is stored, then the words: mstatus, misa and mtvec are set, the rest is zero
  refine ⟨hf, hs, hu, hm, ?_, ?_⟩
  · intro a
    rw [resetCsrs_eq, isSome_set, isSome_set]
    have hinit := @initStorage_isSome (configuredCsrs f config) a config rfl rfl
    by_cases hmisa : a = CsrAddr.misa
    · subst hmisa
      rfl
    by_cases hmtvec : a = CsrAddr.mtvec
    · subst hmtvec
      rfl
    simpa [hmisa, hmtvec] using hinit
  · intro a
    by_cases hmstatus : a = CsrAddr.mstatus
    · subst hmstatus
      rw [resetCsrs_mstatus]
      have h : ∀ f s u, Legal (legalMaskWith s u) (hardwiredWith f)
          (hardwiredWith f ||| CSRFile.mstatusMpp) := by decide
      exact h _ _ _
    rw [resetCsrs_eq, CSRFile.get_set]
    split
    · rename_i hmisa
      subst hmisa
      show CPU.misaValue config &&& ~~~0#32 = CPU.misaValue config
      rw [BitVec.not_zero]
      exact BitVec.and_allOnes
    rename_i hmisa
    rw [CSRFile.get_set]
    split
    · rename_i hmtvec
      subst hmtvec
      exact legalizeTvec_legal _
    · rw [CSRFile.get_setPrivilege, initStorage_get _ hmisa hmstatus]
      simp [Legal, fixedBits, hmisa, hmstatus]

end Riscv

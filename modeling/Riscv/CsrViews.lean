import Riscv.CsrAccess
import Riscv.Lib.View
import Riscv.Modes

/- The CSRs as views of the CSR file.

   Reading a CSR and writing it back changes nothing, and a write repeated adds
   nothing, on every file a run reaches: each register is a cell behind a rule, and
   the invariant of the runs is what makes the rule accept what is stored. For
   mstatus this takes MPP to be an implemented mode, which U-mode with S-mode ensures.
   The aliases are views of parts of other registers. -/
namespace Riscv

open Zicsr Warl

/-! ## The files of a run -/

/-- The CSR files the views are lawful on. -/
structure ViewState (config : CPUConfig) (f : CSRFile) : Prop where
  legal : CsrLegal config f
  mpp : ∃ p, config.implements p = true ∧ mppOf (f.get CsrAddr.mstatus) = p.toWord

/-- A CSR that exists and lies outside the read-only addresses. -/
structure Writable (config : CPUConfig) (a : BitVec 16) : Prop where
  has : config.hasCsr a = true
  writable : ¬csrReadOnly a

section
variable {config : CPUConfig} {f : CSRFile} {a : BitVec 16}

theorem Writable.not_counter (h : Writable config a) : counterBit a = none := by
  cases hc : counterBit a with
  | none => rfl
  | some bit =>
    have hcounter := (isCounterCsr_iff a).mpr (by rw [hc]; rfl)
    exact absurd ((writable_iff a).mp (counter_readOnly hcounter)) h.writable

theorem Writable.stored (h : Writable config a) (hflags : a ≠ CsrAddr.fflags)
    (hfrm : a ≠ CsrAddr.frm) : Riscv.stored config a = true := by
  have hhas := h.has
  unfold CPUConfig.hasCsr at hhas
  rw [h.not_counter] at hhas
  by_cases hfcsr : a = CsrAddr.fcsr
  · subst hfcsr
    rfl
  · simpa [hflags, hfrm, hfcsr] using hhas

theorem ViewState.exists' (h : ViewState config f) (ha : Writable config a) :
    f.exists' a = true :=
  (h.legal.exists_eq_hasCsr a).trans ha.has

theorem ViewState.write (h : ViewState config f) (ha : Writable config a) (v : Word) :
    ViewState config (f.write a v) := by
  have hw : (CSRPermissions.fromAddress a).writable = true := by
    rw [← Bool.not_eq_false, writable_iff]
    exact ha.writable
  exact ⟨h.legal.write_of_writable (h.exists' ha) hw v, mpp_write h.legal h.mpp a v⟩

/-! ## The laws, register by register -/

theorem cell {b : BitVec 16} (hb : Riscv.stored config b = true) :
    View.Cell (ViewState config) (fun f => f.get b) (fun f w => f.set b w) where
  get_put f w := f.get_set_same b w
  put_get h := CSRFile.set_get_self _ ((h.legal.stored b).trans hb)
  put_put f w x := f.set_set b w x

/-- The laws of a CSR. -/
def LawfulCsr (config : CPUConfig) (a : BitVec 16) : Prop :=
  View.Lawful (ViewState config) (fun f => f.read a) (fun f v => f.write a v)

/-- A CSR whose writes go through a rule into the register `b`. -/
theorem lawful_rule (ha : Writable config a) {b : BitVec 16} (hb : Riscv.stored config b = true)
    (rule : CSRFile → Word → Word)
    (hwrite : ∀ {f}, ViewState config f → ∀ v, f.write a v = f.set b (rule f v))
    (fixed : ∀ {f}, ViewState config f → rule f (f.read a) = f.get b)
    (stable : ∀ {f}, ViewState config f → ∀ v, rule (f.set b (rule f v)) v = rule f v) :
    LawfulCsr config a :=
  (cell hb).lawful rule hwrite (fun h v => h.write ha v) fixed stable

theorem lawful_value (ha : Writable config a) (hb : Riscv.stored config a = true)
    (rule : Word → Word)
    (hwrite : ∀ {f}, ViewState config f → ∀ v, f.write a v = f.set a (rule v))
    (fixed : ∀ {f}, ViewState config f → rule (f.read a) = f.get a) : LawfulCsr config a :=
  lawful_rule ha hb (fun _ => rule) hwrite fixed fun _ _ => rfl

theorem lawful_fflags (ha : Writable config CsrAddr.fflags) : LawfulCsr config CsrAddr.fflags := by
  refine lawful_rule ha (b := CsrAddr.fcsr) rfl
    (fun f v => (f.get CsrAddr.fcsr &&& ~~~(0x1F : Word)) ||| (v &&& 0x1F)) (fun _ _ => rfl)
    (fun {f} _ => ?_) fun {f} _ v => ?_
  · show (f.get CsrAddr.fcsr &&& ~~~(0x1F : Word)) ||| ((f.get CsrAddr.fcsr &&& 0x1F) &&& 0x1F) = _
    rw [and_and_of_within _ (Within.refl _), merge_self]
  · rw [CSRFile.get_set_same, merge_merge]

theorem lawful_frm (ha : Writable config CsrAddr.frm) : LawfulCsr config CsrAddr.frm := by
  have hmask : ((0x7 : Word) <<< 5) = 0xE0 := rfl
  refine lawful_rule ha (b := CsrAddr.fcsr) rfl
    (fun f v => (f.get CsrAddr.fcsr &&& ~~~(0xE0 : Word)) ||| ((v &&& 0x7) <<< 5))
    (fun _ _ => rfl) (fun {f} _ => ?_) fun {f} _ v => ?_
  · show (f.get CsrAddr.fcsr &&& ~~~(0xE0 : Word)) |||
      ((((f.get CsrAddr.fcsr >>> 5) &&& 0x7) &&& 0x7) <<< 5) = _
    rw [and_and_of_within _ (Within.refl _), field_put, hmask, merge_self]
  · rw [CSRFile.get_set_same, BitVec.shiftLeft_and_distrib, hmask, merge_merge]

/-- The legal modes are those the flags allow, and MPP takes them as they are. -/
theorem legalizeMpp_self (h : CsrLegal config f) {p : PrivilegeLevel}
    (hp : config.implements p = true) : f.legalizeMpp p.toWord = p.toWord := by
  unfold CSRFile.legalizeMpp
  rw [h.uModeEnabled, h.sModeEnabled]
  cases p with
  | reserved => cases hp
  | machine => cases config.enableUMode <;> cases config.enableSMode <;> rfl
  | user =>
    have hu : config.enableUMode = true := hp
    rw [hu]
    cases config.enableSMode <;> rfl
  | supervisor =>
    have hs : config.enableSMode = true := hp
    rw [hs]
    cases config.enableUMode <;> rfl

/-- mstatus takes back a word with an implemented mode in MPP. -/
theorem legalizeMstatus_self (h : ViewState config f) :
    f.legalizeMstatus (f.get CsrAddr.mstatus) = f.get CsrAddr.mstatus := by
  obtain ⟨p, hp, hmpp⟩ := h.mpp
  have hstatus := h.legal.mstatus
  generalize f.get CsrAddr.mstatus = m at hmpp hstatus
  have hinside : ∀ s u, Within CSRFile.mstatusMpp (legalMaskWith s u) := by decide
  have hcut : mppOf (m &&& legalMaskOf config) = p.toWord := by
    rw [← hmpp]
    refine mppOf_eq_of_agree (m := ~~~legalMaskOf config) ?_ ?_
    · unfold Agree
      rw [BitVec.not_not, BitVec.and_assoc, BitVec.and_self]
    · rw [BitVec.not_not]
      exact hinside _ _
  have hput : p.toWord <<< 11 = (m &&& legalMaskOf config) &&& CSRFile.mstatusMpp := by
    rw [← hcut]
    exact field_put _ 3 11
  unfold CSRFile.legalizeMstatus
  rw [h.legal.legalMask, h.legal.hardwired]
  show ((((m &&& legalMaskOf config) &&& ~~~CSRFile.mstatusMpp) |||
    (f.legalizeMpp (mppOf (m &&& legalMaskOf config)) <<< 11)) ||| hardwiredOf config) = m
  rw [hcut, legalizeMpp_self h.legal hp, hput, merge_self, hstatus.eq_hardwire]

theorem lawful_mstatus (ha : Writable config CsrAddr.mstatus) :
    LawfulCsr config CsrAddr.mstatus :=
  lawful_rule ha rfl (fun f v => f.legalizeMstatus v) (fun _ _ => rfl)
    (fun h => legalizeMstatus_self h) fun _ _ => rfl

theorem legalizeTvec_self {v : Word} (hv : Legal (~~~2) 0 v) : CSRFile.legalizeTvec v = v := by
  unfold CSRFile.legalizeTvec
  have hmode : (if v &&& 0x3 > 1 then 0 else v &&& 0x3) = v &&& 0x3 := by
    rcases tvecMode_of_legal hv with h | h <;> rw [h] <;> rfl
  dsimp only
  rw [hmode, merge_self]

/-- Every satp word is legal: its mode is one bit. -/
theorem legalizeSatp_self (v : Word) : CSRFile.legalizeSatp v = v := by
  have hmode : ¬v >>> 31 > 1 := by
    have hlt := v.isLt
    simp [BitVec.lt_def, Nat.shiftRight_eq_div_pow]
    omega
  have hput : (v >>> 31) <<< 31 = v &&& 0x80000000 := by
    have hfield := field_put v (BitVec.allOnes 32) 31
    rwa [BitVec.and_allOnes] at hfield
  have hself := merge_self v 0x80000000
  unfold CSRFile.legalizeSatp
  dsimp only
  rw [if_neg hmode, hput]
  exact hself

theorem sMode_of_stored {b : BitVec 16} (hb : Riscv.stored config b = true)
    (hmachine : b ∉ machineCsrs) (hdelegation : b ∉ delegationCsrs) :
    config.enableSMode = true := by
  simp [Riscv.stored, hmachine, hdelegation] at hb
  exact hb.1

theorem CsrLegal.write_sie (h : CsrLegal config f) (hs : config.enableSMode = true) (v : Word) :
    f.write CsrAddr.sie v = f.set CsrAddr.mie
      ((f.get CsrAddr.mie &&& ~~~f.get CsrAddr.mideleg) ||| (v &&& f.get CsrAddr.mideleg)) := by
  rw [Riscv.write_sie, h.sModeEnabled.trans hs]
  dsimp only
  rw [BitVec.and_assoc v, h.mideleg.and_eq]
  rfl

theorem CsrLegal.write_sip (h : CsrLegal config f) (hs : config.enableSMode = true) (v : Word) :
    f.write CsrAddr.sip v = f.set CsrAddr.mip
      ((f.get CsrAddr.mip &&& ~~~(CSRFile.miSsi &&& f.get CsrAddr.mideleg)) |||
        (v &&& (CSRFile.miSsi &&& f.get CsrAddr.mideleg))) := by
  rw [Riscv.write_sip, h.sModeEnabled.trans hs]
  rfl

theorem lawful_sie (ha : Writable config CsrAddr.sie) : LawfulCsr config CsrAddr.sie := by
  have hs := sMode_of_stored (ha.stored (by decide) (by decide)) (by decide) (by decide)
  refine lawful_rule ha (b := CsrAddr.mie) rfl
    (fun f v => (f.get CsrAddr.mie &&& ~~~f.get CsrAddr.mideleg) |||
      (v &&& f.get CsrAddr.mideleg))
    (fun h v => h.legal.write_sie hs v) (fun {f} h => ?_) fun {f} h v => ?_
  · show (f.get CsrAddr.mie &&& ~~~f.get CsrAddr.mideleg) |||
      ((f.get CsrAddr.mie &&& f.get CsrAddr.mideleg) &&& f.get CsrAddr.mideleg) = _
    rw [and_and_of_within _ (Within.refl _), merge_self]
  · rw [CSRFile.get_set_same, CSRFile.get_set_ne _ _ (by decide), merge_merge]

theorem lawful_sip (ha : Writable config CsrAddr.sip) : LawfulCsr config CsrAddr.sip := by
  have hs := sMode_of_stored (ha.stored (by decide) (by decide)) (by decide) (by decide)
  refine lawful_rule ha (b := CsrAddr.mip) rfl
    (fun f v => (f.get CsrAddr.mip &&& ~~~(CSRFile.miSsi &&& f.get CsrAddr.mideleg)) |||
        (v &&& (CSRFile.miSsi &&& f.get CsrAddr.mideleg)))
    (fun h v => h.legal.write_sip hs v) (fun {f} h => ?_) fun {f} h v => ?_
  · have hdelegated : Within (CSRFile.miSsi &&& f.get CsrAddr.mideleg) (f.get CsrAddr.mideleg) := by
      rw [BitVec.and_comm]
      exact within_and_left _ _
    show (f.get CsrAddr.mip &&& ~~~(CSRFile.miSsi &&& f.get CsrAddr.mideleg)) |||
      ((f.get CsrAddr.mip &&& f.get CsrAddr.mideleg) &&&
        (CSRFile.miSsi &&& f.get CsrAddr.mideleg)) = _
    rw [and_and_of_within _ hdelegated, merge_self]
  · rw [CSRFile.get_set_same, CSRFile.get_set_ne _ _ (by decide), merge_merge]

theorem lawful_mip (ha : Writable config CsrAddr.mip) : LawfulCsr config CsrAddr.mip := by
  refine lawful_rule ha rfl
    (fun f v => (f.get CsrAddr.mip &&& ~~~f.mipWritableMask) ||| (v &&& f.mipWritableMask))
    (fun _ _ => rfl) (fun {f} _ => merge_self _ _) fun {f} _ v => ?_
  rw [CSRFile.get_set_same]
  exact merge_merge _ _ _

theorem lawful_sstatus (ha : Writable config CsrAddr.sstatus) :
    LawfulCsr config CsrAddr.sstatus := by
  have hsd : ∀ s u, Within CSRFile.mstatusSd (~~~(legalMaskWith s u)) := by decide
  refine lawful_rule ha (b := CsrAddr.mstatus) rfl (fun f v => f.legalizeSstatus v)
    (fun _ _ => rfl) (fun {f} h => ?_) fun {f} h v => ?_
  · show f.legalizeSstatus (f.get CsrAddr.mstatus &&& CSRFile.sstatusReadMask) = _
    unfold CSRFile.legalizeSstatus
    rw [h.legal.legalMask, h.legal.hardwired]
    exact h.legal.mstatus.view_self (hsd _ _) (by decide)
  · unfold CSRFile.legalizeSstatus
    rw [CSRFile.get_set_same]
    exact view_view _ _ _ _ _ _

/-- The registers whose writes have a rule, or that are views of others. -/
def ruledCsrs : List (BitVec 16) :=
  [CsrAddr.fflags, CsrAddr.frm, CsrAddr.fcsr, CsrAddr.mstatus, CsrAddr.mtvec, CsrAddr.mepc,
   CsrAddr.misa, CsrAddr.mstatush, CsrAddr.menvcfg, CsrAddr.menvcfgh, CsrAddr.mie, CsrAddr.mip,
   CsrAddr.medeleg, CsrAddr.mideleg, CsrAddr.sstatus, CsrAddr.sie, CsrAddr.sip, CsrAddr.stvec,
   CsrAddr.sepc, CsrAddr.satp]

theorem write_plain (ha : a ∉ ruledCsrs) (v : Word) : f.write a v = f.set a v := by
  simp only [ruledCsrs, List.mem_cons, List.not_mem_nil, or_false, not_or] at ha
  unfold CSRFile.write
  simp only [ha, or_self, if_false]
  repeat' split
  all_goals first
    | rfl
    | (subst a; rfl)

theorem read_plain (ha : a ∉ ruledCsrs) (hcounter : counterBit a = none) : f.read a = f.get a := by
  simp only [ruledCsrs, List.mem_cons, List.not_mem_nil, or_false, not_or] at ha
  have hne : ∀ {c : BitVec 16}, (counterBit c).isSome = true → a ≠ c := by
    rintro c hc rfl
    rw [hcounter] at hc
    cases hc
  unfold CSRFile.read
  simp only [ha, hne (c := CsrAddr.cycle) rfl, hne (c := CsrAddr.cycleh) rfl,
    hne (c := CsrAddr.time) rfl, hne (c := CsrAddr.timeh) rfl, hne (c := CsrAddr.instret) rfl,
    hne (c := CsrAddr.instreth) rfl, if_false]

/-- **Every CSR is a lawful view.** -/
theorem lawful_csr (ha : Writable config a) : LawfulCsr config a := by
  -- a register without a rule is a cell
  by_cases hruled : a ∈ ruledCsrs
  case neg =>
    have hstored := ha.stored (fun h => hruled (h ▸ by decide)) fun h => hruled (h ▸ by decide)
    exact lawful_value ha hstored (fun v => v) (fun _ v => write_plain hruled v)
      fun _ => read_plain hruled ha.not_counter
  case pos =>
  simp only [ruledCsrs, List.mem_cons, List.not_mem_nil, or_false] at hruled
  rcases hruled with rfl | rfl | rfl | rfl | rfl | rfl | rfl | rfl | rfl | rfl | rfl | rfl |
    rfl | rfl | rfl | rfl | rfl | rfl | rfl | rfl
  -- in the order of the list
  · exact lawful_fflags ha
  · exact lawful_frm ha
  · exact lawful_value ha rfl (fun v => v &&& 0xFF) (fun _ _ => rfl) fun h => h.legal.fcsr.and_eq
  · exact lawful_mstatus ha
  · exact lawful_value ha rfl CSRFile.legalizeTvec (fun _ _ => rfl) fun h =>
      legalizeTvec_self (h.legal.legal CsrAddr.mtvec)
  · exact lawful_rule ha rfl (fun f v => v &&& f.mepcMask) (fun _ _ => rfl)
      (fun h => by
        rw [h.legal.mepcMask]
        exact Legal.and_eq (h.legal.legal CsrAddr.mepc)) fun _ _ => rfl
  · exact .ignored _ fun _ _ => rfl
  · exact .ignored _ fun _ _ => rfl
  · exact .ignored _ fun _ _ => rfl
  · exact .ignored _ fun _ _ => rfl
  · exact lawful_value ha rfl (fun v => v &&& CSRFile.miMask) (fun _ _ => rfl) fun h =>
      h.legal.mie.and_eq
  · exact lawful_mip ha
  · exact lawful_value ha (ha.stored (by decide) (by decide)) (fun v => v &&& 0xF7FF)
      (fun _ _ => rfl) fun h => Legal.and_eq (h.legal.legal CsrAddr.medeleg)
  · exact lawful_value ha (ha.stored (by decide) (by decide)) (fun v => v &&& CSRFile.miMask)
      (fun _ _ => rfl) fun h => h.legal.mideleg.and_eq
  · exact lawful_sstatus ha
  · exact lawful_sie ha
  · exact lawful_sip ha
  · exact lawful_value ha (ha.stored (by decide) (by decide)) CSRFile.legalizeTvec
      (fun _ _ => rfl) fun h => legalizeTvec_self (h.legal.legal CsrAddr.stvec)
  · exact lawful_rule ha (ha.stored (by decide) (by decide)) (fun f v => v &&& f.mepcMask)
      (fun _ _ => rfl)
      (fun h => by
        rw [h.legal.mepcMask]
        exact Legal.and_eq (h.legal.legal CsrAddr.sepc)) fun _ _ => rfl
  · exact lawful_value ha (ha.stored (by decide) (by decide)) CSRFile.legalizeSatp
      (fun _ _ => rfl) fun _ => legalizeSatp_self _

/-! ## The aliases -/

/-- A write of sstatus shows its five bits and changes no other of mstatus. -/
structure SstatusView (config : CPUConfig) (f : CSRFile) (v : Word) : Prop where
  read : (f.write CsrAddr.sstatus v).read CsrAddr.sstatus =
    (v &&& CSRFile.sstatusWriteMask &&& legalMaskOf config) ||| hardwiredOf config
  others : (f.write CsrAddr.sstatus v).get CsrAddr.mstatus &&& ~~~CSRFile.sstatusWriteMask =
    f.get CsrAddr.mstatus &&& ~~~CSRFile.sstatusWriteMask

/-- A write of sie shows its delegated bits and changes no other of mie. -/
structure SieView (f : CSRFile) (v : Word) : Prop where
  read : (f.write CsrAddr.sie v).read CsrAddr.sie = v &&& f.get CsrAddr.mideleg
  others : (f.write CsrAddr.sie v).get CsrAddr.mie &&& ~~~f.get CsrAddr.mideleg =
    f.get CsrAddr.mie &&& ~~~f.get CsrAddr.mideleg

/-- A write of sip changes SSIP of mip at most, if it is delegated. -/
structure SipView (f : CSRFile) (v : Word) : Prop where
  mip : (f.write CsrAddr.sip v).get CsrAddr.mip &&&
      ~~~(CSRFile.miSsi &&& f.get CsrAddr.mideleg) =
    f.get CsrAddr.mip &&& ~~~(CSRFile.miSsi &&& f.get CsrAddr.mideleg)
  others : ∀ b, b ≠ CsrAddr.mip → (f.write CsrAddr.sip v).csrs b = f.csrs b

/-- fcsr is frm and fflags side by side. -/
structure FcsrView (f : CSRFile) (v : Word) : Prop where
  parts : (f.read CsrAddr.fcsr).toNat =
    (f.read CsrAddr.frm).toNat * 32 + (f.read CsrAddr.fflags).toNat
  frm : (f.write CsrAddr.fflags v).read CsrAddr.frm = f.read CsrAddr.frm
  fflags : (f.write CsrAddr.frm v).read CsrAddr.fflags = f.read CsrAddr.fflags

theorem sstatusView (h : CsrLegal config f) (v : Word) : SstatusView config f v where
  read := by
    have hrest : ∀ s u, Within (CSRFile.sstatusReadMask &&& ~~~CSRFile.sstatusWriteMask)
        (~~~(legalMaskWith s u)) := by decide
    have hhard : ∀ f, Within (hardwiredWith f) CSRFile.sstatusReadMask := by decide
    show f.legalizeSstatus v &&& CSRFile.sstatusReadMask = _
    unfold CSRFile.legalizeSstatus
    rw [h.legalMask, h.hardwired]
    exact view_read _ v (by decide) (hhard _) (hrest _ _) (by decide)
  others := legalizeSstatus_agree h v

theorem sieView (h : CsrLegal config f) (hs : config.enableSMode = true) (v : Word) :
    SieView f v := by
  have hget : (f.write CsrAddr.sie v).get CsrAddr.mie =
      (f.get CsrAddr.mie &&& ~~~f.get CsrAddr.mideleg) ||| (v &&& f.get CsrAddr.mideleg) := by
    rw [h.write_sie hs, CSRFile.get_set_same]
  have hmideleg : (f.write CsrAddr.sie v).get CsrAddr.mideleg = f.get CsrAddr.mideleg := by
    rw [h.write_sie hs, CSRFile.get_set_ne _ _ (by decide)]
  refine ⟨?_, ?_⟩
  · show (f.write CsrAddr.sie v).get CsrAddr.mie &&& (f.write CsrAddr.sie v).get CsrAddr.mideleg = _
    rw [hget, hmideleg]
    exact merge_read _ _ _
  · rw [hget]
    exact agree_merge _ _ (Within.refl _)

theorem sipView (h : CsrLegal config f) (hs : config.enableSMode = true) (v : Word) :
    SipView f v where
  mip := by
    rw [h.write_sip hs, CSRFile.get_set_same]
    exact agree_merge _ _ (Within.refl _)
  others b hb := write_csrs_ne f v hb

theorem fcsrView (h : CsrLegal config f) (v : Word) : FcsrView f v where
  parts := by
    show (f.get CsrAddr.fcsr).toNat = ((f.get CsrAddr.fcsr >>> 5) &&& 0x7).toNat * 32 +
      (f.get CsrAddr.fcsr &&& 0x1F).toNat
    -- a legal word has eight bits: three of frm over five of fflags
    have hlt : (f.get CsrAddr.fcsr).toNat < 256 := by
      rw [← h.fcsr.and_eq, BitVec.toNat_and]
      exact Nat.and_lt_two_pow _ (by decide : (0xFF : Nat) < 2 ^ 8)
    have hhigh : ((f.get CsrAddr.fcsr >>> 5) &&& 0x7).toNat = (f.get CsrAddr.fcsr).toNat / 32 % 8 := by
      rw [BitVec.toNat_and, BitVec.toNat_ushiftRight, Nat.shiftRight_eq_div_pow]
      exact Nat.and_two_pow_sub_one_eq_mod _ 3
    have hlow : (f.get CsrAddr.fcsr &&& 0x1F).toNat = (f.get CsrAddr.fcsr).toNat % 32 := by
      rw [BitVec.toNat_and]
      exact Nat.and_two_pow_sub_one_eq_mod _ 5
    omega
  frm := by
    have hfield : ∀ x : Word, (x >>> 5) &&& (0x7 : Word) = (x &&& 0xE0) >>> 5 := by
      intro x
      rw [BitVec.ushiftRight_and_distrib]
      rfl
    show (((f.get CsrAddr.fcsr &&& ~~~(0x1F : Word)) ||| (v &&& 0x1F)) >>> 5) &&& (0x7 : Word) =
      (f.get CsrAddr.fcsr >>> 5) &&& (0x7 : Word)
    rw [hfield, hfield, (agree_merge (f.get CsrAddr.fcsr) v (Within.refl 0x1F)).field (by decide)]
  fflags := by
    have hmask : ((0x7 : Word) <<< 5) = 0xE0 := rfl
    show ((f.get CsrAddr.fcsr &&& ~~~(0xE0 : Word)) ||| ((v &&& 0x7) <<< 5)) &&& 0x1F =
      f.get CsrAddr.fcsr &&& 0x1F
    rw [BitVec.shiftLeft_and_distrib, hmask]
    exact (agree_merge _ _ (Within.refl 0xE0)).field (by decide)

end

/-! ## Every run -/

/-- With U-mode whenever there is S-mode, a run stays within the implemented modes. -/
theorem Reachable.modesImplemented [Rv32f.HostFloat] {config : CPUConfig}
    (hmodes : config.enableSMode = true → config.enableUMode = true) {cpu : CPU}
    (h : Reachable config cpu) : ModesImplemented config cpu.csrs := by
  have hinv := Run.Machine.Reachable.invariant (M := machine config)
    (P := fun cpu => cpu.WellFormed config ∧ ModesImplemented config cpu.csrs)
    ⟨CPU.wellFormed_reset { config := config }, .reset _ config⟩ (fun cpu a _ hcpu => by
      refine ⟨hcpu.1.act a, hcpu.2.act hcpu.1 a fun hbad => ?_⟩
      cases a with
      | line line level => exact hbad
      | reset => exact hbad
      | step bus stim =>
        obtain ⟨hs, hu, -⟩ := hbad
        rw [hcpu.1.config_eq] at hs hu
        exact absurd ((hmodes hs).symm.trans hu) (by decide)) h
  exact hinv.2

/-- **CSR views.** In every state of every run of a configuration with U-mode whenever
there is S-mode, each CSR outside the read-only addresses is lawful: writing back what
was read changes nothing, also right after a write, and a repeated write adds nothing.
The aliases show and change their own parts of the registers they view. -/
theorem csr_views_run [Rv32f.HostFloat] (config : CPUConfig)
    (hmodes : config.enableSMode = true → config.enableUMode = true) (actions : List Action) :
    let f := ((machine config).run (CPU.new config) actions).csrs
    (∀ a, f.exists' a = true → ¬csrReadOnly a → f.write a (f.read a) = f ∧
      ∀ v, (f.write a v).write a ((f.write a v).read a) = f.write a v ∧
        (f.write a v).write a v = f.write a v) ∧
    (config.enableSMode = true → ∀ v, SstatusView config f v ∧ SieView f v ∧ SipView f v) ∧
    ∀ v, FcsrView f v := by
  intro f
  have hreach : Reachable config ((machine config).run (CPU.new config) actions) := ⟨actions, rfl⟩
  have hlegal : CsrLegal config f := hreach.wellFormed.legal
  have hstate : ViewState config f := ⟨hlegal, (hreach.modesImplemented hmodes).previous⟩
  refine ⟨fun a hex ha => ?_, fun hs v => ?_, fun v => fcsrView hlegal v⟩
  · have hlaws := lawful_csr ⟨(hlegal.exists_eq_hasCsr a).symm.trans hex, ha⟩
    exact ⟨hlaws.write_read hstate, fun v => ⟨hlaws.settled hstate v, hlaws.write_write hstate v⟩⟩
  · exact ⟨sstatusView hlegal v, sieView hlegal hs v, sipView hlegal hs v⟩

/-- A fresh CPU with all modes. -/
theorem csr_views_run_sstatus :
    let _ := Rv32f.nanHost
    let f := (CPU.new { enableSMode := true, enableUMode := true }).csrs
    SstatusView { enableSMode := true, enableUMode := true } f 0xFFFFFFFF ∧
      (f.write CsrAddr.sstatus 0xFFFFFFFF).read CsrAddr.sstatus = 0x800C6122 := by
  intro _ f
  have h := csr_views_run { enableSMode := true, enableUMode := true } (fun _ => rfl) []
  have hview := (h.2.1 rfl 0xFFFFFFFF).1
  exact ⟨hview, hview.read.trans (by decide)⟩

end Riscv

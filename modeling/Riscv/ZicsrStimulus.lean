import Mathlib.Data.List.GetD
import Riscv.CsrAccess
import Riscv.EnableMask
import Riscv.OpgenCodec

/- The stimulus of the Zicsr generator.

   With flags that match the configuration, the pools of the generator hold the CSRs of the
   CSR file and no others, and what it may write is not read-only. In M-mode that is all an
   access needs; a CSR instruction leaves the privilege as it is, and an interrupt taken in
   M-mode is taken to M-mode. So the hart stays there, whatever the instructions write. -/
namespace Riscv.Zicsr.Opgen

open Sample Riscv.Opgen RNG Encoding

/-! ## The pools -/

/-- The flags that `set_s_mode` and `set_u_mode` set to match a configuration. -/
def RNG.matching (config : CPUConfig) : RNG := ⟨config.enableSMode, config.enableUMode⟩

/-- The three writable pools, as far as they count. -/
def writablePool (rng : RNG) : List Word :=
  wrBase ++ ((if rng.sMode || rng.uMode then wrDeleg else []) ++
    if rng.sMode then wrSmode else [])

theorem length_writablePool (rng : RNG) : (writablePool rng).length =
    wrBase.length + (if rng.sMode || rng.uMode then wrDeleg.length else 0) +
      if rng.sMode then wrSmode.length else 0 := by
  rw [writablePool, List.length_append, List.length_append, apply_ite List.length,
    apply_ite List.length, Nat.add_assoc]
  rfl

theorem length_writablePool_lt (rng : RNG) : (writablePool rng).length < 2 ^ 32 := by
  have hmax : wrBase.length + wrDeleg.length + wrSmode.length < 2 ^ 32 := by decide
  rw [length_writablePool]
  split <;> split <;> omega

theorem draws_index {n k : Nat} (hk : k < n) (hn : n < 2 ^ 32) :
    ∃ idx, (range 0 (n - 1)).Reads [k] idx ∧ idx.toNat = k := by
  refine ⟨_, uniformWord_reads (by omega), ?_⟩
  rw [BitVec.toNat_ofNat, Nat.zero_add, Nat.mod_eq_of_lt (by omega)]

/-- The address `writable_csr` finds at an index is that of the pools put together. -/
theorem getD_writablePool {rng : RNG} {idx : Nat} (hidx : idx < (writablePool rng).length) :
    (let nBase := wrBase.length
    let nDeleg := if rng.sMode || rng.uMode then wrDeleg.length else 0
    if idx < nBase then wrBase.getD idx 0
    else if idx - nBase < nDeleg then wrDeleg.getD (idx - nBase) 0
    else wrSmode.getD (idx - nBase - nDeleg) 0) = (writablePool rng).getD idx 0 := by
  rw [length_writablePool] at hidx
  dsimp only
  unfold writablePool
  -- the index falls into the base pool, the delegation pool or the pool of S
  by_cases hbase : idx < wrBase.length
  · rw [if_pos hbase, List.getD_append _ _ _ _ hbase]
  rw [if_neg hbase, List.getD_append_right _ _ _ _ (by omega)]
  by_cases hdeleg : rng.sMode || rng.uMode
  · rw [if_pos hdeleg] at hidx
    rw [if_pos hdeleg, if_pos hdeleg]
    by_cases hlow : idx - wrBase.length < wrDeleg.length
    · rw [if_pos hlow, List.getD_append _ _ _ _ hlow]
    · rw [if_neg hlow, List.getD_append_right _ _ _ _ (by omega)]
      by_cases hsmode : rng.sMode
      · rw [if_pos hsmode]
      · rw [if_neg hsmode] at hidx
        omega
  · -- without a delegation there is no S-mode, and the base pool is all
    have hsmode : ¬rng.sMode = true := fun h => hdeleg (by rw [h, Bool.true_or])
    rw [if_neg hdeleg, if_neg hsmode] at hidx
    omega

/-- What `writable_csr` gives is in the pools. -/
theorem writableCsr_yields (rng : RNG) : rng.writableCsr.Yields fun a => a ∈ writablePool rng := by
  have hpos : 0 < wrBase.length := by decide
  have hlen := length_writablePool rng
  have hsmall := length_writablePool_lt rng
  refine .bind (uniformWord_yields (Nat.zero_le _) (by rw [← hlen]; omega)) fun idx hidx => .pure ?_
  have hlt : idx.toNat < (writablePool rng).length := by
    rw [hlen]
    omega
  have hget := getD_writablePool hlt
  dsimp only at hget
  rw [hget, List.getD_eq_getElem _ _ hlt]
  exact List.getElem_mem hlt

/-- Every address of the pools is given by the draw of its index. -/
theorem writableCsr_reads {rng : RNG} {a : Word} (ha : a ∈ writablePool rng) :
    ∃ k, rng.writableCsr.Reads [k] a := by
  obtain ⟨k, hk, rfl⟩ := List.getElem_of_mem ha
  obtain ⟨idx, hreads, rfl⟩ := draws_index hk (length_writablePool_lt rng)
  have hget := getD_writablePool hk
  rw [List.getD_eq_getElem _ _ hk] at hget
  rw [length_writablePool] at hreads
  refine ⟨idx.toNat, ?_⟩
  rw [← hget]
  exact hreads.bind (.pure _)

theorem readonlyCsr_yields : readonlyCsr.Yields fun a => a ∈ roPool := by
  refine .bind (uniformWord_yields (Nat.zero_le _) (by decide)) fun idx hidx => .pure ?_
  have hlt : idx.toNat < roPool.length := Nat.lt_of_le_of_lt hidx.2 (by decide)
  rw [List.getD_eq_getElem _ _ hlt]
  exact List.getElem_mem hlt

theorem readonlyCsr_reads {a : Word} (ha : a ∈ roPool) : ∃ k, readonlyCsr.Reads [k] a := by
  obtain ⟨k, hk, rfl⟩ := List.getElem_of_mem ha
  obtain ⟨idx, hreads, rfl⟩ := draws_index hk (by decide)
  refine ⟨idx.toNat, ?_⟩
  rw [← List.getD_eq_getElem _ 0 hk]
  exact hreads.bind (.pure _)

theorem csr_yields (rng : RNG) : rng.csr.Yields fun a => a ∈ writablePool rng ++ roPool :=
  .bind .any fun _ _ => .ite
    (fun _ => (writableCsr_yields rng).mono fun _ h => List.mem_append_left _ h)
    fun _ => readonlyCsr_yields.mono fun _ h => List.mem_append_right _ h

/-- Every address of all the pools is given by two draws. -/
theorem csr_reads {rng : RNG} {a : Word} (ha : a ∈ writablePool rng ++ roPool) :
    ∃ draws, rng.csr.Reads draws a := by
  rcases List.mem_append.mp ha with hwritable | hreadonly
  · obtain ⟨k, hk⟩ := writableCsr_reads hwritable
    have hcoin : RNG.chance.Reads [1] true := fun _ => rfl
    exact ⟨_, hcoin.bind hk⟩
  · obtain ⟨k, hk⟩ := readonlyCsr_reads hreadonly
    have hcoin : RNG.chance.Reads [0] false := fun _ => rfl
    exact ⟨_, hcoin.bind hk⟩

/-! ## The pools and the CSR file -/

section
variable {config : CPUConfig}

/-- With F on, existence is a matter of the two modes. -/
theorem hasCsr_modes (hf : config.enableFExtension = true) (a : BitVec 16) : config.hasCsr a =
    CPUConfig.hasCsr { enableSMode := config.enableSMode, enableUMode := config.enableUMode } a := by
  unfold CPUConfig.hasCsr
  rw [hf]
  rfl

/-- A CSR the configuration has, at an address that fits the field of an instruction. -/
structure Present (config : CPUConfig) (a : Word) : Prop where
  exists' : config.hasCsr (u16 a) = true
  fits : (a.setWidth 12).setWidth 32 = a

/-- The pools hold CSRs of the configuration only, -/
theorem pools_present (hf : config.enableFExtension = true) :
    ∀ a ∈ writablePool (.matching config) ++ roPool, Present config a := by
  have hall : ∀ s u, (writablePool ⟨s, u⟩ ++ roPool).all (fun a =>
      CPUConfig.hasCsr { enableSMode := s, enableUMode := u } (u16 a) &&
        decide ((a.setWidth 12).setWidth 32 = a)) = true := by decide
  intro a ha
  have hpresent := List.all_eq_true.mp (hall _ _) a ha
  rw [Bool.and_eq_true, ← hasCsr_modes hf, decide_eq_true_eq] at hpresent
  exact ⟨hpresent.1, hpresent.2⟩

/-- those to write none that is read-only, -/
theorem writablePool_writable {rng : RNG} : ∀ a ∈ writablePool rng, ¬csrReadOnly (u16 a) := by
  have hall : ∀ s u, (writablePool ⟨s, u⟩).all
      (fun a => decide ((u16 a).extractLsb' 10 2 ≠ 3)) = true := by decide
  intro a ha
  have hfield := List.all_eq_true.mp (hall rng.sMode rng.uMode) a ha
  rw [decide_eq_true_eq] at hfield
  exact hfield

/-- The user counters, one after the other. -/
def userCounters : List (BitVec 16) :=
  [CsrAddr.cycle, CsrAddr.cycleh, CsrAddr.time, CsrAddr.timeh, CsrAddr.instret, CsrAddr.instreth]

/-- The CSRs of a configuration with F. -/
def csrsWith (sMode uMode : Bool) : List (BitVec 16) :=
  [CsrAddr.fflags, CsrAddr.frm, CsrAddr.fcsr] ++ userCounters ++ machineCsrs ++
    (if sMode || uMode then delegationCsrs else []) ++ if sMode then supervisorCsrs else []

theorem mem_of_counterBit {a : BitVec 16} (ha : (counterBit a).isSome = true) :
    a ∈ userCounters := by
  unfold counterBit at ha
  split at ha
  · rcases ‹_ ∨ _› with rfl | rfl <;> simp [userCounters]
  split at ha
  · rcases ‹_ ∨ _› with rfl | rfl <;> simp [userCounters]
  split at ha
  · rcases ‹_ ∨ _› with rfl | rfl <;> simp [userCounters]
  · cases ha

theorem mem_csrsWith {a : BitVec 16} (ha : config.hasCsr a = true) :
    a ∈ csrsWith config.enableSMode config.enableUMode := by
  unfold CPUConfig.hasCsr stored at ha
  unfold csrsWith
  split at ha
  · rename_i hfcsr
    rcases hfcsr with rfl | rfl | rfl <;> simp
  · simp only [Bool.or_eq_true, Bool.and_eq_true, decide_eq_true_eq] at ha
    rcases ha with hcounter | (hmachine | ⟨hmodes, hdeleg⟩) | ⟨hmode, hsuper⟩
    · simp [mem_of_counterBit hcounter]
    · simp [hmachine]
    · have hon : (config.enableSMode || config.enableUMode) = true := by simpa using hmodes
      simp [hon, hdeleg]
    · simp [hmode, hsuper]

/-- and together they hold every CSR. -/
theorem exists_mem_pools {a : BitVec 16} (ha : config.hasCsr a = true) :
    ∃ c ∈ writablePool (.matching config) ++ roPool, u16 c = a := by
  have hall : ∀ s u, (csrsWith s u).all (fun a =>
      (writablePool ⟨s, u⟩ ++ roPool).any fun c => decide (u16 c = a)) = true := by decide
  have hany := List.all_eq_true.mp (hall _ _) a (mem_csrsWith ha)
  obtain ⟨c, hc, heq⟩ := List.any_eq_true.mp hany
  exact ⟨c, hc, of_decide_eq_true heq⟩

/-! ## The words -/

/-- A CSR instruction that is legal in M-mode. -/
structure Harmless (config : CPUConfig) (w : Word) : Prop where
  wide : w &&& 0x3 = 0x3
  decodes : (Zicsr.decode w).type ≠ .illegal
  present : config.hasCsr (Zicsr.decode w).csr = true
  writable : willWrite (Zicsr.decode w) = true → ¬csrReadOnly (Zicsr.decode w).csr

theorem encodeCsr_eq (csr src funct3 rd : Word) : encodeCsr csr src funct3 rd =
    iType (csr.setWidth 12) (src.setWidth 5) (funct3.setWidth 3) (rd.setWidth 5) 0b1110011 :=
  Rv32i.Opgen.encodeIType_eq csr src funct3 rd 0b1110011

theorem decode_encodeCsr (csr src funct3 rd : Word) :
    (Zicsr.decode (encodeCsr csr src funct3 rd)).csr = u16 ((csr.setWidth 12).setWidth 32) ∧
      (Zicsr.decode (encodeCsr csr src funct3 rd)).rs1 = u8 ((src.setWidth 5).setWidth 32) := by
  rw [encodeCsr_eq, iType]
  unfold Zicsr.decode
  simp only [apply_ite DecodedCSRInstr.csr, apply_ite DecodedCSRInstr.rs1, ite_self, bits_hi,
    bits_rs1, and_self]

/-- The type of each function code of the generators. -/
def codeTypes : List (Word × CSRInstrType) :=
  [(0b001, .csrrw), (0b010, .csrrs), (0b011, .csrrc), (0b101, .csrrwi), (0b110, .csrrsi),
    (0b111, .csrrci)]

theorem decode_encodeCsr_type (csr src rd : Word) : ∀ code ∈ codeTypes,
    (Zicsr.decode (encodeCsr csr src code.1 rd)).type = code.2 := by
  intro code
  rw [encodeCsr_eq, iType]
  unfold Zicsr.decode
  simp only [bits_op, bits_funct3, apply_ite DecodedCSRInstr.type]
  revert code
  decide

theorem wide_encodeCsr (csr src funct3 rd : Word) :
    encodeCsr csr src funct3 rd &&& 0x3 = 0x3 := by
  rw [op_and_three, encodeCsr_eq, iType, bits_op]
  decide

/-- Whether a form may write nothing. -/
def setOrClear (type : CSRInstrType) : Prop :=
  type = .csrrs ∨ type = .csrrc ∨ type = .csrrsi ∨ type = .csrrci

/-- A set or clear form writes nothing where its source field is 0. -/
theorem willWrite_setClear {d : DecodedCSRInstr} (hform : setOrClear d.type) (hrs1 : d.rs1 = 0) :
    willWrite d = false := by
  unfold willWrite DecodedCSRInstr.uimm
  rw [hrs1]
  rcases hform with h | h | h | h <;> rw [h] <;> rfl

theorem harmless_encodeCsr {csr src : Word} {code : Word × CSRInstrType} (rd : Word)
    (hcsr : Present config csr) (hcode : code ∈ codeTypes)
    (hwritable : ¬csrReadOnly (u16 csr) ∨ (src = 0 ∧ setOrClear code.2)) :
    Harmless config (encodeCsr csr src code.1 rd) := by
  have htype := decode_encodeCsr_type csr src rd code hcode
  obtain ⟨haddr, hsource⟩ := decode_encodeCsr csr src code.1 rd
  rw [hcsr.fits] at haddr
  refine ⟨wide_encodeCsr csr src code.1 rd, ?_, ?_, ?_⟩
  · have hlegal : ∀ code ∈ codeTypes, code.2 ≠ .illegal := by decide
    rw [htype]
    exact hlegal code hcode
  · rw [haddr]
    exact hcsr.exists'
  · intro hwrites
    rw [haddr]
    rcases hwritable with hwritable | ⟨rfl, hform⟩
    · exact hwritable
    · rw [willWrite_setClear (htype ▸ hform) hsource] at hwrites
      cases hwrites

/-! ## The generators -/

variable (hf : config.enableFExtension = true)

include hf

theorem genWrite_harmless (code : Word × CSRInstrType) (hcode : code ∈ codeTypes)
    (source : Gen Word) :
    (genWrite code.1 source (.matching config)).Yields (Harmless config) := by
  refine .bind (writableCsr_yields _) fun csr hcsr => .bind .any fun src _ => .bind .any
    fun rd _ => .pure ?_
  have hpresent := pools_present hf csr (List.mem_append_left _ hcsr)
  exact harmless_encodeCsr rd hpresent hcode (.inl (writablePool_writable csr hcsr))

theorem genSetClear_harmless (code : Word × CSRInstrType) (hcode : code ∈ codeTypes)
    (hform : setOrClear code.2) (source : Gen Word) :
    (genSetClear code.1 source (.matching config)).Yields (Harmless config) := by
  refine .bind .any fun zero _ => .bind .any fun src _ => ?_
  have hcsr : (if src = 0 then (RNG.matching config).csr
      else (RNG.matching config).writableCsr).Yields fun csr =>
        csr ∈ writablePool (.matching config) ++ roPool ∧
          (¬csrReadOnly (u16 csr) ∨ (src = 0 ∧ setOrClear code.2)) := by
    refine .ite (fun hzero => ?_) fun _ => ?_
    · exact (csr_yields _).mono fun _ h => ⟨h, .inr ⟨hzero, hform⟩⟩
    · exact (writableCsr_yields _).mono fun csr h =>
        ⟨List.mem_append_left _ h, .inl (writablePool_writable csr h)⟩
  refine .bind hcsr fun csr h => .bind .any fun rd _ => .pure ?_
  exact harmless_encodeCsr rd (pools_present hf csr h.1) hcode h.2

theorem generate_harmless (type : InstrType) :
    (generate (.matching config) type).Yields (Harmless config) := by
  cases type with
  | csrrw => exact genWrite_harmless hf (0b001, .csrrw) (by decide) reg
  | csrrs => exact genSetClear_harmless hf (0b010, .csrrs) (by decide) (.inl rfl) reg
  | csrrc =>
    exact genSetClear_harmless hf (0b011, .csrrc) (by decide) (.inr (.inl rfl)) reg
  | csrrwi => exact genWrite_harmless hf (0b101, .csrrwi) (by decide) uimm5
  | csrrsi =>
    exact genSetClear_harmless hf (0b110, .csrrsi) (by decide) (.inr (.inr (.inl rfl)))
      uimm5
  | csrrci =>
    exact genSetClear_harmless hf (0b111, .csrrci) (by decide) (.inr (.inr (.inr rfl)))
      uimm5

/-- Every CSR is in some instruction of the default generator. -/
theorem exists_generated {a : BitVec 16} (ha : config.hasCsr a = true) :
    ∃ w, ((maskedClass (.matching config)).generateRandom groupsAll).Gives w ∧
      (Zicsr.decode w).csr = a := by
  obtain ⟨c, hc, rfl⟩ := exists_mem_pools ha
  obtain ⟨draws, hdraws⟩ := csr_reads hc
  -- CSRRS with a source that is 0 by chance
  have hcoin : RNG.chance.Reads [1] true := fun _ => rfl
  have hrd : reg.Reads [0] 0 := uniformWord_reads (by decide)
  have hreads : (genCsrrs (.matching config)).Reads ([1] ++ ([] ++ (draws ++ ([0] ++ []))))
      (encodeCsr c 0 0b010 0) :=
    hcoin.bind (.bind (.pure 0) (hdraws.bind (hrd.bind (.pure _))))
  refine ⟨encodeCsr c 0 0b010 0, ?_, ?_⟩
  · have hgives : (genCsrrs (.matching config)).Gives (encodeCsr c 0 0b010 0) :=
      ⟨_, [], hreads []⟩
    have hon : (MaskedClass.effective groupsAll).getLsbD InstrType.csrrs.ctorIdx = true := by decide
    exact MaskedClass.gives_of_on (c := maskedClass (.matching config)) (t := InstrType.csrrs) hon
      hgives
  · rw [(decode_encodeCsr c 0 0b010 0).1, (pools_present hf c hc).fits]

end

/-! ## Runs -/

/-- An outcome of the generator: of a form, or of `generate_random` with any mask. -/
def Generated (rng : RNG) (w : Word) : Prop :=
  (∃ type, (generate rng type).Gives w) ∨
    ∃ enabled, ((maskedClass rng).generateRandom enabled).Gives w

/-- What happens in a run that injects generated instructions only. -/
inductive Drives (rng : RNG) : Action → Prop
  | inject {β : Type} [Bus β] (bus : β) {w : Word} (h : Generated rng w) :
    Drives rng (.step bus (.inject w))
  | line (line : InterruptLine) (level : Bool) : Drives rng (.line line level)
  | reset : Drives rng .reset

section
variable {config : CPUConfig} {cpu : CPU}

theorem Generated.harmless (hf : config.enableFExtension = true) {w : Word}
    (h : Generated (.matching config) w) : Harmless config w := by
  rcases h with ⟨type, hgives⟩ | ⟨enabled, hgives⟩
  · exact hgives.holds (generate_harmless hf type)
  · obtain ⟨type, -, hgives'⟩ := hgives.holds MaskedClass.generateRandom_yields
    exact hgives'.holds (generate_harmless hf type)

theorem Harmless.permits (hwell : cpu.WellFormed config)
    (hpriv : cpu.csrs.currentPrivilege = .machine) {w : Word} (h : Harmless config w) :
    cpu.permits (Zicsr.decode w) = true := by
  refine Bool.eq_true_of_not_eq_false fun hrefused => ?_
  cases (permits_eq_false hwell _).mp hrefused with
  | absent habsent =>
    rw [hwell.config_eq, h.present] at habsent
    cases habsent
  | privilege hbelow =>
    rw [hpriv] at hbelow
    exact absurd (csrPrivilege (Zicsr.decode w).csr).isLt (Nat.not_lt.mpr hbelow)
  | counter _ below _ => exact below hpriv
  | readOnly writes hreadOnly => exact h.writable writes hreadOnly
  | satp _ priv _ =>
    rw [hpriv] at priv
    cases priv

variable [Rv32f.HostFloat]

/-- The step lemma: a harmless word, or an interrupt in its place, keeps the hart in
M-mode. -/
theorem Harmless.step (hwell : cpu.WellFormed config) (hz : config.enableZicsr = true)
    (hpriv : cpu.csrs.currentPrivilege = .machine) {w : Word} (h : Harmless config w) {β : Type}
    [Bus β] (bus : β) : (cpu.stepOn bus (.inject w)).1.trap = false ∧
      (cpu.stepOn bus (.inject w)).2.1.csrs.currentPrivilege = .machine := by
  cases hselected : cpu.selected with
  | some c =>
    have hstep := interruptStep hwell hselected
    obtain ⟨csrs, hentered, hcsrs⟩ := hstep.entered
    -- M delegates nothing that is taken while the hart is in M
    have htarget : cpu.interruptTarget c = .machine := by
      rcases CPU.trapTarget_selected hselected with hm | ⟨-, -, hbelow⟩
      · exact hm
      · exact absurd hpriv hbelow
    rw [CPU.stepOn_interrupt hselected]
    refine ⟨hstep.trap, ?_⟩
    rw [hcsrs, ← htarget]
    exact hentered.privilege
  | none =>
    have henabled : cpu.config.enables .zicsr = true := hwell.config_eq ▸ hz
    have hd : cpu.csrInstr bus (.inject w) = some (Zicsr.decode w) :=
      csrInstr_of_accepts hselected rfl henabled (accepts_zicsr cpu.config h.wide h.decodes)
    have hpermits := h.permits hwell hpriv
    cases csr_outcome_some hwell hd with
    | trap _ denied _ => exact absurd hpermits (by rw [(denied _ hd).1]; decide)
    | csr _ htrap _ done =>
      refine ⟨htrap, ?_⟩
      rw [done.csrs, countStep_currentPrivilege]
      split
      · rw [write_currentPrivilege]
        exact hpriv
      · exact hpriv
    | quiet executes _ _ _ _ =>
      rw [hd] at executes
      cases executes

/-- What a run that injects generated instructions keeps. -/
theorem Drives.preserves (hz : config.enableZicsr = true) (hf : config.enableFExtension = true)
    {action : Action} (h : Drives (.matching config) action)
    (hs : cpu.WellFormed config ∧ cpu.csrs.currentPrivilege = .machine) :
    (cpu.act action).WellFormed config ∧ (cpu.act action).csrs.currentPrivilege = .machine := by
  refine ⟨hs.1.act action, ?_⟩
  cases h with
  | inject bus hw => exact ((hw.harmless hf).step hs.1 hz hs.2 bus).2
  | line line level => cases line <;> exact hs.2
  | reset =>
    show (CPU.resetCsrs cpu.csrs cpu.config).currentPrivilege = .machine
    simp

/-- **Zicsr stimulus is trap-free and complete.** With Zicsr and F on and flags that match
the configuration, a run from reset that injects generated instructions, whatever the
interrupt lines do, stays in M-mode, and no step of it reports an exception; and every CSR
there is comes out of the generator. -/
theorem zicsr_stimulus_run (config : CPUConfig) (hz : config.enableZicsr = true)
    (hf : config.enableFExtension = true) (actions : List Action)
    (hall : ∀ action ∈ actions, Drives (.matching config) action) :
    let cpu := (machine config).run (CPU.new config) actions
    cpu.csrs.currentPrivilege = .machine ∧
      (∀ {β : Type} [Bus β] (bus : β) {w : Word}, Generated (.matching config) w →
        (cpu.stepOn bus (.inject w)).1.trap = false) ∧
      ∀ a, cpu.csrs.exists' a = true →
        ∃ w, ((maskedClass (.matching config)).generateRandom groupsAll).Gives w ∧
          (Zicsr.decode w).csr = a := by
  intro cpu
  have halong : (machine config).Along (fun _ action => Drives (.matching config) action)
      (CPU.new config) actions := by
    refine Run.Machine.along_iff.mpr ?_
    rintro pre action post rfl
    exact hall action (by simp)
  have hstart : (CPU.new config).WellFormed config ∧
      (CPU.new config).csrs.currentPrivilege = .machine :=
    ⟨Reachable.wellFormed Run.Machine.Reachable.start, by
      show (CPU.resetCsrs _ config).currentPrivilege = .machine
      simp⟩
  -- the generated words never leave M, which is where every one of them is permitted
  obtain ⟨hwell, hpriv⟩ := halong.preserves
    (P := fun cpu => cpu.WellFormed config ∧ cpu.csrs.currentPrivilege = .machine)
    (fun _ _ hs hdrives => hdrives.preserves hz hf hs) hstart
  refine ⟨hpriv, fun bus w hw => ((hw.harmless hf).step hwell hz hpriv bus).1, fun a ha => ?_⟩
  rw [hwell.legal.exists_eq_hasCsr] at ha
  exact exists_generated hf ha

end

/-- With S- and U-mode: a run writes stvec from an immediate and raises the timer line. The
next word, which writes `x0` to mstatus, is executed, and satp comes out of the generator. -/
theorem zicsr_stimulus_run_stvec :
    let _ := Rv32f.nanHost
    let mem := SimpleMemory.new 0
    let config : CPUConfig := { enableSMode := true, enableUMode := true }
    let cpu := (machine config).run (CPU.new config)
      [.step mem (.inject 0x10525073), .line .timer true]
    cpu.csrs.get CsrAddr.stvec = 4 ∧ cpu.csrs.currentPrivilege = .machine ∧
      (cpu.stepOn mem (.inject 0x30001073)).1.trap = false ∧
      ∃ w, ((maskedClass (.matching config)).generateRandom groupsAll).Gives w ∧
        (Zicsr.decode w).csr = CsrAddr.satp := by
  intro _ mem config cpu
  have hstvec : Generated (.matching config) 0x10525073 :=
    .inl ⟨.csrrwi, [23, 4, 0], [], by decide⟩
  have hmstatus : Generated (.matching config) 0x30001073 :=
    .inl ⟨.csrrw, [3, 0, 0], [], by decide⟩
  have hrun := zicsr_stimulus_run config rfl rfl
    [.step mem (.inject 0x10525073), .line .timer true] fun action haction => by
      simp only [List.mem_cons, List.not_mem_nil, or_false] at haction
      rcases haction with rfl | rfl
      · exact .inject _ hstvec
      · exact .line _ _
  exact ⟨by decide, hrun.1, hrun.2.1 mem hmstatus, hrun.2.2 CsrAddr.satp (by decide)⟩

end Riscv.Zicsr.Opgen

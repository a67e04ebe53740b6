import Mathlib.Algebra.Group.Nat.Defs
import Riscv.CsrAccess
import Riscv.IllegalOpgen
import Riscv.ReservedFields

/- The illegal-opcode generator against the CPU.

   The 32-bit classes build words of the R format, or of one that is the R format in
   disguise; the fields they draw are among the reserved ones, which is a finite check
   for each class. The compressed classes build parcels that abbreviate nothing, and one
   class names CSRs that do not exist. Whatever a class yields, the step that is given it
   traps as an illegal instruction and changes nothing else. -/
namespace Riscv.IllegalOpgen

open Sample RNG Encoding

/-! ## Packed words -/

/-- The low bits of an argument, as the decoders read them back. -/
def low (n : Nat) (v : Word) : BitVec 8 := (v.setWidth n).setWidth 8

theorem low_lt {n N : Nat} (hN : 2 ^ n = N) (v : Word) : (low n v).toNat < N := by
  subst hN
  unfold low
  rw [BitVec.toNat_setWidth]
  exact Nat.lt_of_le_of_lt (Nat.mod_le _ _) (v.setWidth n).isLt

theorem setWidth_low {n : Nat} (hn : n ≤ 8) (v : Word) : (low n v).setWidth n = v.setWidth n := by
  unfold low
  rw [BitVec.setWidth_setWidth_of_le _ hn, BitVec.setWidth_eq]

section Pack
variable (f7 rs2 rs1 f3 rd op imm : Word)

theorem mask3 (v : Word) : v &&& 0x7 = (v.setWidth 3).setWidth 32 :=
  BitVec.and_low v 3 (by decide)

theorem mask5 (v : Word) : v &&& 0x1F = (v.setWidth 5).setWidth 32 :=
  BitVec.and_low v 5 (by decide)

theorem mask7 (v : Word) : v &&& 0x7F = (v.setWidth 7).setWidth 32 :=
  BitVec.and_low v 7 (by decide)

theorem mask12 (v : Word) : v &&& 0xFFF = (v.setWidth 12).setWidth 32 :=
  BitVec.and_low v 12 (by decide)

theorem mask_eq (n : Nat) {N : Nat} {v mask : Word} (h : v.toNat < N)
    (hN : 2 ^ n = N := by rfl) (hmask : ∀ i < 32, mask.getLsbD i = decide (i < n) := by decide) :
    v &&& mask = v := by
  rw [BitVec.and_low v n hmask]
  apply BitVec.eq_of_toNat_eq
  subst hN
  rw [BitVec.toNat_setWidth, BitVec.toNat_setWidth, Nat.mod_eq_of_lt h, Nat.mod_eq_of_lt v.isLt]

theorem encR_eq_word :
    encR f7 rs2 rs1 f3 rd op =
      word (f7.setWidth 7 ++ rs2.setWidth 5) (rs1.setWidth 5) (f3.setWidth 3) (rd.setWidth 5)
        (op.setWidth 7) := by
  apply BitVec.eq_of_getLsbD_eq
  intro i hi
  rw [getLsbD_word, encR, mask7, mask7, mask5, mask5, mask5, mask3]
  simp only [BitVec.getLsbD_or, BitVec.getLsbD_shiftLeft, BitVec.getLsbD_setWidth,
    BitVec.getLsbD_append]
  grind

theorem encR_fields :
    RFields (encR f7 rs2 rs1 f3 rd op) (low 7 f7) (low 5 rs2) (low 5 rs1) (low 3 f3) (low 5 rd)
      (low 7 op) := by
  refine rFields_iff.mpr ⟨⟨low_lt (by decide) _, low_lt (by decide) _, low_lt (by decide) _⟩,
    ⟨low_lt (by decide) _, low_lt (by decide) _, low_lt (by decide) _⟩, ?_⟩
  rw [encR_eq_word]
  simp only [setWidth_low, Nat.reduceLeDiff]

theorem encI_eq_encR : encI imm rs1 f3 rd op = encR (imm >>> 5) imm rs1 f3 rd op := by
  have hsplit : (imm &&& (0xFFF : Word)) <<< 20 =
      ((imm >>> 5) &&& (0x7F : Word)) <<< 25 ||| (imm &&& (0x1F : Word)) <<< 20 := by
    rw [mask12, mask7, mask5]
    apply BitVec.eq_of_getLsbD_eq
    intro i hi
    simp only [BitVec.getLsbD_or, BitVec.getLsbD_shiftLeft, BitVec.getLsbD_setWidth,
      BitVec.getLsbD_ushiftRight]
    grind
  unfold encI encR
  rw [hsplit]

theorem encS_eq_encR (h2 : rs2.toNat < 32) (h1 : rs1.toNat < 32) (h3 : f3.toNat < 8)
    (hop : op.toNat < 128) : encS imm rs2 rs1 f3 op = encR (imm >>> 5) rs2 rs1 f3 imm op := by
  have hhigh : (imm &&& (0xFE0 : Word)) <<< 20 = ((imm >>> 5) &&& (0x7F : Word)) <<< 25 := by
    have hmask : ∀ i < 32, (0xFE0 : Word).getLsbD i = (decide (5 ≤ i) && decide (i < 12)) := by
      decide
    rw [mask7]
    apply BitVec.eq_of_getLsbD_eq
    intro i hi
    simp only [BitVec.getLsbD_shiftLeft, BitVec.getLsbD_setWidth, BitVec.getLsbD_ushiftRight,
      BitVec.getLsbD_and, hmask (i - 20) (by omega)]
    grind
  unfold encS encR
  rw [hhigh, mask_eq 5 h2, mask_eq 5 h1, mask_eq 3 h3, mask_eq 7 hop]

/-- The fused multiply-adds put a register and fmt where the R format has funct7. -/
theorem madd_eq_encR {rs3 fmt rm : Word} (hfmt : fmt.toNat < 4) (hrm : rm.toNat < 8)
    (hop : op.toNat < 128) :
    ((rs3 &&& 0x1F) <<< 27) ||| (fmt <<< 25) ||| ((rs2 &&& 0x1F) <<< 20) |||
        ((rs1 &&& 0x1F) <<< 15) ||| (rm <<< 12) ||| ((rd &&& 0x1F) <<< 7) ||| op =
      encR (((rs3 &&& 0x1F) <<< 2) ||| fmt) rs2 rs1 rm rd op := by
  have hhigh : ((rs3 &&& (0x1F : Word)) <<< 27) ||| (fmt <<< 25) =
      ((((rs3 &&& (0x1F : Word)) <<< 2) ||| fmt) &&& (0x7F : Word)) <<< 25 := by
    have hbits : ∀ i, 2 ≤ i → fmt.getLsbD i = false := fun i hi =>
      BitVec.getLsbD_of_lt fmt 2 rfl hfmt hi
    rw [mask7, mask5]
    apply BitVec.eq_of_getLsbD_eq
    intro i hi
    simp only [BitVec.getLsbD_or, BitVec.getLsbD_shiftLeft, BitVec.getLsbD_setWidth]
    grind
  unfold encR
  rw [hhigh, mask_eq 3 hrm, mask_eq 7 hop]

end Pack

/-- A word the CPU rejects, reporting all of it. -/
structure Illegal (w : Word) : Prop where
  reports : illegalValue w = w
  unclaimed : Unclaimed w

theorem illegal_of_wide {w : Word} (hop : u8 (bits w 6 0) &&& 0x3 = 0x3)
    (h : OpcodeClassifier.isCompressed w = false → Unclaimed w) : Illegal w := by
  have hsize : OpcodeClassifier.isCompressed w = false := by
    unfold OpcodeClassifier.isCompressed
    rw [decide_eq_false_iff_not, Decidable.not_not, op_and_three]
    exact hop
  refine ⟨?_, h hsize⟩
  unfold illegalValue
  rw [hsize]
  rfl

theorem illegal_encR {f7 rs2 rs1 f3 rd op : Word} (hop : low 7 op &&& 0x3 = 0x3)
    (h : reserved (low 7 op) (low 3 f3) (low 7 f7) (low 5 rs2) = true) :
    Illegal (encR f7 rs2 rs1 f3 rd op) := by
  have hfields := encR_fields f7 rs2 rs1 f3 rd op
  refine illegal_of_wide ?_ fun hsize => unclaimed_of_reserved hsize ?_
  · rw [hfields.op]
    exact hop
  · unfold reservedWord
    rw [hfields.op, hfields.funct3, hfields.funct7, hfields.rs2]
    exact h

theorem illegal_encI {imm rs1 f3 rd op : Word} (hop : low 7 op &&& 0x3 = 0x3)
    (h : reserved (low 7 op) (low 3 f3) (low 7 (imm >>> 5)) (low 5 imm) = true) :
    Illegal (encI imm rs1 f3 rd op) := by
  rw [encI_eq_encR]
  exact illegal_encR hop h

/-! ## Draws -/

/-- The words from `lo` to `hi`. -/
def words (lo hi : Nat) : List Word := (List.range' lo (hi + 1 - lo)).map (BitVec.ofNat 32)

theorem mem_words {lo hi n : Nat} (h : lo ≤ n ∧ n ≤ hi) : BitVec.ofNat 32 n ∈ words lo hi := by
  refine List.mem_map_of_mem ?_
  rw [List.mem_range'_1]
  omega

theorem toNat_of_mem_words {lo hi : Nat} {v : Word} (h : v ∈ words lo hi) : v.toNat ≤ hi := by
  obtain ⟨n, hn, rfl⟩ := List.mem_map.mp h
  obtain ⟨hge, hlt⟩ := List.mem_range'_1.mp hn
  rw [BitVec.toNat_ofNat]
  exact Nat.le_trans (Nat.mod_le _ _) (by omega)

theorem yields_range {lo hi : Nat} (h : lo ≤ hi) : (range lo hi).Yields (· ∈ words lo hi) :=
  .bind (.uniform h) fun _ hn => .pure (mem_words hn)

theorem yields_reg : reg.Yields (· ∈ words 0 31) := yields_range (by decide)

theorem yields_regUntil (good : Word → Bool) :
    (regUntil good).Yields fun r => r ∈ words 0 31 ∧ good r = true :=
  .repeatUntil yields_reg

/-- A test of every drawn word, as one that evaluates. -/
theorem of_all (vs : List Word) (p : Word → Bool) (h : vs.all p = true) : ∀ v ∈ vs, p v = true :=
  List.all_eq_true.mp h

theorem of_all₂ (vs us : List Word) (p : Word → Word → Bool)
    (h : (vs.all fun v => us.all (p v)) = true) : ∀ v ∈ vs, ∀ u ∈ us, p v u = true :=
  fun v hv => of_all us (p v) (of_all vs (fun v => us.all (p v)) h v hv)

/-! ## The base set -/

theorem genAllOnes_illegal : genAllOnes.Yields Illegal :=
  .pure (illegal_of_wide (by decide) fun hsize => unclaimed_of_reserved hsize (by decide))

theorem genReservedMajorOpcode_illegal : genReservedMajorOpcode.Yields Illegal := by
  refine .bind .any fun raw _ => .bind (.choice _) fun op hop => .pure ?_
  -- clearing the low bits of the draw leaves the opcode to what was chosen
  have hfield : u8 (bits ((raw &&& ~~~(0x7F : Word)) ||| (op <<< 2) ||| 0b11) 6 0) =
      low 7 ((op <<< 2) ||| 0b11) := by
    have hmask : ∀ i < 7, (0x7F : Word).getLsbD i = true := by decide
    refine (op_iff _).mpr ⟨low_lt (by decide) _, ?_⟩
    rw [setWidth_low (by decide)]
    apply BitVec.eq_of_getLsbD_eq
    intro i hi
    simp only [BitVec.getLsbD_extractLsb', BitVec.getLsbD_or, BitVec.getLsbD_and,
      BitVec.getLsbD_not, BitVec.getLsbD_setWidth, Nat.zero_add, hmask i hi, Bool.not_true,
      Bool.and_false, Bool.false_or]
  refine illegal_of_wide ?_ fun hsize => unclaimed_of_reserved hsize ?_
  · have hwide := of_all badOps
      (fun op => decide (low 7 ((op <<< 2) ||| 0b11) &&& 0x3 = 0x3)) (by decide)
    rw [hfield]
    exact of_decide_eq_true (hwide op hop)
  · unfold reservedWord
    rw [hfield]
    unfold badOps at hop
    simp only [List.mem_cons, List.not_mem_nil, or_false] at hop
    rcases hop with rfl | rfl | rfl | rfl | rfl | rfl | rfl | rfl | rfl | rfl | rfl | rfl | rfl <;>
      rfl

theorem genBadLoad_illegal : genBadLoad.Yields Illegal := by
  have hreserved := of_all [0b011, 0b110, 0b111] (fun f3 => Reserved.load (low 3 f3))
    (by decide)
  exact .bind .any fun _ _ => .bind .any fun _ _ => .bind (.choice _) fun f3 hf3 =>
    .bind .any fun _ _ => .pure (illegal_encI (by decide) (hreserved f3 hf3))

theorem illegal_encS {imm rs2 rs1 f3 op : Word} (h2 : rs2 ∈ words 0 31) (h1 : rs1 ∈ words 0 31)
    (h3 : f3.toNat < 8) (hop : op.toNat < 128) (hop' : low 7 op &&& 0x3 = 0x3)
    (h : reserved (low 7 op) (low 3 f3) (low 7 (imm >>> 5)) (low 5 rs2) = true) :
    Illegal (encS imm rs2 rs1 f3 op) := by
  rw [encS_eq_encR _ _ _ _ _ (Nat.lt_succ_of_le (toNat_of_mem_words h2))
    (Nat.lt_succ_of_le (toNat_of_mem_words h1)) h3 hop]
  exact illegal_encR hop' h

theorem genBadStore_illegal : genBadStore.Yields Illegal := by
  have hreserved := of_all [0b011, 0b100, 0b101, 0b110, 0b111]
    (fun f3 => Reserved.store (low 3 f3) && decide (f3.toNat < 8)) (by decide)
  refine .bind .any fun _ _ => .bind yields_reg fun rs2 h2 => .bind yields_reg fun rs1 h1 =>
    .bind (.choice _) fun f3 hf3 => .pure ?_
  obtain ⟨h, h3⟩ := Bool.and_eq_true_iff.mp (hreserved f3 hf3)
  exact illegal_encS h2 h1 (of_decide_eq_true h3) (by decide) (by decide) h

theorem genBadBranch_illegal : genBadBranch.Yields Illegal := by
  have hreserved := of_all [0b010, 0b011] (fun f3 => Reserved.branch (low 3 f3))
    (by decide)
  exact .bind .any fun _ _ => .bind .any fun _ _ => .bind .any fun _ _ =>
    .bind (.choice _) fun f3 hf3 => .bind .any fun _ _ =>
      .pure (illegal_encR (by decide) (hreserved f3 hf3))

theorem genBadJalr_illegal : genBadJalr.Yields Illegal := by
  have hreserved := of_all (words 1 7) (fun f3 => Reserved.jalr (low 3 f3)) (by decide)
  exact .bind .any fun _ _ => .bind .any fun _ _ => .bind (yields_range (by decide)) fun f3 hf3 =>
    .bind .any fun _ _ => .pure (illegal_encI (by decide) (hreserved f3 hf3))

/-- A shift-immediate slot, by the upper twelve bits that are drawn. -/
theorem genOpImm_illegal {f3 : Word} {imm : Gen Word}
    (h : imm.Yields fun imm =>
      Reserved.opImm (low 3 f3) (low 7 (imm >>> 5)) (low 5 imm) = true) :
    (genOpImm f3 imm).Yields Illegal :=
  .bind h fun _ himm => .bind .any fun _ _ => .bind .any fun _ _ =>
    .pure (illegal_encI (by decide) himm)

theorem yields_shamt {f7 : Gen Word} (f7s : List Word) (hf7 : f7.Yields (· ∈ f7s))
    {p : Word → Bool}
    (h : (f7s.all fun f7 => (words 0 31).all fun shamt => p ((f7 <<< 5) ||| shamt)) = true) :
    (genShamt f7).Yields fun imm => p imm = true :=
  .bind hf7 fun f7 hf7 => .bind (yields_range (by decide)) fun shamt hshamt =>
    .pure (of_all₂ f7s (words 0 31) (fun f7 shamt => p ((f7 <<< 5) ||| shamt)) h f7 hf7 shamt
      hshamt)

theorem yields_rs2Not {f7 : Word} {legal : List Word} {p : Word → Bool}
    (h : ((words 0 31).all fun rs2 => decide (rs2 ∈ legal) || p ((f7 <<< 5) ||| rs2)) = true) :
    (genRs2Not f7 legal).Yields fun imm => p imm = true := by
  refine .bind (yields_regUntil _) fun rs2 hrs2 => .pure ?_
  have hout := of_all _ _ h rs2 hrs2.1
  rw [decide_eq_false (of_decide_eq_true hrs2.2), Bool.false_or] at hout
  exact hout

theorem genBadSlliSlot_illegal : genBadSlliSlot.Yields Illegal :=
  .bind .any fun _ _ => .ite
    (fun _ => genOpImm_illegal (yields_shamt [0b0000001] (.pure (by decide))
      (by decide +kernel)))
    fun _ => .ite (fun _ => genOpImm_illegal (yields_shamt _ (.choice _) (by decide +kernel)))
      fun _ => genOpImm_illegal (yields_rs2Not (by decide +kernel))

theorem genBadSrliSlot_illegal : genBadSrliSlot.Yields Illegal :=
  .bind .any fun _ _ => .ite
    (fun _ => genOpImm_illegal (yields_shamt [0b0000001] (.pure (by decide))
      (by decide +kernel)))
    fun _ => .ite (fun _ => genOpImm_illegal (yields_shamt _ (.choice _) (by decide +kernel)))
      fun _ => .ite (fun _ => genOpImm_illegal (yields_rs2Not (by decide +kernel)))
        fun _ => genOpImm_illegal (yields_rs2Not (by decide +kernel))

/-- A register-register word that is reserved with rs2 = x0 is reserved. -/
theorem reserved_op {funct3 funct7 : BitVec 8} (h : Reserved.op funct3 funct7 0 = true)
    (rs2 : BitVec 8) : Reserved.op funct3 funct7 rs2 = true := by
  by_cases h7 : funct7 = 0b0000100
  · subst h7
    have hnot : ¬(funct3 = 0b100 ∧ (0 : BitVec 8) = 0) := of_decide_eq_true h
    exact decide_eq_true fun hfields => hnot ⟨hfields.1, rfl⟩
  · unfold Reserved.op at h ⊢
    simpa only [h7, if_false] using h

theorem genBadOp_illegal : genBadOp.Yields Illegal := by
  refine .bind .any fun pack _ => .ite (fun _ => ?pack) fun _ => ?fields
  case pack =>
    have hreserved := of_all (words 0 31)
      (fun rs2 => decide (rs2 = 0) || Reserved.op 0b100 0b0000100 (low 5 rs2)) (by decide)
    refine .bind (yields_regUntil _) fun rs2 hrs2 => .bind .any fun _ _ => .bind .any fun _ _ =>
      .pure (illegal_encR (by decide) ?_)
    have h := hreserved rs2 hrs2.1
    rwa [decide_eq_false (of_decide_eq_true hrs2.2), Bool.false_or] at h
  case fields =>
    have hreserved := of_all₂ (words 0 127) (words 0 7)
      (fun f7 f3 => opLegal f7 f3 || Reserved.op (low 3 f3) (low 7 f7) 0) (by decide +kernel)
    refine .bind (.repeatUntil (P := fun fields => fields.1 ∈ words 0 127 ∧ fields.2 ∈ words 0 7)
      (.bind (yields_range (by decide)) fun f7 h7 => .bind (yields_range (by decide))
        fun f3 h3 => .pure ⟨h7, h3⟩)) fun ⟨f7, f3⟩ ⟨⟨h7, h3⟩, hgood⟩ =>
      .bind .any fun _ _ => .bind .any fun _ _ => .bind .any fun _ _ =>
        .pure (illegal_encR (by decide) (reserved_op ?_ _))
    have h := hreserved f7 h7 f3 h3
    rw [Bool.not_eq_true'] at hgood
    rwa [hgood, Bool.false_or] at h

theorem genBadMiscMem_illegal : genBadMiscMem.Yields Illegal := by
  have hreserved := of_all (words 2 7) (fun f3 => Reserved.misc (low 3 f3)) (by decide)
  exact .bind .any fun _ _ => .bind .any fun _ _ => .bind (yields_range (by decide)) fun f3 hf3 =>
    .bind .any fun _ _ => .pure (illegal_encI (by decide) (hreserved f3 hf3))

theorem genBadSystemF30_illegal : genBadSystemF30.Yields Illegal := by
  refine .mono (.repeatUntil (P := fun w => u8 (bits w 6 0) = 0b1110011 ∧
    u8 (bits w 14 12) = 0b000) ?_) ?_
  · refine .bind .any fun f7 _ => .bind .any fun rs2 _ => .bind .any fun rs1 _ =>
      .bind .any fun rd _ => .pure ?_
    have hfields := encR_fields f7 rs2 rs1 0b000 rd 0b1110011
    exact ⟨hfields.op, hfields.funct3⟩
  · rintro w ⟨⟨hop, h3⟩, hgood⟩
    refine illegal_of_wide (by rw [hop]; decide) fun hsize => unclaimed_system hop h3 hsize ?_
    have hnot := of_decide_eq_false ((Bool.not_eq_true' _).mp hgood)
    simp only [not_or] at hnot
    simp only [List.mem_cons, List.not_mem_nil, or_false, not_or]
    obtain ⟨hecall, hebreak, hmret, hwfi, hsret, hfence⟩ := hnot
    exact ⟨⟨hecall, hebreak, hmret, hwfi, hsret⟩, hfence⟩

theorem genBadSystemF34_illegal : genBadSystemF34.Yields Illegal :=
  .bind .any fun _ _ => .bind .any fun _ _ => .bind .any fun _ _ =>
    .pure (illegal_encI (by decide) rfl)

/-! ## Absent CSRs -/

/-- A CSR instruction on an address no configuration has. -/
structure AbsentCsr (w : Word) : Prop where
  wide : w &&& 0x3 = 0x3
  decodes : (Zicsr.decode w).type ≠ .illegal
  absent : ∀ config : CPUConfig, config.hasCsr (Zicsr.decode w).csr = false

theorem encI_csr {addr rs1 f3 rd op : Word} (hcsr : IsCsr (u16 addr))
    (hsplit : (u16 addr).setWidth 12 =
      (low 7 (addr >>> 5)).setWidth 7 ++ (low 5 addr).setWidth 5) :
    u16 (bits (encI addr rs1 f3 rd op) 31 20) = u16 addr := by
  have hfields := encR_fields (addr >>> 5) addr rs1 f3 rd op
  rw [encI_eq_encR]
  exact (imm12_split_iff hcsr (low_lt (by decide) _) (low_lt (by decide) _) hsplit).mpr
    ⟨hfields.funct7, hfields.rs2⟩

theorem absentCsrs_absent : ∀ addr ∈ absentCsrs, IsCsr (u16 addr) ∧
    (u16 addr).setWidth 12 = (low 7 (addr >>> 5)).setWidth 7 ++ (low 5 addr).setWidth 5 ∧
      ∀ config : CPUConfig, config.hasCsr (u16 addr) = false := by
  intro addr haddr
  simp only [absentCsrs, List.mem_cons, List.not_mem_nil, or_false] at haddr
  rcases haddr with rfl | rfl | rfl | rfl | rfl | rfl
  all_goals
    refine ⟨by decide, by decide, fun config => ?_⟩
    unfold CPUConfig.hasCsr stored
    cases config.enableSMode <;> cases config.enableUMode <;> rfl

theorem genBadCsrAddr_absent : genBadCsrAddr.Yields AbsentCsr := by
  refine .bind (.choice _) fun addr haddr => .bind .any fun rs1 _ =>
    .bind (.choice _) fun f3 hf3 => .bind .any fun rd _ => .pure ?_
  obtain ⟨hcsr, hsplit, habsent⟩ := absentCsrs_absent addr haddr
  have hfields := encR_fields (addr >>> 5) addr rs1 f3 rd 0b1110011
  rw [← encI_eq_encR] at hfields
  refine ⟨?_, ?_, fun config => ?_⟩
  · rw [op_and_three, hfields.op]
    decide
  · unfold Zicsr.decode
    dsimp only
    rw [hfields.op, hfields.funct3]
    simp only [List.mem_cons, List.not_mem_nil, or_false] at hf3
    rcases hf3 with rfl | rfl | rfl | rfl | rfl | rfl <;> exact of_decide_eq_true rfl
  · have hdecode : (Zicsr.decode (encI addr rs1 f3 rd 0b1110011)).csr = u16 addr := by
      rw [← encI_csr hcsr hsplit]
      unfold Zicsr.decode
      simp only [apply_ite Zicsr.DecodedCSRInstr.csr, ite_self]
      rfl
    rw [hdecode]
    exact habsent config

/-! ## F -/

theorem genOpFp_illegal {f7 rs2 f3 : Gen Word} {P7 P2 P3 : Word → Prop} (h7 : f7.Yields P7)
    (h2 : rs2.Yields P2) (h3 : f3.Yields P3)
    (h : ∀ f7, P7 f7 → ∀ rs2, P2 rs2 → ∀ f3, P3 f3 →
      Reserved.opFp (low 3 f3) (low 7 f7) (low 5 rs2) = true) : (genOpFp f7 rs2 f3).Yields Illegal :=
  .bind h7 fun f7 hf7 => .bind h2 fun rs2 hrs2 => .bind .any fun _ _ => .bind h3 fun f3 hf3 =>
    .bind .any fun _ _ => .pure (illegal_encR (by decide) (h f7 hf7 rs2 hrs2 f3 hf3))

theorem yields_regNonzero : regNonzero.Yields fun rs2 => low 5 rs2 ≠ 0 := by
  have hnonzero := of_all (words 0 31)
    (fun rs2 => decide (rs2 = 0) || decide (low 5 rs2 ≠ 0)) (by decide)
  refine .mono (yields_regUntil _) fun rs2 hrs2 => ?_
  have h := hnonzero rs2 hrs2.1
  rw [decide_eq_false (of_decide_eq_true hrs2.2), Bool.false_or] at h
  exact of_decide_eq_true h

theorem yields_funct3 {lo hi : Nat} (p : BitVec 8 → Bool) (hle : lo ≤ hi)
    (h : ((words lo hi).all fun f3 => p (low 3 f3)) = true) :
    (range lo hi).Yields fun f3 => p (low 3 f3) = true :=
  .mono (yields_range hle) (of_all _ _ h)

theorem genBadFpFunct7_illegal : genBadFpFunct7.Yields Illegal := by
  refine genOpFp_illegal (.choice _) .any .any fun f7 h7 _ _ _ _ => ?_
  simp only [List.mem_cons, List.not_mem_nil, or_false] at h7
  rcases h7 with rfl | rfl | rfl | rfl | rfl | rfl <;> rfl

theorem genBadFpRm_illegal : genBadFpRm.Yields Illegal := by
  refine genOpFp_illegal (.choice _) .any (yields_funct3 Reserved.rm (by decide) (by decide))
    fun f7 h7 _ _ f3 hrm => ?_
  simp only [List.mem_cons, List.not_mem_nil, or_false] at h7
  rcases h7 with rfl | rfl | rfl | rfl | rfl
  · exact hrm
  · exact hrm
  all_goals
    show (Reserved.rm (low 3 f3) || _) = true
    rw [hrm, Bool.true_or]

theorem genBadFsqrt_illegal : genBadFsqrt.Yields Illegal := by
  refine genOpFp_illegal (.pure rfl) yields_regNonzero .any ?_
  rintro f7 rfl rs2 hrs2 f3 -
  show (Reserved.rm (low 3 f3) || decide (low 5 rs2 ≠ 0)) = true
  rw [decide_eq_true hrs2, Bool.or_true]

theorem genBadFcvt_illegal : genBadFcvt.Yields Illegal := by
  have hreserved := of_all (words 2 31) (fun rs2 => decide (low 5 rs2 ∉ [0, 1]))
    (by decide)
  refine genOpFp_illegal (.choice _) (yields_range (by decide)) .any fun f7 h7 rs2 h2 f3 _ => ?_
  simp only [List.mem_cons, List.not_mem_nil, or_false] at h7
  rcases h7 with rfl | rfl
  all_goals
    show (Reserved.rm (low 3 f3) || decide (low 5 rs2 ∉ [0, 1])) = true
    rw [hreserved rs2 h2, Bool.or_true]

theorem genBadFmvFclass_illegal : genBadFmvFclass.Yields Illegal := by
  refine .bind .any fun _ _ => .ite (fun _ => ?_) fun _ => ?_
  · refine genOpFp_illegal (.pure rfl) .any (yields_funct3
      (fun f3 => decide (f3 ∉ [0b000, 0b001])) (by decide) (by decide)) ?_
    rintro f7 rfl rs2 - f3 hf3
    show (decide (low 3 f3 ∉ [0b000, 0b001]) || _) = true
    rw [hf3, Bool.true_or]
  · refine genOpFp_illegal (.pure rfl) yields_regNonzero .any ?_
    rintro f7 rfl rs2 hrs2 f3 -
    show (_ || decide (low 5 rs2 ≠ 0)) = true
    rw [decide_eq_true hrs2, Bool.or_true]

theorem genBadFcmp_illegal : genBadFcmp.Yields Illegal := by
  refine genOpFp_illegal (.pure rfl) .any (yields_funct3
    (fun f3 => decide (f3 ∉ [0b000, 0b001, 0b010])) (by decide) (by decide)) ?_
  rintro f7 rfl rs2 - f3 hf3
  exact hf3

theorem genBadFminmax_illegal : genBadFminmax.Yields Illegal := by
  refine genOpFp_illegal (.pure rfl) .any (yields_funct3
    (fun f3 => decide (f3 ∉ [0b000, 0b001])) (by decide) (by decide)) ?_
  rintro f7 rfl rs2 - f3 hf3
  exact hf3

theorem genBadFsgnj_illegal : genBadFsgnj.Yields Illegal := by
  refine genOpFp_illegal (.pure rfl) .any (yields_funct3
    (fun f3 => decide (f3 ∉ [0b000, 0b001, 0b010])) (by decide) (by decide)) ?_
  rintro f7 rfl rs2 - f3 hf3
  exact hf3

theorem genBadFmvWx_illegal : genBadFmvWx.Yields Illegal := by
  refine .bind .any fun _ _ => .ite (fun _ => ?_) fun _ => ?_
  · refine genOpFp_illegal (.pure rfl) .any (yields_funct3
      (fun f3 => decide (f3 ≠ 0b000)) (by decide) (by decide)) ?_
    rintro f7 rfl rs2 - f3 hf3
    exact decide_eq_true fun h => of_decide_eq_true hf3 h.1
  · refine genOpFp_illegal (.pure rfl) yields_regNonzero .any ?_
    rintro f7 rfl rs2 hrs2 f3 -
    exact decide_eq_true fun h => hrs2 h.2

theorem notWord_funct3 : ∀ f3 ∈ notWord,
    (decide (low 3 f3 ≠ 0b010) && decide (f3.toNat < 8)) = true :=
  of_all _ _ (by decide)

theorem genBadLoadFp_illegal : genBadLoadFp.Yields Illegal :=
  .bind .any fun _ _ => .bind .any fun _ _ => .bind (.choice _) fun f3 hf3 =>
    .bind .any fun _ _ => .pure (illegal_encI (by decide)
      (Bool.and_eq_true_iff.mp (notWord_funct3 f3 hf3)).1)

theorem genBadStoreFp_illegal : genBadStoreFp.Yields Illegal := by
  refine .bind .any fun _ _ => .bind yields_reg fun rs2 h2 => .bind yields_reg fun rs1 h1 =>
    .bind (.choice _) fun f3 hf3 => .pure ?_
  obtain ⟨h, h3⟩ := Bool.and_eq_true_iff.mp (notWord_funct3 f3 hf3)
  exact illegal_encS h2 h1 (of_decide_eq_true h3) (by decide) (by decide) h

theorem genBadMaddFmt_illegal : genBadMaddFmt.Yields Illegal := by
  have hfmts := of_all₂ (words 0 31) (words 1 3)
    (fun rs3 fmt => decide (low 7 (((rs3 &&& 0x1F) <<< 2) ||| fmt) &&& 0b11 ≠ 0b00))
    (by decide +kernel)
  have hrms := of_all validRm (fun rm => decide (rm.toNat < 8)) (by decide)
  refine .bind yields_reg fun rs3 h3 => .bind (yields_range (by decide)) fun fmt hfmt =>
    .bind .any fun rs2 _ => .bind .any fun rs1 _ => .bind (.choice _) fun rm hrm =>
      .bind .any fun rd _ => .bind (.choice _) fun op hop => .pure ?_
  have hfmt' : fmt.toNat < 4 := Nat.lt_succ_of_le (toNat_of_mem_words hfmt)
  have hreserved : Reserved.madd (low 3 rm) (low 7 (((rs3 &&& 0x1F) <<< 2) ||| fmt) &&& 0b11) =
      true := by
    unfold Reserved.madd
    rw [hfmts rs3 h3 fmt hfmt, Bool.or_true]
  simp only [List.mem_cons, List.not_mem_nil, or_false] at hop
  rcases hop with rfl | rfl | rfl | rfl
  all_goals
    rw [madd_eq_encR _ _ _ _ hfmt' (of_decide_eq_true (hrms rm hrm)) (by decide)]
    exact illegal_encR (by decide) hreserved

/-! ## A -/

theorem genBadAmoFunct3_illegal : genBadAmoFunct3.Yields Illegal := by
  refine .bind .any fun _ _ => .bind .any fun rs2 _ => .bind .any fun _ _ =>
    .bind (.choice _) fun f3 hf3 => .bind .any fun _ _ => .pure (illegal_encR (by decide) ?_)
  have h := (Bool.and_eq_true_iff.mp (notWord_funct3 f3 hf3)).1
  show (decide (low 3 f3 ≠ 0b010) || _ || _) = true
  rw [h, Bool.true_or, Bool.true_or]

theorem genBadAmoFunct5_illegal : genBadAmoFunct5.Yields Illegal := by
  have hfunct5 := of_all₂ (words 0 31) (words 0 3)
    (fun f5 aqrl => decide (f5 ∈ amoLegal) ||
      decide (low 7 ((f5 <<< 2) ||| aqrl) >>> 2 ∉ Reserved.amoFunct5)) (by decide +kernel)
  refine .bind (.repeatUntil (yields_range (by decide))) fun f5 hf5 =>
    .bind (yields_range (by decide)) fun aqrl haqrl => .bind .any fun _ _ => .bind .any fun _ _ =>
      .bind .any fun _ _ => .pure (illegal_encR (by decide) ?_)
  have h := hfunct5 f5 hf5.1 aqrl haqrl
  rw [decide_eq_false (of_decide_eq_true hf5.2), Bool.false_or] at h
  show (_ || decide (low 7 ((f5 <<< 2) ||| aqrl) >>> 2 ∉ Reserved.amoFunct5) || _) = true
  rw [h, Bool.or_true, Bool.true_or]

theorem genBadLr_illegal : genBadLr.Yields Illegal := by
  have hfunct5 := of_all (words 0 3)
    (fun aqrl => decide (low 7 (((0b00010 : Word) <<< 2) ||| aqrl) >>> 2 = 0b00010))
    (by decide)
  refine .bind yields_regNonzero fun rs2 hrs2 => .bind (yields_range (by decide)) fun aqrl haqrl =>
    .bind .any fun _ _ => .bind .any fun _ _ => .pure (illegal_encR (by decide) ?_)
  have h := And.intro (of_decide_eq_true (hfunct5 aqrl haqrl)) hrs2
  show (_ || decide (low 7 (((0b00010 : Word) <<< 2) ||| aqrl) >>> 2 = 0b00010 ∧
    low 5 rs2 ≠ 0)) = true
  rw [decide_eq_true h, Bool.or_true]

/-! ## Compressed -/

/-- A rejected word of the low half. -/
structure IllegalParcel (w : Word) : Prop where
  low : w &&& 0xFFFF = w
  illegal : Illegal w

/-- The test of a parcel: it fits, lies in a compressed quadrant and abbreviates nothing. -/
def parcelTest (w : Word) : Bool :=
  decide (w &&& 0xFFFF = w) && decide (w &&& 0x3 ≠ 0x3) && decide (Rvc.expand (u16 w) = none)

theorem illegalParcel_of_test {w : Word} (h : parcelTest w = true) : IllegalParcel w := by
  unfold parcelTest at h
  simp only [Bool.and_eq_true, decide_eq_true_eq] at h
  obtain ⟨⟨hlow, hquadrant⟩, hexpand⟩ := h
  have hsize : OpcodeClassifier.isCompressed w = true := decide_eq_true hquadrant
  refine ⟨hlow, ?_, unclaimed_parcel hsize hexpand⟩
  unfold illegalValue
  rw [hsize]
  exact hlow

theorem mem_words_and (v : Word) (mask : Nat) (h : mask < 4294967296) :
    v &&& BitVec.ofNat 32 mask ∈ words 0 mask := by
  have hle : (v &&& BitVec.ofNat 32 mask).toNat ≤ mask := by
    rw [BitVec.toNat_and, BitVec.toNat_ofNat, Nat.mod_eq_of_lt h]
    exact Nat.and_le_right
  have hmem : BitVec.ofNat 32 _ ∈ words 0 mask := mem_words ⟨Nat.zero_le _, hle⟩
  rwa [BitVec.ofNat_toNat, BitVec.setWidth_eq] at hmem

theorem parcel_fields {f3 quadrant : Word} (h3 : f3.toNat < 8) (hq : quadrant.toNat < 4) (v : Word) :
    let w := (f3 <<< 13) ||| (v &&& 0x1FFC) ||| quadrant
    w &&& 0xFFFF = w ∧ w &&& 0x3 = quadrant ∧ Rvc.quadrant (u16 w) = quadrant.setWidth 2 ∧
      Rvc.funct3 (u16 w) = f3.setWidth 3 := by
  intro w
  -- the three pieces do not overlap: the bit of the word is that of the piece under it
  have hbit : ∀ i, w.getLsbD i = ((decide (i < 32) && !decide (i < 13) && f3.getLsbD (i - 13)) ||
      (v.getLsbD i && (decide (2 ≤ i) && decide (i < 13))) || quadrant.getLsbD i) := by
    intro i
    have hmask : (0x1FFC : Word).getLsbD i = (decide (2 ≤ i) && decide (i < 13)) := by
      by_cases hi : i < 32
      · have hall : ∀ i < 32, (0x1FFC : Word).getLsbD i = (decide (2 ≤ i) && decide (i < 13)) := by
          decide
        exact hall i hi
      · rw [BitVec.getLsbD_of_ge _ _ (by omega), decide_eq_false (p := i < 13) (by omega),
          Bool.and_false]
    rw [BitVec.getLsbD_or, BitVec.getLsbD_or, BitVec.getLsbD_and, BitVec.getLsbD_shiftLeft, hmask]
  have hf3 : ∀ i, 3 ≤ i → f3.getLsbD i = false := fun i hi => BitVec.getLsbD_of_lt f3 3 rfl h3 hi
  have hquad : ∀ i, 2 ≤ i → quadrant.getLsbD i = false := fun i hi =>
    BitVec.getLsbD_of_lt quadrant 2 rfl hq hi
  refine ⟨?_, ?_, ?_, ?_⟩ <;> apply BitVec.eq_of_getLsbD_eq <;> intro i hi
  · have hmask : (0xFFFF : Word).getLsbD i = decide (i < 16) := by
      have hall : ∀ i < 32, (0xFFFF : Word).getLsbD i = decide (i < 16) := by decide
      exact hall i hi
    rw [BitVec.getLsbD_and, hmask, hbit]
    grind
  · have hmask : (0x3 : Word).getLsbD i = decide (i < 2) := by
      have hall : ∀ i < 32, (0x3 : Word).getLsbD i = decide (i < 2) := by decide
      exact hall i hi
    rw [BitVec.getLsbD_and, hmask, hbit]
    grind
  · simp only [Rvc.quadrant, u16, BitVec.getLsbD_extractLsb', BitVec.getLsbD_setWidth, hbit]
    grind
  · simp only [Rvc.funct3, u16, BitVec.getLsbD_extractLsb', BitVec.getLsbD_setWidth, hbit]
    grind

theorem genAllZeros_illegal : genAllZeros.Yields IllegalParcel :=
  .pure (illegalParcel_of_test (by decide))

theorem genQuadrant_illegal {f3s : List Word} {quadrant : Word} (hq : quadrant.toNat < 3)
    (h3 : (f3s.all fun f3 => decide (f3.toNat < 8)) = true)
    (hexpand : ∀ f3 ∈ f3s, ∀ p, Rvc.quadrant p = quadrant.setWidth 2 →
      Rvc.funct3 p = f3.setWidth 3 → Rvc.expand p = none) :
    (genQuadrant f3s quadrant).Yields IllegalParcel := by
  refine .bind (.choice _) fun f3 hf3 => .bind .any fun v _ => .pure (illegalParcel_of_test ?_)
  obtain ⟨hlow, hquadrant, hquadrant', hfunct3⟩ :=
    parcel_fields (of_decide_eq_true (of_all _ _ h3 f3 hf3)) (Nat.lt_succ_of_lt hq) v
  have hnone := hexpand f3 hf3 _ hquadrant' hfunct3
  have hwide : quadrant ≠ 0x3 := by
    rintro rfl
    exact absurd hq (by decide)
  unfold parcelTest
  rw [hquadrant, hnone, decide_eq_true hlow, decide_eq_true hwide]
  rfl

theorem genCQuad0BadFunct3_illegal : genCQuad0BadFunct3.Yields IllegalParcel := by
  refine genQuadrant_illegal (by decide) (by decide) fun f3 hf3 p hq h3 => ?_
  unfold Rvc.expand Rvc.expand0
  simp only [List.mem_cons, List.not_mem_nil, or_false] at hf3
  rcases hf3 with rfl | rfl | rfl <;> rw [hq, h3] <;> rfl

theorem genCQuad2BadFunct3_illegal : genCQuad2BadFunct3.Yields IllegalParcel := by
  refine genQuadrant_illegal (by decide) (by decide) fun f3 hf3 p hq h3 => ?_
  unfold Rvc.expand Rvc.expand2
  simp only [List.mem_cons, List.not_mem_nil, or_false] at hf3
  rcases hf3 with rfl | rfl <;> rw [hq, h3] <;> rfl

theorem genCAddi4spnZero_illegal : genCAddi4spnZero.Yields IllegalParcel := by
  have htest := of_all (words 0 7) (fun rd => parcelTest (rd <<< 2)) (by decide +kernel)
  exact .bind .any fun rd _ =>
    .pure (illegalParcel_of_test (htest _ (mem_words_and rd 0x7 (by decide))))

theorem genCLwspRd0_illegal : genCLwspRd0.Yields IllegalParcel := by
  have htest := of_all₂ (words 0 1) (words 0 31)
    (fun high low =>
      parcelTest (((0b010 : Word) <<< 13) ||| (high <<< 12) ||| (low <<< 2) ||| 0b10))
    (by decide +kernel)
  exact .bind .any fun high _ => .bind .any fun low _ => .pure (illegalParcel_of_test
    (htest _ (mem_words_and high 1 (by decide)) _
      (mem_words_and low 0x1F (by decide))))

theorem genCJrRs10_illegal : genCJrRs10.Yields IllegalParcel :=
  .pure (illegalParcel_of_test (by decide))

theorem genCShiftShamt5_illegal : genCShiftShamt5.Yields IllegalParcel := by
  refine .bind .any fun _ _ => .ite (fun _ => ?srli) fun _ => ?slli
  case srli =>
    have htest := of_all (words 0 1) (fun funct2 => (words 0 7).all fun rd =>
      (words 0 31).all fun low => parcelTest (((0b100 : Word) <<< 13) ||| ((1 : Word) <<< 12) |||
        (funct2 <<< 10) ||| (rd <<< 7) ||| (low <<< 2) ||| 0b01)) (by decide +kernel)
    exact .bind (yields_range (by decide)) fun funct2 h2 => .bind .any fun rd _ =>
      .bind .any fun low _ => .pure (illegalParcel_of_test
        (of_all₂ _ _ _ (htest funct2 h2) _ (mem_words_and rd 0x7 (by decide)) _
          (mem_words_and low 0x1F (by decide))))
  case slli =>
    have htest := of_all₂ (words 0 31) (words 0 31) (fun rd low =>
      parcelTest (((1 : Word) <<< 12) ||| (rd <<< 7) ||| (low <<< 2) ||| 0b10)) (by decide +kernel)
    exact .bind .any fun rd _ => .bind .any fun low _ => .pure (illegalParcel_of_test
      (htest _ (mem_words_and rd 0x1F (by decide)) _
        (mem_words_and low 0x1F (by decide))))

theorem genCAluFunct1_illegal : genCAluFunct1.Yields IllegalParcel := by
  have htest := of_all (words 0 7) (fun rd => (words 0 3).all fun funct2 =>
    (words 0 7).all fun rs2 => parcelTest (((0b100 : Word) <<< 13) ||| ((1 : Word) <<< 12) |||
      ((0b11 : Word) <<< 10) ||| (rd <<< 7) ||| (funct2 <<< 5) ||| (rs2 <<< 2) ||| 0b01))
    (by decide +kernel)
  exact .bind .any fun rd _ => .bind (yields_range (by decide)) fun funct2 h2 =>
    .bind .any fun rs2 _ => .pure (illegalParcel_of_test
      (of_all₂ _ _ _ (htest _ (mem_words_and rd 0x7 (by decide))) funct2 h2 _
        (mem_words_and rs2 0x7 (by decide))))

theorem genCLuiZero_illegal : genCLuiZero.Yields IllegalParcel := by
  have htest := of_all (words 0 31) (fun rd => decide (rd = 0 ∨ rd = 2) ||
    parcelTest (((0b011 : Word) <<< 13) ||| (rd <<< 7) ||| 0b01)) (by decide +kernel)
  refine .bind (yields_regUntil _) fun rd hrd => .pure (illegalParcel_of_test ?_)
  have h := htest rd hrd.1
  have hnot : ¬(rd = 0 ∨ rd = 2) := not_or.mpr (of_decide_eq_true hrd.2)
  rwa [decide_eq_false hnot, Bool.false_or] at h

theorem genCAddi16spZero_illegal : genCAddi16spZero.Yields IllegalParcel :=
  .pure (illegalParcel_of_test (by decide))

end Riscv.IllegalOpgen

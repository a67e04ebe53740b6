import Riscv.IllegalOpgen
import Riscv.Lib.Stream
import Riscv.RvcOpgen
import Riscv.ZicsrOpgen

/- The generators end.

   Most draw a fixed number of values. The loops among them draw a field until it is good:
   for each there is a short word of draws after which it is. The words hold small numbers
   only, so every engine with at least 64 values has them. -/
namespace Riscv

open Sample

variable {values : Nat}

namespace Opgen

theorem uniformWord_halts (lo hi : Nat) : (uniformWord lo hi).Halts values :=
  .of_draws ((Gen.Draws.uniform lo hi).bind fun _ => .pure _)

theorem uniformSigned_halts (lo hi : Int) : (uniformSigned lo hi).Halts values :=
  .of_draws ((Gen.Draws.uniformInt lo hi).bind fun _ => .pure _)

theorem coin_halts : coin.Halts values := .of_draws (Gen.Draws.draw.bind fun _ => .pure _)

theorem uniformWord_reads {lo hi k : Nat} (hk : lo + k ≤ hi) :
    (uniformWord lo hi).Reads [k] (BitVec.ofNat 32 (lo + k)) := by
  intro rest
  show some (BitVec.ofNat 32 (lo + k % (hi + 1 - lo)), rest) = _
  rw [Nat.mod_eq_of_lt (by omega)]

theorem word_then {α : Type} {lo hi : Nat} {f : Word → Gen α} (hf : ∀ w, (f w).Halts values) :
    (uniformWord lo hi >>= f).Halts values :=
  .bind_any (uniformWord_halts lo hi) hf

theorem signed_then {α : Type} {lo hi : Int} {f : Word → Gen α}
    (hf : ∀ w, (f w).Halts values) : (uniformSigned lo hi >>= f).Halts values :=
  .bind_any (uniformSigned_halts lo hi) hf

theorem coin_then {α : Type} {f : Bool → Gen α} (hf : ∀ b, (f b).Halts values) :
    (coin >>= f).Halts values :=
  .bind_any coin_halts hf

/-- A loop over a word, one value of which is good. -/
theorem wordUntil_halts {lo hi : Nat} {good : Word → Bool} (k : Nat) (hk : lo + k ≤ hi)
    (hvalues : k < values) (hgood : good (BitVec.ofNat 32 (lo + k)) = true) :
    (Gen.repeatUntil (uniformWord lo hi) good).Halts values := by
  have hdraws : (uniformWord lo hi).Draws 1 := (Gen.Draws.uniform lo hi).bind fun _ => .pure _
  refine .repeatUntil hdraws Nat.one_pos rfl (fun m hm => ?_) (uniformWord_reads hk) hgood
  rwa [List.mem_singleton.mp hm]

end Opgen

open Opgen

/-! ## The base set, M and Zicsr -/

namespace Rv32i.Opgen

theorem genUpper_halts (op : Word) : (genUpper op).Halts values :=
  .bind_any (word_then fun _ => .pure _) fun _ => word_then fun _ => .pure _

theorem genJal_halts : genJal.Halts values :=
  .bind_any (signed_then fun _ => .pure _) fun _ => word_then fun _ => .pure _

theorem genIType_halts (funct3 op : Word) : (genIType funct3 op).Halts values :=
  signed_then fun _ => word_then fun _ => word_then fun _ => .pure _

theorem genBranch_halts (funct3 : Word) : (genBranch funct3).Halts values :=
  .bind_any (signed_then fun _ => .pure _) fun _ => word_then fun _ => word_then fun _ => .pure _

theorem genStore_halts (funct3 : Word) : (genStore funct3).Halts values :=
  signed_then fun _ => word_then fun _ => word_then fun _ => .pure _

theorem genShift_halts (mark funct3 : Word) : (genShift mark funct3).Halts values :=
  word_then fun _ => word_then fun _ => word_then fun _ => .pure _

theorem genRType_halts (funct7 funct3 : Word) : (genRType funct7 funct3).Halts values :=
  word_then fun _ => word_then fun _ => word_then fun _ => .pure _

theorem genFence_halts : genFence.Halts values :=
  coin_then fun _ => word_then fun _ => word_then fun _ => .pure _

theorem generators_halt : ∀ g ∈ generators, g.Halts values := by
  simp only [generators, List.forall_mem_cons]
  exact ⟨genUpper_halts _, genUpper_halts _, genJal_halts, genIType_halts _ _,
    genBranch_halts _, genBranch_halts _, genBranch_halts _, genBranch_halts _,
    genBranch_halts _, genBranch_halts _, genIType_halts _ _, genIType_halts _ _,
    genIType_halts _ _, genIType_halts _ _, genIType_halts _ _, genStore_halts _,
    genStore_halts _, genStore_halts _, genIType_halts _ _, genIType_halts _ _,
    genIType_halts _ _, genIType_halts _ _, genIType_halts _ _, genIType_halts _ _,
    genShift_halts _ _, genShift_halts _ _, genShift_halts _ _, genRType_halts _ _,
    genRType_halts _ _, genRType_halts _ _, genRType_halts _ _, genRType_halts _ _,
    genRType_halts _ _, genRType_halts _ _, genRType_halts _ _, genRType_halts _ _,
    genRType_halts _ _, genFence_halts, .pure _, .pure _, List.forall_mem_nil _⟩

end Rv32i.Opgen

namespace Rv32m.Opgen

theorem genMulDiv_halts (funct3 : Word) : (genMulDiv funct3).Halts values :=
  word_then fun _ => word_then fun _ => word_then fun _ => .pure _

theorem generators_halt : ∀ g ∈ generators, g.Halts values := by
  simp only [generators, List.forall_mem_cons]
  exact ⟨genMulDiv_halts _, genMulDiv_halts _, genMulDiv_halts _, genMulDiv_halts _,
    genMulDiv_halts _, genMulDiv_halts _, genMulDiv_halts _, genMulDiv_halts _,
    List.forall_mem_nil _⟩

theorem generate_halts (type : InstrType) : (generate type).Halts values :=
  .nth (by cases type <;> decide) generators_halt

end Rv32m.Opgen

namespace Zicsr.Opgen

variable (rng : RNG)

theorem writableCsr_halts : rng.writableCsr.Halts values := word_then fun _ => .pure _

theorem csr_halts : rng.csr.Halts values :=
  coin_then fun _ => .ite (fun _ => writableCsr_halts rng) fun _ => word_then fun _ => .pure _

theorem genWrite_halts (funct3 : Word) {source : Gen Word} (hsource : source.Halts values) :
    (genWrite funct3 source rng).Halts values :=
  .bind_any (writableCsr_halts rng) fun _ => .bind_any hsource fun _ =>
    word_then fun _ => .pure _

theorem genSetClear_halts (funct3 : Word) {source : Gen Word} (hsource : source.Halts values) :
    (genSetClear funct3 source rng).Halts values :=
  coin_then fun _ => .bind_any (.ite (fun _ => .pure _) fun _ => hsource) fun _ =>
    .bind_any (.ite (fun _ => csr_halts rng) fun _ => writableCsr_halts rng) fun _ =>
      word_then fun _ => .pure _

theorem generators_halt : ∀ g ∈ generators rng, g.Halts values := by
  have hsource : (uniformWord 0 31).Halts values := uniformWord_halts 0 31
  simp only [generators, List.forall_mem_cons]
  exact ⟨genWrite_halts rng _ hsource, genSetClear_halts rng _ hsource,
    genSetClear_halts rng _ hsource, genWrite_halts rng _ hsource,
    genSetClear_halts rng _ hsource, genSetClear_halts rng _ hsource, List.forall_mem_nil _⟩

end Zicsr.Opgen

/-! ## RV32C -/

namespace Rv32c.Opgen

theorem genCAddi4spn_halts : genCAddi4spn.Halts values :=
  word_then fun _ => word_then fun _ => .pure _

theorem genCMem_halts (funct3 : Word) : (genCMem funct3).Halts values :=
  word_then fun _ => word_then fun _ => word_then fun _ => .pure _

theorem genCJump_halts (funct3 : Word) : (genCJump funct3).Halts values :=
  signed_then fun _ => .pure _

theorem genCLi_halts : genCLi.Halts values := word_then fun _ => signed_then fun _ => .pure _

theorem genCShift_halts (funct2 : Word) : (genCShift funct2).Halts values :=
  word_then fun _ => word_then fun _ => .pure _

theorem genCAndi_halts : genCAndi.Halts values := word_then fun _ => signed_then fun _ => .pure _

theorem genCAlu_halts (funct2 : Word) : (genCAlu funct2).Halts values :=
  word_then fun _ => word_then fun _ => .pure _

theorem genCBranch_halts (funct3 : Word) : (genCBranch funct3).Halts values :=
  word_then fun _ => signed_then fun _ => .pure _

theorem genCSlli_halts : genCSlli.Halts values := word_then fun _ => word_then fun _ => .pure _

theorem genCLwsp_halts : genCLwsp.Halts values := word_then fun _ => word_then fun _ => .pure _

theorem genCJumpReg_halts (link : Word) : (genCJumpReg link).Halts values :=
  word_then fun _ => .pure _

theorem genCRegReg_halts (funct1 : Word) : (genCRegReg funct1).Halts values :=
  word_then fun _ => word_then fun _ => .pure _

theorem genCSwsp_halts : genCSwsp.Halts values := word_then fun _ => word_then fun _ => .pure _

theorem signed_reads_zero : (uniformSigned (-32) 31).Reads [0] (BitVec.ofInt 32 (-32)) :=
  fun _ => rfl

variable (hvalues : 64 ≤ values)

include hvalues

theorem zero_lt_values : ∀ n ∈ [0], n < values := by
  intro n hn
  rw [List.mem_singleton.mp hn]
  omega

theorem imm6Nz_halts : RNG.imm6Nz.Halts values :=
  .repeatUntil ((Gen.Draws.uniformInt _ _).bind fun _ => .pure _) Nat.one_pos rfl
    (zero_lt_values hvalues) signed_reads_zero (by decide)

theorem genCAddi_halts : genCAddi.Halts values :=
  word_then fun _ => .bind_any (imm6Nz_halts hvalues) fun _ => .pure _

theorem genCAddi16sp_halts : genCAddi16sp.Halts values := by
  have hdraws : (RNG.srange (-32) 31).Draws 1 :=
    (Gen.Draws.uniformInt _ _).bind fun _ => .pure _
  refine .bind_any (.repeatUntil (hdraws.bind fun _ => .pure _) Nat.one_pos rfl
    (zero_lt_values hvalues) (signed_reads_zero.bind (.pure _)) ?_) fun _ => .pure _
  decide

theorem genCLui_halts : genCLui.Halts values :=
  .bind_any (wordUntil_halts 0 (by decide) (by omega) (by decide)) fun _ =>
    .bind_any (imm6Nz_halts hvalues) fun _ => .pure _

theorem generators_halt : ∀ g ∈ generators, g.Halts values := by
  simp only [generators, List.forall_mem_cons]
  exact ⟨genCAddi4spn_halts, genCMem_halts _, genCMem_halts _, .pure _, genCAddi_halts hvalues,
    genCJump_halts _, genCLi_halts, genCAddi16sp_halts hvalues, genCLui_halts hvalues,
    genCShift_halts _, genCShift_halts _, genCAndi_halts, genCAlu_halts _, genCAlu_halts _,
    genCAlu_halts _, genCAlu_halts _, genCJump_halts _, genCBranch_halts _, genCBranch_halts _,
    genCSlli_halts, genCLwsp_halts, genCJumpReg_halts _, genCRegReg_halts _, .pure _,
    genCJumpReg_halts _, genCRegReg_halts _, genCSwsp_halts, List.forall_mem_nil _⟩

theorem hintGenerators_halt : ∀ g ∈ hintGenerators, g.Halts values := by
  have himm := imm6Nz_halts hvalues
  simp only [hintGenerators, List.forall_mem_cons]
  exact ⟨.bind_any himm fun _ => .pure _, signed_then fun _ => .pure _,
    .bind_any himm fun _ => .pure _, word_then fun _ => .pure _, word_then fun _ => .pure _,
    word_then fun _ => .pure _, word_then fun _ => .pure _, word_then fun _ => .pure _,
    word_then fun _ => .pure _, List.forall_mem_nil _⟩

end Rv32c.Opgen

/-! ## The illegal classes -/

namespace IllegalOpgen

open RNG

theorem range_then {α : Type} {lo hi : Nat} {f : Word → Gen α} (hf : ∀ w, (f w).Halts values) :
    (range lo hi >>= f).Halts values :=
  word_then hf

theorem choice_then {α : Type} {arr : List Word} (harr : arr ≠ []) {f : Word → Gen α}
    (hf : ∀ w, (f w).Halts values) : (RNG.choice arr >>= f).Halts values :=
  .bind_any (.of_draws (.choice harr)) hf

theorem genReservedMajorOpcode_halts : genReservedMajorOpcode.Halts values :=
  range_then fun _ => choice_then (by decide) fun _ => .pure _

theorem genBadLoad_halts : genBadLoad.Halts values :=
  range_then fun _ => range_then fun _ => choice_then (by decide) fun _ =>
    range_then fun _ => .pure _

theorem genBadStore_halts : genBadStore.Halts values :=
  range_then fun _ => range_then fun _ => range_then fun _ =>
    choice_then (by decide) fun _ => .pure _

theorem genBadBranch_halts : genBadBranch.Halts values :=
  range_then fun _ => range_then fun _ => range_then fun _ =>
    choice_then (by decide) fun _ => range_then fun _ => .pure _

theorem genBadJalr_halts : genBadJalr.Halts values :=
  range_then fun _ => range_then fun _ => range_then fun _ => range_then fun _ => .pure _

theorem genBadMiscMem_halts : genBadMiscMem.Halts values :=
  range_then fun _ => range_then fun _ => range_then fun _ => range_then fun _ => .pure _

theorem genBadSystemF34_halts : genBadSystemF34.Halts values :=
  range_then fun _ => range_then fun _ => range_then fun _ => .pure _

theorem genBadCsrAddr_halts : genBadCsrAddr.Halts values :=
  choice_then (by decide) fun _ => range_then fun _ => choice_then (by decide) fun _ =>
    range_then fun _ => .pure _

theorem genBadLoadFp_halts : genBadLoadFp.Halts values :=
  range_then fun _ => range_then fun _ => choice_then (by decide) fun _ =>
    range_then fun _ => .pure _

theorem genBadStoreFp_halts : genBadStoreFp.Halts values :=
  range_then fun _ => range_then fun _ => range_then fun _ =>
    choice_then (by decide) fun _ => .pure _

theorem genBadMaddFmt_halts : genBadMaddFmt.Halts values :=
  range_then fun _ => range_then fun _ => range_then fun _ => range_then fun _ =>
    choice_then (by decide) fun _ => range_then fun _ => choice_then (by decide) fun _ => .pure _

theorem genBadAmoFunct3_halts : genBadAmoFunct3.Halts values :=
  range_then fun _ => range_then fun _ => range_then fun _ =>
    choice_then (by decide) fun _ => range_then fun _ => .pure _

theorem genQuadrant_halts {f3s : List Word} (hf3s : f3s ≠ []) (quadrant : Word) :
    (genQuadrant f3s quadrant).Halts values :=
  choice_then hf3s fun _ => range_then fun _ => .pure _

theorem genCShiftShamt5_halts : genCShiftShamt5.Halts values :=
  coin_then fun _ => .ite
    (fun _ => range_then fun _ => range_then fun _ => range_then fun _ => .pure _)
    fun _ => range_then fun _ => range_then fun _ => .pure _

theorem genCAluFunct1_halts : genCAluFunct1.Halts values :=
  range_then fun _ => range_then fun _ => range_then fun _ => .pure _

theorem genOpImm_halts (f3 : Word) {imm : Gen Word} (himm : imm.Halts values) :
    (genOpImm f3 imm).Halts values :=
  .bind_any himm fun _ => range_then fun _ => range_then fun _ => .pure _

theorem genShamt_halts {f7 : Gen Word} (hf7 : f7.Halts values) : (genShamt f7).Halts values :=
  .bind_any hf7 fun _ => range_then fun _ => .pure _

theorem genOpFp_halts {f7 rs2 f3 : Gen Word} (hf7 : f7.Halts values) (hrs2 : rs2.Halts values)
    (hf3 : f3.Halts values) : (genOpFp f7 rs2 f3).Halts values :=
  .bind_any hf7 fun _ => .bind_any hrs2 fun _ => range_then fun _ => .bind_any hf3 fun _ =>
    range_then fun _ => .pure _

theorem choice_halts {arr : List Word} (harr : arr ≠ []) : (RNG.choice arr).Halts values :=
  .of_draws (.choice harr)

theorem range_halts (lo hi : Nat) : (range lo hi).Halts values := uniformWord_halts lo hi

theorem range_draws (lo hi : Nat) : (range lo hi).Draws 1 :=
  (Gen.Draws.uniform lo hi).bind fun _ => .pure _

/-! ### The loops -/

variable (hvalues : 64 ≤ values)

include hvalues

/-- None of the loops over a register rejects `x3`. -/
theorem regUntil_halts {good : Word → Bool} (hgood : good 3 = true) :
    (regUntil good).Halts values :=
  wordUntil_halts 3 (by decide) (by omega) hgood

theorem genRs2Not_halts (f7 : Word) {legal : List Word} (hlegal : 3 ∉ legal) :
    (genRs2Not f7 legal).Halts values :=
  .bind_any (regUntil_halts hvalues (decide_eq_true hlegal)) fun _ => .pure _

theorem regNonzero_halts : regNonzero.Halts values := regUntil_halts hvalues (by decide)

theorem genBadSlliSlot_halts : genBadSlliSlot.Halts values := by
  refine range_then fun slot => .ite (fun _ => ?_) fun _ => .ite (fun _ => ?_) fun _ => ?_
  · exact genOpImm_halts _ (genShamt_halts (.pure _))
  · exact genOpImm_halts _ (genShamt_halts (choice_halts (by decide)))
  · exact genOpImm_halts _ (genRs2Not_halts hvalues _ (by decide))

theorem genBadSrliSlot_halts : genBadSrliSlot.Halts values := by
  refine range_then fun slot => .ite (fun _ => ?_) fun _ => .ite (fun _ => ?_) fun _ =>
    .ite (fun _ => ?_) fun _ => ?_
  · exact genOpImm_halts _ (genShamt_halts (.pure _))
  · exact genOpImm_halts _ (genShamt_halts (choice_halts (by decide)))
  · exact genOpImm_halts _ (genRs2Not_halts hvalues _ (by decide))
  · exact genOpImm_halts _ (genRs2Not_halts hvalues _ (by decide))

theorem genBadFmvFclass_halts : genBadFmvFclass.Halts values :=
  coin_then fun _ => .ite
    (fun _ => genOpFp_halts (.pure _) (range_halts _ _) (range_halts _ _))
    fun _ => genOpFp_halts (.pure _) (regNonzero_halts hvalues) (range_halts _ _)

theorem genBadFmvWx_halts : genBadFmvWx.Halts values :=
  coin_then fun _ => .ite
    (fun _ => genOpFp_halts (.pure _) (range_halts _ _) (range_halts _ _))
    fun _ => genOpFp_halts (.pure _) (regNonzero_halts hvalues) (.pure _)

theorem genBadAmoFunct5_halts : genBadAmoFunct5.Halts values := by
  -- funct5 5 is none of the legal ones
  have hloop : (Gen.repeatUntil (range 0 31) fun f5 => decide (f5 ∉ amoLegal)).Halts values :=
    wordUntil_halts 5 (by decide) (by omega) (by decide)
  exact .bind_any hloop fun _ => range_then fun _ => range_then fun _ => range_then fun _ =>
    range_then fun _ => .pure _

theorem genBadLr_halts : genBadLr.Halts values :=
  .bind_any (regNonzero_halts hvalues) fun _ => range_then fun _ => range_then fun _ =>
    range_then fun _ => .pure _

theorem genCLuiZero_halts : genCLuiZero.Halts values :=
  .bind_any (regUntil_halts hvalues (by decide)) fun _ => .pure _

/-- funct7 2 has no legal funct3. -/
theorem genBadOp_halts : genBadOp.Halts values := by
  let fields : Gen (Word × Word) := do
    let f7 ← range 0 0x7F
    return (f7, ← range 0 7)
  have hdraws : fields.Draws 2 := (range_draws _ _).bind fun _ => (range_draws _ _).bind fun _ =>
    .pure _
  have hreads : fields.Reads [2, 0] (2, 0) := fun _ => rfl
  have hloop : (Gen.repeatUntil fields fun fields => !opLegal fields.1 fields.2).Halts values :=
    .repeatUntil hdraws Nat.two_pos rfl (by simp; omega) hreads (by decide)
  refine coin_then fun _ => .ite (fun _ => ?_) fun _ => ?_
  · exact .bind_any (regNonzero_halts hvalues) fun _ => range_then fun _ => range_then fun _ =>
      .pure _
  · exact .bind_any hloop fun _ => range_then fun _ => range_then fun _ => range_then fun _ =>
      .pure _

/-- The word of funct7 1 and no register is none of the assigned ones. -/
theorem genBadSystemF30_halts : genBadSystemF30.Halts values := by
  have hreads : (do
      let f7 ← range 0 0x7F
      let rs2 ← reg
      let rs1 ← reg
      let rd ← reg
      return encR f7 rs2 rs1 0b000 rd 0b1110011 : Gen Word).Reads [1, 0, 0, 0]
        (encR 1 0 0 0 0 0b1110011) :=
    fun _ => rfl
  refine .repeatUntil (k := 4) ?_ (by decide) rfl (by simp; omega) hreads (by decide)
  exact (range_draws _ _).bind fun _ => (range_draws _ _).bind fun _ =>
    (range_draws _ _).bind fun _ => (range_draws _ _).bind fun _ => .pure _

/-- **Every class of the table ends.** -/
theorem classes_halt : ∀ info ∈ classes, info.gen.Halts values := by
  simp only [classes, List.forall_mem_cons]
  have hreg : (range 0 31).Halts values := range_halts 0 31
  have hrm : (RNG.choice validRm).Halts values := choice_halts (by decide)
  exact ⟨.pure _, .pure _, genReservedMajorOpcode_halts, genBadLoad_halts, genBadStore_halts,
    genBadBranch_halts, genBadJalr_halts, genBadSlliSlot_halts hvalues,
    genBadSrliSlot_halts hvalues, genBadOp_halts hvalues, genBadMiscMem_halts,
    genBadSystemF30_halts hvalues, genBadSystemF34_halts, genBadCsrAddr_halts,
    genOpFp_halts (choice_halts (by decide)) hreg hrm,
    genOpFp_halts (choice_halts (by decide)) hreg (range_halts _ _),
    genOpFp_halts (.pure _) (regNonzero_halts hvalues) hrm,
    genOpFp_halts (choice_halts (by decide)) (range_halts _ _) hrm,
    genBadFmvFclass_halts hvalues, genOpFp_halts (.pure _) hreg (range_halts _ _),
    genOpFp_halts (.pure _) hreg (range_halts _ _),
    genOpFp_halts (.pure _) hreg (range_halts _ _), genBadFmvWx_halts hvalues,
    genBadLoadFp_halts, genBadStoreFp_halts, genBadMaddFmt_halts, genBadAmoFunct3_halts,
    genBadAmoFunct5_halts hvalues, genBadLr_halts hvalues, genQuadrant_halts (by decide) _,
    range_then fun _ => .pure _, range_then fun _ => range_then fun _ => .pure _, .pure _,
    genCShiftShamt5_halts, genCAluFunct1_halts, genCLuiZero_halts hvalues, .pure _,
    genQuadrant_halts (by decide) _, List.forall_mem_nil _⟩

end IllegalOpgen

end Riscv

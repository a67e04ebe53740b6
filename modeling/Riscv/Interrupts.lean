import Riscv.TrapEntry

/- Interrupt selection.

   The source scans the six codes twice, first for those targeting M, then for
   those targeting S, and skips a code for any of three reasons. Here the rule is
   stated without the scan: a code is `eligible` or not, and `selected` is the
   first eligible code for M, or else the first for S. `takePendingInterrupt_eq`
   says the scan delivers exactly the selected code. -/
namespace Riscv

open Zicsr Warl

namespace CPU

/-- Whether code `c` is pending and enabled, and its level can be interrupted
now. -/
def eligible (cpu : CPU) (c : Nat) : Bool :=
  let target := cpu.interruptTarget c
  (cpu.csrs.get CsrAddr.mip).getLsbD c && (cpu.csrs.get CsrAddr.mie).getLsbD c &&
    (decide (cpu.csrs.currentPrivilege.toNat < target.toNat) ||
      (decide (cpu.csrs.currentPrivilege = target) &&
        (cpu.csrs.get CsrAddr.mstatus).getLsbD target.ieBit))

/-- The first code of the order that is eligible for the level. -/
def firstFor (cpu : CPU) (target : PrivilegeLevel) (order : List Nat) : Option Nat :=
  order.find? fun c => cpu.eligible c && decide (cpu.interruptTarget c = target)

/-- The code the next step delivers. -/
def selected (cpu : CPU) : Option Nat :=
  (cpu.firstFor .machine [11, 3, 7, 9, 1, 5]).or (cpu.firstFor .supervisor [11, 3, 7, 9, 1, 5])

/-! ## The scan -/

theorem interruptGloballyEnabled_eq (cpu : CPU) (code : Nat) :
    cpu.interruptGloballyEnabled (cpu.interruptTarget code) =
      (decide (cpu.csrs.currentPrivilege.toNat < (cpu.interruptTarget code).toNat) ||
        (decide (cpu.csrs.currentPrivilege = cpu.interruptTarget code) &&
          (cpu.csrs.get CsrAddr.mstatus).getLsbD (cpu.interruptTarget code).ieBit)) := by
  unfold interruptGloballyEnabled
  rcases cpu.interruptTarget_cases code with h | ⟨h, -⟩ <;> rw [h] <;>
    cases cpu.csrs.currentPrivilege <;>
    simp [-BitVec.getLsbD_eq_getElem, PrivilegeLevel.toNat, PrivilegeLevel.ieBit, ← decide_mie,
      ← decide_sie]

theorem pending_bit (cpu : CPU) {c : Nat} (hc : c < 32) :
    (cpu.csrs.get CsrAddr.mip &&& cpu.csrs.get CsrAddr.mie) &&& ((1 : Word) <<< c) = 0 ↔
      ((cpu.csrs.get CsrAddr.mip).getLsbD c && (cpu.csrs.get CsrAddr.mie).getLsbD c) = false := by
  have h := BitVec.and_twoPow_eq_zero hc (cpu.csrs.get CsrAddr.mip &&& cpu.csrs.get CsrAddr.mie)
  rw [BitVec.getLsbD_and, BitVec.twoPow_eq] at h
  exact h

/-- The level a pass is for. -/
def passTarget (pass : Nat) : PrivilegeLevel := if pass = 0 then .machine else .supervisor

theorem pass_skips (cpu : CPU) (code pass : Nat) :
    (decide (pass = 0) != decide (cpu.interruptTarget code = .machine)) =
      !decide (cpu.interruptTarget code = passTarget pass) := by
  unfold passTarget
  rcases cpu.interruptTarget_cases code with h | ⟨h, -⟩ <;> rw [h] <;>
    by_cases hpass : pass = 0 <;> simp [hpass]

/-- **One pass** delivers the first eligible code of its level. -/
theorem scanInterrupts_eq (cpu : CPU) (result : CPUExecResult) (pass : Nat) (codes : List Nat)
    (hcodes : ∀ c ∈ codes, c < 32) :
    cpu.scanInterrupts result (cpu.csrs.get CsrAddr.mip &&& cpu.csrs.get CsrAddr.mie) pass codes =
      (cpu.firstFor (passTarget pass) codes).map fun c =>
        cpu.deliverInterrupt result c (cpu.interruptTarget c) := by
  induction codes with
  | nil => rfl
  | cons code codes ih =>
    have hcode : code < 32 := hcodes code List.mem_cons_self
    have ih := ih fun c hc => hcodes c (List.mem_cons_of_mem _ hc)
    have heligible : cpu.eligible code =
        ((cpu.csrs.get CsrAddr.mip).getLsbD code && (cpu.csrs.get CsrAddr.mie).getLsbD code &&
          cpu.interruptGloballyEnabled (cpu.interruptTarget code)) := by
      rw [interruptGloballyEnabled_eq]
      rfl
    unfold scanInterrupts firstFor
    dsimp only
    rw [delegateTarget_interrupt cpu hcode, pass_skips, List.find?_cons, heligible]
    -- a code that is not pending is skipped, whatever its target
    have hbit := cpu.pending_bit hcode
    cases hpending : ((cpu.csrs.get CsrAddr.mip).getLsbD code &&
        (cpu.csrs.get CsrAddr.mie).getLsbD code) with
    | false =>
      rw [if_pos (hbit.mpr hpending), ih]
      rfl
    | true =>
      rw [if_neg (by rw [hbit, hpending]; decide)]
      cases decide (cpu.interruptTarget code = passTarget pass) <;>
        cases cpu.interruptGloballyEnabled (cpu.interruptTarget code) <;>
        simp [ih, firstFor]

theorem firstFor_eq_none {cpu : CPU} {target : PrivilegeLevel} {order : List Nat}
    (h : ∀ c ∈ order, cpu.eligible c = false) : cpu.firstFor target order = none := by
  unfold firstFor
  rw [List.find?_eq_none]
  intro c hc
  simp [h c hc]

/-- **The two passes** deliver the selected code. -/
theorem takePendingInterrupt_eq (cpu : CPU) (result : CPUExecResult) :
    cpu.takePendingInterrupt result =
      cpu.selected.map fun c => cpu.deliverInterrupt result c (cpu.interruptTarget c) := by
  have horder : ∀ c ∈ interruptPriority, c < 32 := by decide
  unfold takePendingInterrupt
  dsimp only
  split
  · rename_i hzero
    -- no bit is pending, so no code is eligible
    have hnone : ∀ c ∈ interruptPriority, cpu.eligible c = false := by
      intro c hc
      have hbit := (cpu.pending_bit (horder c hc)).mp (by rw [hzero]; simp)
      simp [eligible, hbit]
    have hselected : cpu.selected = none := by
      show (cpu.firstFor .machine interruptPriority).or
        (cpu.firstFor .supervisor interruptPriority) = none
      rw [firstFor_eq_none hnone, firstFor_eq_none hnone]
      rfl
    rw [hselected]
    rfl
  · rw [scanInterrupts_eq cpu result 0 _ horder, scanInterrupts_eq cpu result 1 _ horder]
    show _ = ((cpu.firstFor (passTarget 0) interruptPriority).or
      (cpu.firstFor (passTarget 1) interruptPriority)).map _
    cases cpu.firstFor (passTarget 0) interruptPriority <;> rfl

/-! ## The rule -/

/-- The selected code is one of the six and eligible. -/
theorem selected_spec {cpu : CPU} {c : Nat} (h : cpu.selected = some c) :
    c ∈ [11, 3, 7, 9, 1, 5] ∧ cpu.eligible c = true := by
  have hfirst : ∀ target, cpu.firstFor target [11, 3, 7, 9, 1, 5] = some c →
      c ∈ [11, 3, 7, 9, 1, 5] ∧ cpu.eligible c = true := by
    intro target hc
    have helig := List.find?_some hc
    exact ⟨List.mem_of_find?_eq_some hc, by simp_all⟩
  rcases Option.or_eq_some_iff.mp h with hm | ⟨-, hs⟩
  · exact hfirst _ hm
  · exact hfirst _ hs

/-- Some code is selected exactly when one of the six is eligible. -/
theorem selected_isSome (cpu : CPU) :
    cpu.selected.isSome = true ↔ ∃ c ∈ [11, 3, 7, 9, 1, 5], cpu.eligible c = true := by
  constructor
  · intro h
    obtain ⟨c, hc⟩ := Option.isSome_iff_exists.mp h
    obtain ⟨hmem, helig⟩ := selected_spec hc
    exact ⟨c, hmem, helig⟩
  · rintro ⟨c, hmem, helig⟩
    unfold selected firstFor
    rw [Option.isSome_or]
    simp only [Bool.or_eq_true, List.find?_isSome]
    rcases cpu.interruptTarget_cases c with h | ⟨h, -⟩
    · exact .inl ⟨c, hmem, by simp [helig, h]⟩
    · exact .inr ⟨c, hmem, by simp [helig, h]⟩

/-- An eligible code never interrupts a level above its own. -/
theorem eligible_privilege {cpu : CPU} {c : Nat} (h : cpu.eligible c = true) :
    cpu.csrs.currentPrivilege.toNat ≤ (cpu.interruptTarget c).toNat := by
  unfold eligible at h
  simp only [Bool.and_eq_true, Bool.or_eq_true, decide_eq_true_eq] at h
  rcases h.2 with hlt | ⟨heq, -⟩
  · exact Nat.le_of_lt hlt
  · exact Nat.le_of_eq (congrArg _ heq)

theorem trapTarget_selected {cpu : CPU} {c : Nat} (h : cpu.selected = some c) :
    cpu.TrapTarget (cpu.interruptTarget c) := by
  have hle := eligible_privilege (selected_spec h).2
  rcases cpu.interruptTarget_cases c with ht | ⟨ht, hs, -⟩
  · exact .inl ht
  · refine .inr ⟨ht, hs, fun hm => ?_⟩
    rw [ht, hm] at hle
    exact absurd hle (by decide)

end CPU

end Riscv

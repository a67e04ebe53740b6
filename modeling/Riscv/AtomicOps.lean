import Riscv.BusAccess
import Riscv.CsrStep
import Riscv.LrSc
import Riscv.TrapReturn
import Riscv.Traps

/- The nine read-modify-write operations.

   What they store is the specified function of the old word and the old rs2 value,
   over the integers where the operation compares or adds. The memory is any one
   that behaves as an array of words (`MemoryLike`); the memory of the test system
   is one. -/
namespace Riscv

/-! ## Memories -/

/-- `word bus` are the words of a memory: reads return them, a write that returns
changes the one at its address, and nothing else changes any. -/
structure MemoryLike {β : Type} [Bus β] (word : β → Word → Word) : Prop where
  quiet : QuietMemory word
  read : ∀ (bus : β) (addr v : Word), addr &&& 3 = 0 →
    (Bus.read32 bus addr).1 = .ok v → v = word bus addr
  write : ∀ (bus : β) (addr v : Word), addr &&& 3 = 0 →
    (Bus.write32 bus addr v).1.isOk = true → ∀ a, a &&& 3 = 0 →
      word (Bus.write32 bus addr v).2 a = if a = addr then v else word bus a

namespace SimpleMemory

/-- The word at an address, least significant byte first. -/
def wordAt (m : SimpleMemory) (addr : Word) : Word :=
  let offset := m.offset addr
  (m.byteAt offset).setWidth 32 ||| ((m.byteAt (offset + 1)).setWidth 32 <<< 8) |||
    ((m.byteAt (offset + 2)).setWidth 32 <<< 16) ||| ((m.byteAt (offset + 3)).setWidth 32 <<< 24)

theorem byteAt_setByte (m : SimpleMemory) (o p : Word) (v : BitVec 8) :
    (m.setByte o v).byteAt p = if p = o ∧ o.toNat < m.size then v else m.byteAt p := by
  unfold byteAt setByte size
  cases m.mem with
  | none => simp
  | some buffer =>
    by_cases h : p = o
    · subst h
      by_cases hsize : p.toNat < buffer.size <;> simp [hsize]
    · have hne : o.toNat ≠ p.toNat := fun heq => h (BitVec.eq_of_toNat_eq heq.symm)
      simp [h, hne]

@[simp] theorem size_setByte (m : SimpleMemory) (o : Word) (v : BitVec 8) :
    (m.setByte o v).size = m.size := by
  unfold size setByte
  cases m.mem <;> simp

theorem bytes_of_word (v : Word) :
    ((v.setWidth 8).setWidth 32 ||| (((v >>> 8).setWidth 8).setWidth 32 <<< 8) |||
      (((v >>> 16).setWidth 8).setWidth 32 <<< 16) |||
      (((v >>> 24).setWidth 8).setWidth 32 <<< 24)) = v := by
  apply BitVec.eq_of_getLsbD_eq
  intro i hi
  simp only [BitVec.getLsbD_or, BitVec.getLsbD_setWidth, BitVec.getLsbD_shiftLeft,
    BitVec.getLsbD_ushiftRight]
  rcases (by omega : i < 8 ∨ (8 ≤ i ∧ i < 16) ∨ (16 ≤ i ∧ i < 24) ∨ 24 ≤ i) with h | h | h | h
  · simp [hi, h, show i < 16 by omega, show i < 24 by omega]
  · simp [hi, h.2, show ¬i < 8 by omega, show i - 8 < 8 by omega, show i < 24 by omega,
      show i - 8 < 32 by omega, show 8 + (i - 8) = i by omega]
  · simp [hi, h.2, show ¬i < 8 by omega, show ¬i < 16 by omega, show ¬i - 8 < 8 by omega,
      show i - 16 < 8 by omega, show i - 16 < 32 by omega, show 16 + (i - 16) = i by omega]
  · simp [hi, show ¬i < 8 by omega, show ¬i < 16 by omega, show ¬i < 24 by omega,
      show ¬i - 8 < 8 by omega, show ¬i - 16 < 8 by omega, show i - 24 < 8 by omega,
      show i - 24 < 32 by omega, show 24 + (i - 24) = i by omega]

theorem offset_lt {m : SimpleMemory} {addr : Word} (halign : addr &&& 3 = 0)
    (hcheck : m.checkAddr addr 4 = true) :
    (m.offset addr).toNat < m.size ∧ (m.offset addr + 1).toNat < m.size ∧
      (m.offset addr + 2).toNat < m.size ∧ (m.offset addr + 3).toNat < m.size := by
  unfold checkAddr at hcheck
  simp only [Bool.and_eq_true, decide_eq_true_eq, ge_iff_le, BitVec.le_def] at hcheck
  obtain ⟨⟨-, hbase⟩, hsize⟩ := hcheck
  have hmod := Rv32a.natural_of_low halign
  have hlt := addr.isLt
  unfold offset
  refine ⟨?_, ?_, ?_, ?_⟩ <;> simp [BitVec.toNat_sub, BitVec.toNat_add] <;> omega

/-- Words at distinct aligned addresses share no byte. -/
theorem offset_add_ne {m : SimpleMemory} {a b : Word} (ha : a &&& 3 = 0) (hb : b &&& 3 = 0)
    (hne : a ≠ b) {i j : Word} (hi : i.toNat < 4) (hj : j.toNat < 4) :
    m.offset a + i ≠ m.offset b + j := by
  have hamod := Rv32a.natural_of_low ha
  have hbmod := Rv32a.natural_of_low hb
  intro h
  apply hne
  apply BitVec.eq_of_toNat_eq
  have hnat := congrArg BitVec.toNat h
  have hbase := m.baseAddr.isLt
  have halt := a.isLt
  have hblt := b.isLt
  unfold offset at hnat
  simp only [BitVec.toNat_add, BitVec.toNat_sub] at hnat
  omega

/-- The four bytes of a word, written in the order of their addresses. -/
def setWord (m : SimpleMemory) (o v : Word) : SimpleMemory :=
  (((m.setByte o (v.setWidth 8)).setByte (o + 1) ((v >>> 8).setWidth 8)).setByte (o + 2)
    ((v >>> 16).setWidth 8)).setByte (o + 3) ((v >>> 24).setWidth 8)

theorem byteAt_setWord {m : SimpleMemory} {o : Word} (h0 : o.toNat < m.size)
    (h1 : (o + 1).toNat < m.size) (h2 : (o + 2).toNat < m.size) (h3 : (o + 3).toNat < m.size)
    (v p : Word) :
    (m.setWord o v).byteAt p =
      if p = o + 3 then (v >>> 24).setWidth 8
      else if p = o + 2 then (v >>> 16).setWidth 8
      else if p = o + 1 then (v >>> 8).setWidth 8
      else if p = o then v.setWidth 8
      else m.byteAt p := by
  simp only [setWord, byteAt_setByte, size_setByte, h0, h1, h2, h3, and_true]

/-- A word reads back as written, and the other words as before. -/
theorem wordAt_write32 {m : SimpleMemory} {addr : Word} (v : Word) (halign : addr &&& 3 = 0)
    (hok : (m.write32 addr v).1.isOk = true) {a : Word} (ha : a &&& 3 = 0) :
    (m.write32 addr v).2.wordAt a = if a = addr then v else m.wordAt a := by
  cases hcheck : m.checkAddr addr 4 with
  | false =>
    unfold write32 at hok
    rw [hcheck] at hok
    cases hok
  | true =>
    obtain ⟨h0, h1, h2, h3⟩ := offset_lt halign hcheck
    have hwrite : (m.write32 addr v).2 = m.setWord (m.offset addr) v := by
      unfold write32
      rw [hcheck]
      rfl
    -- the write sets four bytes, each tested against the four of the word read
    have hbyte := byteAt_setWord h0 h1 h2 h3 v
    have hoffset : (m.setWord (m.offset addr) v).offset a = m.offset a := rfl
    rw [hwrite]
    unfold wordAt
    dsimp only
    rw [hoffset]
    by_cases heq : a = addr
    · subst heq
      simp only [hbyte]
      simp [bytes_of_word]
    · have hother : ∀ i : Word, i.toNat < 4 →
          (m.setWord (m.offset addr) v).byteAt (m.offset a + i) = m.byteAt (m.offset a + i) := by
        intro i hi
        have hne : ∀ j : Word, j.toNat < 4 → m.offset a + i ≠ m.offset addr + j :=
          fun j hj => offset_add_ne ha halign heq hi hj
        rw [hbyte, if_neg (hne 3 (by decide)), if_neg (hne 2 (by decide)),
          if_neg (hne 1 (by decide)), if_neg (by simpa using hne 0 (by decide))]
      have hzero : m.offset a + 0 = m.offset a := BitVec.add_zero _
      have hfirst := hother 0 (by decide)
      rw [hzero] at hfirst
      rw [if_neg heq, hfirst, hother 1 (by decide), hother 2 (by decide), hother 3 (by decide)]

/-- The memory of the test system is an array of words. -/
theorem memoryLike : MemoryLike wordAt where
  quiet op m h := congrArg wordAt (quiet op m h)
  read m addr v _ h := by
    change (m.read32 addr).1 = .ok v at h
    unfold read32 at h
    split at h
    · exact (Except.ok.inj h).symm
    · cases h
  write m addr v halign hok a ha := wordAt_write32 v halign hok ha

end SimpleMemory

/-! ## The operations -/

namespace Rv32a

/-- The word an AMO stores: the minima and maxima are of the integers, signed or not,
that the words stand for. -/
def amoSpec (type : InstrType) (oldVal rs2Val : Word) : Word :=
  match type with
  | .amoswapW => rs2Val
  | .amoaddW => BitVec.ofNat 32 (oldVal.toNat + rs2Val.toNat)
  | .amoxorW => oldVal ^^^ rs2Val
  | .amoandW => oldVal &&& rs2Val
  | .amoorW => oldVal ||| rs2Val
  | .amominW => BitVec.ofInt 32 (min oldVal.toInt rs2Val.toInt)
  | .amomaxW => BitVec.ofInt 32 (max oldVal.toInt rs2Val.toInt)
  | .amominuW => BitVec.ofNat 32 (min oldVal.toNat rs2Val.toNat)
  | .amomaxuW => BitVec.ofNat 32 (max oldVal.toNat rs2Val.toNat)
  | .lrW | .scW | .illegal => 0

theorem signed_min (a b : Word) :
    BitVec.ofInt 32 (min a.toInt b.toInt) = if a.slt b then a else b := by
  by_cases h : a.toInt < b.toInt
  · rw [Int.min_eq_left (by omega), if_pos (BitVec.slt_iff_toInt_lt.mpr h), BitVec.ofInt_toInt]
  · rw [Int.min_eq_right (by omega), if_neg (h ∘ BitVec.slt_iff_toInt_lt.mp), BitVec.ofInt_toInt]

theorem signed_max (a b : Word) :
    BitVec.ofInt 32 (max a.toInt b.toInt) = if b.slt a then a else b := by
  by_cases h : b.toInt < a.toInt
  · rw [Int.max_eq_left (by omega), if_pos (BitVec.slt_iff_toInt_lt.mpr h), BitVec.ofInt_toInt]
  · rw [Int.max_eq_right (by omega), if_neg (h ∘ BitVec.slt_iff_toInt_lt.mp), BitVec.ofInt_toInt]

theorem unsigned_min (a b : Word) :
    BitVec.ofNat 32 (min a.toNat b.toNat) = if a.ult b then a else b := by
  by_cases h : a.toNat < b.toNat
  · rw [Nat.min_eq_left (by omega), if_pos (by simpa [BitVec.ult] using h), BitVec.ofNat_toNat,
      BitVec.setWidth_eq]
  · rw [Nat.min_eq_right (by omega), if_neg (by simpa [BitVec.ult] using h), BitVec.ofNat_toNat,
      BitVec.setWidth_eq]

theorem unsigned_max (a b : Word) :
    BitVec.ofNat 32 (max a.toNat b.toNat) = if b.ult a then a else b := by
  by_cases h : b.toNat < a.toNat
  · rw [Nat.max_eq_left (by omega), if_pos (by simpa [BitVec.ult] using h), BitVec.ofNat_toNat,
      BitVec.setWidth_eq]
  · rw [Nat.max_eq_right (by omega), if_neg (by simpa [BitVec.ult] using h), BitVec.ofNat_toNat,
      BitVec.setWidth_eq]

/-- **The operations are the specified ones.** -/
theorem amoOp_eq {type : InstrType} (h : isAmo type = true) :
    amoOp type = some (amoSpec type) := by
  cases type
  case lrW | scW | illegal => cases h
  case amoswapW | amoxorW | amoandW | amoorW => rfl
  all_goals
    refine congrArg some (funext fun oldVal => funext fun rs2Val => ?_)
    dsimp only [amoSpec]
  case amoaddW =>
    rw [BitVec.ofNat_add, BitVec.ofNat_toNat, BitVec.ofNat_toNat, BitVec.setWidth_eq,
      BitVec.setWidth_eq]
  case amominW => exact (signed_min oldVal rs2Val).symm
  case amomaxW => exact (signed_max oldVal rs2Val).symm
  case amominuW => exact (unsigned_min oldVal rs2Val).symm
  case amomaxuW => exact (unsigned_max oldVal rs2Val).symm

/-- The word an AMO stores on a memory with the words `mem`. -/
def amoWord (mem : Word → Word) (d : DecodedInstr) (regs : RegFile) : Word :=
  amoSpec d.type (mem (regs.read d.rs1)) (regs.read d.rs2)

/-- A completed AMO: the word at its address is replaced, rd has the old one. -/
structure AmoDone (d : DecodedInstr) (regs regs' : RegFile) (mem mem' : Word → Word) : Prop where
  memory : ∀ a, a &&& 3 = 0 →
    mem' a = if a = regs.read d.rs1 then amoWord mem d regs else mem a
  regs : regs' = regs.write d.rd (mem (regs.read d.rs1))

section
variable {β : Type} [Bus β] {word : β → Word → Word} {d : DecodedInstr} {regs : RegFile} {bus : β}

/-- Whether both bus calls of an AMO return. -/
def AmoCalls (word : β → Word → Word) (d : DecodedInstr) (regs : RegFile) (bus : β) : Prop :=
  let read := Bus.read32 bus (regs.read d.rs1)
  let write := Bus.write32 read.2 (regs.read d.rs1) (amoWord (word bus) d regs)
  read.1.isOk = true ∧ write.1.isOk = true

/-- An AMO that fails: it names its address and changes nothing. -/
structure AmoFault (word : β → Word → Word) (d : DecodedInstr) (regs : RegFile) (bus : β)
    (cause : Word) (exec : ExecResult × RegFile × β × ReservationSet) : Prop where
  invalid : exec.1.valid = false
  cause : exec.1.trapCause = cause
  tval : exec.1.trapValue = regs.read d.rs1
  regs : exec.2.1 = regs
  memory : word exec.2.2.1 = word bus

theorem legal_of_amo {type : InstrType} (hamo : isAmo type = true) : type ≠ .illegal := by
  intro h
  rw [h] at hamo
  cases hamo

theorem ne_lr_of_amo (hamo : isAmo d.type = true) : d.type ≠ .lrW := by
  intro h
  rw [h] at hamo
  cases hamo

omit [Bus β] in
theorem amoFault_accessFault {reservation : ReservationSet} (hamo : isAmo d.type = true) {bus' : β}
    (hmemory : word bus' = word bus) :
    AmoFault word d regs bus Exc.storeAccessFault
      (accessFault d (regs.read d.rs1), regs, bus', reservation) where
  invalid := rfl
  cause := if_neg (ne_lr_of_amo hamo)
  tval := rfl
  regs := rfl
  memory := hmemory

theorem amo_read (hmem : MemoryLike word) {addr oldVal : Word} (halign : addr &&& 3 = 0)
    {bus₁ : β} (hread : Bus.read32 bus addr = (.ok oldVal, bus₁)) :
    oldVal = word bus addr ∧ word bus₁ = word bus := by
  have hquiet := hmem.quiet (.read32 addr) bus (.inl rfl)
  simp only [BusOp.perform, hread] at hquiet
  exact ⟨hmem.read bus addr oldVal halign (by rw [hread]), hquiet⟩

/-- An AMO whose calls return completes; the reservation stays. -/
theorem execute_amo_done (hmem : MemoryLike word) (hamo : isAmo d.type = true)
    (halign : regs.read d.rs1 &&& 3 = 0) (hcalls : AmoCalls word d regs bus)
    (reservation : ReservationSet) :
    let exec := execute d regs bus reservation
    exec.1.valid = true ∧ AmoDone d regs exec.2.1 (word bus) (word exec.2.2.1) ∧
      exec.2.2.2 = reservation := by
  obtain ⟨hreadOk, hwriteOk⟩ := hcalls
  rw [execute_amo (amoOp_eq hamo) halign]
  unfold executeAmo
  rcases hread : Bus.read32 bus (regs.read d.rs1) with ⟨_ | oldVal, bus₁⟩
  · rw [hread] at hreadOk
    cases hreadOk
  -- the read left the memory alone, so the write acts on the memory before
  · obtain ⟨hold, hsame⟩ := amo_read hmem halign hread
    subst hold
    rw [hread] at hwriteOk
    have hmemory := hmem.write bus₁ (regs.read d.rs1) _ halign hwriteOk
    change (Bus.write32 bus₁ (regs.read d.rs1) (amoSpec d.type (word bus (regs.read d.rs1))
      (regs.read d.rs2))).1.isOk = true at hwriteOk
    dsimp only
    rcases hwrite : Bus.write32 bus₁ (regs.read d.rs1) (amoSpec d.type
      (word bus (regs.read d.rs1)) (regs.read d.rs2)) with ⟨_ | _, bus₂⟩
    · rw [hwrite] at hwriteOk
      cases hwriteOk
    · change ∀ a, a &&& 3 = 0 → word (Bus.write32 bus₁ (regs.read d.rs1) (amoSpec d.type
        (word bus (regs.read d.rs1)) (regs.read d.rs2))).2 a = _ at hmemory
      rw [hwrite, hsame] at hmemory
      exact ⟨rfl, ⟨hmemory, rfl⟩, rfl⟩

/-- An AMO whose calls do not both return fails with a store access fault. -/
theorem execute_amo_fault (hmem : MemoryLike word) (hamo : isAmo d.type = true)
    (halign : regs.read d.rs1 &&& 3 = 0) (hcalls : ¬AmoCalls word d regs bus)
    (reservation : ReservationSet) :
    AmoFault word d regs bus Exc.storeAccessFault (execute d regs bus reservation) := by
  rw [execute_amo (amoOp_eq hamo) halign]
  unfold executeAmo
  rcases hread : Bus.read32 bus (regs.read d.rs1) with ⟨_ | oldVal, bus₁⟩
  · have hquiet := hmem.quiet (.read32 (regs.read d.rs1)) bus (.inl rfl)
    simp only [BusOp.perform, hread] at hquiet
    exact amoFault_accessFault hamo hquiet
  · obtain ⟨hold, hsame⟩ := amo_read hmem halign hread
    subst hold
    dsimp only
    rcases hwrite : Bus.write32 bus₁ (regs.read d.rs1) (amoSpec d.type
      (word bus (regs.read d.rs1)) (regs.read d.rs2)) with ⟨_ | _, bus₂⟩
    · have hquiet := hmem.quiet (.write32 (regs.read d.rs1) (amoSpec d.type
        (word bus (regs.read d.rs1)) (regs.read d.rs2))) bus₁
      simp only [BusOp.perform, hwrite] at hquiet
      exact amoFault_accessFault hamo ((hquiet (.inr rfl)).trans hsame)
    · refine absurd ⟨?_, ?_⟩ hcalls
      · rw [hread]
        rfl
      · rw [hread]
        exact congrArg (·.1.isOk) hwrite

theorem execute_amo_misaligned (hamo : isAmo d.type = true) (halign : regs.read d.rs1 &&& 3 ≠ 0)
    (reservation : ReservationSet) :
    AmoFault word d regs bus Exc.storeAddrMisaligned (execute d regs bus reservation) := by
  unfold execute
  dsimp only
  rw [if_neg (legal_of_amo hamo), if_pos halign]
  exact ⟨rfl, if_neg (ne_lr_of_amo hamo), rfl, rfl, rfl⟩

end

end Rv32a

/-! ## The step -/

section
variable {β : Type} [Bus β] [Rv32f.HostFloat] {word : β → Word → Word} {cpu : CPU} {bus : β}
  {stim : Stimulus} {d : Rv32a.DecodedInstr}

/-- A step whose AMO failed. -/
structure AmoTrap (word : β → Word → Word) (cpu : CPU) (bus : β) (d : Rv32a.DecodedInstr)
    (cause : Word) (out : CPUExecResult × CPU × β) : Prop where
  trap : out.1.trap = true
  cause : out.1.trapCause = cause
  tval : out.1.trapValue = cpu.atomicAddr d
  regs : out.2.1.regs = cpu.regs
  fregs : out.2.1.fregs = cpu.fregs
  memory : word out.2.2 = word bus

theorem amoTrap_of_fault (hatomic : cpu.atomic bus stim = some d)
    (hamo : Rv32a.isAmo d.type = true) (hsame : word (cpu.supply bus stim).2 = word bus)
    {cause : Word} (hfault : Rv32a.AmoFault word d cpu.regs (cpu.supply bus stim).2 cause
      (Rv32a.execute d cpu.regs (cpu.supply bus stim).2 cpu.reservation)) :
    AmoTrap word cpu bus d cause (cpu.stepOn bus stim) := by
  obtain ⟨result, -, hstep⟩ := stepOn_atomic hatomic (Rv32a.legal_of_amo hamo)
  have hinvalid := hfault.invalid
  rw [hstep]
  simp only [CPU.trapUnless, hinvalid, Bool.false_eq_true, if_false]
  obtain ⟨hcause, htval, hregs, hfregs, -⟩ := CPU.takeException_keeps _ result _ _ _
  exact {
    trap := CPU.takeException_trap _ _ _ _ _
    cause := hcause.trans hfault.cause
    tval := htval.trans hfault.tval
    regs := hregs.trans hfault.regs
    fregs := hfregs
    memory := hfault.memory.trans hsame }

/-- **The nine AMOs.** On a memory that behaves as an array of words, whichever of the
registers of the instruction are the same: at an aligned address with both bus calls
returning, the word becomes the specified function of the old word and rs2, rd has
the old word, and nothing else of registers and memory changes, nor the
reservation; otherwise the step traps at the address and changes none of them. -/
theorem amo_exact (hmem : MemoryLike word) (hatomic : cpu.atomic bus stim = some d)
    (hamo : Rv32a.isAmo d.type = true) :
    let before := (cpu.supply bus stim).2
    let out := cpu.stepOn bus stim
    (cpu.atomicAddr d &&& 3 = 0 → Rv32a.AmoCalls word d cpu.regs before →
      out.1.trap = false ∧ Rv32a.AmoDone d cpu.regs out.2.1.regs (word bus) (word out.2.2) ∧
        out.2.1.fregs = cpu.fregs ∧ out.2.1.reservation = cpu.reservation) ∧
    (cpu.atomicAddr d &&& 3 = 0 → ¬Rv32a.AmoCalls word d cpu.regs before →
      AmoTrap word cpu bus d Exc.storeAccessFault out) ∧
    (cpu.atomicAddr d &&& 3 ≠ 0 → AmoTrap word cpu bus d Exc.storeAddrMisaligned out) := by
  intro before out
  -- the fetch only reads, so the old word is the one before the step
  have hsame : word before = word bus := supply_mem cpu bus stim hmem.quiet
  refine ⟨fun halign hcalls => ?done, fun halign hcalls => ?fault, fun halign => ?misaligned⟩
  case done =>
    obtain ⟨hvalid, hdone, hreservation⟩ :=
      Rv32a.execute_amo_done hmem hamo halign hcalls cpu.reservation
    obtain ⟨result, hresult, hstep⟩ := stepOn_atomic hatomic (Rv32a.legal_of_amo hamo)
    have hout : out = _ := hstep
    have hbefore : (cpu.supply bus stim).2 = before := rfl
    rw [hout, hbefore]
    simp only [CPU.trapUnless, hvalid, if_true]
    rw [← hsame]
    exact ⟨hresult, hdone, rfl, hreservation⟩
  case fault =>
    exact amoTrap_of_fault hatomic hamo hsame
      (Rv32a.execute_amo_fault hmem hamo halign hcalls cpu.reservation)
  case misaligned =>
    exact amoTrap_of_fault hatomic hamo hsame
      (Rv32a.execute_amo_misaligned hamo halign cpu.reservation)

end

/-- AMOADD.W of a register to the word it points at, the address register being also
the destination. -/
theorem amo_exact_add :
    let _ := Rv32f.nanHost
    let cpu : CPU := { CPU.new {} with regs := (RegFile.zero.write 1 4).write 2 5 }
    let memory := ((SimpleMemory.new 8).write32 4 7).2
    let out := cpu.stepOn memory (.inject 0x0020A0AF)
    out.1.trap = false ∧ out.2.1.regs.read 1 = 7 ∧ out.2.2.wordAt 4 = 12 := by
  intro _ cpu memory out
  obtain ⟨hdone, -, -⟩ := amo_exact SimpleMemory.memoryLike
    (show cpu.atomic memory (.inject 0x0020A0AF) = some (Rv32a.decode 0x0020A0AF) by decide)
    (by decide)
  obtain ⟨htrap, hamo, -, -⟩ := hdone (by decide) ⟨by decide, by decide⟩
  refine ⟨htrap, ?_, ?_⟩
  · rw [hamo.regs]
    decide
  · rw [hamo.memory 4 (by decide)]
    decide

end Riscv

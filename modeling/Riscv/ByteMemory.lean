import Riscv.Memory
import Riscv.Lib.ByteStore

/- The test memory as a bounded store of bytes.

   An access asks the store for the bytes it covers (`Access.request`), and the memory
   answers as the store does (`perform_refines`) as long as the offsets of the bytes,
   computed in 32 bits, do not wrap. They do for an access whose bytes reach past
   offset 2^32, which only a buffer longer than that accepts (`Access.Wraps`). -/
namespace Riscv.SimpleMemory

open ByteStore

/-! ## Contents -/

/-- The byte at an offset of the buffer. -/
def contents (m : SimpleMemory) (i : Nat) : BitVec 8 := (m.mem.bind (·[i]?)).getD 0

/-- `mem[i] = data` at an offset that has not been cut to 32 bits. -/
def setAt (m : SimpleMemory) (i : Nat) (data : BitVec 8) : SimpleMemory :=
  { m with mem := m.mem.map (·.setIfInBounds i data) }

/-- Bytes set one after another. -/
def setAll (m : SimpleMemory) (bytes : List (Nat × BitVec 8)) : SimpleMemory :=
  bytes.foldl (fun m b => m.setAt b.1 b.2) m

theorem size_setAt (m : SimpleMemory) (i : Nat) (b : BitVec 8) : (m.setAt i b).size = m.size := by
  unfold size setAt
  cases m.mem with
  | none => rfl
  | some buffer => exact Array.size_setIfInBounds

theorem contents_setAt {m : SimpleMemory} {i : Nat} (hi : i < m.size) (b : BitVec 8) :
    (m.setAt i b).contents = fun j => if j = i then b else m.contents j := by
  funext j
  unfold size at hi
  unfold contents setAt
  cases hmem : m.mem with
  | none => simp [hmem] at hi
  | some buffer =>
    simp only [hmem, Option.map_some, Option.getD_some] at hi
    simp only [Option.map_some, Option.bind_some, Array.getElem?_setIfInBounds, if_pos hi]
    rcases Decidable.em (j = i) with rfl | hne
    · rw [if_pos rfl, if_pos rfl, Option.getD_some]
    · rw [if_neg (Ne.symm hne), if_neg hne]

theorem setAll_frame (bytes : List (Nat × BitVec 8)) (m : SimpleMemory) :
    (m.setAll bytes).size = m.size ∧ (m.setAll bytes).baseAddr = m.baseAddr := by
  induction bytes generalizing m with
  | nil => exact ⟨rfl, rfl⟩
  | cons b bytes ih =>
    have hrest := ih (m.setAt b.1 b.2)
    rw [size_setAt] at hrest
    exact hrest

theorem contents_setAll_range' (bs : List (BitVec 8)) (m : SimpleMemory) (off : Nat)
    (h : off + bs.length ≤ m.size) :
    (m.setAll ((List.range' off bs.length).zip bs)).contents = put m.contents off bs := by
  induction bs generalizing m off with
  | nil => exact (put_nil _ _).symm
  | cons b bs ih =>
    rw [List.length_cons] at h
    have hrest := ih (m.setAt off b) (off + 1) (by rw [size_setAt]; omega)
    rw [contents_setAt (by omega), ← put_cons] at hrest
    exact hrest

/-! ## Accesses -/

/-- An access of one of the three widths. -/
inductive Access where
  | read8 (addr : Word)
  | write8 (addr : Word) (data : BitVec 8)
  | read16 (addr : Word)
  | write16 (addr : Word) (data : BitVec 16)
  | read32 (addr : Word)
  | write32 (addr data : Word)
  | load (addr : Word) (src : List (BitVec 8))
  deriving DecidableEq, Repr

namespace Access

def addr : Access → Word
  | read8 a | write8 a _ | read16 a | write16 a _ | read32 a | write32 a _ | load a _ => a

/-- The access made: its value, zero for one that returns none, and the memory after it. -/
def perform (a : Access) (m : SimpleMemory) : Except BusFault Nat × SimpleMemory :=
  match a with
  | read8 addr => ((m.read8 addr).1.map BitVec.toNat, (m.read8 addr).2)
  | write8 addr data => ((m.write8 addr data).1.map fun _ => 0, (m.write8 addr data).2)
  | read16 addr => ((m.read16 addr).1.map BitVec.toNat, (m.read16 addr).2)
  | write16 addr data => ((m.write16 addr data).1.map fun _ => 0, (m.write16 addr data).2)
  | read32 addr => ((m.read32 addr).1.map BitVec.toNat, (m.read32 addr).2)
  | write32 addr data => ((m.write32 addr data).1.map fun _ => 0, (m.write32 addr data).2)
  | load addr src => ((m.load addr src).1.map fun _ => 0, (m.load addr src).2)

/-- What the access asks of the store. -/
def request : Access → Request (BitVec 8)
  | read8 a => .read a.toNat 1
  | write8 a v => .write a.toNat [v]
  | read16 a => .read a.toNat 2
  | write16 a v => .write a.toNat [v.setWidth 8, (v >>> 8).setWidth 8]
  | read32 a => .read a.toNat 4
  | write32 a v => .write a.toNat
      [v.setWidth 8, (v >>> 8).setWidth 8, (v >>> 16).setWidth 8, (v >>> 24).setWidth 8]
  | load a src => .write a.toNat src

/-- The number of bytes. -/
def width (a : Access) : Nat := a.request.width

/-- The offsets of the bytes in the buffer, as the source computes them: in 32 bits but for
the bulk copy, which steps a pointer. -/
def offsets (m : SimpleMemory) : Access → List Nat
  | read8 a | write8 a _ => [(m.offset a).toNat]
  | read16 a | write16 a _ => [(m.offset a).toNat, (m.offset a + 1).toNat]
  | read32 a | write32 a _ =>
    [(m.offset a).toNat, (m.offset a + 1).toNat, (m.offset a + 2).toNat, (m.offset a + 3).toNat]
  | load a src => List.range' (m.offset a).toNat src.length

/-- The bytes of the answer. -/
def answer (m : SimpleMemory) (a : Access) : List (BitVec 8) :=
  match a.request with
  | .read _ _ => (a.offsets m).map m.contents
  | .write _ _ => []

end Access

/-! ## What the code does -/

/-- The check passes exactly the accesses that fit. -/
theorem checkAddr_iff {m : SimpleMemory} {a : Access} (hwidth : a.width ≠ 0) :
    m.checkAddr a.addr a.width = true ↔ a.request.Fits m.baseAddr.toNat m.size := by
  have haddr : a.request.addr = a.addr.toNat := by cases a <;> rfl
  have hne : a.request.width ≠ 0 := hwidth
  unfold checkAddr Request.Fits Access.width
  simp only [Bool.and_eq_true, decide_eq_true_eq, ge_iff_le, BitVec.le_def, haddr]
  constructor
  · rintro ⟨⟨-, hbase⟩, hsize⟩
    exact ⟨hbase, hsize⟩
  · rintro ⟨hbase, hsize⟩
    refine ⟨⟨?_, hbase⟩, hsize⟩
    -- without a buffer there is no place for a byte
    unfold size at hsize
    cases hmem : m.mem with
    | none =>
      simp only [hmem, Option.map_none, Option.getD_none] at hsize
      omega
    | some buffer => rfl

theorem setAll_copyFrom (src : List (BitVec 8)) (m : SimpleMemory) (start : Nat) :
    m.setAll ((List.range' start src.length).zip src) =
      { m with mem := m.mem.map (copyFrom · start src) } := by
  induction src generalizing m start with
  | nil =>
    have hid : m.mem.map (fun buffer => buffer) = m.mem := Option.map_id'
    exact congrArg (fun mem => { m with mem := mem }) hid.symm
  | cons b rest ih =>
    have hrest := ih (m.setAt start b) (start + 1)
    unfold setAt at hrest
    rw [Option.map_map] at hrest
    exact hrest

/-- An access that passes the check answers from its offsets and sets the bytes it brings
there; one that does not throws its address. -/
theorem perform_eq (a : Access) (m : SimpleMemory) :
    a.perform m =
      if m.checkAddr a.addr a.width then
        (.ok (little (a.answer m)), m.setAll ((a.offsets m).zip a.request.data))
      else (.error ⟨a.addr⟩, m) := by
  -- the multi-byte reads put their bytes together low first, as `little` does
  cases a with
  | read8 addr =>
    change (Except.map _ (m.read8 addr).1, _) = if m.checkAddr addr 1 then _ else _
    unfold read8
    split <;> rfl
  | write8 addr data =>
    change (Except.map _ (m.write8 addr data).1, _) = if m.checkAddr addr 1 then _ else _
    unfold write8
    split <;> rfl
  | read16 addr =>
    change (Except.map _ (m.read16 addr).1, _) = if m.checkAddr addr 2 then _ else _
    unfold read16
    split
    · exact congrArg (fun v => (Except.ok v, m)) (toNat_two_bytes _ _)
    · rfl
  | write16 addr data =>
    change (Except.map _ (m.write16 addr data).1, _) = if m.checkAddr addr 2 then _ else _
    unfold write16
    split <;> rfl
  | read32 addr =>
    change (Except.map _ (m.read32 addr).1, _) = if m.checkAddr addr 4 then _ else _
    unfold read32
    split
    · exact congrArg (fun v => (Except.ok v, m)) (toNat_four_bytes _ _ _ _)
    · rfl
  | write32 addr data =>
    change (Except.map _ (m.write32 addr data).1, _) = if m.checkAddr addr 4 then _ else _
    unfold write32
    split <;> rfl
  | load addr src =>
    change (Except.map _ (m.load addr src).1, _) = if m.checkAddr addr src.length then _ else _
    unfold load
    split
    · exact congrArg (Prod.mk _) (setAll_copyFrom src m _).symm
    · rfl

/-! ## Offsets -/

/-- The bytes of an access that fits reach past offset 2^32, where the 32-bit offsets the
source computes for them start again at zero. The bulk copy computes none. -/
def Access.Wraps (m : SimpleMemory) : Access → Prop
  | .load _ _ => False
  | a => a.request.Fits m.baseAddr.toNat m.size ∧
      4294967296 < a.addr.toNat - m.baseAddr.toNat + a.width

theorem toNat_offset {m : SimpleMemory} {addr : Word} (h : m.baseAddr.toNat ≤ addr.toNat) :
    (m.offset addr).toNat = addr.toNat - m.baseAddr.toNat := by
  have haddr := addr.isLt
  unfold offset
  rw [BitVec.toNat_sub]
  omega

theorem toNat_offset_add {m : SimpleMemory} {addr : Word} (h : m.baseAddr.toNat ≤ addr.toNat)
    (k : Word) :
    (m.offset addr + k).toNat = (addr.toNat - m.baseAddr.toNat + k.toNat) % 4294967296 := by
  rw [BitVec.toNat_add, toNat_offset h]

/-- The offsets of an access that fits; only the bulk copy's do not wrap. -/
theorem offsets_eq_mod {m : SimpleMemory} (a : Access)
    (hbase : m.baseAddr.toNat ≤ a.addr.toNat) (hload : ∀ addr src, a ≠ .load addr src) :
    a.offsets m =
      (List.range' (a.addr.toNat - m.baseAddr.toNat) a.width).map (· % 4294967296) := by
  have h0 : (m.offset a.addr).toNat = (a.addr.toNat - m.baseAddr.toNat) % 4294967296 := by
    have haddr := a.addr.isLt
    rw [toNat_offset hbase]
    omega
  have h1 := toNat_offset_add hbase 1
  have h2 := toNat_offset_add hbase 2
  have h3 := toNat_offset_add hbase 3
  cases a with
  | load addr src => exact absurd rfl (hload addr src)
  | read8 addr => exact congrArg ([·]) h0
  | write8 addr data => exact congrArg ([·]) h0
  | read16 addr => exact congrArg₂ ([·, ·]) h0 h1
  | write16 addr data => exact congrArg₂ ([·, ·]) h0 h1
  | read32 addr =>
    exact congr (congrArg₂ (fun a b rest => a :: b :: rest) h0 h1) (congrArg₂ ([·, ·]) h2 h3)
  | write32 addr data =>
    exact congr (congrArg₂ (fun a b rest => a :: b :: rest) h0 h1) (congrArg₂ ([·, ·]) h2 h3)

/-- **No access indexes outside the buffer**, not even one whose offsets wrap. -/
theorem offsets_lt {m : SimpleMemory} {a : Access}
    (hfits : a.request.Fits m.baseAddr.toNat m.size) : ∀ i ∈ a.offsets m, i < m.size := by
  have haddr : a.request.addr = a.addr.toNat := by cases a <;> rfl
  obtain ⟨hbase, hsize⟩ := hfits
  rw [haddr] at hbase hsize
  intro i hi
  by_cases hload : ∃ addr src, a = .load addr src
  · obtain ⟨addr, src, rfl⟩ := hload
    have hoffset : (m.offset addr).toNat = addr.toNat - m.baseAddr.toNat := toNat_offset hbase
    have hhi := (List.mem_range'_1.mp hi).2
    rw [hoffset] at hhi
    exact Nat.lt_of_lt_of_le hhi hsize
  · have hnarrow : ∀ addr src, a ≠ .load addr src := fun addr src heq => hload ⟨addr, src, heq⟩
    rw [offsets_eq_mod a hbase hnarrow, List.mem_map] at hi
    obtain ⟨j, hj, rfl⟩ := hi
    obtain ⟨hlo, hhi⟩ := List.mem_range'_1.mp hj
    have hmod := Nat.mod_le j 4294967296
    unfold Access.width at hhi
    omega

theorem offsets_eq {m : SimpleMemory} {a : Access}
    (hfits : a.request.Fits m.baseAddr.toNat m.size) (hwraps : ¬a.Wraps m) :
    a.offsets m = List.range' (a.addr.toNat - m.baseAddr.toNat) a.width := by
  have haddr : a.request.addr = a.addr.toNat := by cases a <;> rfl
  have hbase := hfits.1
  rw [haddr] at hbase
  by_cases hload : ∃ addr src, a = .load addr src
  · obtain ⟨addr, src, rfl⟩ := hload
    exact congrArg (List.range' · src.length) (toNat_offset hbase)
  · have hnarrow : ∀ addr src, a ≠ .load addr src := fun addr src heq => hload ⟨addr, src, heq⟩
    have hsum : a.addr.toNat - m.baseAddr.toNat + a.width ≤ 4294967296 := by
      by_contra hlarge
      apply hwraps
      cases a with
      | load addr src => exact absurd rfl (hnarrow addr src)
      | _ => exact ⟨hfits, Nat.not_le.mp hlarge⟩
    rw [offsets_eq_mod a hbase hnarrow]
    calc (List.range' (a.addr.toNat - m.baseAddr.toNat) a.width).map (· % 4294967296)
      _ = (List.range' (a.addr.toNat - m.baseAddr.toNat) a.width).map id := by
        apply List.map_congr_left
        intro j hj
        have hhi := (List.mem_range'_1.mp hj).2
        exact Nat.mod_eq_of_lt (Nat.lt_of_lt_of_le hhi hsum)
      _ = _ := List.map_id _

/-! ## The store -/

/-- The answer of the store as the memory gives it. -/
def Access.ofStore (a : Access) : Option (List (BitVec 8)) → Except BusFault Nat
  | some bytes => .ok (little bytes)
  | none => .error ⟨a.addr⟩

/-- **The memory serves an access as the store does.** -/
theorem perform_refines {m : SimpleMemory} {a : Access} (hwidth : a.width ≠ 0)
    (hwraps : ¬a.Wraps m) :
    (a.perform m).1 =
        a.ofStore (serve m.baseAddr.toNat m.size m.contents a.request).1 ∧
      (a.perform m).2.contents =
        (serve m.baseAddr.toNat m.size m.contents a.request).2 := by
  have hcheck := checkAddr_iff (m := m) hwidth
  have haddr : a.request.addr = a.addr.toNat := by cases a <;> rfl
  rw [perform_eq]
  unfold serve
  -- the check is the fit, and where it holds the offsets are a window of the store
  by_cases hfits : a.request.Fits m.baseAddr.toNat m.size
  · have hoffsets := offsets_eq hfits hwraps
    rw [if_pos (hcheck.mpr hfits), if_pos hfits]
    unfold Access.answer
    unfold Access.width at hoffsets
    cases hrequest : a.request with
    | read addr width =>
      rw [hrequest] at haddr hoffsets
      have hwindow : (a.offsets m).map m.contents =
          window m.contents (addr - m.baseAddr.toNat) width := by
        rw [hoffsets, ← haddr]
        rfl
      have hnone : (a.offsets m).zip (Request.read addr width : Request (BitVec 8)).data = [] :=
        List.zip_nil_right
      rw [hnone]
      exact ⟨congrArg (fun bytes => Except.ok (little bytes)) hwindow, rfl⟩
    | write addr data =>
      rw [hrequest] at haddr hoffsets hfits
      have hset := contents_setAll_range' data m (addr - m.baseAddr.toNat) hfits.2
      rw [hoffsets, ← haddr]
      exact ⟨rfl, hset⟩
  · rw [if_neg fun h => hfits (hcheck.mp h), if_neg hfits]
    exact ⟨rfl, rfl⟩

theorem perform_frame (a : Access) (m : SimpleMemory) :
    (a.perform m).2.size = m.size ∧ (a.perform m).2.baseAddr = m.baseAddr := by
  rw [perform_eq]
  split
  · exact setAll_frame _ m
  · exact ⟨rfl, rfl⟩

/-! ## Runs -/

/-- The memory after a run. -/
def after (m : SimpleMemory) (history : List Access) : SimpleMemory :=
  history.foldl (fun m a => (a.perform m).2) m

/-- `PTRDIFF_MAX`, the bytes of the largest object. -/
def ptrdiffMax : Nat := 9223372036854775807

/-- A bulk copy is of at least one byte and of an object's bytes at most. -/
def Access.Admissible : Access → Prop
  | .load _ src => src ≠ [] ∧ src.length ≤ ptrdiffMax
  | _ => True

instance (a : Access) : Decidable a.Admissible := by
  cases a <;> unfold Access.Admissible <;> infer_instance

theorem Access.width_ne_zero {a : Access} (h : a.Admissible) : a.width ≠ 0 := by
  cases a with
  | load addr src => exact fun hzero => h.1 (List.length_eq_zero_iff.mp hzero)
  | _ => exact Nat.succ_ne_zero _

theorem after_frame (history : List Access) (m : SimpleMemory) :
    (m.after history).size = m.size ∧ (m.after history).baseAddr = m.baseAddr := by
  induction history generalizing m with
  | nil => exact ⟨rfl, rfl⟩
  | cons a history ih =>
    obtain ⟨hsize, hbase⟩ := perform_frame a m
    have hrest := ih (a.perform m).2
    rw [hsize, hbase] at hrest
    exact hrest

theorem wraps_congr {m m' : SimpleMemory} (hsize : m'.size = m.size)
    (hbase : m'.baseAddr = m.baseAddr) (a : Access) : a.Wraps m' ↔ a.Wraps m := by
  cases a <;> simp only [Access.Wraps, hsize, hbase]

/-- **A run on the memory is the run on the store.** By induction on the run: its first
access leaves size and base as they are. -/
theorem contents_after {m : SimpleMemory} {history : List Access}
    (hadmissible : ∀ a ∈ history, a.Admissible) (hwraps : ∀ a ∈ history, ¬a.Wraps m) :
    (m.after history).contents =
      serveAll m.baseAddr.toNat m.size m.contents (history.map Access.request) := by
  induction history generalizing m with
  | nil => rfl
  | cons a history ih =>
    obtain ⟨hsize, hbase⟩ := perform_frame a m
    have hfirst := perform_refines (Access.width_ne_zero (hadmissible a List.mem_cons_self))
      (hwraps a List.mem_cons_self)
    have hrest := ih (m := (a.perform m).2)
      (fun b hb => hadmissible b (List.mem_cons_of_mem a hb))
      (fun b hb => (wraps_congr hsize hbase b).not.mpr (hwraps b (List.mem_cons_of_mem a hb)))
    rw [hsize, hbase, hfirst.2] at hrest
    exact hrest

/-! ## The laws -/

/-- The source's check: the sum is made in 64 bits, the size is a 64-bit word. -/
def checkAddr64 (m : SimpleMemory) (addr : Word) (size : BitVec 64) : Bool :=
  m.mem.isSome && decide (addr ≥ m.baseAddr) &&
    decide ((addr.setWidth 64 - m.baseAddr.setWidth 64) + size ≤ BitVec.ofNat 64 m.size)

theorem checkAddr64_eq {m : SimpleMemory} (hm : m.size < 18446744073709551616) (addr : Word)
    {size : Nat} (hsize : size ≤ ptrdiffMax) :
    m.checkAddr64 addr (BitVec.ofNat 64 size) = m.checkAddr addr size := by
  unfold checkAddr64 checkAddr
  rw [Bool.eq_iff_iff]
  simp only [Bool.and_eq_true, decide_eq_true_eq, and_assoc]
  apply and_congr_right
  intro _
  apply and_congr_right
  intro hge
  have haddr := addr.isLt
  have hle := BitVec.le_def.mp hge
  have hsum : (addr.setWidth 64 - m.baseAddr.setWidth 64 + BitVec.ofNat 64 size).toNat =
      addr.toNat - m.baseAddr.toNat + size := by
    unfold ptrdiffMax at hsize
    simp only [BitVec.toNat_add, BitVec.toNat_sub, BitVec.toNat_setWidth, BitVec.toNat_ofNat]
    omega
  rw [BitVec.le_def, hsum, BitVec.toNat_ofNat, Nat.mod_eq_of_lt hm]

/-- The law of an access after a run: it succeeds exactly when it fits, otherwise it throws
its address and changes nothing; it indexes the buffer only inside; and a read has each
byte from the most recent access that wrote it. -/
structure AccessLaw (m : SimpleMemory) (history : List Access) (a : Access) : Prop where
  check : m.size < 18446744073709551616 →
    (m.after history).checkAddr64 a.addr (BitVec.ofNat 64 a.width) =
      decide (a.request.Fits m.baseAddr.toNat m.size)
  succeeds : (a.perform (m.after history)).1.isOk = true ↔
    a.request.Fits m.baseAddr.toNat m.size
  refuses : ¬a.request.Fits m.baseAddr.toNat m.size →
    a.perform (m.after history) = (.error ⟨a.addr⟩, m.after history)
  inside : a.request.Fits m.baseAddr.toNat m.size →
    ∀ i ∈ a.offsets (m.after history), i < m.size
  reads : a.request.Fits m.baseAddr.toNat m.size → ∀ addr width,
    a.request = .read addr width → (a.perform (m.after history)).1 =
      .ok (little ((List.range' (addr - m.baseAddr.toNat) width).map fun i =>
        (lastWrite m.baseAddr.toNat m.size (history.map Access.request) i).getD
          (m.contents i)))

/-- Two adjacent fetches return the halves of a word. -/
def FetchesHalves (m : SimpleMemory) (addr v : Word) : Prop :=
  (Bus.fetch16 m addr).1 = .ok (v.setWidth 16) ∧
    ∀ hi : Word, hi.toNat = addr.toNat + 2 →
      (Bus.fetch16 m hi).1 = .ok ((v >>> 16).setWidth 16)

/-- The bytes of a word in the order of their addresses. -/
def wordBytes (v : Word) : List (BitVec 8) :=
  [v.setWidth 8, (v >>> 8).setWidth 8, (v >>> 16).setWidth 8, (v >>> 24).setWidth 8]

/-- The memory is a bounded array of bytes, and what it stores word by word or in bulk is
fetched in halves. -/
structure IsByteArray (m : SimpleMemory) : Prop where
  access : ∀ history a, (∀ b ∈ history, b.Admissible) → a.Admissible → AccessLaw m history a
  word : ∀ history addr v, (∀ b ∈ history, b.Admissible) →
    ((m.after history).write32 addr v).1 = .ok () →
      FetchesHalves ((m.after history).write32 addr v).2 addr v
  bytes : ∀ history addr src, (∀ b ∈ history, b.Admissible) → (Access.load addr src).Admissible →
    ((m.after history).load addr src).1 = .ok () →
      ∀ before v rest, src = before ++ wordBytes v ++ rest →
        ∀ lo : Word, lo.toNat = addr.toNat + before.length →
          FetchesHalves ((m.after history).load addr src).2 lo v
  program : ∀ history cpu addr instrs, (∀ b ∈ history, b.Admissible) →
    ((System.mk cpu (m.after history)).loadProgram addr instrs).1 = .ok () →
      ∀ i v, instrs[i]? = some v →
        (∀ j, i < j → j < instrs.length → BitVec.ofNat 32 (4 * j) ≠ BitVec.ofNat 32 (4 * i)) →
          FetchesHalves ((System.mk cpu (m.after history)).loadProgram addr instrs).2.memory
            (addr + BitVec.ofNat 32 (4 * i)) v

section Bounds
variable {m : SimpleMemory} {history : List Access} {a : Access}

theorem fits_after : a.request.Fits (m.after history).baseAddr.toNat (m.after history).size ↔
    a.request.Fits m.baseAddr.toNat m.size := by
  obtain ⟨hsize, hbase⟩ := after_frame history m
  rw [hsize, hbase]

/-- What holds of an access also where offsets wrap. -/
theorem accessLaw_bounds (m : SimpleMemory) (history : List Access) (ha : a.Admissible) :
    ((a.perform (m.after history)).1.isOk = true ↔ a.request.Fits m.baseAddr.toNat m.size) ∧
      (¬a.request.Fits m.baseAddr.toNat m.size →
        a.perform (m.after history) = (.error ⟨a.addr⟩, m.after history)) := by
  have hcheck := checkAddr_iff (m := m.after history) (Access.width_ne_zero ha)
  rw [fits_after] at hcheck
  rw [perform_eq]
  constructor
  · rw [← hcheck]
    split
    next h => exact ⟨fun _ => h, fun _ => rfl⟩
    next h =>
      constructor
      · intro hok
        cases hok
      · intro hpass
        exact absurd hpass h
  · intro hfits
    rw [if_neg fun h => hfits (hcheck.mp h)]

end Bounds

theorem accessLaw {m : SimpleMemory} {history : List Access} {a : Access}
    (hhistory : ∀ b ∈ history, b.Admissible) (ha : a.Admissible)
    (hwraps : ∀ b ∈ history, ¬b.Wraps m) (hlast : ¬a.Wraps m) : AccessLaw m history a := by
  obtain ⟨hsize, hbase⟩ := after_frame history m
  obtain ⟨hsucceeds, hrefuses⟩ := accessLaw_bounds m history ha
  exact {
    check := by
      intro hm
      -- no source of the bulk copy is longer than an address space
      have hwidth : a.width ≤ ptrdiffMax := by
        cases a with
        | load addr src => exact ha.2
        | _ => exact of_decide_eq_true rfl
      rw [checkAddr64_eq (hsize ▸ hm) _ hwidth, Bool.eq_iff_iff, decide_eq_true_eq,
        checkAddr_iff (Access.width_ne_zero ha), fits_after]
    succeeds := hsucceeds
    refuses := hrefuses
    inside := by
      intro hfits i hi
      rw [← hsize]
      exact offsets_lt (fits_after.mpr hfits) i hi
    reads := by
      intro hfits addr width hrequest
      have hanswer := (perform_refines (Access.width_ne_zero ha)
        ((wraps_congr hsize hbase a).not.mpr hlast)).1
      rw [hsize, hbase, contents_after hhistory hwraps] at hanswer
      unfold serve at hanswer
      rw [if_pos hfits, hrequest] at hanswer
      -- what the accesses before left at an offset is the last byte written there
      have hlatest : serveAll m.baseAddr.toNat m.size m.contents (history.map Access.request) =
          fun i => (lastWrite m.baseAddr.toNat m.size (history.map Access.request) i).getD
            (m.contents i) := by
        funext i
        exact serveAll_apply _ _ _ _ _
      rw [hanswer, hlatest]
      rfl }

/-! ## Words and their halves -/

/-- The bytes `bs` are stored from the offset of an address on. -/
structure Holds (m : SimpleMemory) (addr : Nat) (bs : List (BitVec 8)) : Prop where
  base : m.baseAddr.toNat ≤ addr
  inside : addr - m.baseAddr.toNat + bs.length ≤ m.size
  bytes : window m.contents (addr - m.baseAddr.toNat) bs.length = bs

theorem little_low (v : Word) :
    little [v.setWidth 8, (v >>> 8).setWidth 8] = (v.setWidth 16).toNat := by
  simp only [little, BitVec.toNat_setWidth, BitVec.toNat_ushiftRight, Nat.shiftRight_eq_div_pow]
  omega

theorem little_high (v : Word) :
    little [(v >>> 16).setWidth 8, (v >>> 24).setWidth 8] = ((v >>> 16).setWidth 16).toNat := by
  simp only [little, BitVec.toNat_setWidth, BitVec.toNat_ushiftRight, Nat.shiftRight_eq_div_pow]
  omega

theorem fetch16_of_holds {m : SimpleMemory} (hwraps : ∀ a : Access, ¬a.Wraps m) {addr : Word}
    {bs : List (BitVec 8)} (hlen : bs.length = 2) (h : m.Holds addr.toNat bs) {v : BitVec 16}
    (hv : little bs = v.toNat) : (Bus.fetch16 m addr).1 = .ok v := by
  have hfits : (Access.read16 addr).request.Fits m.baseAddr.toNat m.size := by
    refine ⟨h.base, ?_⟩
    have hinside := h.inside
    rw [hlen] at hinside
    exact hinside
  have hanswer := (perform_refines (a := .read16 addr) (Nat.succ_ne_zero 1) (hwraps _)).1
  have hbytes := h.bytes
  unfold serve at hanswer
  rw [hlen] at hbytes
  rw [if_pos hfits] at hanswer
  simp only [Access.request, Access.ofStore, hbytes, hv] at hanswer
  change Except.map BitVec.toNat (m.read16 addr).1 = .ok v.toNat at hanswer
  change (m.read16 addr).1 = .ok v
  cases hread : (m.read16 addr).1 with
  | error e =>
    rw [hread] at hanswer
    cases hanswer
  | ok w =>
    rw [hread] at hanswer
    rw [BitVec.eq_of_toNat_eq (Except.ok.inj hanswer)]

theorem fetchesHalves_of_holds {m : SimpleMemory} (hwraps : ∀ a : Access, ¬a.Wraps m)
    {addr v : Word} (h : m.Holds addr.toNat (wordBytes v)) : FetchesHalves m addr v := by
  have hbytes := h.bytes
  have hinside := h.inside
  have hbase := h.base
  simp only [wordBytes, List.length_cons, List.length_nil, window_cons] at hbytes hinside
  injection hbytes with h0 hbytes
  injection hbytes with h1 hbytes
  injection hbytes with h2 hbytes
  injection hbytes with h3 hbytes
  constructor
  · refine fetch16_of_holds hwraps rfl ⟨hbase, ?_, ?_⟩ (little_low v)
    · change addr.toNat - m.baseAddr.toNat + 2 ≤ m.size
      omega
    · exact congrArg₂ ([·, ·]) h0 h1
  · intro hi hhi
    have hoffset : hi.toNat - m.baseAddr.toNat = addr.toNat - m.baseAddr.toNat + 1 + 1 := by omega
    refine fetch16_of_holds hwraps rfl ⟨by omega, ?_, ?_⟩ (little_high v)
    · rw [hoffset]
      exact hinside
    · rw [hoffset]
      exact congrArg₂ ([·, ·]) h2 h3

theorem perform_write {m : SimpleMemory} {a : Access} (ha : a.Admissible)
    (hwraps : ¬a.Wraps m) {addr : Nat} {data : List (BitVec 8)}
    (hrequest : a.request = .write addr data) (hok : (a.perform m).1.isOk = true) :
    m.baseAddr.toNat ≤ addr ∧ addr - m.baseAddr.toNat + data.length ≤ m.size ∧
      (a.perform m).2.contents = put m.contents (addr - m.baseAddr.toNat) data := by
  have hfits := (accessLaw_bounds m [] ha).1.mp hok
  have hcontents := (perform_refines (Access.width_ne_zero ha) hwraps).2
  unfold serve at hcontents
  rw [if_pos hfits] at hcontents
  rw [hrequest] at hfits hcontents
  exact ⟨hfits.1, hfits.2, hcontents⟩

theorem holds_of_write {m : SimpleMemory} {a : Access} (ha : a.Admissible)
    (hwraps : ¬a.Wraps m) {addr : Nat} {before bs rest : List (BitVec 8)}
    (hrequest : a.request = .write addr (before ++ bs ++ rest))
    (hok : (a.perform m).1.isOk = true) :
    (a.perform m).2.Holds (addr + before.length) bs := by
  obtain ⟨hbase, hsize, hcontents⟩ := perform_write ha hwraps hrequest hok
  obtain ⟨hsize', hbase'⟩ := perform_frame a m
  have hoffset : addr + before.length - m.baseAddr.toNat =
      addr - m.baseAddr.toNat + before.length := by omega
  rw [List.length_append, List.length_append] at hsize
  constructor
  · rw [hbase']
    omega
  · rw [hbase', hsize']
    omega
  · rw [hbase', hcontents, hoffset]
    exact window_put_part _ _ _ _ _

theorem Holds.of_write32 {m : SimpleMemory} (hwraps : ∀ a : Access, ¬a.Wraps m) {w addr v : Word}
    {bs : List (BitVec 8)} (hlen : bs.length = 4) (h : m.Holds w.toNat bs)
    (halign : w.toNat % 4 = addr.toNat % 4) (hne : addr ≠ w)
    (hok : (m.write32 addr v).1 = .ok ()) : (m.write32 addr v).2.Holds w.toNat bs := by
  have hperform : ((Access.write32 addr v).perform m).1.isOk = true := by
    change (Except.map _ (m.write32 addr v).1).isOk = true
    rw [hok]
    rfl
  obtain ⟨hbase, -, hcontents⟩ :=
    perform_write (a := .write32 addr v) trivial (hwraps _) rfl hperform
  obtain ⟨hsize', hbase'⟩ := perform_frame (.write32 addr v) m
  change (m.write32 addr v).2.contents = _ at hcontents
  change (m.write32 addr v).2.size = _ at hsize'
  change (m.write32 addr v).2.baseAddr = _ at hbase'
  -- two aligned words at distinct addresses are disjoint
  have hapart : addr.toNat ≠ w.toNat := fun heq => hne (BitVec.eq_of_toNat_eq heq)
  have hwbase := h.base
  constructor
  · rw [hbase']
    exact h.base
  · rw [hbase', hsize']
    exact h.inside
  · rw [hbase', hcontents, window_put_of_disjoint _ ?_]
    · exact h.bytes
    · simp only [hlen, List.length_cons, List.length_nil]
      omega

theorem wraps_write32 {m : SimpleMemory} (hwraps : ∀ a : Access, ¬a.Wraps m) (addr v : Word) :
    ∀ a : Access, ¬a.Wraps (m.write32 addr v).2 := by
  obtain ⟨hsize, hbase⟩ := perform_frame (.write32 addr v) m
  intro a
  exact (wraps_congr hsize hbase a).not.mpr (hwraps a)

/-- Loading a program goes on after its first word only when that is stored. -/
theorem loadProgram_cons {s : System} {addr instr : Word} {rest : List Word}
    (hok : (s.loadProgram addr (instr :: rest)).1 = .ok ()) :
    (s.memory.write32 addr instr).1 = .ok () ∧
      s.loadProgram addr (instr :: rest) =
        System.loadProgram { s with memory := (s.memory.write32 addr instr).2 } (addr + 4) rest := by
  rw [System.loadProgram] at hok
  cases hwrite : s.memory.write32 addr instr with
  | mk r memory =>
    rw [hwrite] at hok
    cases r with
    | error e => cases hok
    | ok u =>
      refine ⟨rfl, ?_⟩
      rw [System.loadProgram, hwrite]

theorem add_word_succ (addr : Word) (j : Nat) :
    addr + BitVec.ofNat 32 (4 * (j + 1)) = addr + 4 + BitVec.ofNat 32 (4 * j) := by
  rw [Nat.mul_succ, Nat.add_comm, BitVec.ofNat_add, ← BitVec.add_assoc]
  rfl

/-- The words still to be loaded do not touch a word that none of them replaces. -/
theorem loadProgram_preserves (instrs : List Word) {s : System} {addr w : Word}
    {bs : List (BitVec 8)} (hwraps : ∀ a : Access, ¬a.Wraps s.memory) (hlen : bs.length = 4)
    (h : s.memory.Holds w.toNat bs) (halign : w.toNat % 4 = addr.toNat % 4)
    (hne : ∀ j < instrs.length, addr + BitVec.ofNat 32 (4 * j) ≠ w)
    (hok : (s.loadProgram addr instrs).1 = .ok ()) :
    (∀ a : Access, ¬a.Wraps (s.loadProgram addr instrs).2.memory) ∧
      (s.loadProgram addr instrs).2.memory.Holds w.toNat bs := by
  induction instrs generalizing s addr with
  | nil => exact ⟨hwraps, h⟩
  | cons instr rest ih =>
    obtain ⟨hwrite, heq⟩ := loadProgram_cons hok
    rw [heq] at hok ⊢
    have hfirst : addr ≠ w := by
      have hzero := hne 0 (Nat.succ_pos _)
      simpa using hzero
    apply ih (s := { s with memory := (s.memory.write32 addr instr).2 })
      (wraps_write32 hwraps addr instr) (h.of_write32 hwraps hlen halign hfirst hwrite) ?_ ?_ hok
    · rw [halign, BitVec.toNat_add]
      simp only [BitVec.reduceToNat]
      omega
    · intro j hj
      have hnext := hne (j + 1) (Nat.succ_lt_succ hj)
      rwa [add_word_succ] at hnext

/-- Every word of a program is held unless a later one has taken its place. By induction on
the program: its first word is stored first. -/
theorem loadProgram_holds (instrs : List Word) {s : System} {addr : Word}
    (hwraps : ∀ a : Access, ¬a.Wraps s.memory)
    (hok : (s.loadProgram addr instrs).1 = .ok ()) {i : Nat} {v : Word} (hi : instrs[i]? = some v)
    (hlast : ∀ j, i < j → j < instrs.length →
      BitVec.ofNat 32 (4 * j) ≠ BitVec.ofNat 32 (4 * i)) :
    (∀ a : Access, ¬a.Wraps (s.loadProgram addr instrs).2.memory) ∧
      (s.loadProgram addr instrs).2.memory.Holds (addr + BitVec.ofNat 32 (4 * i)).toNat
        (wordBytes v) := by
  induction instrs generalizing s addr i with
  | nil => cases hi
  | cons instr rest ih =>
    obtain ⟨hwrite, heq⟩ := loadProgram_cons hok
    rw [heq] at hok ⊢
    have hwraps' := wraps_write32 hwraps addr instr
    -- the word at the head is stored now and kept by the rest; any other is one of the rest
    cases i with
    | zero =>
      obtain rfl : instr = v := Option.some.inj hi
      have hperform : ((Access.write32 addr instr).perform s.memory).1.isOk = true := by
        change (Except.map _ (s.memory.write32 addr instr).1).isOk = true
        rw [hwrite]
        rfl
      have hstored : (s.memory.write32 addr instr).2.Holds addr.toNat (wordBytes instr) :=
        holds_of_write (a := .write32 addr instr) trivial (hwraps _)
          (show _ = Request.write addr.toNat ([] ++ wordBytes instr ++ []) from rfl) hperform
      have hzero : addr + BitVec.ofNat 32 (4 * 0) = addr := BitVec.add_zero addr
      rw [hzero]
      apply loadProgram_preserves rest hwraps' rfl hstored ?_ ?_ hok
      · rw [BitVec.toNat_add]
        simp only [BitVec.reduceToNat]
        omega
      · intro j hj heq
        apply hlast (j + 1) (Nat.succ_pos j) (Nat.succ_lt_succ hj)
        rw [← add_word_succ] at heq
        exact (BitVec.add_right_inj addr).mp (heq.trans hzero.symm)
    | succ i =>
      rw [add_word_succ]
      apply ih hwraps' hok hi
      intro j hij hj heq
      apply hlast (j + 1) (Nat.succ_lt_succ hij) (Nat.succ_lt_succ hj)
      have hsum := congrArg (addr + 4 + ·) heq
      simp only [← add_word_succ] at hsum
      exact (BitVec.add_right_inj addr).mp hsum

/-! ## Where offsets wrap -/

/-- No access of the memory can wrap: the offsets end before 2^32, or the last address is
three bytes or more before it. -/
def NeverWraps (m : SimpleMemory) : Prop := m.size ≤ 4294967296 ∨ 3 ≤ m.baseAddr.toNat

instance (m : SimpleMemory) : Decidable m.NeverWraps := inferInstanceAs (Decidable (_ ∨ _))

theorem NeverWraps.not_wraps {m : SimpleMemory} (h : m.NeverWraps) (a : Access) : ¬a.Wraps m := by
  have haddr := a.addr.isLt
  cases a with
  | load addr src => exact id
  | _ =>
    rintro ⟨⟨hbase, hsize⟩, hlarge⟩
    simp only [Access.width, Access.request, Access.addr, Request.addr, Request.width,
      List.length_cons, List.length_nil] at haddr hbase hsize hlarge
    rcases h with hsmall | hhigh
    · omega
    · omega

theorem NeverWraps.after {m : SimpleMemory} (h : m.NeverWraps) (history : List Access) :
    (m.after history).NeverWraps := by
  obtain ⟨hsize, hbase⟩ := after_frame history m
  unfold NeverWraps
  rwa [hsize, hbase]

theorem isByteArray {m : SimpleMemory} (h : m.NeverWraps) : m.IsByteArray where
  access _ _ hhistory ha := accessLaw hhistory ha (fun b _ => h.not_wraps b) (h.not_wraps _)
  word history addr v _ hok := by
    have hwraps := (h.after history).not_wraps
    have hperform : ((Access.write32 addr v).perform (m.after history)).1.isOk = true := by
      change (Except.map _ ((m.after history).write32 addr v).1).isOk = true
      rw [hok]
      rfl
    exact fetchesHalves_of_holds (wraps_write32 hwraps addr v)
      (holds_of_write (a := .write32 addr v) trivial (hwraps _)
        (show _ = Request.write addr.toNat ([] ++ wordBytes v ++ []) from rfl) hperform)
  bytes history addr src _ hsrc hok before v rest hsplit lo hlo := by
    have hwraps := (h.after history).not_wraps
    obtain ⟨hsize, hbase⟩ := perform_frame (.load addr src) (m.after history)
    have hperform : ((Access.load addr src).perform (m.after history)).1.isOk = true := by
      change (Except.map _ ((m.after history).load addr src).1).isOk = true
      rw [hok]
      rfl
    have hheld := holds_of_write hsrc (hwraps _)
      (show _ = Request.write addr.toNat (before ++ wordBytes v ++ rest) from
        congrArg (Request.write addr.toNat) hsplit) hperform
    rw [← hlo] at hheld
    exact fetchesHalves_of_holds (fun a => (wraps_congr hsize hbase a).not.mpr (hwraps a)) hheld
  program history cpu addr instrs _ hok i v hi hlast := by
    obtain ⟨hwraps, hheld⟩ := loadProgram_holds instrs (s := ⟨cpu, m.after history⟩)
      (h.after history).not_wraps hok hi hlast
    exact fetchesHalves_of_holds hwraps hheld

/-- Three bytes before the end of the addresses, counted from the base on. -/
theorem toNat_wrapping {base : Word} (hbase : base.toNat < 3) :
    (base - 3).toNat = base.toNat + 4294967293 := by
  rw [BitVec.toNat_sub]
  simp only [BitVec.reduceToNat]
  omega

/-- The word write that reaches past offset 2^32: its last byte lands at offset zero. -/
theorem contents_wrapping {m : SimpleMemory} (hsize : 4294967296 < m.size) {addr : Word}
    (haddr : addr.toNat = m.baseAddr.toNat + 4294967293) (v : Word) :
    ((Access.write32 addr v).perform m).2.contents 0 = (v >>> 24).setWidth 8 := by
  have hle : m.baseAddr.toNat ≤ addr.toNat := by omega
  have hfits : (Access.write32 addr v).request.Fits m.baseAddr.toNat m.size := by
    refine ⟨hle, ?_⟩
    change addr.toNat - m.baseAddr.toNat + 4 ≤ m.size
    omega
  have hzero : (m.offset addr + 3).toNat = 0 := by
    rw [toNat_offset_add hle, haddr, Nat.add_sub_cancel_left]
    simp only [BitVec.reduceToNat, Nat.reduceAdd, Nat.reduceMod]
  have hcheck := (checkAddr_iff (m := m) (a := .write32 addr v) (Nat.succ_ne_zero 3)).mpr hfits
  rw [perform_eq, if_pos hcheck]
  -- the last of the four bytes is set last
  change ((m.setAll [_, _, _]).setAt (m.offset addr + 3).toNat ((v >>> 24).setWidth 8)).contents 0 = _
  rw [hzero, contents_setAt ?_]
  · exact if_pos rfl
  · rw [(setAll_frame _ m).1]
    omega

theorem perform_read8_base {m : SimpleMemory} (hsize : 0 < m.size) :
    ((Access.read8 m.baseAddr).perform m).1 = .ok (little [m.contents 0]) := by
  have hfits : (Access.read8 m.baseAddr).request.Fits m.baseAddr.toNat m.size := by
    refine ⟨Nat.le_refl _, ?_⟩
    change m.baseAddr.toNat - m.baseAddr.toNat + 1 ≤ m.size
    omega
  have hcheck := (checkAddr_iff (m := m) (a := .read8 m.baseAddr) (Nat.succ_ne_zero 0)).mpr hfits
  have hoffset : (m.offset m.baseAddr).toNat = 0 := by
    rw [toNat_offset (Nat.le_refl _), Nat.sub_self]
  rw [perform_eq, if_pos hcheck]
  change Except.ok (little [m.contents (m.offset m.baseAddr).toNat]) = _
  rw [hoffset]

/-- **Where an access can wrap, some run breaks the law**: the word written over offset 2^32
changes the byte at offset zero, which it does not cover. -/
theorem not_isByteArray {m : SimpleMemory} (h : ¬m.NeverWraps) : ¬m.IsByteArray := by
  intro harray
  have hsize : 4294967296 < m.size := by
    by_contra hsmall
    exact h (.inl (Nat.not_lt.mp hsmall))
  have hbase : m.baseAddr.toNat < 3 := by
    by_contra hhigh
    exact h (.inr (Nat.not_lt.mp hhigh))
  have haddr := toNat_wrapping hbase
  -- write the complement of the first byte with the byte that wraps, then read it back
  have hbyte : ((((~~~m.contents 0).setWidth 32 : Word) <<< 24) >>> 24).setWidth 8 =
      ~~~m.contents 0 := by
    apply BitVec.eq_of_getLsbD_eq
    intro i hi
    simp only [BitVec.getLsbD_setWidth, BitVec.getLsbD_ushiftRight, BitVec.getLsbD_shiftLeft]
    grind
  have hwritten := contents_wrapping hsize haddr (((~~~m.contents 0).setWidth 32 : Word) <<< 24)
  rw [hbyte] at hwritten
  generalize hwrite : Access.write32 (m.baseAddr - 3) _ = write at hwritten
  obtain ⟨hsize', hbase'⟩ := perform_frame write m
  have hadmissible : write.Admissible := by
    rw [← hwrite]
    trivial
  have hlaw := harray.access [write] (.read8 m.baseAddr)
    (fun b hb => List.mem_singleton.mp hb ▸ hadmissible) trivial
  have hfits : (Access.read8 m.baseAddr).request.Fits m.baseAddr.toNat m.size := by
    refine ⟨Nat.le_refl _, ?_⟩
    change m.baseAddr.toNat - m.baseAddr.toNat + 1 ≤ m.size
    omega
  have hreads := hlaw.reads hfits _ _ rfl
  have hread := perform_read8_base (m := (write.perform m).2) (by omega)
  rw [hbase', hwritten] at hread
  -- to the byte array the write lies above, so its law gives the old byte
  have hnone : lastWrite m.baseAddr.toNat m.size [write.request] 0 = none := by
    have hplace : 0 < write.request.addr - m.baseAddr.toNat := by
      rw [← hwrite]
      change 0 < (m.baseAddr - 3).toNat - m.baseAddr.toNat
      omega
    have hwrites : write.request.writes m.baseAddr.toNat m.size 0 = none := by
      unfold Request.writes
      rw [written_of_lt hplace, ite_self]
    unfold lastWrite
    rw [List.reverse_singleton, List.findSome?_cons, hwrites]
    rfl
  change ((Access.read8 m.baseAddr).perform (write.perform m).2).1 =
    .ok (little [(lastWrite m.baseAddr.toNat m.size [write.request]
      (m.baseAddr.toNat - m.baseAddr.toNat)).getD
        (m.contents (m.baseAddr.toNat - m.baseAddr.toNat))]) at hreads
  rw [Nat.sub_self, hnone, Option.getD_none, hread] at hreads
  have hsame : ~~~m.contents 0 = m.contents 0 := by
    apply BitVec.eq_of_toNat_eq
    have hnumber := Except.ok.inj hreads
    simp only [little] at hnumber
    omega
  exact absurd hsame.symm (BitVec.ne_not_self (by decide))

/-- **The test memory is a bounded byte array exactly when no access of it can wrap.** In any
memory the bounds hold, and a run none of whose accesses wraps follows the law. -/
theorem byte_array_iff (m : SimpleMemory) :
    (m.IsByteArray ↔ m.NeverWraps) ∧
      ∀ (history : List Access) (a : Access), (∀ b ∈ history, b.Admissible) → a.Admissible →
        ((a.perform (m.after history)).1.isOk = true ↔
            a.request.Fits m.baseAddr.toNat m.size) ∧
          (a.request.Fits m.baseAddr.toNat m.size →
            ∀ i ∈ a.offsets (m.after history), i < m.size) ∧
          ((∀ b ∈ history, ¬b.Wraps m) → ¬a.Wraps m → AccessLaw m history a) := by
  refine ⟨⟨?_, isByteArray⟩, ?_⟩
  · intro h
    by_contra hwraps
    exact not_isByteArray hwraps h
  · intro history a hhistory ha
    refine ⟨(accessLaw_bounds m history ha).1, ?_, accessLaw hhistory ha⟩
    intro hfits i hi
    rw [← (after_frame history m).1]
    exact offsets_lt (fits_after.mpr hfits) i hi

theorem neverWraps_new (size : Nat) : (SimpleMemory.new size).NeverWraps ↔ size ≤ 4294967296 := by
  have hsize : (SimpleMemory.new size).size = size := Array.size_replicate
  have hbase : (SimpleMemory.new size).baseAddr.toNat = 0 := rfl
  unfold NeverWraps
  rw [hsize, hbase]
  omega

/-- One byte over 4 GiB at base zero: an access can wrap. -/
theorem byte_array_fails_over_4GiB : ¬(SimpleMemory.new 4294967297).IsByteArray := by
  apply not_isByteArray
  rw [neverWraps_new]
  decide

end Riscv.SimpleMemory

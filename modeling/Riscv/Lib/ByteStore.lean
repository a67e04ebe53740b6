import Mathlib.Algebra.Group.Nat.Defs
import Mathlib.Data.List.Induction

/- A bounded store of bytes that is read and written in pieces.

   The contents are a function from offsets. A request reads or writes consecutive
   places from an address on; it is served when its places lie in the store, and
   refused otherwise with nothing changed. After any run each place holds what the
   most recent request that wrote it put there (`serveAll_apply`). The number of a
   list of bytes has its least significant byte first (`little`). -/
namespace ByteStore

variable {β : Type}

/-! ## Pieces -/

/-- What a piece put at `off` has at place `i`. -/
def written (off : Nat) (bs : List β) (i : Nat) : Option β :=
  if off ≤ i then bs[i - off]? else none

def put (c : Nat → β) (off : Nat) (bs : List β) (i : Nat) : β := (written off bs i).getD (c i)

/-- The `n` places from `off` on. -/
def window (c : Nat → β) (off n : Nat) : List β := (List.range' off n).map c

theorem written_of_lt {off i : Nat} (h : i < off) (bs : List β) : written off bs i = none :=
  if_neg (Nat.not_le.mpr h)

theorem written_of_ge {off i : Nat} {bs : List β} (h : off + bs.length ≤ i) :
    written off bs i = none := by
  unfold written
  rw [if_pos (by omega)]
  exact List.getElem?_eq_none (by omega)

theorem written_add (off : Nat) (bs : List β) (k : Nat) : written off bs (off + k) = bs[k]? := by
  unfold written
  rw [if_pos (Nat.le_add_right off k), Nat.add_sub_cancel_left]

theorem put_nil (c : Nat → β) (off : Nat) : put c off [] = c := by
  funext i
  unfold put written
  split <;> simp

theorem put_cons (c : Nat → β) (off : Nat) (b : β) (bs : List β) :
    put c off (b :: bs) = put (fun i => if i = off then b else c i) (off + 1) bs := by
  funext i
  unfold put
  rcases Nat.lt_trichotomy i off with hlt | rfl | hgt
  · have hne : i ≠ off := by omega
    rw [written_of_lt hlt, written_of_lt (by omega), Option.getD_none, Option.getD_none]
    exact (if_neg hne).symm
  · have hhead := written_add i (b :: bs) 0
    rw [Nat.add_zero] at hhead
    rw [hhead, written_of_lt (Nat.lt_succ_self i), Option.getD_none]
    exact (if_pos rfl).symm
  · obtain ⟨k, rfl⟩ : ∃ k, i = off + 1 + k := ⟨i - (off + 1), by omega⟩
    have hcons := written_add off (b :: bs) (1 + k)
    rw [← Nat.add_assoc] at hcons
    have hne : off + 1 + k ≠ off := by omega
    rw [hcons, written_add, Nat.add_comm 1 k]
    exact congrArg _ (if_neg hne).symm

theorem window_cons (c : Nat → β) (off n : Nat) :
    window c off (n + 1) = c off :: window c (off + 1) n := rfl

theorem window_congr {c c' : Nat → β} {off n : Nat} (h : ∀ i, off ≤ i → i < off + n → c i = c' i) :
    window c off n = window c' off n := by
  apply List.map_congr_left
  intro i hi
  rw [List.mem_range'_1] at hi
  exact h i hi.1 hi.2

/-- A part of a piece reads back. -/
theorem window_put_part (c : Nat → β) (off : Nat) (before bs after : List β) :
    window (put c off (before ++ bs ++ after)) (off + before.length) bs.length = bs := by
  apply List.ext_getElem?
  intro k
  unfold window
  rcases Nat.lt_or_ge k bs.length with hlt | hge
  · rw [List.getElem?_map, List.getElem?_range' hlt, Nat.one_mul, Option.map_some, Nat.add_assoc]
    unfold put
    rw [written_add, List.append_assoc, List.getElem?_append_right (Nat.le_add_right _ _),
      Nat.add_sub_cancel_left, List.getElem?_append_left hlt, List.getElem?_eq_getElem hlt]
    rfl
  · rw [List.getElem?_eq_none (by simpa using hge), List.getElem?_eq_none hge]

/-- A piece is not seen outside. -/
theorem window_put_of_disjoint (c : Nat → β) {off n lo : Nat} {bs : List β}
    (h : off + bs.length ≤ lo ∨ lo + n ≤ off) : window (put c off bs) lo n = window c lo n := by
  apply window_congr
  intro i hlo hhi
  have hnone : written off bs i = none := by
    rcases h with hafter | hbefore
    · exact written_of_ge (by omega)
    · exact written_of_lt (by omega) bs
  unfold put
  rw [hnone, Option.getD_none]

/-! ## Requests -/

inductive Request (β : Type) where
  | read (addr width : Nat)
  | write (addr : Nat) (data : List β)

namespace Request

def addr : Request β → Nat
  | read addr _ | write addr _ => addr

def width : Request β → Nat
  | read _ width => width
  | write _ data => data.length

/-- What the request brings: nothing when it reads. -/
def data : Request β → List β
  | read _ _ => []
  | write _ data => data

/-- The places of the request lie in a store of `size` bytes from `base` on. -/
def Fits (base size : Nat) (r : Request β) : Prop :=
  base ≤ r.addr ∧ r.addr - base + r.width ≤ size

instance (base size : Nat) (r : Request β) : Decidable (r.Fits base size) :=
  inferInstanceAs (Decidable (_ ∧ _))

/-- What the request writes at place `i`. -/
def writes (base size : Nat) (r : Request β) (i : Nat) : Option β :=
  if r.Fits base size then written (r.addr - base) r.data i else none

end Request

/-- The answer, none when the request is refused, and the contents after it. -/
def serve (base size : Nat) (c : Nat → β) (r : Request β) : Option (List β) × (Nat → β) :=
  if r.Fits base size then
    match r with
    | .read addr width => (some (window c (addr - base) width), c)
    | .write addr data => (some [], put c (addr - base) data)
  else (none, c)

/-- The contents after a run. -/
def serveAll (base size : Nat) (c : Nat → β) (history : List (Request β)) : Nat → β :=
  history.foldl (fun c r => (serve base size c r).2) c

/-- What the most recent request that wrote place `i` put there. -/
def lastWrite (base size : Nat) (history : List (Request β)) (i : Nat) : Option β :=
  history.reverse.findSome? fun r => r.writes base size i

theorem serve_apply (base size : Nat) (c : Nat → β) (r : Request β) (i : Nat) :
    (serve base size c r).2 i = (r.writes base size i).getD (c i) := by
  unfold serve Request.writes
  split
  · cases r with
    | read addr width =>
      have hnone : written (addr - base) ([] : List β) i = none := by
        unfold written
        split <;> rfl
      simp only [Request.addr, Request.data, hnone, Option.getD_none]
    | write addr data => rfl
  · rfl

/-- **Every place holds what was last written there.** By induction on the run, from its
last request. -/
theorem serveAll_apply (base size : Nat) (c : Nat → β) (history : List (Request β)) (i : Nat) :
    serveAll base size c history i = (lastWrite base size history i).getD (c i) := by
  induction history using List.reverseRecOn with
  | nil => rfl
  | append_singleton history r ih =>
    unfold serveAll lastWrite at ih ⊢
    rw [List.foldl_append, List.reverse_append, List.reverse_singleton, List.singleton_append,
      List.findSome?_cons, List.foldl_cons, List.foldl_nil, serve_apply, ih]
    cases r.writes base size i <;> rfl

/-! ## Numbers -/

/-- The number of a list of bytes, least significant first. -/
def little : List (BitVec 8) → Nat
  | [] => 0
  | b :: bs => b.toNat + 256 * little bs

theorem toNat_or_shiftLeft {w k : Nat} {y : BitVec w} (hy : y.toNat < 2 ^ k) (hw : 8 + k ≤ w)
    (b : BitVec 8) : (y ||| (b.setWidth w <<< k)).toNat = y.toNat + b.toNat * 2 ^ k := by
  have hpow : 2 ^ (8 + k) ≤ 2 ^ w := Nat.pow_le_pow_right (by decide) hw
  have hb : b.toNat * 2 ^ k < 2 ^ (8 + k) := by
    rw [Nat.pow_add]
    exact Nat.mul_lt_mul_of_pos_right b.isLt (Nat.two_pow_pos k)
  have hcut : (b.setWidth w).toNat = b.toNat := BitVec.toNat_setWidth_of_le (by omega)
  rw [BitVec.toNat_or, BitVec.toNat_shiftLeft, hcut, Nat.shiftLeft_eq,
    Nat.mod_eq_of_lt (Nat.lt_of_lt_of_le hb hpow), Nat.or_comm, ← Nat.shiftLeft_eq,
    ← Nat.shiftLeft_add_eq_or_of_lt hy, Nat.add_comm]

theorem toNat_two_bytes (b0 b1 : BitVec 8) :
    (b0.setWidth 16 ||| (b1.setWidth 16 <<< 8)).toNat = little [b0, b1] := by
  have h0 : (b0.setWidth 16).toNat = b0.toNat := BitVec.toNat_setWidth_of_le (by decide)
  have hlt0 := b0.isLt
  rw [toNat_or_shiftLeft (by omega) (by decide), h0]
  simp only [little]
  omega

theorem toNat_four_bytes (b0 b1 b2 b3 : BitVec 8) :
    (b0.setWidth 32 ||| (b1.setWidth 32 <<< 8) ||| (b2.setWidth 32 <<< 16) |||
      (b3.setWidth 32 <<< 24)).toNat = little [b0, b1, b2, b3] := by
  have h0 : (b0.setWidth 32).toNat = b0.toNat := BitVec.toNat_setWidth_of_le (by decide)
  have hlt0 := b0.isLt
  have hlt1 := b1.isLt
  have hlt2 := b2.isLt
  have h1 := toNat_or_shiftLeft (y := b0.setWidth 32) (k := 8) (by omega) (by decide) b1
  have h2 := toNat_or_shiftLeft (k := 16) (y := b0.setWidth 32 ||| (b1.setWidth 32 <<< 8))
    (by omega) (by decide) b2
  rw [toNat_or_shiftLeft (by omega) (by decide), h2, h1, h0]
  simp only [little]
  omega

end ByteStore

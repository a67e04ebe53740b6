import Mathlib.Algebra.Group.Nat.Defs
import Mathlib.Data.Nat.Pairing
import Mathlib.Logic.Equiv.List
import Riscv.Lib.Sample

/- Programs that draw, on endless streams.

   A stream is fair when every finite word of its values comes again and again. A program
   halts when it returns on every fair stream, after finitely many draws. Of a loop it is
   enough that a round draws a fixed number of values and that some word of them is good:
   a fair stream has every word also at a multiple of its length (`Fair.aligned`), so one
   round meets the good one. Fair streams exist (`fair_everyWord`), so a program that
   returns on no stream does not halt. -/
namespace Sample

/-! ## Streams -/

/-- The first `n` values of a stream. -/
def take (s : Nat → Nat) (n : Nat) : List Nat := (List.range n).map s

/-- The stream from position `n` on. -/
def shift (s : Nat → Nat) (n : Nat) : Nat → Nat := fun i => s (n + i)

@[simp] theorem length_take (s : Nat → Nat) (n : Nat) : (take s n).length = n := by
  simp [take]

theorem take_add (s : Nat → Nat) (m n : Nat) :
    take s (m + n) = take s m ++ take (shift s m) n := by
  rw [take, List.range_add, List.map_append, List.map_map]
  rfl

theorem shift_shift (s : Nat → Nat) (m n : Nat) : shift (shift s m) n = shift s (m + n) := by
  funext i
  rw [shift, shift, shift, Nat.add_assoc]

/-- Every finite word of numbers below `values` comes again and again. -/
def Fair (values : Nat) (s : Nat → Nat) : Prop :=
  ∀ word : List Nat, (∀ n ∈ word, n < values) → ∀ start, ∃ i ≥ start,
    take (shift s i) word.length = word

variable {values : Nat} {s : Nat → Nat}

theorem Fair.shift (h : Fair values s) (n : Nat) : Fair values (shift s n) := by
  intro word hword start
  obtain ⟨i, hi, htake⟩ := h word hword (n + start)
  refine ⟨i - n, by omega, ?_⟩
  rw [shift_shift, Nat.add_sub_cancel' (by omega)]
  exact htake

/-- What comes at position `i` of a word that comes at position `start`. -/
theorem take_shift_of_take {start n i k : Nat} {word : List Nat}
    (h : take (Sample.shift s start) n = word) (hk : i + k ≤ n) :
    take (Sample.shift s (start + i)) k = (word.drop i).take k := by
  have hsplit : n = i + (k + (n - i - k)) := by omega
  rw [← h, hsplit, take_add, take_add, shift_shift, List.drop_left' (length_take _ _),
    List.take_left' (length_take _ _)]

/-- Copies of `word` one further apart than it is long. -/
def spread (word : List Nat) (copies : Nat) : List Nat :=
  (List.replicate copies (word ++ [0])).flatten

theorem drop_spread (word : List Nat) : ∀ {copies t : Nat}, t < copies →
    ((spread word copies).drop (t * (word.length + 1))).take word.length = word
  | copies + 1, 0, _ => by
    rw [spread, List.replicate_succ, List.flatten_cons, Nat.zero_mul, List.drop_zero,
      List.append_assoc, List.take_left]
  | copies + 1, t + 1, h => by
    have ih : ((spread word copies).drop (t * (word.length + 1))).take word.length = word :=
      drop_spread word (by omega)
    have hlen : (t + 1) * (word.length + 1) = (word ++ [0]).length + t * (word.length + 1) := by
      rw [Nat.add_one_mul, List.length_append, List.length_singleton, Nat.add_comm]
    rw [spread, List.replicate_succ, List.flatten_cons, hlen, List.drop_length_add_append]
    exact ih

theorem length_spread (word : List Nat) (copies : Nat) :
    (spread word copies).length = copies * (word.length + 1) := by
  simp [spread]

/-- **A fair stream has every word at a multiple of its length.** The copies of the word in
`spread` stand at every remainder. -/
theorem Fair.aligned (h : Fair values s) {word : List Nat} (hpos : 0 < word.length)
    (hword : ∀ n ∈ word, n < values) :
    ∃ j, take (Sample.shift s (j * word.length)) word.length = word := by
  have hvalues : 0 < values := by
    obtain ⟨n, hn⟩ := List.exists_mem_of_length_pos hpos
    exact Nat.lt_of_le_of_lt (Nat.zero_le n) (hword n hn)
  have hspread : ∀ n ∈ spread word word.length, n < values := by
    intro n hn
    obtain ⟨l, hl, hmem⟩ := List.mem_flatten.mp hn
    rw [List.eq_of_mem_replicate hl, List.mem_append, List.mem_singleton] at hmem
    rcases hmem with hmem | rfl
    · exact hword n hmem
    · exact hvalues
  obtain ⟨i, -, htake⟩ := h _ hspread 0
  -- the copy that starts at a multiple
  let t := (word.length - i % word.length) % word.length
  have ht : t < word.length := Nat.mod_lt _ hpos
  have hmul : (i + t) % word.length = 0 := by
    rw [Nat.add_mod, Nat.mod_mod, ← Nat.add_mod]
    have hlt := Nat.mod_lt i hpos
    have hdiv := Nat.mod_add_div i word.length
    rw [show i + (word.length - i % word.length) = word.length + word.length * (i / word.length)
      by omega, Nat.add_mul_mod_self_left, Nat.mod_self]
  obtain ⟨q, hq⟩ := Nat.dvd_of_mod_eq_zero hmul
  refine ⟨q + t, ?_⟩
  have hpos' : (q + t) * word.length = i + t * (word.length + 1) := by
    rw [Nat.add_mul, Nat.mul_comm q, ← hq, Nat.mul_succ]
    omega
  have hfits : t * (word.length + 1) + word.length ≤ (spread word word.length).length := by
    rw [length_spread]
    calc t * (word.length + 1) + word.length
        ≤ t * (word.length + 1) + (word.length + 1) := by omega
      _ = (t + 1) * (word.length + 1) := (Nat.succ_mul _ _).symm
      _ ≤ word.length * (word.length + 1) := Nat.mul_le_mul_right _ ht
  rw [hpos', take_shift_of_take htake hfits]
  exact drop_spread word ht

/-! ## A fair stream -/

/-- The word of number `k`, from position `2 ^ k` on. -/
def everyWord (i : Nat) : Nat :=
  ((Encodable.decode (α := List Nat) (Nat.unpair i.log2).1).getD []).getD (i - 2 ^ i.log2) 0

theorem fair_everyWord (values : Nat) : Fair values everyWord := by
  intro word _ start
  -- a number of the word that is as large as needed
  let k := Nat.pair (Encodable.encode word) (max start word.length)
  have hk : max start word.length ≤ k := Nat.right_le_pair _ _
  have hpow : k < 2 ^ k := Nat.lt_two_pow_self
  refine ⟨2 ^ k, by omega, List.ext_getElem (by simp) ?_⟩
  intro j _ hj
  have hlog : (2 ^ k + j).log2 = k :=
    (Nat.log2_eq_iff (by omega)).mpr ⟨by omega, by rw [Nat.pow_succ]; omega⟩
  have hword : Encodable.decode (α := List Nat) (Nat.unpair k).1 = some word := by
    rw [Nat.unpair_pair, Encodable.encodek]
  have hvalue : everyWord (2 ^ k + j) = word[j] := by
    rw [everyWord, hlog, hword, Option.getD_some, Nat.add_sub_cancel_left]
    simp [hj]
  simp [take, Sample.shift, hvalue]

/-! ## Halting -/

namespace Gen

variable {α β : Type}

/-- The program reads exactly the word, and gives `a`. -/
def Reads (g : Gen α) (word : List Nat) (a : α) : Prop :=
  ∀ rest, g (word ++ rest) = some (a, rest)

namespace Reads

variable {g : Gen α} {f : α → Gen β} {u v : List Nat} {a : α} {b : β}

theorem pure (a : α) : (Pure.pure a : Gen α).Reads [] a := fun _ => rfl

theorem draw (n : Nat) : Gen.draw.Reads [n] n := fun _ => rfl

theorem bind (hg : g.Reads u a) (hf : (f a).Reads v b) : (g >>= f).Reads (u ++ v) b := by
  intro rest
  show (g (u ++ v ++ rest)).bind _ = _
  rw [List.append_assoc, hg, Option.bind_some]
  exact hf rest

theorem yields (hg : g.Reads u a) {P : α → Prop} (h : g.Yields P) : P a :=
  h _ a [] (hg [])

theorem unique {a' : α} (hg : g.Reads u a) (hg' : g.Reads u a') : a = a' :=
  congrArg Prod.fst (Option.some.inj ((hg []).symm.trans (hg' [])))

/-- The last round of a loop. -/
theorem accept {good : α → Bool} (hg : g.Reads u a) (hgood : good a = true) :
    (Gen.repeatUntil g good).Reads u a := by
  intro rest
  rw [Gen.repeatUntil, Gen.rounds, hg rest]
  exact if_pos hgood

/-- A round before the last. -/
theorem reject {good : α → Bool} {a' : α} (hg : g.Reads u a) (hgood : good a = false)
    (hu : u ≠ []) (hrest : (Gen.repeatUntil g good).Reads v a') :
    (Gen.repeatUntil g good).Reads (u ++ v) a' := by
  intro rest
  have hlen : 0 < u.length := List.length_pos_iff.mpr hu
  rw [Gen.repeatUntil, Gen.rounds, List.append_assoc, hg]
  dsimp only
  rw [if_neg (by rw [hgood]; decide), if_pos (by simp only [List.length_append]; omega)]
  exact hrest rest

end Reads

/-- The program returns on the stream, after finitely many draws. -/
def Returns (g : Gen α) (s : Nat → Nat) : Prop := ∃ n a, g.Reads (take s n) a

/-- The program draws `k` numbers, whatever they are. -/
def Draws (g : Gen α) (k : Nat) : Prop := ∀ word : List Nat, word.length = k → ∃ a, g.Reads word a

namespace Draws

variable {g : Gen α} {f : α → Gen β} {k l : Nat}

theorem pure (a : α) : (Pure.pure a : Gen α).Draws 0 := by
  intro word hlen
  obtain rfl := List.length_eq_zero_iff.mp hlen
  exact ⟨a, .pure a⟩

theorem draw : Gen.draw.Draws 1 := by
  intro word hlen
  obtain ⟨n, rfl⟩ := List.length_eq_one_iff.mp hlen
  exact ⟨n, .draw n⟩

theorem bind (hg : g.Draws k) (hf : ∀ a, (f a).Draws l) : (g >>= f).Draws (k + l) := by
  intro word hlen
  obtain ⟨a, ha⟩ := hg (word.take k) (by rw [List.length_take]; omega)
  obtain ⟨b, hb⟩ := hf a (word.drop k) (by rw [List.length_drop]; omega)
  refine ⟨b, ?_⟩
  rw [← List.take_append_drop k word]
  exact ha.bind hb

theorem uniform (lo hi : Nat) : (Gen.uniform lo hi).Draws 1 := draw.bind fun _ => pure _

theorem uniformInt (lo hi : Int) : (Gen.uniformInt lo hi).Draws 1 := draw.bind fun _ => pure _

theorem choice {as : List α} (has : as ≠ []) : (Gen.choice as).Draws 1 := by
  intro word hlen
  obtain ⟨n, rfl⟩ := List.length_eq_one_iff.mp hlen
  have hlt : n % as.length < as.length := Nat.mod_lt n (List.length_pos_iff.mpr has)
  refine ⟨as[n % as.length], fun rest => ?_⟩
  show (as[n % as.length]?).map _ = _
  rw [List.getElem?_eq_getElem hlt, Option.map_some]
  rfl

end Draws

/-- The program returns on every fair stream. -/
def Halts (values : Nat) (g : Gen α) : Prop := ∀ s, Fair values s → g.Returns s

namespace Halts

variable {g : Gen α} {f : α → Gen β} {k : Nat}

theorem of_draws (h : g.Draws k) : g.Halts values := by
  intro s _
  obtain ⟨a, ha⟩ := h (take s k) (length_take s k)
  exact ⟨k, a, ha⟩

theorem pure (a : α) : (Pure.pure a : Gen α).Halts values := of_draws (.pure a)

theorem bind {P : α → Prop} (hp : g.Yields P) (hg : g.Halts values)
    (hf : ∀ a, P a → (f a).Halts values) : (g >>= f).Halts values := by
  intro s hs
  obtain ⟨m, a, ha⟩ := hg s hs
  obtain ⟨n, b, hb⟩ := hf a (ha.yields hp) (Sample.shift s m) (hs.shift m)
  refine ⟨m + n, b, ?_⟩
  rw [take_add]
  exact ha.bind hb

/-- What follows may be whatever comes first. -/
theorem bind_any (hg : g.Halts values) (hf : ∀ a, (f a).Halts values) :
    (g >>= f).Halts values :=
  bind .any hg fun a _ => hf a

theorem ite {c : Prop} [Decidable c] {g' : Gen α} (h : c → g.Halts values)
    (h' : ¬c → g'.Halts values) : (if c then g else g').Halts values := by
  split
  · exact h ‹_›
  · exact h' ‹_›

theorem nth {gs : List (Gen α)} {i : Nat} (hi : i < gs.length)
    (h : ∀ g ∈ gs, g.Halts values) : (Gen.nth gs i).Halts values := by
  intro s hs
  obtain ⟨n, a, ha⟩ := h gs[i] (List.getElem_mem hi) s hs
  refine ⟨n, a, fun rest => ?_⟩
  show (gs[i]?).bind _ = _
  rw [List.getElem?_eq_getElem hi, Option.bind_some]
  exact ha rest

/-- A loop returns on a stream one of whose rounds is good. -/
theorem returns_repeatUntil {good : α → Bool} (hg : g.Draws k) (hk : 0 < k) {u : List Nat}
    (hgood : ∀ a, g.Reads u a → good a = true) (j : Nat) :
    ∀ s, take (Sample.shift s (j * k)) k = u → (Gen.repeatUntil g good).Returns s := by
  induction j with
  | zero =>
    intro s hu
    have hstart : take s k = u := by
      rw [← hu, Nat.zero_mul]
      exact congrArg (take · k) (funext fun i => by rw [Sample.shift, Nat.zero_add])
    obtain ⟨a, ha⟩ := hg (take s k) (length_take s k)
    exact ⟨k, a, ha.accept (hgood a (hstart ▸ ha))⟩
  | succ j ih =>
    intro s hu
    obtain ⟨a, ha⟩ := hg (take s k) (length_take s k)
    -- a rejected round takes its numbers, and the word comes one round earlier
    cases hcase : good a with
    | true => exact ⟨k, a, ha.accept hcase⟩
    | false =>
      have hlater : take (Sample.shift (Sample.shift s k) (j * k)) k = u := by
        rw [shift_shift, ← hu, Nat.succ_mul, Nat.add_comm k]
      obtain ⟨n, b, hb⟩ := ih (Sample.shift s k) hlater
      refine ⟨k + n, b, ?_⟩
      rw [take_add]
      refine ha.reject hcase ?_ hb
      intro hnil
      have hlen := length_take s k
      rw [hnil, List.length_nil] at hlen
      omega

/-- **A loop with a good word halts.** -/
theorem repeatUntil {good : α → Bool} {word : List Nat} {a : α} (hg : g.Draws k) (hk : 0 < k)
    (hlen : word.length = k) (hword : ∀ n ∈ word, n < values) (hreads : g.Reads word a)
    (hgood : good a = true) : (Gen.repeatUntil g good).Halts values := by
  intro s hs
  subst hlen
  obtain ⟨j, hj⟩ := hs.aligned hk hword
  refine returns_repeatUntil hg hk (fun a' ha' => ?_) j s hj
  rw [ha'.unique hreads]
  exact hgood

end Halts

end Gen

end Sample

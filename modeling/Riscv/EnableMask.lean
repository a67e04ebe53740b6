import Riscv.GeneratorHalts

/- The enable masks of the random generators: `enable_group`, `enable` and
   `generate_random` of the generators of the base set, of M, of Zicsr and of the illegal
   opcodes, which have them in common.

   `pick` draws indices below the number of types until the mask has one. It ends exactly
   when the mask it uses has an index of a type. The mask starts with all 64 bits set and is
   called empty when all 64 are clear, so once every type is switched off and a bit beyond
   the last type is not, no index is good and the loop goes on for ever. -/
namespace Riscv

open Sample

/-! ## Masked generators -/

/-- A masked generator class: its types, their positions in the table, and the table.
`shortcut` says whether the full mask is asked for before the loop. -/
structure MaskedClass where
  Kind : Type
  Out : Type
  index : Kind → Nat
  generators : List (Gen Out)
  shortcut : Bool
  index_lt : ∀ t, index t < generators.length
  exists_kind : ∀ i < generators.length, ∃ t, index t = i
  nonempty : 0 < generators.length
  length_lt : generators.length < 64

/-- `groups::ALL`. -/
def groupsAll : BitVec 64 := BitVec.allOnes 64

/-- `type_bit(t)` of the type at a position. -/
def typeBit (i : Nat) : BitVec 64 := 1#64 <<< i

/-- A call that configures the mask. -/
inductive MaskCall (Kind : Type) where
  | enableGroup (groupMask : BitVec 64) (on : Bool)
  | enable (t : Kind) (on : Bool)

namespace MaskedClass

variable (c : MaskedClass)

/-- `enable_group` and `enable`. -/
def configure (enabled : BitVec 64) : MaskCall c.Kind → BitVec 64
  | .enableGroup groupMask on =>
    if on then enabled ||| groupMask else enabled &&& ~~~groupMask
  | .enable t on =>
    if on then enabled ||| typeBit (c.index t) else enabled &&& ~~~typeBit (c.index t)

/-- The mask of a generator after the calls. -/
def maskAfter (calls : List (MaskCall c.Kind)) : BitVec 64 := calls.foldl c.configure groupsAll

/-- `is_enabled`: the bit of the type in the mask. -/
def isEnabled (enabled : BitVec 64) (t : c.Kind) : Bool :=
  decide (enabled &&& typeBit (c.index t) ≠ 0)

/-- `generate(type)`. -/
def generate (t : c.Kind) : Gen c.Out := Gen.nth c.generators (c.index t)

/-- The mask `generate_random` uses. -/
def effective (enabled : BitVec 64) : BitVec 64 := if enabled ≠ 0 then enabled else groupsAll

/-- The index `generate_random` settles on. -/
def pick (enabled : BitVec 64) : Gen Nat :=
  let m := effective enabled
  let index := Gen.uniform 0 (c.generators.length - 1)
  if c.shortcut ∧ m = groupsAll then index
  else Gen.repeatUntil index fun idx => decide ((m >>> idx) &&& 1 ≠ 0)

/-- `generate_random`: types are drawn until one is enabled. -/
def generateRandom (enabled : BitVec 64) : Gen c.Out := do
  let idx ← c.pick enabled
  Gen.nth c.generators idx

/-! ## The mask of a history -/

variable {c : MaskedClass}

/-- The bits a call names. -/
def named : MaskCall c.Kind → BitVec 64
  | .enableGroup groupMask _ => groupMask
  | .enable t _ => typeBit (c.index t)

def switchesOn : MaskCall c.Kind → Bool
  | .enableGroup _ on => on
  | .enable _ on => on

/-- What the last call that names bit `i` said of it; it is on where none does. -/
def leftOn (i : Nat) (calls : List (MaskCall c.Kind)) : Bool :=
  calls.foldl (fun on call => if (named call).getLsbD i then switchesOn call else on) true

theorem getLsbD_configure (enabled : BitVec 64) (call : MaskCall c.Kind) {i : Nat} (hi : i < 64) :
    (c.configure enabled call).getLsbD i =
      if (named call).getLsbD i then switchesOn call else enabled.getLsbD i := by
  have hset : ∀ mask : BitVec 64, (enabled ||| mask).getLsbD i =
      if mask.getLsbD i then true else enabled.getLsbD i := by
    intro mask
    rw [BitVec.getLsbD_or]
    cases mask.getLsbD i <;> simp
  have hclear : ∀ mask : BitVec 64, (enabled &&& ~~~mask).getLsbD i =
      if mask.getLsbD i then false else enabled.getLsbD i := by
    intro mask
    rw [BitVec.getLsbD_and, BitVec.getLsbD_not]
    cases mask.getLsbD i <;> simp [hi]
  cases call with
  | enableGroup groupMask on =>
    cases on
    · exact hclear groupMask
    · exact hset groupMask
  | enable t on =>
    cases on
    · exact hclear (typeBit (c.index t))
    · exact hset (typeBit (c.index t))

theorem getLsbD_maskAfter (calls : List (MaskCall c.Kind)) {i : Nat} (hi : i < 64) :
    (c.maskAfter calls).getLsbD i = leftOn i calls := by
  have hrun : ∀ (calls : List (MaskCall c.Kind)) (enabled : BitVec 64),
      (calls.foldl c.configure enabled).getLsbD i = calls.foldl
        (fun on call => if (named call).getLsbD i then switchesOn call else on)
        (enabled.getLsbD i) := by
    intro calls
    induction calls with
    | nil => exact fun _ => rfl
    | cons call calls ih =>
      intro enabled
      rw [List.foldl_cons, List.foldl_cons, ih, getLsbD_configure enabled call hi]
  rw [maskAfter, hrun, groupsAll, BitVec.getLsbD_allOnes, decide_eq_true hi]
  rfl

theorem isEnabled_eq (enabled : BitVec 64) (t : c.Kind) :
    c.isEnabled enabled t = enabled.getLsbD (c.index t) := by
  have hi : c.index t < 64 := Nat.lt_trans (c.index_lt t) c.length_lt
  have hpow : typeBit (c.index t) = BitVec.twoPow 64 (c.index t) := by
    rw [typeBit, BitVec.twoPow_eq]
  rw [isEnabled, hpow]
  exact BitVec.decide_and_twoPow_ne hi enabled

/-! ## Which index is picked -/

theorem shift_ne_zero (m : BitVec 64) (idx : Nat) :
    decide ((m >>> idx) &&& 1 ≠ 0) = m.getLsbD idx := by
  show decide ((m >>> idx) &&& 1#64 ≠ 0#64) = _
  rw [BitVec.ushiftRight_and_one]
  cases m.getLsbD idx <;> rfl

variable {enabled : BitVec 64}

/-- Only an index of a type, which the mask has, is picked. -/
theorem pick_yields :
    (c.pick enabled).Yields fun idx =>
      idx < c.generators.length ∧ (effective enabled).getLsbD idx = true := by
  have hpos := c.nonempty
  have hlt := c.length_lt
  have huniform := Gen.Yields.uniform (Nat.zero_le (c.generators.length - 1))
  refine .ite (fun hall => ?_) fun _ => ?_
  · refine huniform.mono fun idx hidx => ⟨by omega, ?_⟩
    rw [hall.2, groupsAll, BitVec.getLsbD_allOnes]
    exact decide_eq_true (by omega)
  · refine (Gen.Yields.repeatUntil huniform).mono fun idx hidx => ⟨by omega, ?_⟩
    rw [← shift_ne_zero]
    exact hidx.2

theorem index_reads {idx : Nat} (hidx : idx < c.generators.length) :
    (Gen.uniform 0 (c.generators.length - 1)).Reads [idx] idx := by
  intro rest
  show some (0 + idx % (c.generators.length - 1 + 1 - 0), rest) = _
  rw [Nat.mod_eq_of_lt (by omega), Nat.zero_add]

theorem pick_reads {idx : Nat} (hidx : idx < c.generators.length)
    (hon : (effective enabled).getLsbD idx = true) : (c.pick enabled).Reads [idx] idx := by
  unfold pick
  dsimp only
  split
  · exact index_reads hidx
  · exact (index_reads hidx).accept ((shift_ne_zero _ _).trans hon)

theorem pick_halts {values idx : Nat} (hvalues : 64 ≤ values) (hidx : idx < c.generators.length)
    (hon : (effective enabled).getLsbD idx = true) : (c.pick enabled).Halts values := by
  have hlt := c.length_lt
  refine .ite (fun _ => .of_draws (.uniform _ _)) fun _ => ?_
  refine .repeatUntil (.uniform _ _) Nat.one_pos rfl (fun n hn => ?_) (index_reads hidx) ?_
  · rw [List.mem_singleton.mp hn]
    omega
  · exact (shift_ne_zero _ _).trans hon

/-! ## What the mask is for -/

/-- The engine of the generators draws words of 32 bits. -/
def engineValues : Nat := 2 ^ 32

/-- After the calls `generate_random` returns, with a type that is enabled where there is
one, and with any type where there is none. -/
structure Meets (c : MaskedClass) (calls : List (MaskCall c.Kind)) : Prop where
  returns : (c.generateRandom (c.maskAfter calls)).Halts engineValues
  enabled : (∃ t, c.isEnabled (c.maskAfter calls) t = true) →
    ∀ a, (c.generateRandom (c.maskAfter calls)).Gives a →
      ∃ t, c.isEnabled (c.maskAfter calls) t = true ∧ (c.generate t).Gives a
  all : (∀ t, c.isEnabled (c.maskAfter calls) t = false) →
    ∀ t a, (c.generate t).Gives a → (c.generateRandom (c.maskAfter calls)).Gives a

/-- Some type is left on, or every bit is left off. -/
def Pickable (calls : List (MaskCall c.Kind)) : Prop :=
  (∃ t, leftOn (c.index t) calls = true) ∨ ∀ i < 64, leftOn i calls = false

theorem isEnabled_maskAfter (calls : List (MaskCall c.Kind)) (t : c.Kind) :
    c.isEnabled (c.maskAfter calls) t = leftOn (c.index t) calls := by
  rw [isEnabled_eq]
  exact getLsbD_maskAfter calls (Nat.lt_trans (c.index_lt t) c.length_lt)

/-- The mask that is empty is the full one. -/
theorem effective_of_off {calls : List (MaskCall c.Kind)} (hoff : ∀ i < 64, leftOn i calls = false) :
    effective (c.maskAfter calls) = groupsAll := by
  refine if_neg (not_not_intro ?_)
  refine BitVec.eq_of_getLsbD_eq fun i hi => ?_
  rw [getLsbD_maskAfter calls hi, hoff i hi]
  exact BitVec.getLsbD_zero.symm

/-- Any other mask is used as it is. -/
theorem effective_of_on {calls : List (MaskCall c.Kind)} {i : Nat} (hi : i < 64)
    (hon : leftOn i calls = true) : effective (c.maskAfter calls) = c.maskAfter calls := by
  refine if_pos fun hzero => ?_
  rw [← getLsbD_maskAfter calls hi, hzero] at hon
  exact Bool.noConfusion (hon.symm.trans BitVec.getLsbD_zero)

theorem getLsbD_groupsAll {i : Nat} (hi : i < 64) : groupsAll.getLsbD i = true := by
  rw [groupsAll, BitVec.getLsbD_allOnes]
  exact decide_eq_true hi

/-- Where the mask is pickable some index of a type is. -/
theorem Pickable.exists_index {calls : List (MaskCall c.Kind)} (h : Pickable calls) :
    ∃ idx < c.generators.length, (effective (c.maskAfter calls)).getLsbD idx = true := by
  -- with every bit off the mask stands for the full one
  rcases h with ⟨t, ht⟩ | hoff
  · have hi : c.index t < 64 := Nat.lt_trans (c.index_lt t) c.length_lt
    refine ⟨c.index t, c.index_lt t, ?_⟩
    rw [effective_of_on hi ht, getLsbD_maskAfter calls hi]
    exact ht
  · refine ⟨0, c.nonempty, ?_⟩
    rw [effective_of_off hoff]
    exact getLsbD_groupsAll (by decide)

/-- **A mask with no type and some other bit has no good index.** No value is ever given. -/
theorem generateRandom_empty {calls : List (MaskCall c.Kind)} (h : ¬Pickable calls) :
    (c.generateRandom (c.maskAfter calls)).Yields fun _ => False := by
  obtain ⟨hno, hbit⟩ := not_or.mp h
  simp only [Classical.not_forall] at hbit
  obtain ⟨i, hi, hon⟩ := hbit
  have heff := effective_of_on hi (Bool.eq_true_of_not_eq_false hon)
  refine .bind pick_yields fun idx ⟨hidx, hgood⟩ => ?_
  obtain ⟨t, rfl⟩ := c.exists_kind idx hidx
  rw [heff, getLsbD_maskAfter calls (Nat.lt_trans hidx c.length_lt)] at hgood
  exact absurd ⟨t, hgood⟩ hno

theorem generateRandom_halts (hgen : ∀ g ∈ c.generators, g.Halts engineValues)
    {calls : List (MaskCall c.Kind)} (h : Pickable calls) :
    (c.generateRandom (c.maskAfter calls)).Halts engineValues := by
  obtain ⟨idx, hidx, hon⟩ := h.exists_index
  exact .bind pick_yields (pick_halts (by decide) hidx hon) fun idx hidx => .nth hidx.1 hgen

theorem gives_of_on {t : c.Kind} (hon : (effective enabled).getLsbD (c.index t) = true)
    {a : c.Out} (ha : (c.generate t).Gives a) : (c.generateRandom enabled).Gives a := by
  obtain ⟨tape, rest, hg⟩ := ha
  refine ⟨[c.index t] ++ tape, rest, ?_⟩
  show (c.pick enabled ([c.index t] ++ tape)).bind _ = _
  rw [pick_reads (c.index_lt t) hon tape, Option.bind_some]
  exact hg

theorem generateRandom_yields : (c.generateRandom enabled).Yields fun a =>
    ∃ t, (effective enabled).getLsbD (c.index t) = true ∧ (c.generate t).Gives a := by
  refine .bind pick_yields fun idx ⟨hidx, hgood⟩ => ?_
  obtain ⟨t, rfl⟩ := c.exists_kind idx hidx
  exact fun tape a rest hg => ⟨t, hgood, tape, rest, hg⟩

theorem Pickable.meets (hgen : ∀ g ∈ c.generators, g.Halts engineValues)
    {calls : List (MaskCall c.Kind)} (h : Pickable calls) : c.Meets calls where
  returns := generateRandom_halts hgen h
  enabled := by
    rintro ⟨t, ht⟩ a ha
    obtain ⟨t', ht', hgives⟩ := ha.holds generateRandom_yields
    refine ⟨t', ?_, hgives⟩
    rw [isEnabled_maskAfter] at ht
    rw [effective_of_on (Nat.lt_trans (c.index_lt t) c.length_lt) ht] at ht'
    rw [isEnabled_eq]
    exact ht'
  all := by
    intro hnone t a ha
    rcases h with ⟨t', ht'⟩ | hoff
    · rw [← isEnabled_maskAfter, hnone t'] at ht'
      cases ht'
    · refine gives_of_on ?_ ha
      rw [effective_of_off hoff]
      exact getLsbD_groupsAll (Nat.lt_trans (c.index_lt t) c.length_lt)

/-- What meets its purpose is pickable: a loop with no good index ends on no stream. -/
theorem Meets.pickable {calls : List (MaskCall c.Kind)} (h : c.Meets calls) : Pickable calls := by
  refine Classical.byContradiction fun hno => ?_
  -- the stream of all words is fair, so the loop ends on it: some index was good
  obtain ⟨n, a, hreads⟩ := h.returns everyWord (fair_everyWord engineValues)
  exact hreads.yields (generateRandom_empty hno)

end MaskedClass

/-! ## The generators -/

namespace Rv32i.Opgen

def maskedClass : MaskedClass where
  Kind := InstrType
  Out := Word
  index := InstrType.ctorIdx
  generators := generators
  shortcut := true
  index_lt t := by cases t <;> decide
  exists_kind i hi := by
    have h : ∀ i < 40, (InstrType.ofNat i).ctorIdx = i := by decide
    exact ⟨InstrType.ofNat i, h i hi⟩
  nonempty := by decide
  length_lt := by decide

end Rv32i.Opgen

namespace Rv32m.Opgen

def maskedClass : MaskedClass where
  Kind := InstrType
  Out := Word
  index := InstrType.ctorIdx
  generators := generators
  shortcut := true
  index_lt t := by cases t <;> decide
  exists_kind i hi := by
    have h : ∀ i < 8, (InstrType.ofNat i).ctorIdx = i := by decide
    exact ⟨InstrType.ofNat i, h i hi⟩
  nonempty := by decide
  length_lt := by decide

end Rv32m.Opgen

namespace Zicsr.Opgen

def maskedClass (rng : RNG) : MaskedClass where
  Kind := InstrType
  Out := Word
  index := InstrType.ctorIdx
  generators := generators rng
  shortcut := true
  index_lt t := by
    show t.ctorIdx < 6
    cases t <;> decide
  exists_kind i hi := by
    have h : ∀ i < 6, (InstrType.ofNat i).ctorIdx = i := by decide
    exact ⟨InstrType.ofNat i, h i hi⟩
  nonempty := Nat.zero_lt_succ _
  length_lt := (by decide : 6 < 64)

end Zicsr.Opgen

namespace IllegalOpgen

/-- `ClassGenerator`: what it generates it returns with the class. -/
def maskedClass : MaskedClass where
  Kind := Fin classes.length
  Out := ClassInfo × Word
  index := Fin.val
  generators := classes.map fun info => do return (info, ← info.gen)
  shortcut := false
  index_lt t := by
    rw [List.length_map]
    exact t.isLt
  exists_kind i hi := ⟨⟨i, by rwa [List.length_map] at hi⟩, rfl⟩
  nonempty := by
    rw [List.length_map]
    decide
  length_lt := by
    rw [List.length_map]
    decide

end IllegalOpgen

/-- The generator classes with a mask. -/
inductive Opgen where
  | rv32i
  | rv32m
  | zicsr (rng : Zicsr.Opgen.RNG)
  | illegal

def Opgen.maskedClass : Opgen → MaskedClass
  | .rv32i => Rv32i.Opgen.maskedClass
  | .rv32m => Rv32m.Opgen.maskedClass
  | .zicsr rng => Zicsr.Opgen.maskedClass rng
  | .illegal => IllegalOpgen.maskedClass

theorem Opgen.generators_halt (g : Opgen) :
    ∀ p ∈ g.maskedClass.generators, p.Halts MaskedClass.engineValues := by
  have hvalues : 64 ≤ MaskedClass.engineValues := by decide
  cases g with
  | rv32i => exact Rv32i.Opgen.generators_halt
  | rv32m => exact Rv32m.Opgen.generators_halt
  | zicsr rng => exact Zicsr.Opgen.generators_halt rng
  | illegal =>
    intro p hp
    obtain ⟨info, hmem, rfl⟩ := List.mem_map.mp hp
    exact .bind_any (IllegalOpgen.classes_halt hvalues info hmem) fun _ => .pure _

/-- **When the mask does what it is for**: after the calls some type is left on, or every
bit of the mask is left off. -/
theorem meets_iff_pickable (g : Opgen) (calls : List (MaskCall g.maskedClass.Kind)) :
    g.maskedClass.Meets calls ↔ MaskedClass.Pickable calls :=
  ⟨fun h => h.pickable, fun h => h.meets g.generators_halt⟩

/-- The groups MULTIPLY and DIVIDE of M, switched off one after the other: no type is left,
but the bits from 8 on are. -/
theorem rv32m_groups_off : ¬∀ (g : Opgen) (calls : List (MaskCall g.maskedClass.Kind)),
    g.maskedClass.Meets calls := by
  intro h
  rcases (h .rv32m [.enableGroup 0x0F false, .enableGroup 0xF0 false]).pickable with
    ⟨t, ht⟩ | hoff
  · cases t <;> exact absurd ht (by decide)
  · exact absurd (hoff 8 (by decide)) (by decide)

end Riscv

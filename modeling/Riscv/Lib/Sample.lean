/- Programs that draw from a tape of random numbers.

   A program reads numbers off the tape and gives a value, or none where the tape is too
   short for it. `Yields` speaks of every value a program can give, from whatever tape;
   `Alike` compares two programs that draw the same numbers. Both have a rule for each way
   to build a program. -/
namespace Sample

/-- The value, and the tape that is left. -/
def Gen (α : Type) := List Nat → Option (α × List Nat)

namespace Gen

variable {α β : Type}

instance : Monad Gen where
  pure a := fun tape => some (a, tape)
  bind g f := fun tape => (g tape).bind fun out => f out.1 out.2

def draw : Gen Nat
  | [] => none
  | n :: rest => some (n, rest)

/-- A number from `lo` to `hi`. -/
def uniform (lo hi : Nat) : Gen Nat := do
  return lo + (← draw) % (hi + 1 - lo)

/-- The same, of integers. -/
def uniformInt (lo hi : Int) : Gen Int := do
  return lo + (((← draw) % (hi + 1 - lo).toNat : Nat) : Int)

/-- An element of a list. -/
def choice (as : List α) : Gen α := fun tape =>
  (draw tape).bind fun out => (as[out.1 % as.length]?).map (·, out.2)

/-- The program at position `i` of a table. -/
def nth (gs : List (Gen α)) (i : Nat) : Gen α := fun tape => (gs[i]?).bind (· tape)

/-- The rounds of a loop from `tape` on. A round that draws nothing would go on for
ever. -/
def rounds (g : Gen α) (good : α → Bool) (tape : List Nat) : Option (α × List Nat) :=
  match g tape with
  | none => none
  | some (a, rest) =>
    if good a then some (a, rest)
    else if rest.length < tape.length then rounds g good rest
    else none
termination_by tape.length

/-- Draw a value until one is good. -/
def repeatUntil (g : Gen α) (good : α → Bool) : Gen α := rounds g good

/-- Every value of `g` satisfies `P`. -/
def Yields (g : Gen α) (P : α → Prop) : Prop := ∀ tape a rest, g tape = some (a, rest) → P a

namespace Yields

variable {g : Gen α} {f : α → Gen β} {P : α → Prop} {Q : β → Prop}

theorem any : g.Yields fun _ => True := fun _ _ _ _ => trivial

theorem mono {P' : α → Prop} (h : g.Yields P) (himp : ∀ a, P a → P' a) : g.Yields P' :=
  fun tape a rest hg => himp a (h tape a rest hg)

theorem pure {a : α} (h : P a) : (Pure.pure a : Gen α).Yields P := by
  rintro tape a' rest hg
  cases hg
  exact h

theorem bind (h : g.Yields P) (hf : ∀ a, P a → (f a).Yields Q) : (g >>= f).Yields Q := by
  intro tape b rest hg
  obtain ⟨⟨a, mid⟩, hfirst, hsecond⟩ := Option.bind_eq_some_iff.mp hg
  exact hf a (h tape a mid hfirst) mid b rest hsecond

theorem ite {c : Prop} [Decidable c] {g' : Gen α} (h : c → g.Yields P) (h' : ¬c → g'.Yields P) :
    (if c then g else g').Yields P := by
  split
  · exact h ‹_›
  · exact h' ‹_›

theorem uniform {lo hi : Nat} (h : lo ≤ hi) :
    (Gen.uniform lo hi).Yields fun n => lo ≤ n ∧ n ≤ hi := by
  refine .bind .any fun n _ => .pure ?_
  have hlt := Nat.mod_lt n (show 0 < hi + 1 - lo by omega)
  omega

theorem uniformInt {lo hi : Int} (h : lo ≤ hi) :
    (Gen.uniformInt lo hi).Yields fun n => lo ≤ n ∧ n ≤ hi := by
  refine .bind .any fun n _ => .pure ?_
  have hlt := Nat.mod_lt n (show 0 < (hi + 1 - lo).toNat by omega)
  omega

theorem choice (as : List α) : (Gen.choice as).Yields fun a => a ∈ as := by
  intro tape a rest hg
  obtain ⟨⟨n, mid⟩, -, hpick⟩ := Option.bind_eq_some_iff.mp hg
  obtain ⟨a', hget, hpair⟩ := Option.map_eq_some_iff.mp hpick
  cases hpair
  exact List.mem_of_getElem? hget

/-- A loop ends with a value of its body that is good. -/
theorem repeatUntil {good : α → Bool} (h : g.Yields P) :
    (Gen.repeatUntil g good).Yields fun a => P a ∧ good a = true := by
  unfold Gen.repeatUntil
  intro tape
  induction hn : tape.length using Nat.strongRecOn generalizing tape with
  | _ n ih =>
    intro a rest hg
    rw [rounds] at hg
    split at hg
    · cases hg
    · rename_i a' rest' hround
      split at hg
      · rename_i hgood
        cases hg
        exact ⟨h tape a rest hround, hgood⟩
      · split at hg
        · exact ih rest'.length (by omega) rest' rfl a rest hg
        · cases hg

end Yields

/-- A value some tape makes the program give. -/
def Gives (g : Gen α) (a : α) : Prop := ∃ tape rest, g tape = some (a, rest)

theorem Gives.holds {g : Gen α} {P : α → Prop} {a : α} (ha : g.Gives a) (h : g.Yields P) : P a :=
  have ⟨tape, rest, hg⟩ := ha
  h tape a rest hg

/-- On every tape the two programs draw the same numbers, and give related values. -/
def Alike (g : Gen α) (h : Gen β) (R : α → β → Prop) : Prop :=
  ∀ tape, Option.Rel (fun out out' => out.2 = out'.2 ∧ R out.1 out'.1) (g tape) (h tape)

namespace Alike

variable {γ δ : Type} {g : Gen α} {h : Gen β} {R : α → β → Prop}

theorem pure {a : α} {b : β} (hr : R a b) : (Pure.pure a : Gen α).Alike (Pure.pure b) R :=
  fun _ => .some ⟨rfl, hr⟩

/-- A program and itself. -/
theorem same {P : α → Prop} (hp : g.Yields P) : g.Alike g fun a b => a = b ∧ P a := by
  intro tape
  cases hg : g tape with
  | none => exact .none
  | some out => exact .some ⟨rfl, rfl, hp tape out.1 out.2 hg⟩

theorem bind {f : α → Gen γ} {k : β → Gen δ} {T : γ → δ → Prop} (hr : g.Alike h R)
    (hf : ∀ a b, R a b → (f a).Alike (k b) T) : (g >>= f).Alike (h >>= k) T := by
  intro tape
  show Option.Rel _ ((g tape).bind _) ((h tape).bind _)
  have hout := hr tape
  revert hout
  generalize g tape = x, h tape = y
  rintro (@⟨out, out', hrest, hvalue⟩ | -)
  · rw [Option.bind_some, Option.bind_some, hrest]
    exact hf _ _ hvalue out'.2
  · exact .none

/-- Both draw the same number, and go on from it. -/
theorem draw {P : α → Prop} {f : α → Gen γ} {k : α → Gen δ} {T : γ → δ → Prop}
    (hp : g.Yields P) (hf : ∀ a, P a → (f a).Alike (k a) T) : (g >>= f).Alike (g >>= k) T := by
  refine (same hp).bind ?_
  rintro a b ⟨rfl, ha⟩
  exact hf a ha

/-- What the values of the second program satisfy goes with the relation. -/
theorem yields_right {P : β → Prop} (hr : g.Alike h R) (hp : h.Yields P) :
    g.Alike h fun a b => R a b ∧ P b := by
  intro tape
  have hout := hr tape
  have hvalues := hp tape
  revert hout hvalues
  generalize g tape = x, h tape = y
  rintro (@⟨out, out', hrest, hvalue⟩ | -) hvalues
  · exact .some ⟨hrest, hvalue, hvalues _ _ rfl⟩
  · exact .none

end Alike

end Gen

end Sample

import Mathlib.Data.List.Induction

/- Runs of a deterministic machine driven by a list of inputs.

   A machine has an initial state and a transition function. The file gives the
   rules a verification of such a machine uses over and over: an invariant of the
   steps holds in every reachable state, what every step of a constrained run
   preserves holds at its end, a property fails exactly in the runs that leave a
   guard, two machines whose steps answer alike and keep a relation answer alike over
   whole runs, and a latch (a part of the state that each step loads, clears or keeps)
   holds a value exactly when the last step that touched it loaded that value. What
   happened before a state can be kept beside it as a history. -/
namespace Run

universe u v w

/-- A machine: its initial state and its response to an input. -/
structure Machine (σ : Type u) (α : Type v) where
  init : σ
  next : σ → α → σ

namespace Machine

variable {σ : Type u} {α : Type v} (M : Machine σ α)

/-- The state after the inputs `as`. -/
def run (s : σ) (as : List α) : σ := as.foldl M.next s

@[simp] theorem run_nil (s : σ) : M.run s [] = s := rfl

@[simp] theorem run_cons (s : σ) (a : α) (as : List α) :
    M.run s (a :: as) = M.run (M.next s a) as := rfl

theorem run_append (s : σ) (as bs : List α) :
    M.run s (as ++ bs) = M.run (M.run s as) bs := by
  simp [run, List.foldl_append]

/-- The states some list of inputs leads to. -/
def Reachable (s : σ) : Prop := ∃ as, M.run M.init as = s

variable {M}

theorem Reachable.start : M.Reachable M.init := ⟨[], rfl⟩

theorem Reachable.run {s : σ} (h : M.Reachable s) (as : List α) : M.Reachable (M.run s as) := by
  obtain ⟨bs, rfl⟩ := h
  exact ⟨bs ++ as, M.run_append M.init bs as⟩

/-- **Invariant rule.** What holds initially and is kept by every step taken from
a reachable state holds in every reachable state. -/
theorem Reachable.invariant {P : σ → Prop} (start : P M.init)
    (step : ∀ s a, M.Reachable s → P s → P (M.next s a)) {s : σ} (h : M.Reachable s) : P s := by
  obtain ⟨as, rfl⟩ := h
  induction as using List.reverseRecOn with
  | nil => exact start
  | append_singleton as a ih =>
    rw [M.run_append]
    exact step _ a (Reachable.start.run as) ih

/-! ## Constrained runs -/

variable (M)

/-- Every step of the run of `as` from `s` satisfies `Q`. -/
def Along (Q : σ → α → Prop) : σ → List α → Prop
  | _, [] => True
  | s, a :: as => Q s a ∧ Along Q (M.next s a) as

variable {M}

/-- **Run rule.** What every allowed step preserves, a run of allowed steps
preserves. -/
theorem Along.preserves {P : σ → Prop} {Q : σ → α → Prop}
    (step : ∀ s a, P s → Q s a → P (M.next s a)) {s : σ} {as : List α}
    (h : M.Along Q s as) (hs : P s) : P (M.run s as) := by
  induction as generalizing s with
  | nil => exact hs
  | cons a as ih => exact ih h.2 (step s a hs h.1)

theorem along_append {Q : σ → α → Prop} {s : σ} {as bs : List α} :
    M.Along Q s (as ++ bs) ↔ M.Along Q s as ∧ M.Along Q (M.run s as) bs := by
  induction as generalizing s with
  | nil => simp [Along]
  | cons a as ih => simp [Along, ih, and_assoc]

/-- A run is constrained step by step. -/
theorem along_iff {Q : σ → α → Prop} {s : σ} {as : List α} :
    M.Along Q s as ↔ ∀ pre a post, as = pre ++ a :: post → Q (M.run s pre) a := by
  constructor
  · rintro h pre a post rfl
    exact (along_append.mp h).2.1
  · intro h
    induction as generalizing s with
    | nil => trivial
    | cons b as ih =>
      refine ⟨h [] b as rfl, ih ?_⟩
      rintro pre a post rfl
      exact h (b :: pre) a post rfl

/-- What the allowed steps preserve holds in every state of a constrained run. -/
theorem Along.prefixes {P : σ → Prop} {Q : σ → α → Prop}
    (step : ∀ s a, P s → Q s a → P (M.next s a)) {s : σ} {as : List α}
    (h : M.Along Q s as) (hs : P s) {pre : List α} (hpre : pre <+: as) : P (M.run s pre) := by
  obtain ⟨post, rfl⟩ := hpre
  exact (along_append.mp h).1.preserves step hs

/-- **Exact guard rule.** When guarded steps keep `P`, and no unguarded step does,
`P` holds throughout a run exactly when every step of it is guarded. -/
theorem exact_guard {P : σ → Prop} {Q : σ → α → Prop} (start : P M.init)
    (keep : ∀ s a, M.Reachable s → P s → Q s a → P (M.next s a))
    (forced : ∀ s a, M.Reachable s → P s → P (M.next s a) → Q s a) (as : List α) :
    (∀ pre, pre <+: as → P (M.run M.init pre)) ↔ M.Along Q M.init as := by
  constructor
  · intro hP
    apply along_iff.mpr
    rintro pre a post rfl
    have hlater := hP (pre ++ [a]) ⟨post, by simp⟩
    rw [M.run_append] at hlater
    exact forced _ a (Reachable.start.run pre) (hP pre ⟨a :: post, rfl⟩) hlater
  · intro hQ pre hpre
    have hboth := hQ.prefixes (P := fun s => M.Reachable s ∧ P s)
      (fun s a hs ha => ⟨hs.1.run [a], keep s a hs.1 hs.2 ha⟩) ⟨.start, start⟩ hpre
    exact hboth.2

/-! ## Histories -/

section History
variable {η : Type*}
variable (M)

/-- The machine with a history kept beside its state. -/
def withHistory (start : η) (record : σ → η → α → η) : Machine (σ × η) α where
  init := (M.init, start)
  next := fun s a => (M.next s.1 a, record s.1 s.2 a)

/-- The history does not change what the machine does. -/
theorem run_withHistory (start : η) (record : σ → η → α → η) (s : σ × η) (as : List α) :
    ((M.withHistory start record).run s as).1 = M.run s.1 as := by
  induction as generalizing s with
  | nil => rfl
  | cons a as ih => exact ih _

theorem reachable_of_withHistory {start : η} {record : σ → η → α → η} {s : σ × η}
    (h : (M.withHistory start record).Reachable s) : M.Reachable s.1 := by
  obtain ⟨as, rfl⟩ := h
  exact ⟨as, (M.run_withHistory start record (M.init, start) as).symm⟩

end History

/-! ## Answers, and two machines side by side -/

section Answers
variable {τ : Type*} {ι : Type*} {ω : Type*}
variable (M)

/-- What the machine answers to the inputs `as`, one after another. -/
def answers (out : σ → α → ω) : σ → List α → List ω
  | _, [] => []
  | s, a :: as => out s a :: answers out (M.next s a) as

variable {M} in
/-- The answers do not depend on where a machine starts. -/
theorem answers_congr {N : Machine σ α} (h : M.next = N.next) (out : σ → α → ω) (s : σ)
    (as : List α) : M.answers out s as = N.answers out s as := by
  induction as generalizing s with
  | nil => rfl
  | cons a as ih =>
    show out s a :: M.answers out (M.next s a) as = out s a :: N.answers out (N.next s a) as
    rw [h, ih]

/-- The machine driven through a translation of its inputs. -/
def comap (f : ι → α) : Machine σ ι where
  init := M.init
  next := fun s i => M.next s (f i)

theorem run_comap (f : ι → α) (s : σ) (is : List ι) :
    (M.comap f).run s is = M.run s (is.map f) := by
  induction is generalizing s with
  | nil => rfl
  | cons i is ih => exact ih (M.next s (f i))

theorem answers_comap (f : ι → α) (out : σ → α → ω) (s : σ) (is : List ι) :
    (M.comap f).answers (fun s i => out s (f i)) s is = M.answers out s (is.map f) := by
  induction is generalizing s with
  | nil => rfl
  | cons i is ih => exact congrArg (out s (f i) :: ·) (ih (M.next s (f i)))

variable {M}

/-- **Lockstep rule.** Two machines related by `R` that answer alike and stay
related in every step the guard `Q` allows give the same answers over a run of
such steps, and end related. -/
theorem lockstep {N : Machine τ α} (out : σ → α → ω) (out' : τ → α → ω) {R : σ → τ → Prop}
    {Q : σ → α → Prop}
    (step : ∀ s t a, R s t → Q s a → out s a = out' t a ∧ R (M.next s a) (N.next t a))
    {s : σ} {t : τ} {as : List α} (hR : R s t) (h : M.Along Q s as) :
    M.answers out s as = N.answers out' t as ∧ R (M.run s as) (N.run t as) := by
  induction as generalizing s t with
  | nil => exact ⟨rfl, hR⟩
  | cons a as ih =>
    obtain ⟨hout, hnext⟩ := step s t a hR h.1
    obtain ⟨hrest, hend⟩ := ih hnext h.2
    exact ⟨congrArg₂ List.cons hout hrest, hend⟩

/-- A guard the second machine's steps inherit holds along its run too. -/
theorem Along.lockstep {N : Machine τ α} {R : σ → τ → Prop} {Q : σ → α → Prop} {Q' : τ → α → Prop}
    (step : ∀ s t a, R s t → Q s a → Q' t a ∧ R (M.next s a) (N.next t a))
    {s : σ} {t : τ} {as : List α} (h : M.Along Q s as) (hR : R s t) : N.Along Q' t as := by
  induction as generalizing s t with
  | nil => trivial
  | cons a as ih =>
    obtain ⟨hguard, hnext⟩ := step s t a hR h.1
    exact ⟨hguard, ih h.2 hnext⟩

end Answers

/-! ## Latches -/

variable (M)

/-- A latch: `read` is what the state holds, `loads` the value a step puts in,
`clears` the steps that empty it. -/
structure Latch (γ : Type w) where
  read : σ → Option γ
  loads : σ → α → Option γ
  clears : σ → α → Prop
  read_init : read M.init = none
  read_load : ∀ s a c, M.Reachable s → loads s a = some c → read (M.next s a) = some c
  read_clear : ∀ s a, M.Reachable s → loads s a = none → clears s a → read (M.next s a) = none
  read_keep : ∀ s a, M.Reachable s → loads s a = none → ¬ clears s a →
    read (M.next s a) = read s

namespace Latch

variable {M} {γ : Type w} (L : M.Latch γ)

/-- No step of the run of `as` from `s` loads or clears the latch. -/
def Undisturbed (s : σ) (as : List α) : Prop :=
  M.Along (fun s a => L.loads s a = none ∧ ¬ L.clears s a) s as

/-- The run loaded `c` at some step and has not touched the latch since. -/
def LastLoaded (as : List α) (c : γ) : Prop :=
  ∃ pre a post, as = pre ++ a :: post ∧ L.loads (M.run M.init pre) a = some c ∧
    L.Undisturbed (M.next (M.run M.init pre) a) post

theorem not_lastLoaded_nil (c : γ) : ¬ L.LastLoaded [] c := by
  rintro ⟨pre, a, post, h, -⟩
  cases pre <;> cases h

/-- The last step either loads the value itself or leaves the latch alone. -/
theorem lastLoaded_concat {as : List α} {a : α} {c : γ} :
    L.LastLoaded (as ++ [a]) c ↔
      L.loads (M.run M.init as) a = some c ∨
        (L.loads (M.run M.init as) a = none ∧ ¬ L.clears (M.run M.init as) a ∧
          L.LastLoaded as c) := by
  constructor
  · rintro ⟨pre, b, post, h, hload, hquiet⟩
    -- the load is the last step, or it lies before it
    rcases List.eq_nil_or_concat post with rfl | ⟨post, d, rfl⟩
    · left
      obtain ⟨rfl, hab⟩ := List.append_inj' h rfl
      simp only [List.cons.injEq, and_true] at hab
      rw [hab]
      exact hload
    · right
      have hsplit : as ++ [a] = (pre ++ b :: post) ++ [d] := by simp [h]
      obtain ⟨rfl, had⟩ := List.append_inj' hsplit rfl
      simp only [List.cons.injEq, and_true] at had
      subst had
      rw [List.concat_eq_append] at hquiet
      have hboth := along_append.mp hquiet
      have hlast := hboth.2.1
      rw [← M.run_cons, ← M.run_append] at hlast
      exact ⟨hlast.1, hlast.2, pre, b, post, rfl, hload, hboth.1⟩
  · rintro (hload | ⟨hnone, hkeep, pre, b, post, rfl, hload, hquiet⟩)
    · exact ⟨as, a, [], rfl, hload, trivial⟩
    · refine ⟨pre, b, post ++ [a], by simp, hload, along_append.mpr ⟨hquiet, ?_⟩⟩
      rw [M.run_append, M.run_cons] at hnone hkeep
      exact ⟨⟨hnone, hkeep⟩, trivial⟩

/-- **Latch rule.** The latch holds a value exactly when the run last loaded that
value. -/
theorem read_run (as : List α) (c : γ) :
    L.read (M.run M.init as) = some c ↔ L.LastLoaded as c := by
  induction as using List.reverseRecOn with
  | nil => simp [L.read_init, L.not_lastLoaded_nil]
  -- by the last step: it loads, clears or leaves the latch
  | append_singleton as a ih =>
    have hreach : M.Reachable (M.run M.init as) := Reachable.start.run as
    rw [L.lastLoaded_concat, ← ih, M.run_append]
    show L.read (M.next (M.run M.init as) a) = some c ↔ _
    cases hload : L.loads (M.run M.init as) a with
    | some d => simp [L.read_load _ _ _ hreach hload]
    | none =>
      by_cases hclear : L.clears (M.run M.init as) a
      · simp [L.read_clear _ _ hreach hload hclear, hclear]
      · simp [L.read_keep _ _ hreach hload hclear, hclear]

end Latch

end Machine

end Run

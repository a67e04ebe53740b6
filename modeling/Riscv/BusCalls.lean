import Riscv.Common

/- The bus calls of a computation.

   `Calls bus es bus'` says that performing the calls of `es` one after another
   leads from `bus` to `bus'`, each with the outcome the event records. A bus that
   writes its own log (`Traced`) shows that such an `es` is the calls really made:
   along `Calls` its log grows by exactly `es`. What a caller may assume of its
   memory, that reads and failed calls leave it alone, is `QuietMemory`. -/
namespace Riscv

/-! ## Calls and events -/

/-- A call of the bus, with its arguments. -/
inductive BusOp where
  | read8 (addr : Word)
  | write8 (addr : Word) (data : BitVec 8)
  | read16 (addr : Word)
  | write16 (addr : Word) (data : BitVec 16)
  | read32 (addr : Word)
  | write32 (addr : Word) (data : Word)
  | fetch32 (addr : Word)
  | fetch16 (addr : Word)
  deriving DecidableEq, Repr

namespace BusOp

/-- The address a call is made at. -/
def addr : BusOp → Word
  | read8 a | write8 a _ | read16 a | write16 a _ | read32 a | write32 a _ | fetch32 a
  | fetch16 a => a

def isWrite : BusOp → Bool
  | write8 .. | write16 .. | write32 .. => true
  | _ => false

def isFetch : BusOp → Bool
  | fetch32 _ | fetch16 _ => true
  | _ => false

/-- Whether the call succeeded, and the bus after it. -/
def perform {β : Type} [Bus β] (op : BusOp) (bus : β) : Bool × β :=
  match op with
  | read8 a => ((Bus.read8 bus a).1.isOk, (Bus.read8 bus a).2)
  | write8 a v => ((Bus.write8 bus a v).1.isOk, (Bus.write8 bus a v).2)
  | read16 a => ((Bus.read16 bus a).1.isOk, (Bus.read16 bus a).2)
  | write16 a v => ((Bus.write16 bus a v).1.isOk, (Bus.write16 bus a v).2)
  | read32 a => ((Bus.read32 bus a).1.isOk, (Bus.read32 bus a).2)
  | write32 a v => ((Bus.write32 bus a v).1.isOk, (Bus.write32 bus a v).2)
  | fetch32 a => ((Bus.fetch32 bus a).1.isOk, (Bus.fetch32 bus a).2)
  | fetch16 a => ((Bus.fetch16 bus a).1.isOk, (Bus.fetch16 bus a).2)

end BusOp

/-- A call that was made, and whether it returned or threw. -/
structure BusEvent where
  op : BusOp
  ok : Bool
  deriving DecidableEq, Repr

section
variable {β : Type} [Bus β]

/-- The calls `es`, made in order, lead from the first bus to the second. -/
inductive Calls : β → List BusEvent → β → Prop
  | nil (bus : β) : Calls bus [] bus
  | cons (op : BusOp) {bus bus' : β} {es : List BusEvent} :
      Calls (op.perform bus).2 es bus' → Calls bus (⟨op, (op.perform bus).1⟩ :: es) bus'

namespace Calls

theorem single (op : BusOp) (bus : β) :
    Calls bus [⟨op, (op.perform bus).1⟩] (op.perform bus).2 :=
  .cons op (.nil _)

theorem of_call {α : Type} (op : BusOp) {bus bus' : β} {out : Except BusFault α × β}
    {v : Except BusFault α} (hop : op.perform bus = (out.1.isOk, out.2))
    (hout : out = (v, bus')) : Calls bus [⟨op, v.isOk⟩] bus' := by
  have hcalls := single op bus
  rw [hop, hout] at hcalls
  exact hcalls

theorem append {a b c : β} {es fs : List BusEvent} (h₁ : Calls a es b) (h₂ : Calls b fs c) :
    Calls a (es ++ fs) c := by
  induction h₁ with
  | nil => exact h₂
  | cons op _ ih => exact .cons op (ih h₂)

end Calls

/-! ## Memory -/

/-- The assumption a caller makes of the memory behind a bus: a read changes none
of it, and a call that throws changes none of it. -/
def QuietMemory {μ : Type} (mem : β → μ) : Prop :=
  ∀ (op : BusOp) (bus : β), op.isWrite = false ∨ (op.perform bus).1 = false →
    mem (op.perform bus).2 = mem bus

theorem Calls.mem_eq {μ : Type} {mem : β → μ} (hquiet : QuietMemory mem) {a b : β}
    {es : List BusEvent} (h : Calls a es b)
    (hes : ∀ e ∈ es, e.ok = true → e.op.isWrite = false) : mem b = mem a := by
  induction h with
  | nil => rfl
  | @cons op bus bus' es _ ih =>
    have hrest := ih fun e he => hes e (List.mem_cons_of_mem _ he)
    have hfirst := hes _ List.mem_cons_self
    rw [hrest]
    apply hquiet
    cases hok : (op.perform bus).1 with
    | false => exact .inr rfl
    | true => exact .inl (hfirst hok)

/-! ## Two ways a computation uses the bus -/

/-- Every call was a data access and returned. -/
def Clean (bus bus' : β) : Prop :=
  ∃ es, Calls bus es bus' ∧ ∀ e ∈ es, e.op.isFetch = false ∧ e.ok = true

/-- An exception code, as opposed to the mcause word of an interrupt. -/
def ExceptionCode (cause : Word) : Prop := cause.toNat < 16

instance (cause : Word) : Decidable (ExceptionCode cause) :=
  inferInstanceAs (Decidable (cause.toNat < 16))

/-- For a cause that evaluates, inside a record that does not. -/
theorem ExceptionCode.of_eval {cause : Word} (h : decide (ExceptionCode cause) = true) :
    ExceptionCode cause :=
  of_decide_eq_true h

/-- The exception a throwing data access must become: a write is a store access
fault, a read a load access fault unless an AMO made it. -/
def accessFaultCause (amo : Bool) (op : BusOp) : Word :=
  if op.isWrite || amo then Exc.storeAccessFault else Exc.loadAccessFault

theorem accessFaultCause_code (amo : Bool) (op : BusOp) :
    ExceptionCode (accessFaultCause amo op) := by
  unfold accessFaultCause
  split <;> decide

/-- The exception `cause` ends data accesses of which no write returned, and one
that threw is that exception, with its address in `tval`. -/
structure Faulted (amo : Bool) (cause tval : Word) (bus bus' : β) : Prop where
  code : ExceptionCode cause
  calls : ∃ es, Calls bus es bus' ∧ ∀ e ∈ es, e.op.isFetch = false ∧
    (e.ok = true → e.op.isWrite = false) ∧
    (e.ok = false → cause = accessFaultCause amo e.op ∧ tval = e.op.addr)

theorem Clean.refl (bus : β) : Clean bus bus := ⟨[], .nil bus, by simp⟩

theorem Clean.of_call {α : Type} (op : BusOp) {bus bus' : β} {out : Except BusFault α × β} {v : α}
    (hdata : op.isFetch = false) (hop : op.perform bus = (out.1.isOk, out.2))
    (hout : out = (.ok v, bus')) : Clean bus bus' :=
  ⟨_, Calls.of_call op hop hout, by simp [hdata, Except.isOk, Except.toBool]⟩

theorem Clean.trans {a b c : β} (h₁ : Clean a b) (h₂ : Clean b c) : Clean a c := by
  obtain ⟨es, hes, hok⟩ := h₁
  obtain ⟨fs, hfs, hok'⟩ := h₂
  refine ⟨es ++ fs, hes.append hfs, ?_⟩
  intro e he
  rcases List.mem_append.mp he with he | he
  · exact hok e he
  · exact hok' e he

theorem Faulted.refl (amo : Bool) {cause : Word} (tval : Word) (bus : β)
    (hcode : ExceptionCode cause) : Faulted amo cause tval bus bus :=
  ⟨hcode, [], .nil bus, by simp⟩

theorem Faulted.trans {amo : Bool} {cause tval : Word} {a b c : β}
    (h₁ : Faulted amo cause tval a b) (h₂ : Faulted amo cause tval b c) :
    Faulted amo cause tval a c := by
  obtain ⟨es, hes, hall⟩ := h₁.calls
  obtain ⟨fs, hfs, hall'⟩ := h₂.calls
  refine ⟨h₁.code, es ++ fs, hes.append hfs, ?_⟩
  intro e he
  rcases List.mem_append.mp he with he | he
  · exact hall e he
  · exact hall' e he

theorem Faulted.of_call {α : Type} (amo : Bool) (op : BusOp) {bus bus' : β}
    {out : Except BusFault α × β} {e : BusFault} (hdata : op.isFetch = false)
    (hop : op.perform bus = (out.1.isOk, out.2)) (hout : out = (.error e, bus')) :
    Faulted amo (accessFaultCause amo op) op.addr bus bus' :=
  ⟨accessFaultCause_code amo op, _, Calls.of_call op hop hout,
    by simp [hdata, Except.isOk, Except.toBool]⟩

theorem Faulted.of_read {α : Type} {amo : Bool} {cause tval : Word} (op : BusOp) {bus bus' : β}
    {out : Except BusFault α × β} {v : α} (hcode : ExceptionCode cause)
    (hdata : op.isFetch = false) (hread : op.isWrite = false)
    (hop : op.perform bus = (out.1.isOk, out.2)) (hout : out = (.ok v, bus')) :
    Faulted amo cause tval bus bus' :=
  ⟨hcode, _, Calls.of_call op hop hout, by simp [hdata, hread, Except.isOk, Except.toBool]⟩

end

/-! ## A bus that logs its calls -/

/-- A bus that keeps a log of its calls. -/
structure Traced (β : Type) where
  bus : β
  log : List BusEvent

namespace Traced

variable {β : Type}

/-- A call of the wrapped bus, with its event at the end of the log. -/
def record {α : Type} (t : Traced β) (op : BusOp) (out : Except BusFault α × β) :
    Except BusFault α × Traced β :=
  (out.1, { bus := out.2, log := t.log ++ [⟨op, out.1.isOk⟩] })

instance [Bus β] : Bus (Traced β) where
  read8 t a := t.record (.read8 a) (Bus.read8 t.bus a)
  write8 t a v := t.record (.write8 a v) (Bus.write8 t.bus a v)
  read16 t a := t.record (.read16 a) (Bus.read16 t.bus a)
  write16 t a v := t.record (.write16 a v) (Bus.write16 t.bus a v)
  read32 t a := t.record (.read32 a) (Bus.read32 t.bus a)
  write32 t a v := t.record (.write32 a v) (Bus.write32 t.bus a v)
  fetch32 t a := t.record (.fetch32 a) (Bus.fetch32 t.bus a)
  fetch16 t a := t.record (.fetch16 a) (Bus.fetch16 t.bus a)

variable [Bus β]

/-- A traced call logs itself and is otherwise the call of the wrapped bus. -/
theorem perform_traced (op : BusOp) (t : Traced β) :
    op.perform t = ((op.perform t.bus).1,
      { bus := (op.perform t.bus).2, log := t.log ++ [⟨op, (op.perform t.bus).1⟩] }) := by
  cases op <;> rfl

/-- **The log is the calls.** Along `es` the log of a traced bus grows by `es`. -/
theorem log_calls {t t' : Traced β} {es : List BusEvent} (h : Calls t es t') :
    t'.log = t.log ++ es := by
  induction h with
  | nil => simp
  | cons op _ ih =>
    rw [ih]
    simp [perform_traced, List.append_assoc]

end Traced

end Riscv

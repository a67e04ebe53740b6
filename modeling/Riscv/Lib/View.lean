/- Views of a state.

   A view reads something off a state and writes it back; what a write stores may be
   another value than the one written. A view is lawful when writing what was read
   changes nothing and a second write of a value adds nothing to the first. A cell
   whose writes go through a rule is lawful when the rule accepts what is stored. -/
namespace View

variable {σ α β : Type}

/-- The laws of a view, on the states of an invariant that its writes keep. -/
structure Lawful (Inv : σ → Prop) (read : σ → α) (write : σ → α → σ) : Prop where
  keeps : ∀ {s}, Inv s → ∀ v, Inv (write s v)
  write_read : ∀ {s}, Inv s → write s (read s) = s
  write_write : ∀ {s}, Inv s → ∀ v, write (write s v) v = write s v

/-- What a write left is stable: writing it back as read changes nothing. -/
theorem Lawful.settled {Inv : σ → Prop} {read : σ → α} {write : σ → α → σ}
    (h : Lawful Inv read write) {s : σ} (hs : Inv s) (v : α) :
    write (write s v) (read (write s v)) = write s v :=
  h.write_read (h.keeps hs v)

/-- A cell: what is stored is what was put. -/
structure Cell (Inv : σ → Prop) (get : σ → β) (put : σ → β → σ) : Prop where
  get_put : ∀ s w, get (put s w) = w
  put_get : ∀ {s}, Inv s → put s (get s) = s
  put_put : ∀ s w x, put (put s w) x = put s x

/-- A cell behind a rule: the rule takes the value read to the value stored, and gives
the same for a value it has stored already. -/
theorem Cell.lawful {Inv : σ → Prop} {get : σ → β} {put : σ → β → σ} (hcell : Cell Inv get put)
    {read : σ → α} {write : σ → α → σ} (rule : σ → α → β)
    (hwrite : ∀ {s}, Inv s → ∀ v, write s v = put s (rule s v))
    (keeps : ∀ {s}, Inv s → ∀ v, Inv (write s v))
    (fixed : ∀ {s}, Inv s → rule s (read s) = get s)
    (stable : ∀ {s}, Inv s → ∀ v, rule (put s (rule s v)) v = rule s v) :
    Lawful Inv read write where
  keeps := keeps
  write_read hs := by rw [hwrite hs, fixed hs, hcell.put_get hs]
  write_write hs v := by
    rw [hwrite (keeps hs v), hwrite hs, hcell.put_put, stable hs]

theorem Lawful.ignored {Inv : σ → Prop} (read : σ → α) {write : σ → α → σ}
    (hwrite : ∀ s v, write s v = s) : Lawful Inv read write where
  keeps hs v := by
    rw [hwrite]
    exact hs
  write_read _ := hwrite _ _
  write_write _ _ := hwrite _ _

end View

import Mathlib.Logic.ExistsUnique
import Mathlib.Data.Set.Function

/- Encoders and the readers that undo them. Not every command need be encodable
   (`valid`), and not every word readable: the two are inverse when reading finds
   the valid commands again, and finds nothing else. A format, a relation between
   commands and words, is what the two sides of a proof have in common. -/
namespace Codec

variable {C W : Type}

/-- `encode` on the valid commands and `read` on the readable words are inverse. -/
structure Inverse (valid : C → Prop) (encode : C → W) (read : W → Option C) : Prop where
  read_encode : ∀ {c}, valid c → read (encode c) = some c
  encode_read : ∀ {w c}, read w = some c → valid c ∧ encode c = w

namespace Inverse

variable {valid : C → Prop} {encode : C → W} {read : W → Option C}

/-- An encoder and a reader that follow one format are inverse. -/
theorem of_format {format : C → W → Prop}
    (hencode : ∀ c w, valid c ∧ encode c = w ↔ format c w)
    (hread : ∀ c w, format c w → read w = some c)
    (hformat : ∀ w c, read w = some c → format c w) : Inverse valid encode read where
  read_encode hc := hread _ _ ((hencode _ _).mp ⟨hc, rfl⟩)
  encode_read hw := (hencode _ _).mpr (hformat _ _ hw)

/-- No word encodes two valid commands. -/
theorem injOn (inv : Inverse valid encode read) : Set.InjOn encode {c | valid c} := by
  intro c hc c' hc' he
  have h := inv.read_encode hc
  rw [he, inv.read_encode hc'] at h
  exact (Option.some.inj h).symm

/-- A readable word encodes one valid command, the one it is read as. -/
theorem produced (inv : Inverse valid encode read) {w : W} (hw : (read w).isSome) :
    ∃ c, read w = some c ∧ valid c ∧ encode c = w ∧
      ∀ c', valid c' → encode c' = w → c' = c := by
  obtain ⟨c, hc⟩ := Option.isSome_iff_exists.mp hw
  obtain ⟨hv, he⟩ := inv.encode_read hc
  refine ⟨c, hc, hv, he, fun c' hv' he' => ?_⟩
  exact inv.injOn hv' hv (he'.trans he.symm)

end Inverse

/-- The same through a decoder, whose results (`D`) hold the command they stand for when
they are accepted. -/
structure RoundTrip {D : Type} (valid : C → Prop) (encode : C → W) (decode : W → D)
    (accepted : D → Prop) (command : D → Option C) : Prop where
  decode_encode : ∀ c, valid c → accepted (decode (encode c)) ∧
    command (decode (encode c)) = some c
  encode_decode : ∀ w, accepted (decode w) →
    ∃ c, command (decode w) = some c ∧ valid c ∧ encode c = w ∧
      ∀ c', valid c' → encode c' = w → c' = c

theorem Inverse.roundTrip {D : Type} {valid : C → Prop} {encode : C → W} {decode : W → D}
    {accepted : D → Prop} {command : D → Option C}
    (inv : Inverse valid encode fun w => command (decode w))
    (haccepted : ∀ d, (command d).isSome ↔ accepted d) :
    RoundTrip valid encode decode accepted command where
  decode_encode c hc := by
    have hread := inv.read_encode hc
    exact ⟨(haccepted _).mp (Option.isSome_of_eq_some hread), hread⟩
  encode_decode w hw := inv.produced ((haccepted _).mpr hw)

end Codec

import Riscv.FloatCodecs
import Riscv.IntCodecs
import Riscv.OpgenCodec

/- Encoders and decoders are inverse, all together: the nine extensions with an
   `encode` namespace, their pseudo-instructions, and the format encoders of the RV32I
   generator. -/
namespace Riscv

open Codec

/-- What a helper encodes decodes to its type and its arguments; what a decoder accepts is
encoded by one helper call, the one it decodes to; a pseudo-instruction decodes to the
instruction it stands for; and the generator's registers and immediates come back. -/
structure EncodersInverse (dec : Rv32i.Decoder) : Prop where
  rv32a : RoundTrip Rv32a.Call.InRange Rv32a.Call.encode Rv32a.decode (·.type ≠ .illegal)
    Rv32a.DecodedInstr.call
  rv32f : RoundTrip Rv32f.Call.InRange Rv32f.Call.encode Rv32f.decode (·.type ≠ .illegal)
    Rv32f.DecodedInstr.call
  rv32fPseudo : ∀ p : Rv32f.Pseudo, p.InRange → (Rv32f.decode p.encode).call = some p.call
  rv32fc : RoundTrip Rv32fc.Call.InRange Rv32fc.Call.encode Rv32fc.decode (·.type ≠ .illegal)
    Rv32fc.DecodedInstr.call
  rv32m : RoundTrip Rv32m.Call.InRange Rv32m.Call.encode Rv32m.decode (·.type ≠ .illegal)
    Rv32m.DecodedInstr.call
  zba : RoundTrip Zba.Call.InRange Zba.Call.encode Zba.decode (·.type ≠ .illegal)
    Zba.DecodedInstr.call
  zbb : RoundTrip Zbb.Call.InRange Zbb.Call.encode Zbb.decode (·.type ≠ .illegal)
    Zbb.DecodedInstr.call
  zbs : RoundTrip Zbs.Call.InRange Zbs.Call.encode Zbs.decode (·.type ≠ .illegal)
    Zbs.DecodedInstr.call
  zicond : RoundTrip Zicond.Call.InRange Zicond.Call.encode Zicond.decode (·.type ≠ .illegal)
    Zicond.DecodedInstr.call
  zicsr : RoundTrip Zicsr.Call.InRange Zicsr.Call.encode Zicsr.decode (·.type ≠ .illegal)
    Zicsr.DecodedCSRInstr.call
  zicsrPseudo : ∀ p : Zicsr.Pseudo, p.InRange → (Zicsr.decode p.encode).call = some p.call
  rv32i : Rv32i.Opgen.RoundTrips dec

/-- **The decoders undo the encoders, and accept nothing the encoders do not make.** -/
theorem encoders_inverse (dec : Rv32i.Decoder) : EncodersInverse dec where
  rv32a := Rv32a.roundTrip
  rv32f := Rv32f.roundTrip
  rv32fPseudo := Rv32f.Pseudo.decode_encode
  rv32fc := Rv32fc.roundTrip
  rv32m := Rv32m.roundTrip
  zba := Zba.roundTrip
  zbb := Zbb.roundTrip
  zbs := Zbs.roundTrip
  zicond := Zicond.roundTrip
  zicsr := Zicsr.roundTrip
  zicsrPseudo := Zicsr.Pseudo.decode_encode
  rv32i := Rv32i.Opgen.roundTrips dec

/-- `fmadd.s f1, f2, f3, f4` with the rounding mode taken from `frm`, `csrr x5, mstatus` and
`jal x1, -2`, there and back. -/
theorem encoders_inverse_samples :
    (Rv32f.decode (Rv32f.Encode.fmaddS 1 2 3 4 0b111)).call = some (.fmaddS 1 2 3 4 0b111) ∧
      (Zicsr.decode (Zicsr.Encode.csrr 5 0x300)).call = some (.csrrs 5 0x300 0) ∧
      (({} : Rv32i.Decoder).decode (Rv32i.Opgen.encodeJType (-2) 1 0b1101111)).imm = -2 :=
  ⟨((encoders_inverse {}).rv32f.decode_encode (.fmaddS 1 2 3 4 0b111)
      ⟨by decide, by decide, by decide, by decide, by decide⟩).2,
    (encoders_inverse {}).zicsrPseudo (.csrr 5 0x300) ⟨by decide, by decide⟩,
    (encoders_inverse {}).rv32i.jal (-2) 1 (by decide)⟩

/-- The generator's `srai x2, x1, 5` does not come back with the immediate it was given: the
marker bit of the operation is not part of the amount. -/
theorem srai_immediate_cut : ¬ ∀ imm rs1 funct3 rd : Word, IsImm12 imm →
    Rv32i.Opgen.IsIndex rs1 → Rv32i.Opgen.IsIndex rd →
    (({} : Rv32i.Decoder).decode
      (Rv32i.Opgen.encodeIType imm rs1 funct3 rd 0b0010011)).imm = imm := by
  intro h
  have hsrai := h 0x405 1 0b101 2 (by decide) (by decide) (by decide)
  have hcut : (({} : Rv32i.Decoder).decode
      (Rv32i.Opgen.encodeIType 0x405 1 0b101 2 0b0010011)).imm = 5 := by decide
  rw [hcut] at hsrai
  exact absurd hsrai (by decide)

end Riscv

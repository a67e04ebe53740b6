import Riscv.Rv32m
import Riscv.Rv32a
import Riscv.Rv32c
import Riscv.Rv32fc
import Riscv.Zicsr
import Riscv.Zext

/- The opcode classifier: one predicate for each extension, true when the
   extension's decoder accepts the opcode (`riscv_opcode_classify.hpp`). The two
   compressed predicates look at the low 16 bits only. -/
namespace Riscv

/-- `rv32i_dec_`'s S-mode flag; the other decoders have no state. -/
structure OpcodeClassifier where
  sModeEnabled : Bool := false
  deriving DecidableEq, Repr

namespace OpcodeClassifier

/-- The 16-bit encoding space: the two low bits are not both set. -/
def isCompressed (opcode : Word) : Bool := decide (opcode &&& 0x3 ≠ 0x3)

/-- The base decoder with the flag of the classifier. -/
def rv32iDec (c : OpcodeClassifier) : Rv32i.Decoder := { sModeEnabled := c.sModeEnabled }

/-- As in those after it: the length first, then the decoder of the extension. -/
def opcodeIsRv32i (c : OpcodeClassifier) (opcode : Word) : Bool :=
  !isCompressed opcode && decide ((c.rv32iDec.decode opcode).type ≠ .illegal)

def opcodeIsRv32m (_ : OpcodeClassifier) (opcode : Word) : Bool :=
  !isCompressed opcode && decide ((Rv32m.decode opcode).type ≠ .illegal)

def opcodeIsRv32a (_ : OpcodeClassifier) (opcode : Word) : Bool :=
  !isCompressed opcode && decide ((Rv32a.decode opcode).type ≠ .illegal)

def opcodeIsRv32f (_ : OpcodeClassifier) (opcode : Word) : Bool :=
  !isCompressed opcode && decide ((Rv32f.decode opcode).type ≠ .illegal)

def opcodeIsZicsr (_ : OpcodeClassifier) (opcode : Word) : Bool :=
  !isCompressed opcode && decide ((Zicsr.decode opcode).type ≠ .illegal)

def opcodeIsZifencei (_ : OpcodeClassifier) (opcode : Word) : Bool :=
  !isCompressed opcode && decide ((Zifencei.decode opcode).type ≠ .illegal)

def opcodeIsZba (_ : OpcodeClassifier) (opcode : Word) : Bool :=
  !isCompressed opcode && decide ((Zba.decode opcode).type ≠ .illegal)

def opcodeIsZbb (_ : OpcodeClassifier) (opcode : Word) : Bool :=
  !isCompressed opcode && decide ((Zbb.decode opcode).type ≠ .illegal)

def opcodeIsZbs (_ : OpcodeClassifier) (opcode : Word) : Bool :=
  !isCompressed opcode && decide ((Zbs.decode opcode).type ≠ .illegal)

def opcodeIsZicond (_ : OpcodeClassifier) (opcode : Word) : Bool :=
  !isCompressed opcode && decide ((Zicond.decode opcode).type ≠ .illegal)

/-- The upper half of the word does not matter to a parcel. -/
def opcodeIsRv32c (_ : OpcodeClassifier) (opcode : Word) : Bool :=
  isCompressed opcode && decide ((Rv32c.decode (u16 opcode)).type ≠ .illegal)

/-- The decoder decides, not the test of the dispatcher. -/
def opcodeIsRv32fc (_ : OpcodeClassifier) (opcode : Word) : Bool :=
  isCompressed opcode && decide ((Rv32fc.decode (u16 opcode)).type ≠ .illegal)

end OpcodeClassifier

end Riscv

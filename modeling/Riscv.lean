import Riscv.AtomicOps
import Riscv.BitTricks
import Riscv.BusDiscipline
import Riscv.ByteMemory
import Riscv.Compressed
import Riscv.Counters
import Riscv.CsrAccess
import Riscv.CsrRules
import Riscv.CsrViews
import Riscv.Disasm
import Riscv.Dispatch
import Riscv.EnableMask
import Riscv.FcsrAccrual
import Riscv.FloatConvert
import Riscv.FloatFma
import Riscv.FloatOrder
import Riscv.HintStep
import Riscv.IllegalOpgen
import Riscv.IllegalSound
import Riscv.IllegalStep
import Riscv.Injection
import Riscv.InterruptLines
import Riscv.Isolation
import Riscv.Lib.BitCount
import Riscv.Lib.ByteStore
import Riscv.Lib.Fused
import Riscv.Lib.Sample
import Riscv.LrSc
import Riscv.Modes
import Riscv.MulDiv
import Riscv.Noninterference
import Riscv.PcInvariant
import Riscv.Privilege
import Riscv.ReservedFields
import Riscv.ResetFresh
import Riscv.RoundTrip
import Riscv.TrapReturn
import Riscv.Traps
import Riscv.ZicsrStimulus

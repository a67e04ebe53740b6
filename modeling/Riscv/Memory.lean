import Riscv.Cpu

/- The memory of the test system and the system made of it and a CPU
   (`SimpleMemory` in `riscv_common.hpp`, `System` in `riscv_cpu.hpp`).

   The buffer is an array of bytes, absent after a move (the null pointer); its
   length is `mem_size`. The bounds check is made in 64 bits, the offsets of the
   bytes are computed in 32 as in the source. Ownership has no counterpart. -/
namespace Riscv

/-- A buffer at a base address. -/
structure SimpleMemory where
  mem : Option (Array (BitVec 8))
  baseAddr : Word := 0
  deriving DecidableEq, Repr

namespace SimpleMemory

/-- The constructor: zeroed memory. -/
def new (size : Nat) (base : Word := 0) : SimpleMemory :=
  { mem := some (Array.replicate size 0), baseAddr := base }

/-- `mem_size`: a memory moved away has none. -/
def size (m : SimpleMemory) : Nat := (m.mem.map Array.size).getD 0

/-- `check_addr`: whether it returns. -/
def checkAddr (m : SimpleMemory) (addr : Word) (size : Nat) : Bool :=
  m.mem.isSome && decide (addr ≥ m.baseAddr) &&
    decide ((addr.toNat - m.baseAddr.toNat) + size ≤ m.size)

/-- `addr - base_addr`. -/
def offset (m : SimpleMemory) (addr : Word) : Word := addr - m.baseAddr

/-- `mem[offset]`; the callers check the bounds first. -/
def byteAt (m : SimpleMemory) (offset : Word) : BitVec 8 :=
  ((m.mem.bind (·[offset.toNat]?)).getD 0)

/-- `mem[offset] = data`. -/
def setByte (m : SimpleMemory) (offset : Word) (data : BitVec 8) : SimpleMemory :=
  { m with mem := m.mem.map (·.setIfInBounds offset.toNat data) }

/-- A read changes nothing, and throws out of bounds. -/
def read8 (m : SimpleMemory) (addr : Word) : Except BusFault (BitVec 8) × SimpleMemory :=
  if m.checkAddr addr 1 then (.ok (m.byteAt (m.offset addr)), m) else (.error ⟨addr⟩, m)

def write8 (m : SimpleMemory) (addr : Word) (data : BitVec 8) :
    Except BusFault Unit × SimpleMemory :=
  if m.checkAddr addr 1 then (.ok (), m.setByte (m.offset addr) data) else (.error ⟨addr⟩, m)

/-- Little endian; the two bytes are checked as one access. -/
def read16 (m : SimpleMemory) (addr : Word) : Except BusFault (BitVec 16) × SimpleMemory :=
  if m.checkAddr addr 2 then
    let offset := m.offset addr
    (.ok ((m.byteAt offset).setWidth 16 ||| ((m.byteAt (offset + 1)).setWidth 16 <<< 8)), m)
  else (.error ⟨addr⟩, m)

def write16 (m : SimpleMemory) (addr : Word) (data : BitVec 16) :
    Except BusFault Unit × SimpleMemory :=
  if m.checkAddr addr 2 then
    let offset := m.offset addr
    let m := m.setByte offset (data.setWidth 8)
    (.ok (), m.setByte (offset + 1) ((data >>> 8).setWidth 8))
  else (.error ⟨addr⟩, m)

def read32 (m : SimpleMemory) (addr : Word) : Except BusFault Word × SimpleMemory :=
  if m.checkAddr addr 4 then
    let offset := m.offset addr
    (.ok ((m.byteAt offset).setWidth 32 ||| ((m.byteAt (offset + 1)).setWidth 32 <<< 8) |||
      ((m.byteAt (offset + 2)).setWidth 32 <<< 16) |||
      ((m.byteAt (offset + 3)).setWidth 32 <<< 24)), m)
  else (.error ⟨addr⟩, m)

/-- The four bytes one after another, once all are in bounds. -/
def write32 (m : SimpleMemory) (addr data : Word) : Except BusFault Unit × SimpleMemory :=
  if m.checkAddr addr 4 then
    let offset := m.offset addr
    let m := m.setByte offset (data.setWidth 8)
    let m := m.setByte (offset + 1) ((data >>> 8).setWidth 8)
    let m := m.setByte (offset + 2) ((data >>> 16).setWidth 8)
    (.ok (), m.setByte (offset + 3) ((data >>> 24).setWidth 8))
  else (.error ⟨addr⟩, m)

instance : Bus SimpleMemory where
  read8 := read8
  write8 := write8
  read16 := read16
  write16 := write16
  read32 := read32
  write32 := write32

/-- `std::copy` to consecutive bytes. -/
def copyFrom (buffer : Array (BitVec 8)) (start : Nat) : List (BitVec 8) → Array (BitVec 8)
  | [] => buffer
  | byte :: rest => copyFrom (buffer.setIfInBounds start byte) (start + 1) rest

/-- `load`: a bulk copy, checked as one access. -/
def load (m : SimpleMemory) (addr : Word) (src : List (BitVec 8)) :
    Except BusFault Unit × SimpleMemory :=
  if m.checkAddr addr src.length then
    (.ok (), { m with mem := m.mem.map (copyFrom · (m.offset addr).toNat src) })
  else (.error ⟨addr⟩, m)

/-- `clear`: every byte is zero, the size stays. -/
def clear (m : SimpleMemory) : SimpleMemory :=
  { m with mem := m.mem.map fun buffer => Array.replicate buffer.size 0 }

end SimpleMemory

/-! ## The system -/

/-- A CPU on a memory of its own. -/
structure System where
  cpu : CPU
  memory : SimpleMemory

namespace System

def new (memSize : Nat) (config : CPUConfig := {}) : System :=
  { cpu := CPU.new config, memory := SimpleMemory.new memSize }

/-- Words written one after another; a failed write stops the loading. -/
def loadProgram (s : System) (addr : Word) : List Word → Except BusFault Unit × System
  | [] => (.ok (), s)
  | instr :: rest =>
    match s.memory.write32 addr instr with
    | (.error e, memory) => (.error e, { s with memory := memory })
    | (.ok _, memory) => { s with memory := memory }.loadProgram (addr + 4) rest

/-- The memory is cleared too. -/
def reset (s : System) : System := { cpu := s.cpu.reset, memory := s.memory.clear }

variable [Rv32f.HostFloat]

/-- A fetching step on the memory. -/
def step (s : System) : CPUExecResult × System :=
  let (result, cpu, memory) := s.cpu.step s.memory
  (result, { cpu := cpu, memory := memory })

/-- `run` on the memory; the number of steps is returned. -/
def run (s : System) (maxInstructions : Nat) (stopOnTrap : Bool := false) : Nat × System :=
  let (count, cpu, memory) := s.cpu.run s.memory maxInstructions stopOnTrap
  (count, { cpu := cpu, memory := memory })

end System

end Riscv

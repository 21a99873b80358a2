import Chip8.Proofs.Cycle

/-!
# Where the bytes of memory come from

Two instructions store to memory, each to a window of cells from the index on.
The index has sixteen bits and a window may straddle its wrap as well as the end
of memory. A cell holds what the last store to it put there, or what it held at
the start if no window of the run contained it.
-/

namespace Chip8

/-! ## Windows -/

namespace Word

/-- The cell at an offset from the index; both wraps are the same at twelve bits. -/
def offsetAddress (index : Word) (offset : Nat) : Address :=
  (index + BitVec.ofNat 16 offset).address

theorem toNat_offsetAddress_sub (index : Word) {offset : Nat} (bound : offset < 4096) :
    (index.offsetAddress offset - index.address).toNat = offset := by
  simp only [offsetAddress, address, BitVec.toNat_sub, BitVec.toNat_setWidth,
    BitVec.toNat_add, BitVec.toNat_ofNat]
  omega

theorem offsetAddress_toNat_sub (index : Word) (address : Address) :
    index.offsetAddress (address - index.address).toNat = address := by
  have bound := address.isLt
  apply BitVec.eq_of_toNat_eq
  simp only [offsetAddress, Word.address, BitVec.toNat_sub, BitVec.toNat_setWidth,
    BitVec.toNat_add, BitVec.toNat_ofNat]
  omega

end Word

namespace Memory

variable (memory : Memory) (index : Word) {bytes : List Byte}
  (fits : bytes.length ≤ 4096)

include fits

theorem read_writeBlock_inside {offset : Nat} {byte : Byte}
    (stored : bytes[offset]? = some byte) :
    (memory.writeBlock index.address bytes).read (index.offsetAddress offset) = byte := by
  have bound : offset < bytes.length := (List.getElem?_eq_some_iff.mp stored).1
  rw [read_writeBlock _ _ _ _ fits, index.toNat_offsetAddress_sub (by omega), stored,
    Option.getD_some]

theorem read_writeBlock_outside {address : Address}
    (outside : ∀ offset < bytes.length, index.offsetAddress offset ≠ address) :
    (memory.writeBlock index.address bytes).read address = memory.read address := by
  have past : bytes.length ≤ (address - index.address).toNat := by
    apply Nat.le_of_not_lt
    intro within
    exact outside _ within (index.offsetAddress_toNat_sub address)
  rw [read_writeBlock _ _ _ _ fits, List.getElem?_eq_none past, Option.getD_none]

end Memory

/-! ## The stores of one cycle -/

/-- A decimal digit of a byte, the hundreds at zero. -/
def decimalDigit (byte : Byte) : Nat → Byte
  | 0 => BitVec.ofNat 8 (byte.toNat / 100 % 10)
  | 1 => BitVec.ofNat 8 (byte.toNat / 10 % 10)
  | _ => BitVec.ofNat 8 (byte.toNat % 10)

namespace Machine

theorem getElem?_decimalDigits (byte : Byte) {place : Nat} (bound : place < 3) :
    (decimalDigits byte)[place]? = some (decimalDigit byte place) := by
  have byteBound := byte.isLt
  obtain rfl | rfl | rfl : place = 0 ∨ place = 1 ∨ place = 2 := by omega
  all_goals
    simp only [decimalDigits, decimalDigit, List.getElem?_cons_zero, List.getElem?_cons_succ,
      Option.some.injEq]
    apply BitVec.eq_of_toNat_eq
    simp
    omega

/-- What the next cycle stores: a cell of the instruction's window and its byte. -/
inductive Stores (machine : Machine) : Address → Byte → Prop where
  | digit {x : Nibble} {place : Nat} :
      machine.instruction? = some (.storeDigits x) →
      place < 3 →
      Stores machine (machine.index.offsetAddress place)
        (decimalDigit (machine.registers.get x) place)
  | register {x name : Nibble} :
      machine.instruction? = some (.storeRegisters x) →
      name ≤ x →
      Stores machine (machine.index.offsetAddress name.toNat) (machine.registers.get name)

variable {machine : Machine} {address : Address} {byte : Byte}

theorem read_step_of_stores (stored : machine.Stores address byte) :
    machine.step.memory.read address = byte := by
  rw [memory_step]
  cases stored with
  | digit fetched bound =>
      simp only [fetched]
      exact machine.memory.read_writeBlock_inside machine.index (by simp [decimalDigits])
        (getElem?_decimalDigits _ bound)
  | @register x name fetched within =>
      simp only [fetched]
      apply machine.memory.read_writeBlock_inside machine.index
      · rw [Registers.length_upTo]
        have := x.isLt
        omega
      · rw [Registers.getElem?_upTo, if_pos within]

theorem read_step_of_not_stores (spared : ∀ byte, ¬machine.Stores address byte) :
    machine.step.memory.read address = machine.memory.read address := by
  rw [memory_step]
  split
  next x fetched =>
    apply machine.memory.read_writeBlock_outside machine.index (by simp [decimalDigits])
    rintro place bound rfl
    exact spared _ (.digit fetched bound)
  next x fetched =>
    have small := x.isLt
    apply machine.memory.read_writeBlock_outside machine.index
    · rw [Registers.length_upTo]
      omega
    · rw [Registers.length_upTo]
      rintro offset bound rfl
      have name : (BitVec.ofNat 4 offset).toNat = offset := by
        rw [BitVec.toNat_ofNat]
        omega
      apply spared (machine.registers.get (BitVec.ofNat 4 offset))
      have within : BitVec.ofNat 4 offset ≤ x := by
        rw [BitVec.le_def, name]
        omega
      have stored := Stores.register fetched within
      rwa [name] at stored
  next => rfl

/-! ## The stores of a run -/

theorem read_run_of_not_stores {cycles : Nat}
    (spared : ∀ cycle < cycles, ∀ byte, ¬(machine.run cycle).Stores address byte) :
    (machine.run cycles).memory.read address = machine.memory.read address := by
  induction cycles with
  | zero => rfl
  | succ cycles inductionHypothesis =>
      rw [run_succ_last, read_step_of_not_stores (spared cycles (by omega))]
      exact inductionHypothesis fun cycle bound => spared cycle (by omega)

/-- After a run, a cell holds the byte of the last store to it, and the byte that
it held at the start if there was none. -/
theorem read_memory_run (machine : Machine) (cycles : Nat) (address : Address) :
    (∀ last < cycles, ∀ byte, (machine.run last).Stores address byte →
        (∀ cycle < cycles, last < cycle →
          ∀ other, ¬(machine.run cycle).Stores address other) →
        (machine.run cycles).memory.read address = byte) ∧
      ((∀ cycle < cycles, ∀ byte, ¬(machine.run cycle).Stores address byte) →
        (machine.run cycles).memory.read address = machine.memory.read address) := by
  refine ⟨?_, read_run_of_not_stores⟩
  intro last bound byte stored spared
  obtain ⟨rest, rfl⟩ := Nat.exists_eq_add_of_le bound
  have kept : ((machine.run (last + 1)).run rest).memory.read address =
      (machine.run (last + 1)).memory.read address := by
    apply read_run_of_not_stores
    intro cycle within
    rw [← run_add]
    exact spared _ (by omega) (by omega)
  rw [run_add, kept, run_succ_last, read_step_of_stores stored]

/-- Three registers about to be stored over the program, across both wraps. -/
def straddlingStore : Machine :=
  { holding [0xF2, 0x55] with index := 0xFFFF, registers := Registers.zero.set 2 7 }

theorem straddlingStore_read :
    straddlingStore.Stores 0x001 7 ∧ (straddlingStore.run 1).memory.read 0x001 = 7 := by
  have stored : straddlingStore.Stores 0x001 7 :=
    @Stores.register straddlingStore 2 2 rfl (by decide)
  refine ⟨stored, (read_memory_run straddlingStore 1 0x001).1 0 (by decide) 7 stored ?_⟩
  intro cycle bound later
  omega

end Machine

end Chip8

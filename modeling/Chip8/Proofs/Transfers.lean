import Chip8.Proofs.Aliasing
import Chip8.Proofs.Plotting

/-!
# Storing and loading registers

Both transfers go through the cells from the index on, one for each register up to a
last one, across both wraps. What one of them moves the other moves back: the registers
come back from the cells they were stored to, and storing what was just loaded leaves
memory as it was.
-/

namespace Chip8

theorem Word.offsetAddress_congr {index other : Word} (same : index.address = other.address)
    (offset : Nat) : index.offsetAddress offset = other.offsetAddress offset := by
  rw [offsetAddress_eq_add, offsetAddress_eq_add, same]

/-- The list has a byte for each register up to the last, so an offset into it is a name. -/
theorem Registers.exists_of_getElem?_upTo {registers : Registers} {last : Nibble} {offset : Nat}
    {byte : Byte} (stored : (registers.upTo last)[offset]? = some byte) :
    ∃ name ≤ last, name.toNat = offset ∧ registers.get name = byte := by
  have within : offset < last.toNat + 1 := by
    have bound := (List.getElem?_eq_some_iff.mp stored).1
    rwa [length_upTo] at bound
  have small := last.toNat_lt
  have name : (BitVec.ofNat 4 offset).toNat = offset := by
    rw [BitVec.toNat_ofNat]
    omega
  have low : BitVec.ofNat 4 offset ≤ last := by
    rw [BitVec.le_def, name]
    omega
  have found := registers.getElem?_upTo last (BitVec.ofNat 4 offset)
  rw [name, stored, if_pos low] at found
  exact ⟨BitVec.ofNat 4 offset, low, name, (Option.some.inj found).symm⟩

/-- To write bytes that the cells hold already changes nothing. -/
theorem Memory.writeBlock_eq_self (memory : Memory) (index : Word) {bytes : List Byte}
    (fits : bytes.length ≤ 4096)
    (held : ∀ offset byte, bytes[offset]? = some byte →
      memory.read (index.offsetAddress offset) = byte) :
    memory.writeBlock index.address bytes = memory := by
  ext address : 1
  rw [read_writeBlock _ _ _ _ fits]
  cases stored : bytes[(address - index.address).toNat]? with
  | none => rfl
  | some byte =>
      have here := held _ byte stored
      rw [Word.offsetAddress_toNat_sub] at here
      exact here.symm

namespace Machine

/-! ## One transfer -/

section Transfer

variable (machine : Machine) (x : Nibble)

theorem execute_storeRegisters :
    machine.execute (.withByte 0xF x 0x55) = machine.perform (.storeRegisters x) :=
  machine.execute_encode (.storeRegisters x)

theorem execute_loadRegisters :
    machine.execute (.withByte 0xF x 0x65) = machine.perform (.loadRegisters x) :=
  machine.execute_encode (.loadRegisters x)

theorem memory_execute_store :
    (machine.execute (.withByte 0xF x 0x55)).memory =
      machine.memory.writeBlock machine.index.address (machine.registers.upTo x) := by
  rw [execute_storeRegisters]
  rfl

theorem read_execute_store {name : Nibble} (within : name ≤ x) :
    (machine.execute (.withByte 0xF x 0x55)).memory.read
        (machine.index.offsetAddress name.toNat) =
      machine.registers.get name := by
  have last := x.toNat_lt
  rw [memory_execute_store]
  apply machine.memory.read_writeBlock_inside machine.index
  · rw [Registers.length_upTo]
    omega
  · rw [Registers.getElem?_upTo, if_pos within]

theorem memory_execute_load :
    (machine.execute (.withByte 0xF x 0x65)).memory = machine.memory := by
  rw [execute_loadRegisters]
  rfl

theorem get_execute_load (name : Nibble) :
    (machine.execute (.withByte 0xF x 0x65)).registers.get name =
      if name ≤ x then machine.memory.read (machine.index.offsetAddress name.toNat)
      else machine.registers.get name := by
  have loaded : (machine.perform (.loadRegisters x)).registers =
      machine.registers.loadUpTo x fun name =>
        machine.memory.read (machine.index.address + name.setWidth 12) := rfl
  rw [execute_loadRegisters, loaded, Registers.get_loadUpTo, Word.offsetAddress_eq_add,
    BitVec.ofNat_toNat]

theorem toNat_indexAfterTransfer :
    (machine.indexAfterTransfer x).toNat =
      if machine.dialect = .cosmac then (machine.index.toNat + x.toNat + 1) % 65536
      else machine.index.toNat := by
  unfold indexAfterTransfer
  cases machine.dialect with
  | schip => rfl
  | cosmac =>
      rw [if_pos rfl, BitVec.toNat_add, BitVec.toNat_add,
        BitVec.toNat_setWidth_of_le (by decide)]
      exact Nat.mod_add_mod _ _ _

theorem toNat_index_execute_transfer {code : Byte} (transfer : code = 0x55 ∨ code = 0x65) :
    (machine.execute (.withByte 0xF x code)).index.toNat =
      if machine.dialect = .cosmac then (machine.index.toNat + x.toNat + 1) % 65536
      else machine.index.toNat := by
  rw [← toNat_indexAfterTransfer]
  rcases transfer with rfl | rfl
  · rw [execute_storeRegisters]
    rfl
  · rw [execute_loadRegisters]
    rfl

end Transfer

/-! ## There and back -/

section Inverse

variable {machine other : Machine} {x : Nibble}

theorem get_load_of_stored
    (held : ∀ offset ≤ x.toNat,
      other.memory.read (machine.index.offsetAddress offset) =
        (machine.execute (.withByte 0xF x 0x55)).memory.read
          (machine.index.offsetAddress offset))
    (same : other.index.address = machine.index.address) (name : Nibble) :
    (other.execute (.withByte 0xF x 0x65)).registers.get name =
      if name ≤ x then machine.registers.get name else other.registers.get name := by
  rw [get_execute_load]
  split
  next within =>
    rw [Word.offsetAddress_congr same, held _ (BitVec.le_def.mp within),
      read_execute_store machine x within]
  next => rfl

theorem memory_store_of_loaded {index : Word} (same : index.address = machine.index.address) :
    ({ machine.execute (.withByte 0xF x 0x65) with index }.execute
      (.withByte 0xF x 0x55)).memory = machine.memory := by
  have last := x.toNat_lt
  rw [memory_execute_store, memory_execute_load]
  apply Memory.writeBlock_eq_self
  · rw [Registers.length_upTo]
    omega
  · intro offset byte stored
    rcases Registers.exists_of_getElem?_upTo stored with ⟨name, within, rfl, rfl⟩
    rw [get_execute_load, if_pos within, Word.offsetAddress_congr same]

end Inverse

/-- A load from cells that hold what a store put there gives back the registers that
were stored, keeps the others and does not touch memory; a store of what a load has
just taken, to the same cells, leaves memory as it was before the load. The index may
be any that names the same cells. Each transfer leaves the index as the dialect says. -/
theorem transfers_invert (x : Nibble) :
    (∀ machine other : Machine,
        (∀ offset ≤ x.toNat,
          other.memory.read (machine.index.offsetAddress offset) =
            (machine.execute (.withByte 0xF x 0x55)).memory.read
              (machine.index.offsetAddress offset)) →
        other.index.toNat ≡ machine.index.toNat [MOD 4096] →
        (∀ name, (other.execute (.withByte 0xF x 0x65)).registers.get name =
            if name ≤ x then machine.registers.get name else other.registers.get name) ∧
          (other.execute (.withByte 0xF x 0x65)).memory = other.memory) ∧
      (∀ machine : Machine, ∀ index : Word, index.toNat ≡ machine.index.toNat [MOD 4096] →
        ({ machine.execute (.withByte 0xF x 0x65) with index }.execute
          (.withByte 0xF x 0x55)).memory = machine.memory) ∧
      ∀ machine : Machine, ∀ code : Byte, code = 0x55 ∨ code = 0x65 →
        (machine.execute (.withByte 0xF x code)).index.toNat =
          if machine.dialect = .cosmac then (machine.index.toNat + x.toNat + 1) % 65536
          else machine.index.toNat := by
  refine ⟨?_, ?_, ?_⟩
  · intro machine other held same
    refine ⟨?_, other.memory_execute_load x⟩
    exact get_load_of_stored held ((Word.address_eq_iff _ _).mpr same)
  · intro machine index same
    exact memory_store_of_loaded ((Word.address_eq_iff _ _).mpr same)
  · intro machine code transfer
    exact machine.toNat_index_execute_transfer x transfer

/-- The cells of a store across both wraps, in a machine whose other cells and registers
are different ones and whose index has another upper nibble. -/
def straddlingLoad : Machine :=
  { straddlingStore with
    dialect := .cosmac
    memory := (straddlingStore.execute 0xF255).memory.write 0x300 9
    index := 0x0FFF
    registers := Registers.zero.set 3 5 }

theorem straddlingTransfers_invert :
    (∀ offset ≤ 2, straddlingLoad.memory.read (straddlingStore.index.offsetAddress offset) =
        (straddlingStore.execute (.withByte 0xF 2 0x55)).memory.read
          (straddlingStore.index.offsetAddress offset)) ∧
      straddlingLoad.index.toNat ≡ straddlingStore.index.toNat [MOD 4096] ∧
      (straddlingLoad.execute (.withByte 0xF 2 0x65)).registers.get 2 = 7 ∧
      (straddlingLoad.execute (.withByte 0xF 2 0x65)).registers.get 3 = 5 ∧
      ({ straddlingLoad.execute (.withByte 0xF 2 0x65) with index := 0x5FFF }.execute
        (.withByte 0xF 2 0x55)).memory = straddlingLoad.memory ∧
      (straddlingLoad.execute (.withByte 0xF 2 0x65)).index.toNat = 0x1002 := by
  have held : ∀ offset ≤ 2,
      straddlingLoad.memory.read (straddlingStore.index.offsetAddress offset) =
        (straddlingStore.execute (.withByte 0xF 2 0x55)).memory.read
          (straddlingStore.index.offsetAddress offset) := by
    decide +kernel
  have same : straddlingLoad.index.toNat ≡ straddlingStore.index.toNat [MOD 4096] := rfl
  rcases transfers_invert 2 with ⟨loads, stores, indices⟩
  rcases loads straddlingStore straddlingLoad held same with ⟨registers, -⟩
  refine ⟨held, same, ?_, ?_, stores straddlingLoad 0x5FFF rfl, ?_⟩
  · rw [registers]
    rfl
  · rw [registers]
    rfl
  · rw [indices straddlingLoad 0x65 (.inr rfl)]
    rfl

end Machine

end Chip8

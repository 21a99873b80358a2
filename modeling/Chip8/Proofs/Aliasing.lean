import Chip8.Proofs.Cycle
import Mathlib.Data.Nat.ModEq

/-!
# Addresses beyond memory

The program counter and the index have sixteen bits, of which every access to
memory and every call keeps twelve. Two machines that differ in the other four
bits alone go on differing there alone: they carry out the same words and fault
together. Only the flag of an addition to the index tells such machines apart.
-/

namespace Chip8

namespace Word

theorem address_eq_iff (word other : Word) :
    word.address = other.address ↔ word.toNat ≡ other.toNat [MOD 4096] := by
  rw [← BitVec.toNat_inj, address, address, BitVec.toNat_setWidth, BitVec.toNat_setWidth]
  rfl

theorem address_add_congr {word other : Word} (same : word.address = other.address)
    (distance : Word) : (word + distance).address = (other + distance).address := by
  simp only [address] at same ⊢
  rw [BitVec.setWidth_add _ _ (by decide), BitVec.setWidth_add _ _ (by decide), same]

end Word

namespace Machine

/-- The machine with another program counter and another index. -/
def relocate (machine : Machine) (pc index : Word) : Machine := { machine with pc, index }

/-- The machines agree but for the bits of the program counter and of the index
that no address has. -/
structure Aliases (machine other : Machine) : Prop where
  pc : machine.pc.toNat ≡ other.pc.toNat [MOD 4096]
  index : machine.index.toNat ≡ other.index.toNat [MOD 4096]
  rest : other = machine.relocate other.pc other.index

/-! ## One instruction -/

section Perform

variable (machine : Machine) {pc index : Word} (instruction : Instruction)

theorem address_pc_perform_relocate (samePc : machine.pc.address = pc.address) :
    (machine.perform instruction).pc.address =
      ((machine.relocate pc index).perform instruction).pc.address := by
  cases instruction with
  | leave | jump | call | jumpOffset => rfl
  | _ => exact Word.address_add_congr samePc _

theorem address_index_perform_relocate (sameIndex : machine.index.address = index.address) :
    (machine.perform instruction).index.address =
      ((machine.relocate pc index).perform instruction).index.address := by
  have transferred (x : Nibble) :
      (machine.indexAfterTransfer x).address =
        ((machine.relocate pc index).indexAfterTransfer x).address := by
    cases dialect : machine.dialect with
    | cosmac =>
        simp only [indexAfterTransfer, relocate, dialect]
        exact Word.address_add_congr (Word.address_add_congr sameIndex _) _
    | schip => simpa only [indexAfterTransfer, relocate, dialect] using sameIndex
  cases instruction with
  | setIndex | pointGlyph => rfl
  | addIndex => exact Word.address_add_congr sameIndex _
  | storeRegisters x => exact transferred x
  | loadRegisters x => exact transferred x
  | _ => exact sameIndex

theorem index_perform_relocate :
    ((machine.relocate pc machine.index).perform instruction).index =
      (machine.perform instruction).index := by
  cases instruction <;> rfl

theorem perform_relocate (samePc : machine.pc.address = pc.address)
    (sameIndex : machine.index.address = index.address)
    (unflagged : (∀ x, instruction ≠ .addIndex x) ∨ machine.index = index) :
    (machine.relocate pc index).perform instruction =
      (machine.perform instruction).relocate
        ((machine.relocate pc index).perform instruction).pc
        ((machine.relocate pc index).perform instruction).index := by
  -- Whatever reads one of the two registers takes its address first; the others do not care.
  cases instruction with
  | call target =>
      have returned := Word.address_add_congr samePc next
      simp only [perform, handle, relocate, advance, returned]
  | draw x y height =>
      have mask : (machine.relocate pc index).spriteMask x y height =
          machine.spriteMask x y height := by
        simp only [spriteMask, relocate, sameIndex]
      rw [perform_draw, perform_draw, mask]
      rfl
  | addIndex x =>
      obtain other | rfl := unflagged
      · exact absurd rfl (other x)
      · rfl
  | storeDigits x => simp only [perform, handle, relocate, advance, sameIndex]
  | storeRegisters x => simp only [perform, handle, relocate, advance, sameIndex]
  | loadRegisters x => simp only [perform, handle, relocate, advance, sameIndex]
  | _ => rfl

/-- An addition to the index may tell the machines apart, but only by its flag. -/
theorem perform_addIndex_relocate (x : Nibble) :
    ∃ flag, (machine.relocate pc index).perform (.addIndex x) =
      ((machine.perform (.addIndex x)).setRegister Registers.flag flag).relocate
        ((machine.relocate pc index).perform (.addIndex x)).pc
        ((machine.relocate pc index).perform (.addIndex x)).index := by
  simp only [perform, handle, relocate, advance, setRegister, Registers.set_set]
  exact ⟨_, rfl⟩

end Perform

/-! ## Cycles -/

theorem aliases_iff {machine other : Machine} :
    machine.Aliases other ↔
      ∃ pc index, other = machine.relocate pc index ∧
        machine.pc.address = pc.address ∧ machine.index.address = index.address := by
  constructor
  · rintro ⟨pc, index, rest⟩
    exact ⟨other.pc, other.index, rest, (Word.address_eq_iff _ _).mpr pc,
      (Word.address_eq_iff _ _).mpr index⟩
  · rintro ⟨pc, index, rfl, samePc, sameIndex⟩
    exact ⟨(Word.address_eq_iff _ _).mp samePc, (Word.address_eq_iff _ _).mp sameIndex, rfl⟩

namespace Aliases

variable {machine other : Machine} (aliases : machine.Aliases other)

include aliases

theorem fetch_eq : other.fetch = machine.fetch := by
  obtain ⟨pc, index, rfl, samePc, -⟩ := aliases_iff.mp aliases
  simp only [fetch, relocate, samePc]

theorem instruction?_eq : other.instruction? = machine.instruction? := by
  rw [instruction?, instruction?, aliases.fetch_eq]

theorem faulted_eq : other.faulted = machine.faulted := by
  rw [aliases.rest]
  rfl

theorem step
    (unflagged : (∀ x, machine.instruction? ≠ some (.addIndex x)) ∨
      machine.index = other.index) : machine.step.Aliases other.step := by
  have same := aliases.instruction?_eq
  have word := aliases.fetch_eq
  obtain ⟨pc, index, rfl, samePc, sameIndex⟩ := aliases_iff.mp aliases
  apply aliases_iff.mpr
  cases fetched : machine.instruction? with
  | none =>
      rw [step_of_none fetched, step_of_none (same.trans fetched), word]
      exact ⟨pc, index, rfl, samePc, sameIndex⟩
  | some instruction =>
      rw [step_of_some fetched, step_of_some (same.trans fetched)]
      have unflagged : (∀ x, instruction ≠ .addIndex x) ∨ machine.index = index := by
        apply unflagged.imp_left
        rintro absent x rfl
        exact absent x fetched
      have performed :=
        machine.clearReports.perform_relocate instruction samePc sameIndex unflagged
      exact ⟨_, _, congrArg tickTimers performed,
        machine.clearReports.address_pc_perform_relocate instruction samePc,
        machine.clearReports.address_index_perform_relocate instruction sameIndex⟩

theorem index_step (sameIndex : machine.index = other.index) :
    machine.step.index = other.step.index := by
  have same := aliases.instruction?_eq
  obtain ⟨pc, index, rfl, -, -⟩ := aliases_iff.mp aliases
  obtain rfl : machine.index = index := sameIndex
  cases fetched : machine.instruction? with
  | none =>
      rw [step_of_none fetched, step_of_none (same.trans fetched)]
      rfl
  | some instruction =>
      rw [step_of_some fetched, step_of_some (same.trans fetched)]
      exact (machine.clearReports.index_perform_relocate instruction).symm

theorem step_addIndex {x : Nibble} (fetched : machine.instruction? = some (.addIndex x)) :
    ∃ flag, (machine.step.setRegister Registers.flag flag).Aliases other.step := by
  have same := aliases.instruction?_eq
  obtain ⟨pc, index, rfl, samePc, sameIndex⟩ := aliases_iff.mp aliases
  rw [step_of_some fetched, step_of_some (same.trans fetched)]
  obtain ⟨flag, performed⟩ := machine.clearReports.perform_addIndex_relocate x
  exact ⟨flag, aliases_iff.mpr ⟨_, _, congrArg tickTimers performed,
    machine.clearReports.address_pc_perform_relocate (.addIndex x) samePc,
    machine.clearReports.address_index_perform_relocate (.addIndex x) sameIndex⟩⟩

/-! ## Runs -/

theorem run {cycles : Nat}
    (unflagged : ∀ cycle < cycles, ∀ x,
      (machine.run cycle).instruction? ≠ some (.addIndex x)) :
    (machine.run cycles).Aliases (other.run cycles) := by
  induction cycles with
  | zero => exact aliases
  | succ cycles inductionHypothesis =>
      have earlier := inductionHypothesis fun cycle bound => unflagged cycle (by omega)
      rw [run_succ_last, run_succ_last]
      exact earlier.step (.inl (unflagged cycles (by omega)))

theorem run_of_index_eq (sameIndex : machine.index = other.index) (cycles : Nat) :
    (machine.run cycles).Aliases (other.run cycles) ∧
      (machine.run cycles).index = (other.run cycles).index := by
  induction cycles with
  | zero => exact ⟨aliases, sameIndex⟩
  | succ cycles inductionHypothesis =>
      obtain ⟨earlier, same⟩ := inductionHypothesis
      rw [run_succ_last, run_succ_last]
      exact ⟨earlier.step (.inr same), earlier.index_step same⟩

end Aliases

/-- Machines that differ beyond the addresses alone go on to do so, fetch the same
words and fault together, until a word adds to the index; what that word can tell
apart is its flag. If the indices are equal they stay equal, and nothing tells the
machines apart. -/
theorem run_of_aliases (machine other : Machine) (aliases : machine.Aliases other)
    (cycles : Nat) :
    ((∀ cycle < cycles, ∀ x, (machine.run cycle).instruction? ≠ some (.addIndex x)) →
        (machine.run cycles).Aliases (other.run cycles) ∧
        ∀ cycle ≤ cycles,
          (other.run cycle).fetch = (machine.run cycle).fetch ∧
          (other.run cycle).faulted = (machine.run cycle).faulted) ∧
      (machine.index = other.index →
        (machine.run cycles).Aliases (other.run cycles) ∧
        (machine.run cycles).index = (other.run cycles).index ∧
        ∀ cycle ≤ cycles,
          (other.run cycle).fetch = (machine.run cycle).fetch ∧
          (other.run cycle).faulted = (machine.run cycle).faulted) ∧
      ∀ x, machine.instruction? = some (.addIndex x) →
        ∃ flag, (machine.step.setRegister Registers.flag flag).Aliases other.step := by
  refine ⟨?_, ?_, fun x => aliases.step_addIndex⟩
  · intro unflagged
    refine ⟨aliases.run unflagged, ?_⟩
    intro cycle bound
    have related : (machine.run cycle).Aliases (other.run cycle) :=
      aliases.run fun earlier within => unflagged earlier (Nat.lt_of_lt_of_le within bound)
    exact ⟨related.fetch_eq, related.faulted_eq⟩
  · intro sameIndex
    obtain ⟨related, same⟩ := aliases.run_of_index_eq sameIndex cycles
    refine ⟨related, same, ?_⟩
    intro cycle bound
    have related := (aliases.run_of_index_eq sameIndex cycle).1
    exact ⟨related.fetch_eq, related.faulted_eq⟩

/-- Two registers are stored and drawn across the end of memory, then the index grows
by nothing. -/
def acrossTheEnd : Machine :=
  { holding [0xF1, 0x55, 0xD0, 0x12, 0xF2, 0x1E] with
    index := 0xFFF
    registers := Registers.zero.set 1 7 }

theorem acrossTheEnd_run :
    acrossTheEnd.Aliases (acrossTheEnd.relocate 0x3000 0x1FFF) ∧
      (∀ cycle < 2, ∀ x, (acrossTheEnd.run cycle).instruction? ≠ some (.addIndex x)) ∧
      ((acrossTheEnd.relocate 0x3000 0x1FFF).run 2).fetch = 0xF21E ∧
      acrossTheEnd.index = (acrossTheEnd.relocate 0x3000 0xFFF).index ∧
      ((acrossTheEnd.relocate 0x3000 0xFFF).run 3).index = 0xFFF ∧
      (acrossTheEnd.run 2).instruction? = some (.addIndex 2) ∧
      ∃ flag, ((acrossTheEnd.run 2).step.setRegister Registers.flag flag).Aliases
        ((acrossTheEnd.relocate 0x3000 0x1FFF).run 2).step := by
  have aliases : acrossTheEnd.Aliases (acrossTheEnd.relocate 0x3000 0x1FFF) :=
    ⟨rfl, rfl, rfl⟩
  have sameIndex : acrossTheEnd.Aliases (acrossTheEnd.relocate 0x3000 0xFFF) :=
    ⟨rfl, rfl, rfl⟩
  have unflagged : ∀ cycle < 2, ∀ x,
      (acrossTheEnd.run cycle).instruction? ≠ some (.addIndex x) := by
    decide +kernel
  have added : (acrossTheEnd.run 2).instruction? = some (.addIndex 2) := rfl
  obtain ⟨first, -⟩ := run_of_aliases _ _ aliases 2
  obtain ⟨-, second, -⟩ := run_of_aliases _ _ sameIndex 3
  obtain ⟨related, words⟩ := first unflagged
  obtain ⟨-, -, third⟩ := run_of_aliases _ _ related 0
  refine ⟨aliases, unflagged, ?_, rfl, ?_, added, third 2 added⟩
  · rw [(words 2 (by decide)).1]
    rfl
  · rw [← (second rfl).2.1]
    rfl

end Machine

end Chip8

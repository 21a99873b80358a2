import Chip8.Proofs.Cycle

/-!
# The forms of instruction words

`Word.Spells` lists the forms digit by digit, each with its instruction and the
operands that are read off the word. The table of legal words and the table by which
words are dispatched agree with it: a legal word is dispatched to the handler of its
form and to no other, and a word of no form only raises the fault.
-/

namespace Chip8

namespace Word

/-- The word has the form of an instruction, with the operands at their places. -/
inductive Spells (word : Word) : Instruction → Prop where
  | clearScreen : word = 0x00E0 → Spells word .clearScreen
  | leave : word = 0x00EE → Spells word .leave
  | jump : word.family = 0x1 → Spells word (.jump word.nnn)
  | call : word.family = 0x2 → Spells word (.call word.nnn)
  | skipIfByte : word.family = 0x3 → Spells word (.skipIfByte word.x word.nn)
  | skipUnlessByte : word.family = 0x4 → Spells word (.skipUnlessByte word.x word.nn)
  | skipIfSame : word.family = 0x5 → word.n = 0x0 → Spells word (.skipIfSame word.x word.y)
  | setByte : word.family = 0x6 → Spells word (.setByte word.x word.nn)
  | addByte : word.family = 0x7 → Spells word (.addByte word.x word.nn)
  | copy : word.family = 0x8 → word.n = 0x0 → Spells word (.arithmetic .copy word.x word.y)
  | or : word.family = 0x8 → word.n = 0x1 → Spells word (.arithmetic .or word.x word.y)
  | and : word.family = 0x8 → word.n = 0x2 → Spells word (.arithmetic .and word.x word.y)
  | xor : word.family = 0x8 → word.n = 0x3 → Spells word (.arithmetic .xor word.x word.y)
  | add : word.family = 0x8 → word.n = 0x4 → Spells word (.arithmetic .add word.x word.y)
  | subtract :
      word.family = 0x8 → word.n = 0x5 → Spells word (.arithmetic .subtract word.x word.y)
  | shiftRight :
      word.family = 0x8 → word.n = 0x6 → Spells word (.arithmetic .shiftRight word.x word.y)
  | subtractFrom :
      word.family = 0x8 → word.n = 0x7 → Spells word (.arithmetic .subtractFrom word.x word.y)
  | shiftLeft :
      word.family = 0x8 → word.n = 0xE → Spells word (.arithmetic .shiftLeft word.x word.y)
  | skipUnlessSame :
      word.family = 0x9 → word.n = 0x0 → Spells word (.skipUnlessSame word.x word.y)
  | setIndex : word.family = 0xA → Spells word (.setIndex word.nnn)
  | jumpOffset : word.family = 0xB → Spells word (.jumpOffset word.nnn)
  | random : word.family = 0xC → Spells word (.random word.x word.nn)
  | draw : word.family = 0xD → Spells word (.draw word.x word.y word.n)
  | skipIfKey : word.family = 0xE → word.nn = 0x9E → Spells word (.skipIfKey word.x)
  | skipUnlessKey : word.family = 0xE → word.nn = 0xA1 → Spells word (.skipUnlessKey word.x)
  | readDelay : word.family = 0xF → word.nn = 0x07 → Spells word (.readDelay word.x)
  | awaitKey : word.family = 0xF → word.nn = 0x0A → Spells word (.awaitKey word.x)
  | setDelay : word.family = 0xF → word.nn = 0x15 → Spells word (.setDelay word.x)
  | setSound : word.family = 0xF → word.nn = 0x18 → Spells word (.setSound word.x)
  | addIndex : word.family = 0xF → word.nn = 0x1E → Spells word (.addIndex word.x)
  | pointGlyph : word.family = 0xF → word.nn = 0x29 → Spells word (.pointGlyph word.x)
  | storeDigits : word.family = 0xF → word.nn = 0x33 → Spells word (.storeDigits word.x)
  | storeRegisters : word.family = 0xF → word.nn = 0x55 → Spells word (.storeRegisters word.x)
  | loadRegisters : word.family = 0xF → word.nn = 0x65 → Spells word (.loadRegisters word.x)

variable {word : Word} {instruction : Instruction}

theorem Spells.encode_eq (spelled : word.Spells instruction) : instruction.encode = word := by
  -- Each layout is put together again from what the form fixes and the operands.
  cases spelled with
  | clearScreen same | leave same => exact same.symm
  | jump family | call family | setIndex family | jumpOffset family =>
      exact withAddress_of_family family
  | skipIfByte family | skipUnlessByte family | setByte family | addByte family
  | random family =>
      exact withByte_of_family family
  | draw family => exact withNibbles_of_family family
  | skipIfSame family last | copy family last | or family last | and family last
  | xor family last | add family last | subtract family last | shiftRight family last
  | subtractFrom family last | shiftLeft family last | skipUnlessSame family last =>
      have nibbles := withNibbles_of_family family
      rw [last] at nibbles
      exact nibbles
  | skipIfKey family low | skipUnlessKey family low | readDelay family low
  | awaitKey family low | setDelay family low | setSound family low | addIndex family low
  | pointGlyph family low | storeDigits family low | storeRegisters family low
  | loadRegisters family low =>
      have byte := withByte_of_family family
      rw [low] at byte
      exact byte

theorem spells_encode (instruction : Instruction) : instruction.encode.Spells instruction := by
  cases instruction with
  | clearScreen => exact .clearScreen rfl
  | leave => exact .leave rfl
  | jump target =>
      simpa [Instruction.encode] using Spells.jump (family_withAddress 0x1 target)
  | call target =>
      simpa [Instruction.encode] using Spells.call (family_withAddress 0x2 target)
  | skipIfByte x byte =>
      simpa [Instruction.encode] using Spells.skipIfByte (family_withByte 0x3 x byte)
  | skipUnlessByte x byte =>
      simpa [Instruction.encode] using Spells.skipUnlessByte (family_withByte 0x4 x byte)
  | skipIfSame x y =>
      simpa [Instruction.encode] using
        Spells.skipIfSame (family_withNibbles 0x5 x y 0x0) (n_withNibbles 0x5 x y 0x0)
  | setByte x byte =>
      simpa [Instruction.encode] using Spells.setByte (family_withByte 0x6 x byte)
  | addByte x byte =>
      simpa [Instruction.encode] using Spells.addByte (family_withByte 0x7 x byte)
  | arithmetic op x y =>
      have family := family_withNibbles 0x8 x y op.code
      have last := n_withNibbles 0x8 x y op.code
      cases op with
      | copy => simpa [Instruction.encode] using Spells.copy family last
      | or => simpa [Instruction.encode] using Spells.or family last
      | and => simpa [Instruction.encode] using Spells.and family last
      | xor => simpa [Instruction.encode] using Spells.xor family last
      | add => simpa [Instruction.encode] using Spells.add family last
      | subtract => simpa [Instruction.encode] using Spells.subtract family last
      | shiftRight => simpa [Instruction.encode] using Spells.shiftRight family last
      | subtractFrom => simpa [Instruction.encode] using Spells.subtractFrom family last
      | shiftLeft => simpa [Instruction.encode] using Spells.shiftLeft family last
  | skipUnlessSame x y =>
      simpa [Instruction.encode] using
        Spells.skipUnlessSame (family_withNibbles 0x9 x y 0x0) (n_withNibbles 0x9 x y 0x0)
  | setIndex target =>
      simpa [Instruction.encode] using Spells.setIndex (family_withAddress 0xA target)
  | jumpOffset base =>
      simpa [Instruction.encode] using Spells.jumpOffset (family_withAddress 0xB base)
  | random x mask =>
      simpa [Instruction.encode] using Spells.random (family_withByte 0xC x mask)
  | draw x y height =>
      simpa [Instruction.encode] using Spells.draw (family_withNibbles 0xD x y height)
  | skipIfKey x =>
      simpa [Instruction.encode] using
        Spells.skipIfKey (family_withByte 0xE x 0x9E) (nn_withByte 0xE x 0x9E)
  | skipUnlessKey x =>
      simpa [Instruction.encode] using
        Spells.skipUnlessKey (family_withByte 0xE x 0xA1) (nn_withByte 0xE x 0xA1)
  | readDelay x =>
      simpa [Instruction.encode] using
        Spells.readDelay (family_withByte 0xF x 0x07) (nn_withByte 0xF x 0x07)
  | awaitKey x =>
      simpa [Instruction.encode] using
        Spells.awaitKey (family_withByte 0xF x 0x0A) (nn_withByte 0xF x 0x0A)
  | setDelay x =>
      simpa [Instruction.encode] using
        Spells.setDelay (family_withByte 0xF x 0x15) (nn_withByte 0xF x 0x15)
  | setSound x =>
      simpa [Instruction.encode] using
        Spells.setSound (family_withByte 0xF x 0x18) (nn_withByte 0xF x 0x18)
  | addIndex x =>
      simpa [Instruction.encode] using
        Spells.addIndex (family_withByte 0xF x 0x1E) (nn_withByte 0xF x 0x1E)
  | pointGlyph x =>
      simpa [Instruction.encode] using
        Spells.pointGlyph (family_withByte 0xF x 0x29) (nn_withByte 0xF x 0x29)
  | storeDigits x =>
      simpa [Instruction.encode] using
        Spells.storeDigits (family_withByte 0xF x 0x33) (nn_withByte 0xF x 0x33)
  | storeRegisters x =>
      simpa [Instruction.encode] using
        Spells.storeRegisters (family_withByte 0xF x 0x55) (nn_withByte 0xF x 0x55)
  | loadRegisters x =>
      simpa [Instruction.encode] using
        Spells.loadRegisters (family_withByte 0xF x 0x65) (nn_withByte 0xF x 0x65)

theorem spells_iff : word.Spells instruction ↔ Instruction.decode word = some instruction := by
  rw [Instruction.decode_eq_some_iff]
  constructor
  · exact Spells.encode_eq
  · rintro rfl
    exact spells_encode instruction

/-- The two tables together lead a word to an instruction exactly if it spells it. -/
theorem legal_and_dispatch_iff :
    word.isLegal = true ∧ Instruction.dispatch word = instruction ↔ word.Spells instruction := by
  rw [spells_iff, Instruction.decode, Option.ite_none_right_eq_some, Option.some.injEq]

theorem isLegal_iff : word.isLegal = true ↔ ∃ instruction, word.Spells instruction := by
  simp only [← legal_and_dispatch_iff, exists_and_left, exists_eq', and_true]

theorem Spells.unique {other : Instruction} (spelled : word.Spells instruction)
    (spelledToo : word.Spells other) : other = instruction :=
  Option.some.inj ((spells_iff.mp spelledToo).symm.trans (spells_iff.mp spelled))

/-- A word has the form of the instruction that it is dispatched to, where that is one
that words without a form are dispatched to as well. -/
structure FallsBackByForm (word : Word) : Prop where
  leave : Instruction.dispatch word = .leave → word = 0x00EE
  copy : ∀ x y, Instruction.dispatch word = .arithmetic .copy x y → word.n = 0x0
  skipIfKey : ∀ x, Instruction.dispatch word = .skipIfKey x → word.nn = 0x9E
  readDelay : ∀ x, Instruction.dispatch word = .readDelay x → word.nn = 0x07

theorem fallsBackByForm_of_legal (legal : word.isLegal = true) : word.FallsBackByForm where
  leave dispatched := by
    cases legal_and_dispatch_iff.mp ⟨legal, dispatched⟩ with
    | leave same => exact same
  copy x y dispatched := by
    cases legal_and_dispatch_iff.mp ⟨legal, dispatched⟩ with
    | copy family last => exact last
  skipIfKey x dispatched := by
    cases legal_and_dispatch_iff.mp ⟨legal, dispatched⟩ with
    | skipIfKey family low => exact low
  readDelay x dispatched := by
    cases legal_and_dispatch_iff.mp ⟨legal, dispatched⟩ with
    | readDelay family low => exact low

end Word

namespace Machine

section Execute

variable {machine : Machine} {word : Word} {instruction : Instruction}

theorem execute_of_spells (spelled : word.Spells instruction) :
    machine.execute word = machine.perform instruction :=
  execute_of_some (Word.spells_iff.mp spelled)

theorem execute_of_unspelled (unspelled : ∀ instruction, ¬word.Spells instruction) :
    machine.execute word = { machine with faulted := true, illegalOpcode := word } := by
  cases found : Instruction.decode word with
  | none => exact execute_of_none found
  | some instruction => exact absurd (Word.spells_iff.mpr found) (unspelled instruction)

/-- Only a word of no form faults a machine that was sound. -/
theorem faulted_execute_iff (sound : machine.faulted = false) :
    (machine.execute word).faulted = true ↔ ∀ instruction, ¬word.Spells instruction := by
  constructor
  · intro faulted instruction spelled
    rw [execute_of_spells spelled, faulted_perform, sound] at faulted
    contradiction
  · intro unspelled
    rw [execute_of_unspelled unspelled]

end Execute

/-- The table of legal words and the table of handlers lead a word to an instruction
exactly if the word has its form, so no legal word is among those that a table falls back
on. The handler of that instruction, which is the only one the word spells, carries the
word out, the program counter then moves on as the handler says, and the fault fields
stay. A word of no form sets the fault fields and nothing else, so the words of no form
are the ones that fault. -/
theorem execute_by_form (machine : Machine) (word : Word) :
    (∀ instruction, word.isLegal = true ∧ Instruction.dispatch word = instruction ↔
        word.Spells instruction) ∧
      (word.isLegal = true → word.FallsBackByForm) ∧
      (∀ instruction, word.Spells instruction →
        machine.execute word =
            { (machine.handle instruction).1 with
              pc := (machine.handle instruction).1.pc + (machine.handle instruction).2 } ∧
          (machine.execute word).faulted = machine.faulted ∧
          (machine.execute word).illegalOpcode = machine.illegalOpcode ∧
          ∀ other, word.Spells other → other = instruction) ∧
      ((∀ instruction, ¬word.Spells instruction) →
        machine.execute word = { machine with faulted := true, illegalOpcode := word }) ∧
      (machine.faulted = false →
        ((machine.execute word).faulted = true ↔ ∀ instruction, ¬word.Spells instruction)) ∧
      (word.isLegal = true ↔ ∃ instruction, word.Spells instruction) := by
  refine ⟨fun _ => Word.legal_and_dispatch_iff, Word.fallsBackByForm_of_legal, ?_,
    execute_of_unspelled, faulted_execute_iff, Word.isLegal_iff⟩
  intro instruction spelled
  rw [execute_of_spells spelled]
  exact ⟨rfl, faulted_perform _ _, illegalOpcode_perform _ _, fun _ => spelled.unique⟩

/-- A machine with a key down and the flag register in use. -/
def keyedMachine : Machine :=
  { holding [] with
    pc := 0xFFFE
    keypad := Keypad.allUp.set 0xC true
    registers := Registers.zero.set 0xF 0x1C }

/-- A word that asks for a key, and one that is dispatched in the same way and faults. -/
theorem keyedMachine_execute :
    (Word.Spells 0xEF9E (.skipIfKey 0xF) ∧ (keyedMachine.execute 0xEF9E).pc = 2) ∧
      Instruction.dispatch 0xEFA0 = .skipIfKey 0xF ∧
      (∀ instruction, ¬Word.Spells 0xEFA0 instruction) ∧
      keyedMachine.execute 0xEFA0 =
        { keyedMachine with faulted := true, illegalOpcode := 0xEFA0 } ∧
      keyedMachine.faulted = false ∧ (keyedMachine.execute 0xEFA0).faulted = true ∧
      Word.isLegal 0xEF9E = true ∧ Word.FallsBackByForm 0xEF9E := by
  have spelled : Word.Spells 0xEF9E (.skipIfKey 0xF) := .skipIfKey (by decide) (by decide)
  have unspelled (instruction : Instruction) : ¬Word.Spells 0xEFA0 instruction := by
    rw [Word.spells_iff, show Instruction.decode 0xEFA0 = none by decide]
    simp
  have legal : Word.isLegal 0xEF9E = true := by decide
  obtain ⟨-, fallsBack, carried, -⟩ := execute_by_form keyedMachine 0xEF9E
  obtain ⟨-, -, -, refused, faults, -⟩ := execute_by_form keyedMachine 0xEFA0
  refine ⟨⟨spelled, ?_⟩, by decide, unspelled, refused unspelled, rfl,
    (faults rfl).mpr unspelled, legal, fallsBack legal⟩
  rw [(carried _ spelled).1]
  rfl

end Machine

end Chip8

import Chip8.Proofs.Cycle

/-!
# Loading a program

A load puts the font and the program into a blank memory and starts all else afresh, so
nothing of an earlier program is left. A program that was put together from words, high
byte first, gives back each word at the program counters that point to its place.
-/

namespace Chip8

/-! ## Words as bytes -/

namespace Word

/-- The first of the two bytes of a word; the second is `nn`. -/
def highByte (word : Word) : Byte := word.extractLsb' 8 8

theorem highByte_append_nn (word : Word) : word.highByte ++ word.nn = word := by
  change (BitVec.extractLsb' 8 8 word ++ BitVec.extractLsb' 0 8 word : BitVec (8 + 8)) = word
  rw [BitVec.extractLsb'_append_extractLsb'_eq_extractLsb' (by rfl)]
  simp

end Word

/-- The program that words make, high byte first. -/
def assemble : List Word → List Byte
  | [] => []
  | word :: rest => word.highByte :: word.nn :: assemble rest

theorem length_assemble (words : List Word) : (assemble words).length = 2 * words.length := by
  induction words with
  | nil => rfl
  | cons word rest inductionHypothesis =>
      rw [assemble, List.length_cons, List.length_cons, inductionHypothesis, List.length_cons]
      omega

theorem getElem?_assemble {words : List Word} {place : Nat} {word : Word}
    (found : words[place]? = some word) :
    (assemble words)[2 * place]? = some word.highByte ∧
      (assemble words)[2 * place + 1]? = some word.nn := by
  induction words generalizing place with
  | nil => simp at found
  | cons first rest inductionHypothesis =>
      cases place with
      | zero =>
          obtain rfl : first = word := by simpa using found
          exact ⟨rfl, rfl⟩
      | succ place =>
          rw [List.getElem?_cons_succ] at found
          exact inductionHypothesis found

/-! ## Memory after a load -/

namespace Memory

/-- The font at the start, the program at its place and nothing else. -/
structure Holds (memory : Memory) (program : List Byte) : Prop where
  font : ∀ place < 0x50, Font.bytes[place]? = some (memory.read (BitVec.ofNat 12 place))
  code : ∀ offset byte, program[offset]? = some byte →
    memory.read (BitVec.ofNat 12 (0x200 + offset)) = byte
  blank : ∀ address : Address, 0x50 ≤ address.toNat →
    address.toNat < 0x200 ∨ 0x200 + program.length ≤ address.toNat → memory.read address = 0

/-- Memory with the font and a program in it. -/
def loaded (program : List Byte) : Memory := Font.memory.writeBlock programStart program

theorem read_font (address : Address) :
    Font.memory.read address = (Font.bytes[address.toNat]?).getD 0 := by
  rw [Font.memory, read_writeBlock _ _ _ _ (by decide), Font.start, read_zero]
  simp

theorem read_font_of_past {address : Address} (past : 0x50 ≤ address.toNat) :
    Font.memory.read address = 0 := by
  rw [read_font, List.getElem?_eq_none (by simpa [Font.bytes] using past), Option.getD_none]

section Loaded

variable {program : List Byte} (fits : program.length ≤ 3584) {address : Address}

include fits

/-- Below the start of programs nothing is overwritten, since a program that fits does
not come around. -/
theorem read_loaded_below (below : address.toNat < 0x200) :
    (loaded program).read address = Font.memory.read address := by
  have distance : (address - programStart).toNat = 3584 + address.toNat := by
    rw [BitVec.toNat_sub, show programStart.toNat = 0x200 from rfl]
    omega
  rw [loaded, read_writeBlock _ _ _ _ (by omega), distance, List.getElem?_eq_none (by omega),
    Option.getD_none]

theorem read_loaded_above (above : 0x200 ≤ address.toNat) :
    (loaded program).read address = (program[address.toNat - 0x200]?).getD 0 := by
  have bound := address.isLt
  have distance : (address - programStart).toNat = address.toNat - 0x200 := by
    rw [BitVec.toNat_sub, show programStart.toNat = 0x200 from rfl]
    omega
  rw [loaded, read_writeBlock _ _ _ _ (by omega), distance, read_font_of_past (by omega)]

theorem holds_loaded : (loaded program).Holds program where
  font place bound := by
    have number : (BitVec.ofNat 12 place).toNat = place := by
      rw [BitVec.toNat_ofNat]
      omega
    have stored : place < Font.bytes.length := bound
    rw [read_loaded_below fits (by omega), read_font, number,
      List.getElem?_eq_getElem stored, Option.getD_some]
  code offset byte stored := by
    have bound : offset < program.length := (List.getElem?_eq_some_iff.mp stored).1
    have number : (BitVec.ofNat 12 (0x200 + offset)).toNat = 0x200 + offset := by
      rw [BitVec.toNat_ofNat]
      omega
    rw [read_loaded_above fits (by omega), number, Nat.add_sub_cancel_left, stored,
      Option.getD_some]
  blank address past outside := by
    rcases Nat.lt_or_ge address.toNat 0x200 with below | above
    · rw [read_loaded_below fits below, read_font_of_past past]
    · have beyond : program.length ≤ address.toNat - 0x200 := by omega
      rw [read_loaded_above fits above, List.getElem?_eq_none beyond, Option.getD_none]

end Loaded

/-- Where memory holds words, each is read back at its place. -/
theorem readWord_of_holds {memory : Memory} {words : List Word} {place : Nat} {word : Word}
    {address : Address} (held : memory.Holds (assemble words))
    (found : words[place]? = some word) (pointed : address.toNat = 0x200 + 2 * place) :
    memory.readWord address = word := by
  obtain ⟨high, low⟩ := getElem?_assemble found
  have first : BitVec.ofNat 12 (0x200 + 2 * place) = address := by
    rw [← pointed, BitVec.ofNat_toNat, BitVec.setWidth_eq]
  have second : BitVec.ofNat 12 (0x200 + (2 * place + 1)) = address + 1 := by
    rw [← Nat.add_assoc, BitVec.ofNat_add, first]
    rfl
  have highRead := held.code _ _ high
  have lowRead := held.code _ _ low
  rw [first] at highRead
  rw [second] at lowRead
  rw [readWord, highRead, lowRead, word.highByte_append_nn]

end Memory

namespace Machine

/-- The machine as it is switched on with a memory: it keeps its generator and its two
choices and nothing else. -/
def switchedOn (machine : Machine) (memory : Memory) : Machine where
  key := machine.key
  dialect := machine.dialect
  wrapMode := machine.wrapMode
  memory
  pc := 0x200
  screen := .dark
  stack := .empty
  delayTimer := 0
  soundTimer := 0
  keypad := .allUp
  registers := .zero
  index := 0
  redraw := false
  powered := true
  faulted := false
  illegalOpcode := 0

theorem load?_of_fits (machine : Machine) {program : List Byte}
    (fits : program.length ≤ 3584) :
    machine.load? program = .ok (machine.switchedOn (.loaded program)) := by
  rw [load?, if_pos (show program.length ≤ Memory.programCapacity from fits)]
  rfl

theorem load?_of_overrun (machine : Machine) {program : List Byte}
    (overrun : 3584 < program.length) : machine.load? program = .error .programOverrun := by
  rw [load?, if_neg (Nat.not_le.mpr (show Memory.programCapacity < program.length from overrun))]

/-- A program that fits is loaded into a memory that holds the font, the program and
nothing else, whatever the machine was before; a longer one is refused. Where the program
was put together from words, the machine fetches each of them at the program counters
that point to it, the upper four bits of which do not count. -/
theorem load_and_fetch :
    (∀ program : List Byte, program.length ≤ 3584 →
        ∃ memory : Memory, memory.Holds program ∧
          ∀ machine : Machine, machine.load? program = .ok (machine.switchedOn memory)) ∧
      (∀ (machine : Machine) (words : List Word), words.length ≤ 1792 →
        ∃ loaded, machine.load? (assemble words) = .ok loaded ∧
          ∀ place word, words[place]? = some word →
            ∀ pc : Word, pc.toNat % 4096 = 0x200 + 2 * place →
              { loaded with pc }.fetch = word) ∧
      ∀ (machine : Machine) (program : List Byte), 3584 < program.length →
        machine.load? program = .error .programOverrun := by
  refine ⟨?_, ?_, fun machine program overrun => machine.load?_of_overrun overrun⟩
  · intro program fits
    exact ⟨.loaded program, Memory.holds_loaded fits, fun machine => machine.load?_of_fits fits⟩
  · intro machine words bound
    have fits : (assemble words).length ≤ 3584 := by
      rw [length_assemble]
      omega
    refine ⟨_, machine.load?_of_fits fits, ?_⟩
    intro place word found pc pointed
    have address : pc.address.toNat = 0x200 + 2 * place := by
      rw [← pointed]
      exact BitVec.toNat_setWidth 12 pc
    exact Memory.readWord_of_holds (Memory.holds_loaded fits) found address

/-- As many words as fit, the last of which ends at the last cell of memory. -/
def fullProgram : List Word := List.replicate 1792 0x12AB

theorem fullProgram_fetch :
    (∃ memory : Memory, memory.read 0x200 = 0x12 ∧ memory.read 0xFFF = 0xAB ∧
        (holding []).load? (assemble fullProgram) = .ok ((holding []).switchedOn memory)) ∧
      (fullProgram.length ≤ 1792 ∧ fullProgram[1791]? = some 0x12AB ∧
        ∃ loaded, (holding []).load? (assemble fullProgram) = .ok loaded ∧
          { loaded with pc := 0xFFFE }.fetch = 0x12AB) ∧
      (holding []).load? (List.replicate 3585 0) = .error .programOverrun := by
  obtain ⟨loads, fetches, refuses⟩ := load_and_fetch
  have most : fullProgram.length ≤ 1792 := Nat.le_of_eq List.length_replicate
  have first : fullProgram[0]? = some 0x12AB := List.getElem?_replicate_of_lt (by decide)
  have last : fullProgram[1791]? = some 0x12AB := List.getElem?_replicate_of_lt (by decide)
  have fits : (assemble fullProgram).length ≤ 3584 := by
    rw [length_assemble]
    omega
  obtain ⟨memory, held, switched⟩ := loads (assemble fullProgram) fits
  obtain ⟨loaded, accepted, fetched⟩ := fetches (holding []) fullProgram most
  refine ⟨⟨memory, ?_, ?_, switched (holding [])⟩, ⟨most, last, loaded, accepted, ?_⟩, ?_⟩
  · exact held.code 0 _ (getElem?_assemble first).1
  · exact held.code 3583 _ (getElem?_assemble last).2
  · exact fetched 1791 _ last 0xFFFE rfl
  · exact refuses (holding []) _ (Nat.lt_of_lt_of_eq (by decide) List.length_replicate.symm)

end Machine

end Chip8

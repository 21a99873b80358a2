import Chip8.Proofs.Calculation
import Chip8.Proofs.Changes
import Chip8.Proofs.Matching

/-!
# Where the program counter goes

After an instruction the program counter is at a target, past one or two instructions
or, while no key is down, where it was. `Machine.Goes` says which, by the digits of the
word and what registers, keys and stack hold before. Targets are addresses and so are all
that a machine ever has on its stack, so a return never leaves memory.
-/

namespace Chip8

theorem Keypad.anyDown_iff (keypad : Keypad) :
    keypad.anyDown = true ↔ ∃ key, keypad.isDown key = true := by
  unfold anyDown
  rw [List.any_eq_true]
  constructor
  · rintro ⟨down, listed, held⟩
    rw [Vector.mem_toList_iff, Vector.mem_iff_getElem] at listed
    obtain ⟨place, bound, rfl⟩ := listed
    exact ⟨BitVec.ofNatLT place bound, held⟩
  · rintro ⟨key, held⟩
    refine ⟨keypad.isDown key, ?_, held⟩
    rw [Vector.mem_toList_iff]
    exact Vector.getElem_mem key.toNat_lt

namespace Machine

/-! ## Conditions -/

/-- The key that a register names, by the lowest four of its bits. -/
def namedKey (machine : Machine) (x : Nibble) : Nibble := BitVec.ofNat 4 (machine.value x % 16)

/-- The word is a skip, and its condition holds. -/
inductive Skips (machine : Machine) (word : Word) : Prop where
  | sameByte :
      word.family = 0x3 → machine.value word.x = word.nn.toNat → Skips machine word
  | otherByte :
      word.family = 0x4 → machine.value word.x ≠ word.nn.toNat → Skips machine word
  | same :
      word.family = 0x5 → word.n = 0x0 → machine.value word.x = machine.value word.y →
      Skips machine word
  | other :
      word.family = 0x9 → word.n = 0x0 → machine.value word.x ≠ machine.value word.y →
      Skips machine word
  | keyDown :
      word.family = 0xE → word.nn = 0x9E →
      machine.keypad.isDown (machine.namedKey word.x) = true → Skips machine word
  | keyUp :
      word.family = 0xE → word.nn = 0xA1 →
      machine.keypad.isDown (machine.namedKey word.x) = false → Skips machine word

/-- The word waits for a key, and none is down. -/
def Waits (machine : Machine) (word : Word) : Prop :=
  word.IsMisc 0x0A ∧ ∀ key, machine.keypad.isDown key = false

section Conditions

variable (machine : Machine) (x : Nibble) (byte : Byte)

theorem get_beq_iff :
    (machine.registers.get x == byte) = true ↔ machine.value x = byte.toNat := by
  rw [beq_iff_eq, value, BitVec.toNat_inj]

theorem get_bne_iff :
    (machine.registers.get x != byte) = true ↔ machine.value x ≠ byte.toNat := by
  rw [bne_iff_ne, value, Ne, Ne, BitVec.toNat_inj]

theorem namedKeyDown_eq :
    machine.namedKeyDown x = machine.keypad.isDown (machine.namedKey x) := by
  have same : (machine.registers.get x).setWidth 4 = machine.namedKey x := by
    apply BitVec.eq_of_toNat_eq
    simp [namedKey, value]
  rw [namedKeyDown, same]

theorem not_namedKeyDown_iff :
    (!machine.namedKeyDown x) = true ↔
      machine.keypad.isDown (machine.namedKey x) = false := by
  rw [namedKeyDown_eq, Bool.not_eq_true']

end Conditions

theorem add_stay (word : Word) : word + stay = word := BitVec.add_zero word

theorem pc_skipOver_of_true {machine : Machine} {condition : Bool} (holds : condition = true) :
    (machine.advance (skipOver condition)).pc = machine.pc + skip := by
  rw [holds]
  rfl

theorem pc_skipOver_of_unskipped {machine : Machine} {word : Word} {condition : Bool}
    (unskipped : ¬machine.Skips word) (means : condition = true → machine.Skips word) :
    (machine.advance (skipOver condition)).pc = machine.pc + next := by
  cases condition with
  | false => rfl
  | true => exact absurd (means rfl) unskipped

/-! ## The program counter after an instruction -/

/-- Where the program counter is after a word. The cases of `next` are those that are left
over by the others. -/
structure Goes (machine : Machine) (word : Word) (counter : Nat) : Prop where
  jump : word.family = 0x1 ∨ word.family = 0x2 → counter = word.nnn.toNat
  offset : word.family = 0xB → counter = (word.nnn.toNat + machine.value 0) % 4096
  leave : word = 0x00EE →
    counter = (machine.stack.read (CallStack.slot (machine.stack.pointer - 1))).toNat
  skip : machine.Skips word → counter = (machine.pc.toNat + 4) % 65536
  wait : machine.Waits word → counter = machine.pc.toNat
  next :
    ¬(word.family = 0x1 ∨ word.family = 0x2) → word.family ≠ 0xB → word ≠ 0x00EE →
    ¬machine.Skips word → ¬machine.Waits word → counter = (machine.pc.toNat + 2) % 65536

section Perform

variable (machine : Machine) (target : Address)

theorem pc_perform_jump :
    (machine.perform (.jump target)).pc.toNat = target.toNat ∧
      (machine.perform (.call target)).pc.toNat = target.toNat := by
  have widened : (target.setWidth 16 + stay).toNat = target.toNat := by
    rw [add_stay, BitVec.toNat_setWidth_of_le (by decide)]
  exact ⟨widened, widened⟩

theorem pc_perform_jumpOffset :
    (machine.perform (.jumpOffset target)).pc.toNat =
      (target.toNat + machine.value 0) % 4096 := by
  have moved : (machine.perform (.jumpOffset target)).pc =
      (target + (machine.registers.get 0).setWidth 12).setWidth 16 :=
    add_stay _
  rw [moved, BitVec.toNat_setWidth_of_le (by decide), BitVec.toNat_add,
    BitVec.toNat_setWidth_of_le (by decide)]
  rfl

end Perform

section Execute

variable {machine : Machine} {word : Word}

theorem pc_of_skips (skips : machine.Skips word) :
    (machine.execute word).pc = machine.pc + skip := by
  cases skips with
  | sameByte family equal =>
      rw [execute_of_spells (.skipIfByte family)]
      exact pc_skipOver_of_true ((get_beq_iff _ _ _).mpr equal)
  | otherByte family apart =>
      rw [execute_of_spells (.skipUnlessByte family)]
      exact pc_skipOver_of_true ((get_bne_iff _ _ _).mpr apart)
  | same family last equal =>
      rw [execute_of_spells (.skipIfSame family last)]
      exact pc_skipOver_of_true ((get_beq_iff _ _ _).mpr equal)
  | other family last apart =>
      rw [execute_of_spells (.skipUnlessSame family last)]
      exact pc_skipOver_of_true ((get_bne_iff _ _ _).mpr apart)
  | keyDown family low down =>
      rw [execute_of_spells (.skipIfKey family low)]
      exact pc_skipOver_of_true ((namedKeyDown_eq _ _).trans down)
  | keyUp family low up =>
      rw [execute_of_spells (.skipUnlessKey family low)]
      exact pc_skipOver_of_true ((not_namedKeyDown_iff _ _).mpr up)

theorem pc_of_waits (waits : machine.Waits word) : (machine.execute word).pc = machine.pc := by
  rcases waits with ⟨⟨family, low⟩, up⟩
  have none : ¬machine.keypad.anyDown = true := by
    rw [Keypad.anyDown_iff]
    rintro ⟨key, down⟩
    rw [up key] at down
    contradiction
  rw [execute_of_spells (.awaitKey family low), pc_perform_awaitKey, if_neg none, add_stay]

theorem pc_of_next {instruction : Instruction} (spelled : word.Spells instruction)
    (straight : ¬(word.family = 0x1 ∨ word.family = 0x2)) (absolute : word.family ≠ 0xB)
    (inside : word ≠ 0x00EE) (unskipped : ¬machine.Skips word)
    (awake : ¬machine.Waits word) : (machine.perform instruction).pc = machine.pc + next := by
  cases spelled with
  | jump family => exact absurd (.inl family) straight
  | call family => exact absurd (.inr family) straight
  | jumpOffset family => exact absurd family absolute
  | leave same => exact absurd same inside
  | skipIfByte family =>
      apply pc_skipOver_of_unskipped unskipped
      intro holds
      exact .sameByte family ((get_beq_iff _ _ _).mp holds)
  | skipUnlessByte family =>
      apply pc_skipOver_of_unskipped unskipped
      intro holds
      exact .otherByte family ((get_bne_iff _ _ _).mp holds)
  | skipIfSame family last =>
      apply pc_skipOver_of_unskipped unskipped
      intro holds
      exact .same family last ((get_beq_iff _ _ _).mp holds)
  | skipUnlessSame family last =>
      apply pc_skipOver_of_unskipped unskipped
      intro holds
      exact .other family last ((get_bne_iff _ _ _).mp holds)
  | skipIfKey family low =>
      apply pc_skipOver_of_unskipped unskipped
      intro holds
      exact .keyDown family low ((namedKeyDown_eq _ _).symm.trans holds)
  | skipUnlessKey family low =>
      apply pc_skipOver_of_unskipped unskipped
      intro holds
      exact .keyUp family low ((not_namedKeyDown_iff _ _).mp holds)
  | awaitKey family low =>
      have down : machine.keypad.anyDown = true := by
        apply Classical.byContradiction
        intro none
        refine awake ⟨⟨family, low⟩, ?_⟩
        intro key
        rw [Bool.eq_false_iff]
        intro down
        exact none (machine.keypad.anyDown_iff.mpr ⟨key, down⟩)
      rw [pc_perform_awaitKey, if_pos down]
  | _ => rfl

theorem goes_execute (legal : word.isLegal = true) :
    machine.Goes word (machine.execute word).pc.toNat where
  jump := by
    rintro (family | family)
    · rw [execute_of_spells (.jump family)]
      exact (machine.pc_perform_jump word.nnn).1
    · rw [execute_of_spells (.call family)]
      exact (machine.pc_perform_jump word.nnn).2
  offset family := by
    rw [execute_of_spells (.jumpOffset family)]
    exact machine.pc_perform_jumpOffset word.nnn
  leave same := by
    rw [execute_of_spells (.leave same), pc_perform_leave]
    rfl
  skip skips := by
    rw [pc_of_skips skips]
    exact BitVec.toNat_add machine.pc 4
  wait waits := by rw [pc_of_waits waits]
  next straight absolute inside unskipped awake := by
    rcases Word.isLegal_iff.mp legal with ⟨instruction, spelled⟩
    rw [execute_of_spells spelled,
      pc_of_next spelled straight absolute inside unskipped awake]
    exact BitVec.toNat_add machine.pc 2

end Execute

/-! ## Skips in pairs -/

/-- In the same state one of the words skips and the other does not. -/
def Opposite (machine : Machine) (first second : Word) : Prop :=
  (machine.execute first).pc = machine.pc + skip ∧
      (machine.execute second).pc = machine.pc + next ∨
    (machine.execute first).pc = machine.pc + next ∧
      (machine.execute second).pc = machine.pc + skip

theorem opposite_of_skipOver {machine : Machine} {first second : Word} {condition : Bool}
    (skipped : machine.execute first = machine.advance (skipOver condition))
    (unskipped : machine.execute second = machine.advance (skipOver !condition)) :
    machine.Opposite first second := by
  unfold Opposite
  rw [skipped, unskipped]
  cases condition with
  | false => exact .inr ⟨rfl, rfl⟩
  | true => exact .inl ⟨rfl, rfl⟩

section Pairs

variable (machine : Machine) (x y : Nibble) (byte : Byte)

theorem opposite_byte :
    machine.Opposite (.withByte 0x3 x byte) (.withByte 0x4 x byte) :=
  opposite_of_skipOver (machine.execute_encode (.skipIfByte x byte))
    (machine.execute_encode (.skipUnlessByte x byte))

theorem opposite_register :
    machine.Opposite (.withNibbles 0x5 x y 0x0) (.withNibbles 0x9 x y 0x0) :=
  opposite_of_skipOver (machine.execute_encode (.skipIfSame x y))
    (machine.execute_encode (.skipUnlessSame x y))

theorem opposite_key :
    machine.Opposite (.withByte 0xE x 0x9E) (.withByte 0xE x 0xA1) :=
  opposite_of_skipOver (machine.execute_encode (.skipIfKey x))
    (machine.execute_encode (.skipUnlessKey x))

end Pairs

/-! ## Machines since a load -/

/-- A machine that came out of a load, by cycles, words carried out by hand, changes to
the keys and resets. -/
inductive Reached : Machine → Prop where
  | loaded {machine loaded : Machine} {program : List Byte} :
      machine.load? program = .ok loaded → Reached loaded
  | stepped {machine : Machine} : Reached machine → Reached machine.step
  | executed {machine : Machine} (word : Word) :
      Reached machine → Reached (machine.execute word)
  | keyed {machine : Machine} (keypad : Keypad) :
      Reached machine → Reached { machine with keypad }
  | reset {machine : Machine} : Reached machine → Reached machine.reset

section Reached

variable {machine : Machine}

theorem bounded_perform (bounded : machine.stack.Bounded) (instruction : Instruction) :
    (machine.perform instruction).stack.Bounded := by
  rw [stack_perform]
  cases instruction with
  | call target => exact bounded.push (machine.pc + next).address
  | leave => exact bounded.pop
  | _ => exact bounded

theorem bounded_execute (bounded : machine.stack.Bounded) (word : Word) :
    (machine.execute word).stack.Bounded := by
  unfold execute
  split
  · exact bounded_perform bounded _
  · exact bounded

theorem bounded_step (bounded : machine.stack.Bounded) : machine.step.stack.Bounded := by
  have cleared : machine.clearReports.stack.Bounded := bounded
  cases fetched : machine.instruction? with
  | none =>
      rw [step_of_none fetched]
      exact bounded
  | some instruction =>
      rw [step_of_some fetched]
      exact bounded_perform cleared instruction

/-- The stack holds addresses in every machine since a load. -/
theorem Reached.bounded (reached : machine.Reached) : machine.stack.Bounded := by
  induction reached with
  | loaded accepted =>
      unfold load? at accepted
      split at accepted
      next fits =>
        cases accepted
        exact CallStack.bounded_empty
      next tooLong => contradiction
  | stepped _ inductionHypothesis => exact bounded_step inductionHypothesis
  | executed word _ inductionHypothesis => exact bounded_execute inductionHypothesis word
  | keyed _ _ inductionHypothesis => exact inductionHypothesis
  | reset => exact CallStack.bounded_empty

theorem pc_execute_leave : (machine.execute 0x00EE).pc = machine.stack.pop.2 := by
  rw [execute_of_spells (.leave rfl), pc_perform_leave]

theorem pc_step_leave (fetched : machine.fetch = 0x00EE) :
    machine.step.pc = machine.stack.pop.2 := by
  have returns : machine.instruction? = some .leave := by
    rw [instruction?, fetched]
    decide
  rw [step_of_some returns]
  exact machine.clearReports.pc_perform_leave

end Reached

/-- A legal word takes the program counter where `Goes` says, whatever the state. Skips on
opposite conditions take opposite branches. In a machine that came out of a load every
slot of the stack holds an address, and the program counter is one after every return. -/
theorem execute_goes (machine : Machine) :
    (∀ word, word.isLegal = true → machine.Goes word (machine.execute word).pc.toNat) ∧
      (∀ x byte, machine.Opposite (.withByte 0x3 x byte) (.withByte 0x4 x byte)) ∧
      (∀ x y, machine.Opposite (.withNibbles 0x5 x y 0x0) (.withNibbles 0x9 x y 0x0)) ∧
      (∀ x, machine.Opposite (.withByte 0xE x 0x9E) (.withByte 0xE x 0xA1)) ∧
      (machine.Reached →
        (∀ name, (machine.stack.read name).toNat ≤ 0xFFF) ∧
          (machine.execute 0x00EE).pc.toNat ≤ 0xFFF ∧
          (machine.fetch = 0x00EE → machine.step.pc.toNat ≤ 0xFFF)) := by
  refine ⟨fun _ => goes_execute, machine.opposite_byte, machine.opposite_register,
    machine.opposite_key, ?_⟩
  intro reached
  refine ⟨reached.bounded, ?_, ?_⟩
  · rw [pc_execute_leave]
    exact reached.bounded _
  · intro fetched
    rw [pc_step_leave fetched]
    exact reached.bounded _

/-- A loaded program that calls the return behind the call. -/
def calling : Machine :=
  { (holding []).reset with
    memory := Font.memory.writeBlock Memory.programStart [0x22, 0x02, 0x00, 0xEE]
    powered := true }

theorem step_calling :
    calling.step = { calling with stack := CallStack.empty.push 0x202, pc := 0x202 } := by
  have calls : calling.instruction? = some (.call 0x202) := by decide +kernel
  rw [step_of_some calls]
  rfl

/-- From behind the call a skip goes past the return, a wait stays and the return goes to
where the call was from, which is the return itself. -/
theorem calling_goes :
    calling.step.Reached ∧ calling.step.fetch = 0x00EE ∧
      (calling.step.execute 0x3000).pc.toNat = 0x206 ∧
      (calling.step.execute 0xF00A).pc.toNat = 0x202 ∧
      (calling.step.execute 0x00EE).pc.toNat = 0x202 ∧
      calling.step.step.pc.toNat ≤ 0xFFF := by
  have loaded : (holding []).load? [0x22, 0x02, 0x00, 0xEE] = .ok calling := rfl
  have reached : calling.step.Reached := .stepped (.loaded loaded)
  have fetched : calling.step.fetch = 0x00EE := by
    rw [step_calling]
    decide +kernel
  obtain ⟨law, -, -, -, since⟩ := execute_goes calling.step
  obtain ⟨-, -, returned⟩ := since reached
  refine ⟨reached, fetched, ?_, ?_, ?_, returned fetched⟩
  · have skips : calling.step.Skips 0x3000 := by
      rw [step_calling]
      exact .sameByte (by decide) (by decide)
    rw [(law 0x3000 (by decide)).skip skips, step_calling]
    rfl
  · have waits : calling.step.Waits 0xF00A := by
      rw [step_calling]
      exact ⟨⟨by decide, by decide⟩, Keypad.isDown_allUp⟩
    rw [(law 0xF00A (by decide)).wait waits, step_calling]
    rfl
  · rw [(law 0x00EE (by decide)).leave rfl, step_calling]
    rfl

end Machine

end Chip8

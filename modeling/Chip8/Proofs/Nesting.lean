import Chip8.CallStack

/-!
# Nesting on the ring

A sequence of pushes and pops, with rests between them, moves the pointer by its
height: pushes minus pops. Slots are told apart by their gap, the way from the
slot that the pointer stood at first, which counts modulo sixteen.

What was pushed first comes back at the pop that undoes it if the height stayed
within sixteen until then; otherwise the slot was used again, and popping that
use has cleared it.
-/

namespace Chip8.CallStack

inductive Move where
  | push (address : Address)
  | pop
  | rest
  deriving DecidableEq

def Move.rise : Move → Int
  | .push _ => 1
  | .pop => -1
  | .rest => 0

def move (stack : CallStack) : Move → CallStack
  | .push address => stack.push address
  | .pop => stack.pop.1
  | .rest => stack

/-- The stack after the first moves of a sequence. -/
def after (stack : CallStack) (moves : Nat → Move) : (count : Nat) → CallStack
  | 0 => stack
  | count + 1 => (stack.after moves count).move (moves count)

/-- Pushes minus pops among the first moves. -/
def height (moves : Nat → Move) : (count : Nat) → Int
  | 0 => 0
  | count + 1 => height moves count + (moves count).rise

/-- How far a slot lies above the slot of a pointer, going around. -/
def gap (pointer : Byte) (name : Nibble) : Int := (name - slot pointer).toNat

theorem gap_nonneg (pointer : Byte) (name : Nibble) : 0 ≤ gap pointer name :=
  Int.natCast_nonneg _

@[simp] theorem gap_slot (pointer : Byte) : gap pointer (slot pointer) = 0 := by
  simp [gap]

/-- The ring has sixteen slots and the pointer counts to 256, so the pointer may
wrap without losing its slot. -/
theorem eq_slot_iff (pointer : Byte) (name : Nibble) (rise : Int) :
    name = slot (pointer + BitVec.ofInt 8 rise) ↔ gap pointer name = rise % 16 := by
  have pointerBound := pointer.isLt
  have nameBound := name.isLt
  have risen : ((BitVec.ofInt 8 rise).toNat : Int) = rise % 256 := by
    rw [BitVec.toNat_ofInt]
    omega
  rw [← BitVec.toNat_inj]
  simp only [gap, slot, BitVec.toNat_sub, BitVec.toNat_setWidth, BitVec.toNat_add]
  omega

theorem sub_one_eq (pointer : Byte) : pointer - 1 = pointer + BitVec.ofInt 8 (-1) :=
  BitVec.sub_eq_add_neg pointer 1

theorem pointer_after (stack : CallStack) (moves : Nat → Move) (count : Nat) :
    (stack.after moves count).pointer = stack.pointer + BitVec.ofInt 8 (height moves count) := by
  induction count with
  | zero => simp [after, height]
  | succ count inductionHypothesis =>
      rw [height, BitVec.ofInt_add, ← BitVec.add_assoc, ← inductionHypothesis, after]
      cases moves count with
      | push address => rfl
      | pop => exact sub_one_eq _
      | rest => exact (BitVec.add_zero _).symm

/-! ## One move, slot by slot -/

section Read

variable (stack : CallStack) {moves : Nat → Move} {count : Nat}

theorem read_after_push {address : Address} (pushed : moves count = .push address)
    (name : Nibble) :
    (stack.after moves (count + 1)).read name =
      if gap stack.pointer name = height moves count % 16 then address.setWidth 16
      else (stack.after moves count).read name := by
  simp only [after, pushed, move, read_push, pointer_after, eq_slot_iff]

theorem read_after_pop (popped : moves count = .pop) (name : Nibble) :
    (stack.after moves (count + 1)).read name =
      if gap stack.pointer name = (height moves count - 1) % 16 then 0
      else (stack.after moves count).read name := by
  have lower : (stack.after moves count).pointer - 1 =
      stack.pointer + BitVec.ofInt 8 (height moves count - 1) := by
    rw [pointer_after, sub_one_eq, BitVec.add_assoc, ← BitVec.ofInt_add, ← Int.sub_eq_add_neg]
  simp only [after, popped, move, read_pop, lower, eq_slot_iff]

theorem read_after_rest (rested : moves count = .rest) (name : Nibble) :
    (stack.after moves (count + 1)).read name = (stack.after moves count).read name := by
  simp only [after, rested, move]

end Read

/-! ## The slot of the first push -/

/-- A first push is kept while the height stays positive and within the ring. -/
theorem read_first_of_shallow (stack : CallStack) {moves : Nat → Move} {address : Address}
    (opened : moves 0 = .push address) (count : Nat)
    (shallow : ∀ k ≤ count + 1, 0 < k → 0 < height moves k ∧ height moves k ≤ 16) :
    (stack.after moves (count + 1)).read (slot stack.pointer) = address.setWidth 16 := by
  induction count with
  | zero =>
      rw [stack.read_after_push opened, gap_slot]
      rfl
  | succ count inductionHypothesis =>
      have kept := inductionHypothesis fun k bound => shallow k (by omega)
      have now := shallow (count + 1) (by omega) (by omega)
      have next := shallow (count + 2) (by omega) (by omega)
      rw [height] at next
      cases moved : moves (count + 1) with
      | push other =>
          rw [moved, Move.rise] at next
          rw [stack.read_after_push moved, gap_slot, if_neg (by omega), kept]
      | pop =>
          rw [moved, Move.rise] at next
          rw [stack.read_after_pop moved, gap_slot, if_neg (by omega), kept]
      | rest => rw [stack.read_after_rest moved, kept]

/-- Once the ring has gone around, the first slot is in other use above height
sixteen and empty at or below. -/
theorem read_first_of_deep (stack : CallStack) {moves : Nat → Move} (count : Nat)
    (inside : ∀ k ≤ count, 0 < k → 0 < height moves k)
    (deep : ∃ k ≤ count, 16 < height moves k) (within : height moves count ≤ 16) :
    (stack.after moves count).read (slot stack.pointer) = 0 := by
  induction count with
  | zero =>
      obtain ⟨k, bound, exceeded⟩ := deep
      obtain rfl := Nat.le_zero.mp bound
      simp [height] at exceeded
  | succ count inductionHypothesis =>
      obtain ⟨k, bound, exceeded⟩ := deep
      have earlier : k ≤ count := by
        apply Nat.le_of_lt_succ
        apply Nat.lt_of_le_of_ne bound
        rintro rfl
        omega
      have lost := inductionHypothesis (fun k bound => inside k (by omega))
        ⟨k, earlier, exceeded⟩
      have started : 0 < count := by
        apply Nat.pos_of_ne_zero
        rintro rfl
        obtain rfl := Nat.le_zero.mp earlier
        simp [height] at exceeded
      have now := inside count (by omega) started
      have next := inside (count + 1) (by omega) (by omega)
      rw [height] at next within
      cases moved : moves count with
      | push other =>
          rw [moved, Move.rise] at within
          rw [stack.read_after_push moved, gap_slot, if_neg (by omega)]
          exact lost (by omega)
      | pop =>
          rw [moved, Move.rise] at next within
          rw [stack.read_after_pop moved, gap_slot]
          -- At height seventeen it is this pop that empties the slot.
          split
          next cleared => rfl
          next other => exact lost (by omega)
      | rest =>
          rw [moved, Move.rise] at within
          rw [stack.read_after_rest moved]
          exact lost (by omega)

/-! ## The pop that undoes the first push -/

section Closed

variable (stack : CallStack) {moves : Nat → Move} {address : Address}
  (opened : moves 0 = .push address)

include opened

theorem height_pos {count : Nat} (first : ∀ k < count, 0 < k → height moves k ≠ 0) :
    ∀ k < count, 0 < k → 0 < height moves k := by
  intro k bound positive
  induction k with
  | zero => omega
  | succ k inductionHypothesis =>
      have nonzero := first (k + 1) bound positive
      rw [height] at nonzero ⊢
      cases k with
      | zero => simp [height, opened, Move.rise]
      | succ k =>
          have above := inductionHypothesis (by omega) (by omega)
          cases moved : moves (k + 1) <;> simp only [moved, Move.rise] at nonzero ⊢ <;> omega

theorem height_nonneg {count : Nat} (level : height moves count = 0)
    (first : ∀ k < count, 0 < k → height moves k ≠ 0) :
    ∀ k ≤ count, 0 ≤ height moves k := by
  intro k bound
  rcases Nat.lt_or_eq_of_le bound with earlier | rfl
  · rcases Nat.eq_zero_or_pos k with rfl | positive
    · exact Int.le_refl 0
    · exact Int.le_of_lt (height_pos opened first k earlier positive)
  · exact Int.le_of_eq level.symm

/-- A sequence that comes back to where its first push started takes at least two
moves, the last of which pops from height one. -/
theorem last_pop {count : Nat} (later : 0 < count) (level : height moves count = 0)
    (first : ∀ k < count, 0 < k → height moves k ≠ 0) :
    ∃ last, count = last + 2 ∧ moves (last + 1) = .pop ∧ height moves (last + 1) = 1 := by
  obtain ⟨last, rfl⟩ : ∃ last, count = last + 2 := by
    obtain rfl | several : count = 1 ∨ 2 ≤ count := by omega
    · simp [height, opened, Move.rise] at level
    · exact ⟨count - 2, by omega⟩
  have above := height_pos opened first (last + 1) (by omega) (by omega)
  rw [height] at level
  refine ⟨last, rfl, ?_⟩
  cases moved : moves (last + 1) with
  | pop =>
      rw [moved, Move.rise] at level
      exact ⟨rfl, by omega⟩
  | push => rw [moved, Move.rise] at level; omega
  | rest => rw [moved, Move.rise] at level; omega

/-- The pop at height one gives back the first push, or zero if the ring has gone
around in between. -/
theorem pop_first {last : Nat} (top : height moves (last + 1) = 1)
    (inside : ∀ k ≤ last + 1, 0 < k → 0 < height moves k) :
    ((∀ k ≤ last + 1, height moves k ≤ 16) →
        (stack.after moves (last + 1)).pop.2 = address.setWidth 16) ∧
      ((∃ k ≤ last + 1, 16 < height moves k) →
        (stack.after moves (last + 1)).pop.2 = 0) := by
  have bottom : slot ((stack.after moves (last + 1)).pointer - 1) = slot stack.pointer := by
    rw [pointer_after, top]
    congr 1
    exact BitVec.add_sub_cancel stack.pointer 1
  rw [pop, bottom]
  constructor
  · intro shallow
    apply stack.read_first_of_shallow opened last
    intro k bound positive
    exact ⟨inside k bound positive, shallow k bound⟩
  · intro deep
    exact stack.read_first_of_deep (last + 1) inside deep (by omega)

end Closed

/-! ## All slots, while the ring does not go around -/

/-- Whether a slot is written by a push among the first moves. -/
def PushesTo (stack : CallStack) (moves : Nat → Move) (count : Nat) (name : Nibble) : Prop :=
  ∃ k < count, (∃ address, moves k = .push address) ∧
    slot (stack.after moves k).pointer = name

theorem pushesTo_succ_iff (stack : CallStack) (moves : Nat → Move) (count : Nat)
    (name : Nibble) :
    stack.PushesTo moves (count + 1) name ↔
      stack.PushesTo moves count name ∨
        (∃ address, moves count = .push address) ∧
          gap stack.pointer name = height moves count % 16 := by
  have last : slot (stack.after moves count).pointer = name ↔
      gap stack.pointer name = height moves count % 16 := by
    rw [eq_comm, pointer_after, eq_slot_iff]
  constructor
  · rintro ⟨k, bound, pushed, written⟩
    rcases Nat.lt_succ_iff_lt_or_eq.mp bound with earlier | rfl
    · exact .inl ⟨k, earlier, pushed, written⟩
    · exact .inr ⟨pushed, last.mp written⟩
  · rintro (⟨k, bound, pushed, written⟩ | ⟨pushed, written⟩)
    · exact ⟨k, by omega, pushed, written⟩
    · exact ⟨count, by omega, pushed, last.mpr written⟩

section Shallow

variable (stack : CallStack) {moves : Nat → Move} {count : Nat} {name : Nibble}
  (shallow : ∀ k ≤ count, 0 ≤ height moves k ∧ height moves k ≤ 16)

include shallow

theorem pushesTo_of_gap_lt (low : gap stack.pointer name < height moves count) :
    stack.PushesTo moves count name := by
  induction count with
  | zero =>
      have nonneg := gap_nonneg stack.pointer name
      simp only [height] at low
      omega
  | succ count inductionHypothesis =>
      have earlier := inductionHypothesis fun k bound => shallow k (by omega)
      have now := shallow count (by omega)
      have next := shallow (count + 1) (by omega)
      rw [height] at low next
      rw [pushesTo_succ_iff]
      cases moved : moves count with
      | push address =>
          rw [moved, Move.rise] at low next
          by_cases fresh : gap stack.pointer name = height moves count
          · exact .inr ⟨⟨address, rfl⟩, by omega⟩
          · exact .inl (earlier (by omega))
      | pop =>
          rw [moved, Move.rise] at low
          exact .inl (earlier (by omega))
      | rest =>
          rw [moved, Move.rise] at low
          exact .inl (earlier (by omega))

/-- The slots from the height on are cleared if they ever were in use. -/
theorem read_after_of_shallow (high : height moves count ≤ gap stack.pointer name) :
    (stack.PushesTo moves count name → (stack.after moves count).read name = 0) ∧
      (¬stack.PushesTo moves count name →
        (stack.after moves count).read name = stack.read name) := by
  induction count with
  | zero =>
      refine ⟨?_, fun _ => rfl⟩
      rintro ⟨k, bound, -⟩
      omega
  | succ count inductionHypothesis =>
      have shallowBefore : ∀ k ≤ count, 0 ≤ height moves k ∧ height moves k ≤ 16 :=
        fun k bound => shallow k (by omega)
      have earlier := inductionHypothesis shallowBefore
      have now := shallow count (by omega)
      have next := shallow (count + 1) (by omega)
      rw [height] at high next
      rw [pushesTo_succ_iff]
      cases moved : moves count with
      | push address =>
          rw [moved, Move.rise] at high next
          have other : gap stack.pointer name ≠ height moves count % 16 := by omega
          rw [stack.read_after_push moved, if_neg other]
          simpa [other] using earlier (by omega)
      | pop =>
          rw [moved, Move.rise] at high next
          rw [stack.read_after_pop moved]
          simp only [reduceCtorEq, exists_false, false_and, or_false]
          by_cases top : gap stack.pointer name = height moves count - 1
          · have used : stack.PushesTo moves count name :=
              stack.pushesTo_of_gap_lt shallowBefore (by omega)
            rw [if_pos (by omega)]
            exact ⟨fun _ => rfl, fun unused => absurd used unused⟩
          · rw [if_neg (by omega)]
            exact earlier (by omega)
      | rest =>
          rw [moved, Move.rise] at high
          rw [stack.read_after_rest moved]
          simpa using earlier (by omega)

end Shallow

end Chip8.CallStack

import Chip8.Proofs.Nesting

/-!
# Pops and the pushes that they match

A pop matches the latest push that is not popped yet. It gives back what that push put
down, or zero if the ring went around in between. A pop that matches no push goes below
all heights so far, where every slot is empty, so it gives zero as well.
-/

namespace Chip8.CallStack

/-! ## Slots hold addresses -/

def Bounded (stack : CallStack) : Prop := ∀ name, (stack.read name).toNat ≤ 0xFFF

theorem bounded_empty : empty.Bounded := by
  intro name
  simp

namespace Bounded

variable {stack : CallStack} (bounded : stack.Bounded)

include bounded

theorem push (address : Address) : (stack.push address).Bounded := by
  intro name
  have addressBound := address.isLt
  rw [read_push]
  split
  · rw [BitVec.toNat_setWidth_of_le (by decide)]
    omega
  · exact bounded name

theorem pop : stack.pop.1.Bounded := by
  intro name
  rw [read_pop]
  split
  · exact Nat.zero_le _
  · exact bounded name

theorem move (moved : Move) : (stack.move moved).Bounded := by
  cases moved with
  | push address => exact bounded.push address
  | pop => exact bounded.pop
  | rest => exact bounded

theorem after (moves : Nat → Move) (count : Nat) : (stack.after moves count).Bounded := by
  induction count with
  | zero => exact bounded
  | succ count inductionHypothesis => exact inductionHypothesis.move (moves count)

end Bounded

/-! ## Moves from a place on -/

theorem after_add (stack : CallStack) (moves : Nat → Move) (first second : Nat) :
    (stack.after moves first).after (fun k => moves (first + k)) second =
      stack.after moves (first + second) := by
  induction second with
  | zero => rfl
  | succ second inductionHypothesis => rw [after, inductionHypothesis, ← Nat.add_assoc, after]

theorem height_add (moves : Nat → Move) (first second : Nat) :
    height moves (first + second) =
      height moves first + height (fun k => moves (first + k)) second := by
  induction second with
  | zero => exact (Int.add_zero _).symm
  | succ second inductionHypothesis =>
      rw [← Nat.add_assoc, height, height, inductionHypothesis, Int.add_assoc]

/-! ## Pushes that are not popped yet -/

/-- The places of the pushes that are not popped after the first moves, the latest first. -/
def pending (moves : Nat → Move) : (count : Nat) → List Nat
  | 0 => []
  | count + 1 =>
      match moves count with
      | .push _ => count :: pending moves count
      | .pop => (pending moves count).tail
      | .rest => pending moves count

/-- A push that has some number of later ones on it, and below whose height no move has
gone since. -/
structure Covered (moves : Nat → Move) (count later place : Nat) : Prop where
  earlier : place < count
  pushed : ∃ address, moves place = .push address
  level : height moves count = height moves place + 1 + later
  above : ∀ k, place < k → k ≤ count → height moves place < height moves k

section Pending

variable {moves : Nat → Move} {count : Nat}

theorem Covered.step {later now place : Nat} (covered : Covered moves count later place)
    (risen : later + (moves count).rise = now) : Covered moves (count + 1) now place where
  earlier := Nat.lt_succ_of_lt covered.earlier
  pushed := covered.pushed
  level := by
    rw [height, covered.level, ← risen, Int.add_assoc]
  above k after within := by
    have level := covered.level
    rcases Nat.lt_succ_iff_lt_or_eq.mp (Nat.lt_succ_of_le within) with before | rfl
    · exact covered.above k after (Nat.le_of_lt_succ before)
    · rw [height]
      omega

theorem covered_last {address : Address} (pushed : moves count = .push address) :
    Covered moves (count + 1) 0 count where
  earlier := Nat.lt_succ_self count
  pushed := ⟨address, pushed⟩
  level := by simp [height, pushed, Move.rise]
  above k after within := by
    obtain rfl : k = count + 1 := by omega
    rw [height, pushed, Move.rise]
    omega

/-- The pushes that are not popped yet lie on each other in the order of their places. -/
theorem covered_of_pending {later place : Nat}
    (found : (pending moves count)[later]? = some place) :
    Covered moves count later place := by
  induction count generalizing later with
  | zero => simp [pending] at found
  | succ count inductionHypothesis =>
      cases moved : moves count with
      | push address =>
          simp only [pending, moved] at found
          cases later with
          | zero =>
              obtain rfl : count = place := by simpa using found
              exact covered_last moved
          | succ later =>
              rw [List.getElem?_cons_succ] at found
              apply (inductionHypothesis found).step
              rw [moved]
              rfl
      | pop =>
          simp only [pending, moved, List.getElem?_tail] at found
          apply (inductionHypothesis found).step
          rw [moved, Move.rise]
          omega
      | rest =>
          simp only [pending, moved] at found
          apply (inductionHypothesis found).step
          rw [moved, Move.rise, Int.add_zero]

theorem height_sub_pending_succ_le :
    height moves (count + 1) - (pending moves (count + 1)).length ≤
      height moves count - (pending moves count).length := by
  rw [height, pending]
  cases moves count with
  | push address =>
      rw [Move.rise, List.length_cons]
      omega
  | pop =>
      rw [Move.rise, List.length_tail]
      omega
  | rest => simp [Move.rise]

/-- The pushes that are not popped yet fill all heights down to the lowest so far. -/
theorem height_sub_pending_le {k : Nat} (within : k ≤ count) :
    height moves count - (pending moves count).length ≤ height moves k := by
  induction count with
  | zero =>
      obtain rfl := Nat.le_zero.mp within
      omega
  | succ count inductionHypothesis =>
      rcases Nat.lt_succ_iff_lt_or_eq.mp (Nat.lt_succ_of_le within) with before | rfl
      · exact Int.le_trans height_sub_pending_succ_le
          (inductionHypothesis (Nat.le_of_lt_succ before))
      · omega

end Pending

/-! ## Slots that no push holds -/

/-- A slot is empty unless it belongs to a height from the lowest so far up to, but not
including, the present one. -/
theorem read_after_of_vacant {moves : Nat → Move} {count : Nat} {name : Nibble}
    (vacant : ∀ level, (∃ k ≤ count, height moves k ≤ level) → level < height moves count →
      gap empty.pointer name ≠ level % 16) :
    (empty.after moves count).read name = 0 := by
  induction count with
  | zero => exact read_empty name
  | succ count inductionHypothesis =>
      have before (level : Int) (reached : ∃ k ≤ count, height moves k ≤ level)
          (under : level < height moves count + (moves count).rise) :
          gap empty.pointer name ≠ level % 16 := by
        obtain ⟨k, within, below⟩ := reached
        exact vacant level ⟨k, Nat.le_succ_of_le within, below⟩ under
      cases moved : moves count with
      | push address =>
          rw [moved, Move.rise] at before
          have other : gap empty.pointer name ≠ height moves count % 16 :=
            before _ ⟨count, Nat.le_refl _, Int.le_refl _⟩ (Int.lt_add_one_iff.mpr (Int.le_refl _))
          rw [empty.read_after_push moved, if_neg other]
          apply inductionHypothesis
          intro level reached under
          exact before level reached (by omega)
      | pop =>
          rw [moved, Move.rise] at before
          rw [empty.read_after_pop moved]
          -- The slot that the pop frees is the only one that the present height gives up.
          split
          next freed => rfl
          next other =>
            apply inductionHypothesis
            intro level reached under
            by_cases top : level = height moves count - 1
            · rwa [top]
            · exact before level reached (by omega)
      | rest =>
          rw [moved, Move.rise, Int.add_zero] at before
          rw [empty.read_after_rest moved]
          exact inductionHypothesis before

/-! ## What a pop gives back -/

section Pop

variable {moves : Nat → Move} {count : Nat}

/-- With no push left to pop, the height is the lowest so far and every slot is empty. -/
theorem pop_of_none_pending (none : pending moves count = []) :
    (empty.after moves count).pop.2 = 0 := by
  apply read_after_of_vacant
  rintro level ⟨k, within, below⟩ under
  have lowest : height moves count - (pending moves count).length ≤ height moves k :=
    height_sub_pending_le within
  rw [none, List.length_nil] at lowest
  omega

/-- The latest push that is not popped yet is given back unless the height went around
the ring since. -/
theorem pop_of_covered {place : Nat} {address : Address} (covered : Covered moves count 0 place)
    (pushed : moves place = .push address) :
    ((∀ k, place < k → k ≤ count → height moves k < height moves (place + 1) + 16) →
        (empty.after moves count).pop.2 = address.setWidth 16) ∧
      ((∃ k, place < k ∧ k ≤ count ∧ height moves (place + 1) + 16 ≤ height moves k) →
        (empty.after moves count).pop.2 = 0) := by
  obtain ⟨last, rfl⟩ : ∃ last, count = place + (last + 1) := by
    have earlier := covered.earlier
    exact ⟨count - place - 1, by omega⟩
  have level := covered.level
  have opened : height moves (place + 1) = height moves place + 1 := by
    rw [height, pushed, Move.rise]
  have shift (k : Nat) := height_add moves place k
  have first : (fun k => moves (place + k)) 0 = .push address := pushed
  have top : height (fun k => moves (place + k)) (last + 1) = 1 := by
    have reached := shift (last + 1)
    omega
  have inside : ∀ k ≤ last + 1, 0 < k → 0 < height (fun k => moves (place + k)) k := by
    intro k within positive
    have above := covered.above (place + k) (by omega) (by omega)
    have reached := shift k
    omega
  obtain ⟨kept, lost⟩ := (empty.after moves place).pop_first first top inside
  rw [after_add] at kept lost
  constructor
  · intro shallow
    apply kept
    intro k within
    have reached := shift k
    rcases Nat.eq_zero_or_pos k with rfl | positive
    · simp [height]
    · have below := shallow (place + k) (by omega) (by omega)
      omega
  · rintro ⟨k, after, within, deep⟩
    apply lost
    refine ⟨k - place, by omega, ?_⟩
    have reached := shift (k - place)
    rw [Nat.add_sub_cancel' (Nat.le_of_lt after)] at reached
    omega

end Pop

/-! ## Lists of requests -/

/-- What is asked of a stack. An address may be any number; its low twelve bits count. -/
inductive Request where
  | push (address : Int)
  | pop
  deriving DecidableEq

def Request.isPush : Request → Bool
  | .push _ => true
  | .pop => false

def Request.move : Request → Move
  | .push address => .push (BitVec.ofInt 12 address)
  | .pop => .pop

/-- Carry out a request. A pop answers with a word. -/
def perform (stack : CallStack) : Request → CallStack × Option Word
  | .push address => (stack.push (BitVec.ofInt 12 address), none)
  | .pop => (stack.pop.1, some stack.pop.2)

def performAll (stack : CallStack) : List Request → CallStack × List (Option Word)
  | [] => (stack, [])
  | request :: rest =>
      let (stack, answer) := stack.perform request
      let (stack, answers) := stack.performAll rest
      (stack, answer :: answers)

/-- The requests one after the other, and rest from then on. -/
def movesOf (requests : List Request) (place : Nat) : Move :=
  (requests[place]?.map Request.move).getD .rest

/-- Pushes minus pops among the first requests. -/
def depth (requests : List Request) (count : Nat) : Int :=
  (requests.take count).countP Request.isPush -
    (requests.take count).countP fun request => !request.isPush

/-- The place of the push that a pop at a place matches: the latest one that is not popped
yet. -/
def matching? (requests : List Request) (place : Nat) : Option Nat :=
  (pending (movesOf requests) place).head?

theorem depth_eq_height (requests : List Request) (count : Nat) :
    depth requests count = height (movesOf requests) count := by
  induction count with
  | zero => simp [depth, height]
  | succ count inductionHypothesis =>
      rw [height, ← inductionHypothesis, movesOf, depth, depth, List.take_add_one,
        List.countP_append, List.countP_append]
      cases requests[count]? with
      | none => simp [Move.rise]
      | some request =>
          cases request <;> simp [Request.isPush, Request.move, Move.rise] <;> omega

section Perform

variable (stack : CallStack) (request : Request) (rest requests : List Request)

theorem perform_fst : (stack.perform request).1 = stack.move request.move := by
  cases request <;> rfl

theorem after_movesOf_cons (count : Nat) :
    stack.after (movesOf (request :: rest)) (count + 1) =
      (stack.move request.move).after (movesOf rest) count := by
  have shifted : (fun k => movesOf (request :: rest) (1 + k)) = movesOf rest := by
    funext k
    rw [Nat.add_comm]
    rfl
  rw [Nat.add_comm, ← after_add, shifted]
  rfl

theorem performAll_fst :
    (stack.performAll requests).1 = stack.after (movesOf requests) requests.length := by
  induction requests generalizing stack with
  | nil => rfl
  | cons request rest inductionHypothesis =>
      rw [List.length_cons, after_movesOf_cons, ← perform_fst, ← inductionHypothesis]
      rfl

theorem getElem?_performAll_snd (place : Nat) :
    (stack.performAll requests).2[place]? =
      requests[place]?.map fun request =>
        ((stack.after (movesOf requests) place).perform request).2 := by
  induction requests generalizing stack place with
  | nil => simp [performAll]
  | cons request rest inductionHypothesis =>
      cases place with
      | zero => rfl
      | succ place =>
          rw [after_movesOf_cons, ← perform_fst, List.getElem?_cons_succ, ← inductionHypothesis]
          rfl

end Perform

theorem exists_push_of_movesOf {requests : List Request} {place : Nat}
    (pushed : ∃ address, movesOf requests place = .push address) :
    ∃ address, requests[place]? = some (.push address) ∧
      movesOf requests place = .push (BitVec.ofInt 12 address) := by
  obtain ⟨pushed, moved⟩ := pushed
  cases requested : requests[place]? with
  | none => simp [movesOf, requested] at moved
  | some request =>
      cases request with
      | push address => exact ⟨address, rfl, by rw [movesOf, requested]; rfl⟩
      | pop => simp [movesOf, requested, Request.move] at moved

/-- However pushes and pops follow each other on an empty stack, the pointer counts them
modulo 256 and the slots hold addresses. A pop gives back the address of the push that it
matches if the depth stayed less than sixteen above that push, and zero if it did not or
if there is no such push. -/
theorem pops_match_pushes (requests : List Request) :
    ((empty.performAll requests).1.pointer.toNat : Int) =
        depth requests requests.length % 256 ∧
      (∀ name, ((empty.performAll requests).1.read name).toNat ≤ 0xFFF) ∧
      ∀ place, requests[place]? = some .pop →
        ∃ word, (empty.performAll requests).2[place]? = some (some word) ∧
          (matching? requests place = none → word = 0) ∧
          ∀ push, matching? requests place = some push →
            ∃ address, requests[push]? = some (.push address) ∧
              ((∀ k, push < k → k ≤ place →
                  depth requests k < depth requests (push + 1) + 16) →
                (word.toNat : Int) = address % 4096) ∧
              ((∃ k, push < k ∧ k ≤ place ∧
                  depth requests (push + 1) + 16 ≤ depth requests k) →
                word = 0) := by
  refine ⟨?_, ?_, ?_⟩
  · have counted : (empty.after (movesOf requests) requests.length).pointer =
        BitVec.ofInt 8 (height (movesOf requests) requests.length) := by
      rw [pointer_after]
      exact BitVec.zero_add _
    rw [performAll_fst, depth_eq_height, counted, BitVec.toNat_ofInt]
    omega
  · rw [performAll_fst]
    exact bounded_empty.after _ _
  · intro place popped
    refine ⟨(empty.after (movesOf requests) place).pop.2, ?_, ?_, ?_⟩
    · rw [getElem?_performAll_snd, popped]
      rfl
    · intro unmatched
      exact pop_of_none_pending (List.head?_eq_none_iff.mp unmatched)
    · intro push found
      have covered : Covered (movesOf requests) place 0 push :=
        covered_of_pending (by rwa [← List.head?_eq_getElem?])
      obtain ⟨address, requested, moved⟩ := exists_push_of_movesOf covered.pushed
      obtain ⟨kept, lost⟩ := pop_of_covered covered moved
      simp only [depth_eq_height]
      refine ⟨address, requested, ?_, lost⟩
      intro shallow
      rw [kept shallow, BitVec.toNat_setWidth_of_le (by decide), BitVec.toNat_ofInt]
      omega

/-- Seventeen pushes go once around the ring and on, and eighteen pops are one too many. -/
def aroundTheRing : List Request :=
  (List.range 17).map (fun k => .push (4096 * k - 1 - k)) ++ List.replicate 18 .pop ++
    [.push (-1), .pop]

/-- The last push of the seventeen comes back, the first one is lost, the pop below it
finds no push, and the push after that comes back from the slot below the first. -/
theorem aroundTheRing_pops :
    (∃ word, (empty.performAll aroundTheRing).2[17]? = some (some word) ∧
        (word.toNat : Int) = (4096 * 16 - 1 - 16) % 4096) ∧
      (empty.performAll aroundTheRing).2[33]? = some (some 0) ∧
      (empty.performAll aroundTheRing).2[34]? = some (some 0) ∧
      ∃ word, (empty.performAll aroundTheRing).2[36]? = some (some word) ∧
        (word.toNat : Int) = (-1) % 4096 := by
  obtain ⟨-, -, answered⟩ := pops_match_pushes aroundTheRing
  have returned (push : Nat) {place : Nat} {address : Int} (last : place = push + 1)
      (popped : aroundTheRing[place]? = some .pop)
      (found : matching? aroundTheRing place = some push)
      (requested : aroundTheRing[push]? = some (.push address)) :
      ∃ word, (empty.performAll aroundTheRing).2[place]? = some (some word) ∧
        (word.toNat : Int) = address % 4096 := by
    obtain ⟨word, answer, -, matched⟩ := answered place popped
    obtain ⟨pushed, same, kept, -⟩ := matched push found
    obtain rfl : pushed = address := by
      rw [requested] at same
      injection same with same
      injection same with same
      exact same.symm
    refine ⟨word, answer, kept ?_⟩
    intro k after within
    obtain rfl : k = push + 1 := by omega
    omega
  refine ⟨?_, ?_, ?_, ?_⟩
  · exact returned 16 rfl (by decide) (by decide) (by decide)
  · obtain ⟨word, answer, -, matched⟩ := answered 33 (by decide)
    obtain ⟨-, -, -, lost⟩ := matched 0 (by decide)
    rw [answer, lost ⟨17, by decide⟩]
  · obtain ⟨word, answer, unmatched, -⟩ := answered 34 (by decide)
    rw [answer, unmatched (by decide)]
  · exact returned 35 rfl (by decide) (by decide) (by decide)

end Chip8.CallStack

import Chip8.Proofs.Cycle
import Chip8.Proofs.Nesting

/-!
# Subroutines

A run moves the call stack only by its calls and returns, so the laws of the
ring carry over to programs: whatever else happens in between, the return that
matches a call goes back behind the call, unless the calls inside were nested
so deeply that the ring went around.
-/

namespace Chip8

namespace Instruction

def isCall : Instruction → Bool
  | .call _ => true
  | _ => false

def isLeave : Instruction → Bool
  | .leave => true
  | _ => false

end Instruction

namespace Machine

def stackMove (machine : Machine) : CallStack.Move :=
  match machine.instruction? with
  | some (.call _) => .push (machine.pc + next).address
  | some .leave => .pop
  | _ => .rest

def stackMoves (machine : Machine) (cycle : Nat) : CallStack.Move :=
  (machine.run cycle).stackMove

theorem stack_step_eq_move (machine : Machine) :
    machine.step.stack = machine.stack.move machine.stackMove := by
  rw [stack_step, stackMove]
  cases fetched : machine.instruction? with
  | none => rfl
  | some instruction => cases instruction <;> rfl

theorem stack_run (machine : Machine) (cycles : Nat) :
    (machine.run cycles).stack = machine.stack.after machine.stackMoves cycles := by
  induction cycles with
  | zero => rfl
  | succ cycles inductionHypothesis =>
      rw [run_succ_last, stack_step_eq_move, inductionHypothesis]
      rfl

/-- Calls minus returns among the first cycles of a run. A cycle that faults is
neither. -/
def depth (machine : Machine) (cycles : Nat) : Int :=
  machine.executed (·.isCall) cycles - machine.executed (·.isLeave) cycles

theorem depth_eq_height (machine : Machine) (cycles : Nat) :
    machine.depth cycles = CallStack.height machine.stackMoves cycles := by
  induction cycles with
  | zero => rfl
  | succ cycles inductionHypothesis =>
      rw [CallStack.height, ← inductionHypothesis, stackMoves, stackMove, depth, depth,
        executed_succ, executed_succ]
      cases fetched : (machine.run cycles).instruction? with
      | none => simp [CallStack.Move.rise]
      | some instruction =>
          cases instruction <;>
            simp [Instruction.isCall, Instruction.isLeave, CallStack.Move.rise] <;> omega

/-- Whether some call among the first cycles of a run stores its return address
in a slot. -/
def PushesTo (machine : Machine) (cycles : Nat) (name : Nibble) : Prop :=
  ∃ cycle < cycles, (∃ target, (machine.run cycle).instruction? = some (.call target)) ∧
    CallStack.slot (machine.run cycle).stack.pointer = name

theorem exists_push_iff (machine : Machine) :
    (∃ address, machine.stackMove = .push address) ↔
      ∃ target, machine.instruction? = some (.call target) := by
  rw [stackMove]
  cases machine.instruction? with
  | none => simp
  | some instruction => cases instruction <;> simp

theorem pushesTo_iff (machine : Machine) (cycles : Nat) (name : Nibble) :
    machine.PushesTo cycles name ↔
      machine.stack.PushesTo machine.stackMoves cycles name := by
  simp only [PushesTo, CallStack.PushesTo, stackMoves, exists_push_iff, stack_run]

theorem instruction?_of_pop {machine : Machine} (popped : machine.stackMove = .pop) :
    machine.instruction? = some .leave := by
  rw [stackMove] at popped
  cases fetched : machine.instruction? with
  | none => simp [fetched] at popped
  | some instruction =>
      rw [fetched] at popped
      cases instruction with
      | leave => rfl
      | _ => cases popped

theorem pc_step_of_leave {machine : Machine} (fetched : machine.instruction? = some .leave) :
    machine.step.pc = machine.stack.pop.2 := by
  rw [step_of_some fetched]
  exact pc_perform_leave machine.clearReports

/-- From a call to the return that matches it. The pointer comes back whatever
happens. If the depth stays within the sixteen slots, the run goes on behind the
call and leaves every slot that it used empty and every other slot alone; if it
does not, the return address is lost and the run goes on at zero. No cycle in
between can fault, since a faulted run never returns. -/
theorem run_until_matching_return (machine : Machine) (target : Address) (cycles : Nat)
    (called : machine.instruction? = some (.call target)) (later : 0 < cycles)
    (matched : machine.depth cycles = 0)
    (first : ∀ cycle < cycles, 0 < cycle → machine.depth cycle ≠ 0) :
    (machine.run cycles).stack.pointer = machine.stack.pointer ∧
      ((∀ cycle < cycles, machine.depth cycle ≤ 16) →
        (machine.run cycles).pc = (machine.pc + 2) &&& 0xFFF ∧
        ∀ name,
          (machine.PushesTo cycles name → (machine.run cycles).stack.read name = 0) ∧
          (¬machine.PushesTo cycles name →
            (machine.run cycles).stack.read name = machine.stack.read name)) ∧
      ((∃ cycle < cycles, 16 < machine.depth cycle) → (machine.run cycles).pc = 0) := by
  simp only [depth_eq_height] at matched first ⊢
  have opened : machine.stackMoves 0 = .push (machine.pc + next).address := by
    simp [stackMoves, stackMove, called]
  obtain ⟨last, rfl, popped, top⟩ := CallStack.last_pop opened later matched first
  have inside := CallStack.height_pos opened first
  obtain ⟨kept, lost⟩ := machine.stack.pop_first opened top
    fun cycle bound => inside cycle (by omega)
  have pc : (machine.run (last + 2)).pc =
      (machine.stack.after machine.stackMoves (last + 1)).pop.2 := by
    rw [run_succ_last, pc_step_of_leave (instruction?_of_pop popped), stack_run]
  refine ⟨?_, fun shallow => ⟨?_, fun name => ?_⟩, fun deep => ?_⟩
  · rw [stack_run, CallStack.pointer_after, matched]
    exact BitVec.add_zero machine.stack.pointer
  · rw [pc, kept fun cycle bound => shallow cycle (by omega), Word.setWidth_address]
    rfl
  · have nonneg := CallStack.height_nonneg opened matched first
    have within : ∀ cycle ≤ last + 2, CallStack.height machine.stackMoves cycle ≤ 16 := by
      intro cycle bound
      rcases Nat.lt_or_eq_of_le bound with earlier | rfl
      · exact shallow cycle earlier
      · omega
    rw [pushesTo_iff, stack_run]
    apply machine.stack.read_after_of_shallow
    · intro cycle bound
      exact ⟨nonneg cycle bound, within cycle bound⟩
    · rw [matched]
      exact CallStack.gap_nonneg machine.stack.pointer name
  · obtain ⟨cycle, bound, exceeded⟩ := deep
    rw [pc]
    exact lost ⟨cycle, by omega, exceeded⟩

/-- Two nested calls, the first from a pointer that is about to wrap. -/
def nestedCalls : Machine :=
  { holding [0x20, 0x04, 0x00, 0x00, 0x20, 0x08, 0x00, 0xEE, 0x00, 0xEE] with
    stack := ⟨Vector.replicate 16 0xABC, 0xFF⟩ }

theorem nestedCalls_return :
    nestedCalls.instruction? = some (.call 4) ∧ nestedCalls.depth 4 = 0 ∧
      (∀ cycle < 4, 0 < cycle → nestedCalls.depth cycle ≠ 0) ∧
      (∀ cycle < 4, nestedCalls.depth cycle ≤ 16) ∧
      nestedCalls.PushesTo 4 0 ∧
      (nestedCalls.run 4).stack.pointer = 0xFF ∧ (nestedCalls.run 4).pc = 2 ∧
      (nestedCalls.run 4).stack.read 0 = 0 := by
  have called : nestedCalls.instruction? = some (.call 4) := rfl
  have matched : nestedCalls.depth 4 = 0 := rfl
  have first : ∀ cycle < 4, 0 < cycle → nestedCalls.depth cycle ≠ 0 := by decide +kernel
  have shallow : ∀ cycle < 4, nestedCalls.depth cycle ≤ 16 := by decide +kernel
  have pushed : nestedCalls.PushesTo 4 0 := ⟨1, by decide, ⟨8, rfl⟩, rfl⟩
  obtain ⟨pointer, within, -⟩ :=
    run_until_matching_return nestedCalls 4 4 called (by decide) matched first
  obtain ⟨pc, slots⟩ := within shallow
  exact ⟨called, matched, first, shallow, pushed, pointer, pc, (slots 0).1 pushed⟩

end Machine

end Chip8

import Chip8.Progress
import Mathlib.Data.List.Basic

/-!
# Loops that are watched

A loop under a meter returns what the plain loop returns. Its bar is opened before the
first iteration, moved on after each whole interval and by what is left over, and closed
after the last iteration, so that it has moved by the total, never goes beyond it and
leaves nothing behind for the next loop.
-/

namespace Chip8.Progress

namespace Meter

/-- What the bar is told about one iteration. -/
def eventsOf (meter : Meter) (iteration : Nat) : List Event :=
  meter.eventsBefore iteration ++ meter.eventsAfter iteration

/-! ## The loop itself -/

section Loop

variable {State Output : Type} (meter : Meter) (body : State → Nat → State × Output)
  (start : State)

theorem scan_watch (iterations : List Nat) :
    (Chip8.scan (meter.watch body) start iterations).1 =
        (Chip8.scan body start iterations).1 ∧
      (Chip8.scan (meter.watch body) start iterations).2.map (·.1) =
        (Chip8.scan body start iterations).2 ∧
      (Chip8.scan (meter.watch body) start iterations).2.flatMap (·.2) =
        iterations.flatMap meter.eventsOf := by
  induction iterations generalizing start with
  | nil => exact ⟨rfl, rfl, rfl⟩
  | cons iteration rest inductionHypothesis =>
      obtain ⟨final, outputs, events⟩ := inductionHypothesis (body start iteration).1
      simp only [Chip8.scan, watch, List.map_cons, List.flatMap_cons, final, outputs, events]
      exact ⟨trivial, trivial, rfl⟩

theorem final_scan_eq :
    (meter.scan body start).final =
      (Chip8.scan body start (List.range meter.total.toNat)).1 :=
  (scan_watch meter body start _).1

theorem outputs_scan :
    (meter.scan body start).outputs =
      (Chip8.scan body start (List.range meter.total.toNat)).2 :=
  (scan_watch meter body start _).2.1

theorem events_scan :
    (meter.scan body start).events =
      (List.range meter.total.toNat).flatMap meter.eventsOf :=
  (scan_watch meter body start _).2.2

end Loop

/-! ## The events of a loop -/

/-- What the bar is told about an iteration, the end of the loop apart. -/
def movesOf (meter : Meter) (iteration : Nat) : List Event :=
  (if iteration = 0 then [.opened meter.total meter.caption meter.options] else []) ++
    if meter.interval ∣ (iteration + 1 : Nat) then [.advanced meter.interval] else []

section Events

variable (meter : Meter)

theorem eventsOf_eq (iteration : Nat) :
    meter.eventsOf iteration =
      meter.movesOf iteration ++
        if (iteration : Int) = meter.total - 1 then
          (if meter.remainder = 0 then [] else [.advanced meter.remainder]) ++ [.closed]
        else [] := by
  have whole : (iteration + 1 : Int).fmod meter.interval = 0 ↔
      meter.interval ∣ (iteration + 1 : Nat) := by
    rw [← Int.dvd_iff_fmod_eq_zero]
    rfl
  simp only [eventsOf, eventsBefore, eventsAfter, movesOf, whole, ne_eq, ite_and, ite_not,
    List.append_assoc]
  by_cases last : (iteration : Int) = meter.total - 1 <;>
    by_cases even : meter.remainder = 0 <;> simp [last, even]

/-- So far the bar has moved by whole intervals only. -/
theorem moves_upTo {interval : Nat} (steps : meter.interval = interval) (iterations : Nat) :
    (List.range iterations).flatMap meter.movesOf =
      (if iterations = 0 then [] else [.opened meter.total meter.caption meter.options]) ++
        List.replicate (iterations / interval) (.advanced meter.interval) := by
  induction iterations with
  | zero => simp
  | succ iterations inductionHypothesis =>
      have whole : meter.interval ∣ (iterations + 1 : Nat) ↔ interval ∣ iterations + 1 := by
        rw [steps, Int.natCast_dvd_natCast]
      rw [List.range_succ, List.flatMap_append, inductionHypothesis, List.flatMap_singleton,
        movesOf, Nat.succ_div]
      simp only [whole, Nat.succ_ne_zero, if_false]
      -- The bar is opened in the first iteration only.
      cases iterations with
      | zero => by_cases divides : interval ∣ 1 <;> simp [divides]
      | succ earlier =>
          by_cases divides : interval ∣ earlier + 1 + 1 <;>
            simp [divides, List.replicate_succ']

/-- What the bar is told by a loop that has iterations. -/
def eventsToTotal : List Event :=
  .opened meter.total meter.caption meter.options ::
    List.replicate (meter.total / meter.interval).toNat (.advanced meter.interval) ++
    (if meter.total % meter.interval = 0 then []
      else [.advanced (meter.total % meter.interval)]) ++
    [.closed]

theorem flatMap_eventsOf (positive : 1 ≤ meter.interval) (iterates : 1 ≤ meter.total) :
    (List.range meter.total.toNat).flatMap meter.eventsOf = meter.eventsToTotal := by
  obtain ⟨last, total⟩ : ∃ last : Nat, meter.total = (last + 1 : Nat) :=
    ⟨meter.total.toNat - 1, by omega⟩
  obtain ⟨interval, steps⟩ : ∃ interval : Nat, meter.interval = interval :=
    ⟨meter.interval.toNat, by omega⟩
  have before : (List.range last).flatMap meter.eventsOf =
      (List.range last).flatMap meter.movesOf := by
    refine List.flatMap_congr fun iteration isBefore => ?_
    have early : (iteration : Int) ≠ meter.total - 1 := by
      have := List.mem_range.mp isBefore
      omega
    rw [eventsOf_eq, if_neg early, List.append_nil]
  have atLast : (last : Int) = meter.total - 1 := by omega
  have leftOver : meter.remainder = meter.total % meter.interval :=
    Int.fmod_eq_emod_of_nonneg _ (by omega)
  have count : (meter.total / meter.interval).toNat = (last + 1) / interval := by
    rw [total, steps, ← Int.natCast_ediv, Int.toNat_natCast]
  calc (List.range meter.total.toNat).flatMap meter.eventsOf
    _ = (List.range (last + 1)).flatMap meter.movesOf ++
          ((if meter.remainder = 0 then [] else [.advanced meter.remainder]) ++ [.closed]) := by
        rw [total, Int.toNat_natCast, List.range_succ, List.flatMap_append, before,
          List.flatMap_append, List.flatMap_singleton, List.flatMap_singleton, eventsOf_eq,
          if_pos atLast, List.append_assoc]
    _ = meter.eventsToTotal := by
        rw [moves_upTo meter steps, if_neg (Nat.succ_ne_zero last), leftOver, eventsToTotal,
          count]
        simp

end Events

end Meter

/-! ## The bar -/

namespace Event

/-- How far an event moves the bar. -/
def count : Event → Int
  | .advanced count => count
  | _ => 0

/-- What becomes of how far an open bar has moved. A bar is opened only where none is open,
and moved or closed only where one is. -/
def apply : Option Int → Event → Option (Option Int)
  | none, .opened .. => some (some 0)
  | some moved, .advanced count => some (some (moved + count))
  | some _, .closed => some none
  | _, _ => none

/-- How far events move the bar in all. -/
def moved : List Event → Int
  | [] => 0
  | event :: later => event.count + moved later

@[simp] theorem moved_append (first later : List Event) :
    moved (first ++ later) = moved first + moved later := by
  induction first with
  | nil => simp [moved]
  | cons event rest inductionHypothesis =>
      simp only [List.cons_append, moved, inductionHypothesis, Int.add_assoc]

@[simp] theorem moved_replicate (times : Nat) (event : Event) :
    moved (List.replicate times event) = times * event.count := by
  induction times with
  | zero => simp [moved]
  | succ times inductionHypothesis =>
      rw [List.replicate_succ, moved, inductionHypothesis, Int.natCast_succ, Int.add_mul,
        Int.one_mul, Int.add_comm]

theorem moved_nonneg {events : List Event} (forward : ∀ event ∈ events, 0 ≤ event.count) :
    0 ≤ moved events := by
  induction events with
  | nil => exact Int.le_refl 0
  | cons event later inductionHypothesis =>
      rw [List.forall_mem_cons] at forward
      exact Int.add_nonneg forward.1 (inductionHypothesis forward.2)

end Event

namespace Meter

section Bar

variable (meter : Meter)

theorem moved_eventsToTotal (positive : 1 ≤ meter.interval) (iterates : 1 ≤ meter.total) :
    Event.moved meter.eventsToTotal = meter.total := by
  have whole : ((meter.total / meter.interval).toNat : Int) = meter.total / meter.interval :=
    Int.toNat_of_nonneg (Int.ediv_nonneg (by omega) (by omega))
  have split : meter.total / meter.interval * meter.interval + meter.total % meter.interval =
      meter.total := by
    rw [Int.mul_comm, Int.mul_ediv_add_emod]
  by_cases even : meter.total % meter.interval = 0 <;>
    simp [eventsToTotal, Event.moved, Event.count, even, whole] <;> omega

theorem count_nonneg (positive : 1 ≤ meter.interval) :
    ∀ event ∈ meter.eventsToTotal, 0 ≤ event.count := by
  have leftOver : 0 ≤ meter.total % meter.interval := Int.emod_nonneg _ (by omega)
  have whole : 0 ≤ meter.interval := by omega
  intro event told
  simp only [eventsToTotal, List.cons_append, List.mem_cons, List.mem_append,
    List.mem_replicate, List.mem_ite_nil_left, List.not_mem_nil, or_false] at told
  rcases told with rfl | ((⟨-, rfl⟩ | ⟨-, rfl⟩) | rfl)
  · exact Int.le_refl 0
  · exact whole
  · exact leftOver
  · exact Int.le_refl 0

/-- The bar never goes beyond the total, however many events it has been told. -/
theorem moved_le_of_isPrefix (positive : 1 ≤ meter.interval) (iterates : 1 ≤ meter.total)
    {told : List Event} (first : told <+: meter.eventsToTotal) :
    Event.moved told ≤ meter.total := by
  obtain ⟨later, together⟩ := first
  have notBack : 0 ≤ Event.moved later := Event.moved_nonneg fun event isLater =>
    count_nonneg meter positive event (together ▸ List.mem_append_right told isLater)
  calc Event.moved told
    _ ≤ Event.moved told + Event.moved later := by omega
    _ = Event.moved meter.eventsToTotal := by rw [← together, Event.moved_append]
    _ = meter.total := moved_eventsToTotal meter positive iterates

theorem foldlM_replicate_advanced (count moved : Int) (times : Nat) :
    (List.replicate times (.advanced count)).foldlM Event.apply (some moved) =
      some (some (moved + times * count)) := by
  induction times generalizing moved with
  | zero => simp
  | succ times inductionHypothesis =>
      rw [List.replicate_succ, List.foldlM_cons, Event.apply, Option.bind_eq_bind,
        Option.bind_some, inductionHypothesis, Int.natCast_succ, Int.add_mul, Int.one_mul,
        Int.add_assoc, Int.add_comm count]

/-- A loop opens a bar of its own and leaves none open. -/
theorem foldlM_eventsToTotal :
    meter.eventsToTotal.foldlM Event.apply none = some none := by
  rw [eventsToTotal, List.append_assoc, List.cons_append, List.foldlM_cons, Event.apply,
    Option.bind_eq_bind, Option.bind_some, List.foldlM_append, foldlM_replicate_advanced]
  by_cases even : meter.total % meter.interval = 0 <;> simp [even, Event.apply]

end Bar

end Meter

/-! ## A request -/

theorem interval_ofRequest (total : Int) (interval : Option Int) (caption : Setting)
    (options : List (String × Setting)) :
    (Meter.ofRequest total interval caption options).interval =
      max 1 (min (interval.getD (min (total / 20) 50)) total) := by
  rw [Meter.ofRequest, clampInterval, defaultInterval,
    Int.fdiv_eq_ediv_of_nonneg total (by decide)]

/-- A loop that is watched as asked for, at any pace, returns what the plain loop returns. Its
bar is told of exactly one opening, of the whole intervals, of what is left over and of the
close, which bring it to the total and never beyond it. Every further run of the loop is told
the same of a bar of its own. -/
theorem watched_scan {State Output : Type} (body : State → Nat → State × Output)
    (start : State) (total : Int) (interval : Option Int) (caption : Setting) :
    ∃ meter report,
      Meter.ofRequest? total interval caption [] = .ok meter ∧
      meter.scan? body start = .ok report ∧
      (report.final, report.outputs) = Chip8.scan body start (List.range total.toNat) ∧
      meter.interval = max 1 (min (interval.getD (min (total / 20) 50)) total) ∧
      1 ≤ meter.interval ∧
      (1 ≤ total →
        report.events =
          .opened total
              (if caption.holds then caption else .text (countCaption total "steps")) [] ::
            List.replicate (total / meter.interval).toNat (.advanced meter.interval) ++
            (if total % meter.interval = 0 then []
              else [.advanced (total % meter.interval)]) ++
            [.closed] ∧
        Event.moved report.events = total ∧
        ∀ told, told <+: report.events → Event.moved told ≤ total) ∧
      (total ≤ 0 → report.events = []) ∧
      report.events.foldlM Event.apply none = some none ∧
      ∀ again, ∃ second,
        meter.scan? body again = .ok second ∧ second.events = report.events := by
  let meter := Meter.ofRequest total interval caption []
  have sameTotal : meter.total = total := rfl
  have steps : meter.interval = max 1 (min (interval.getD (min (total / 20) 50)) total) :=
    interval_ofRequest total interval caption []
  have positive : 1 ≤ meter.interval := steps ▸ Int.le_max_left _ _
  have runs : ∀ state, meter.scan? body state = .ok (meter.scan body state) := fun state =>
    if_neg fun refused => Bool.false_ne_true refused.2
  have told : (1 ≤ total → (meter.scan body start).events = meter.eventsToTotal) := by
    intro iterates
    rw [Meter.events_scan, Meter.flatMap_eventsOf meter positive iterates]
  have silent : total ≤ 0 → (meter.scan body start).events = [] := by
    intro idle
    rw [Meter.events_scan, sameTotal, Int.toNat_of_nonpos idle]
    rfl
  refine ⟨meter, meter.scan body start, rfl, runs start, ?_, steps, positive, fun iterates => ?_,
    silent, ?_, fun again => ⟨_, runs again, ?_⟩⟩
  · rw [Meter.final_scan_eq, Meter.outputs_scan, sameTotal]
  · rw [told iterates]
    exact ⟨rfl, Meter.moved_eventsToTotal meter positive iterates,
      fun _ first => Meter.moved_le_of_isPrefix meter positive iterates first⟩
  · by_cases iterates : 1 ≤ total
    · rw [told iterates, Meter.foldlM_eventsToTotal]
    · rw [silent (by omega)]
      rfl
  · rw [Meter.events_scan, Meter.events_scan]

/-- Seven iterations, asked to be reported by threes, that add up their numbers. -/
theorem sevenIterations_watched :
    ∃ meter report,
      Meter.ofRequest? 7 (some 3) (.text "Adding") [] = .ok meter ∧
      meter.scan? (fun sum iteration => (sum + iteration, sum)) 0 = .ok report ∧
      (report.final, report.outputs) = (21, [0, 0, 1, 3, 6, 10, 15]) ∧
      report.events =
        [.opened 7 (.text "Adding") [], .advanced 3, .advanced 3, .advanced 1, .closed] ∧
      Event.moved report.events = 7 ∧
      ∃ second,
        meter.scan? (fun sum iteration => (sum + iteration, sum)) 100 = .ok second ∧
        second.events = report.events := by
  obtain ⟨meter, report, asked, runs, result, steps, -, bar, -, -, again⟩ :=
    watched_scan (fun sum iteration => (sum + iteration, sum)) 0 7 (some 3) (.text "Adding")
  have three : meter.interval = 3 := steps
  obtain ⟨events, moved, -⟩ := bar (by decide)
  rw [three] at events
  exact ⟨meter, report, asked, runs, result, events, moved, again 100⟩

end Chip8.Progress

namespace Chip8.Machine

/-- Watched cycles are told of as every loop is. -/
theorem runReporting_snd (machine : Machine) (cycles : Nat) :
    (machine.runReporting cycles).2 =
      if 0 < cycles then (Progress.cyclesMeter cycles).eventsToTotal else [] := by
  have events := (Progress.cyclesMeter cycles).events_scan
    (fun (state : Machine) _ => (state.step, ())) machine
  split
  case isTrue iterates =>
    have positive : 1 ≤ (Progress.cyclesMeter cycles).interval := Int.le_max_left _ _
    exact events.trans (Progress.Meter.flatMap_eventsOf _ positive (Int.ofNat_le.mpr iterates))
  case isFalse idle =>
    obtain rfl : cycles = 0 := by omega
    exact events

end Chip8.Machine

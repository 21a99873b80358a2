/-!
# Arrays of any depth

A nested array is a single value, a hole or a row of nested arrays. It has a shape
when it is rectangular and has no holes: the number of rows, then the shape that
all rows share. A single value has the empty shape, and an empty row is `[0]`.
-/

namespace Chip8

inductive Nested (α : Type) where
  | leaf (value : α)
  | hole
  | row (items : List (Nested α))
  deriving Inhabited

namespace Nested

variable {α : Type}

mutual

/-- The shape of a rectangular array; none if rows differ in shape or there is a
hole. -/
def shape? : Nested α → Option (List Nat)
  | .leaf _ => some []
  | .hole => none
  | .row items => (commonShape? items).map (items.length :: ·)

/-- The shape that all items share. -/
def commonShape? : List (Nested α) → Option (List Nat)
  | [] => some []
  | [item] => item.shape?
  | item :: rest =>
      match item.shape?, commonShape? rest with
      | some shape, some other => if shape = other then some shape else none
      | _, _ => none

end

mutual

def leaves : Nested α → List α
  | .leaf value => [value]
  | .hole => []
  | .row items => leavesOfAll items

def leavesOfAll : List (Nested α) → List α
  | [] => []
  | item :: rest => item.leaves ++ leavesOfAll rest

end

/-- The most dimensions that an array has. -/
def maxDimensions : Nat := 64

/-- The shape as an array, which rows that are nested too deep do not have. -/
def arrayShape? (nested : Nested α) : Option (List Nat) :=
  nested.shape?.filter fun shape => shape.length ≤ maxDimensions

end Nested

end Chip8

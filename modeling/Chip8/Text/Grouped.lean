/-!
# Grouped decimal text

Whole numbers with a comma between groups of three digits.
-/

namespace Chip8.Text.Grouped

/-- Put a comma before every third digit, given the digits from the right. -/
def groupReversed : List Char → List Char
  | a :: b :: c :: d :: rest => a :: b :: c :: ',' :: groupReversed (d :: rest)
  | short => short

def natural (value : Nat) : String :=
  String.ofList (groupReversed (toString value).toList.reverse).reverse

def integer : Int → String
  | .ofNat value => natural value
  | .negSucc value => "-" ++ natural (value + 1)

end Chip8.Text.Grouped

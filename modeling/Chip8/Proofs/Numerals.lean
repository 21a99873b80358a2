import Chip8.Machine
import Mathlib.Data.List.TakeWhile

/-!
# Numerals read back

A hexadecimal numeral has the value of the number that it was written for, whatever the width
it was padded to. In a text a numeral stands behind the mark `0x`, and the message about an
illegal word has two of them, its word and its address: no other fault has the same message.
-/

namespace Chip8.Text.Hexadecimal

/-- The digits by their value. -/
def symbols : List Char :=
  ['0', '1', '2', '3', '4', '5', '6', '7', '8', '9', 'A', 'B', 'C', 'D', 'E', 'F']

/-- The number that a row of digits stands for, most significant first. -/
def value (chars : List Char) : Nat :=
  chars.foldl (fun number char => 16 * number + symbols.idxOf char) 0

/-- The number at the start of a text: the digits there, after a minus sign if there is one. -/
def leading : List Char → Int
  | '-' :: rest => -(value (rest.takeWhile symbols.contains) : Int)
  | chars => value (chars.takeWhile symbols.contains)

/-- The numbers behind the marks `0x` of a text, in their order. -/
def numerals : List Char → List Int
  | [] => []
  | '0' :: 'x' :: rest => leading rest :: numerals rest
  | _ :: rest => numerals rest

/-! ## Digits -/

theorem idxOf_digit {number : Nat} (small : number < 16) :
    symbols.idxOf (digit number) = number := by
  revert number
  decide

theorem digit_mem_symbols {number : Nat} (small : number < 16) : digit number ∈ symbols := by
  rw [← List.idxOf_lt_length_iff, idxOf_digit small]
  exact small

theorem value_append_singleton (chars : List Char) (char : Char) :
    value (chars ++ [char]) = 16 * value chars + symbols.idxOf char := by
  simp [value]

theorem value_digits (number : Nat) : value (digits number) = number := by
  induction number using digits.induct with
  | case1 number small =>
      rw [digits, if_pos small]
      simp [value, idxOf_digit small]
  | case2 number large inductionHypothesis =>
      rw [digits, if_neg large, value_append_singleton, inductionHypothesis,
        idxOf_digit (Nat.mod_lt _ (by decide))]
      omega

theorem digits_subset (number : Nat) : digits number ⊆ symbols := by
  induction number using digits.induct with
  | case1 number small =>
      rw [digits, if_pos small]
      simpa using digit_mem_symbols small
  | case2 number large inductionHypothesis =>
      rw [digits, if_neg large, List.append_subset]
      refine ⟨inductionHypothesis, ?_⟩
      simpa using digit_mem_symbols (Nat.mod_lt number (by decide))

theorem digits_ne_nil (number : Nat) : digits number ≠ [] := by
  unfold digits
  split <;> simp

/-! ## Signed numerals -/

theorem toList_padded (width : Nat) (number : Int) :
    (padded width number).toList = signed width number :=
  String.toList_ofList

theorem value_padZeros (length : Nat) (chars : List Char) :
    value (padZeros length chars) = value chars := by
  unfold padZeros
  induction length - chars.length with
  | zero => rfl
  | succ zeros inductionHypothesis => exact inductionHypothesis

theorem padZeros_digits_subset (length number : Nat) :
    padZeros length (digits number) ⊆ symbols := by
  refine List.append_subset.mpr ⟨?_, digits_subset number⟩
  intro char zero
  rw [List.eq_of_mem_replicate zero]
  decide

theorem signed_subset (width : Nat) (number : Int) : signed width number ⊆ '-' :: symbols := by
  cases number with
  | ofNat number => exact List.subset_cons_of_subset _ (padZeros_digits_subset width number)
  | negSucc number =>
      exact List.cons_subset_cons _ (padZeros_digits_subset (width - 1) (number + 1))

theorem leading_of_mem {chars : List Char} {first : Char} {rest : List Char}
    (starts : chars = first :: rest) (inside : first ∈ symbols) :
    leading chars = value (chars.takeWhile symbols.contains) := by
  unfold leading
  split
  · obtain ⟨rfl, -⟩ := List.cons.inj starts
    exact absurd inside (by decide)
  · rfl

section Rest

-- What follows a numeral must neither carry it on nor make a mark of its last digit.
variable {rest : List Char} (ends : ∀ char ∈ rest.head?, char ∉ 'x' :: symbols)

include ends

theorem takeWhile_append_rest {chars : List Char} (inside : chars ⊆ symbols) :
    (chars ++ rest).takeWhile symbols.contains = chars := by
  have taken : ∀ char ∈ chars, symbols.contains char = true :=
    fun _ member => List.contains_iff_mem.mpr (inside member)
  have stop : rest.takeWhile symbols.contains = [] := by
    cases rest with
    | nil => rfl
    | cons char rest =>
        have outside : char ∉ symbols :=
          fun member => ends char rfl (List.mem_cons_of_mem _ member)
        simp [outside]
  rw [List.takeWhile_append_of_pos taken, stop, List.append_nil]

theorem leading_signed_append (width : Nat) (number : Int) :
    leading (signed width number ++ rest) = number := by
  cases number with
  | ofNat number =>
      have inside := padZeros_digits_subset width number
      have present : padZeros width (digits number) ≠ [] := by
        simp [padZeros, digits_ne_nil]
      -- The first of the digits shows that there is no minus sign.
      obtain ⟨first, others, split⟩ := List.exists_cons_of_ne_nil present
      have starts : padZeros width (digits number) ++ rest = first :: (others ++ rest) := by
        rw [split, List.cons_append]
      rw [signed, leading_of_mem starts (inside (by simp [split])),
        takeWhile_append_rest ends inside, value_padZeros, value_digits]
      rfl
  | negSucc number =>
      rw [signed, List.cons_append, leading,
        takeWhile_append_rest ends (padZeros_digits_subset _ _), value_padZeros, value_digits]
      rfl

end Rest

/-! ## Texts with numerals -/

theorem numerals_cons {char : Char} {rest : List Char} (unmarked : rest.head? ≠ some 'x') :
    numerals (char :: rest) = numerals rest := by
  rw [numerals]
  rintro tail - rfl
  exact unmarked rfl

theorem numerals_append {chars rest : List Char} (unmarked : 'x' ∉ chars)
    (ends : rest.head? ≠ some 'x') : numerals (chars ++ rest) = numerals rest := by
  induction chars with
  | nil => rfl
  | cons char chars inductionHypothesis =>
      have later : 'x' ∉ chars := fun member => unmarked (List.mem_cons_of_mem char member)
      have next : (chars ++ rest).head? ≠ some 'x' := by
        cases chars with
        | nil => exact ends
        | cons next chars =>
            intro marked
            exact later (Option.some.inj marked ▸ List.mem_cons_self)
      rw [List.cons_append, numerals_cons next, inductionHypothesis later]

/-- A numeral behind a mark is read, and the reading goes on behind it. -/
theorem numerals_marked {before rest : List Char} (unmarked : 'x' ∉ before)
    (ends : ∀ char ∈ rest.head?, char ∉ 'x' :: symbols) (width : Nat) (number : Int) :
    numerals (before ++ '0' :: 'x' :: (signed width number ++ rest)) =
      number :: numerals rest := by
  have inside : 'x' ∉ signed width number := by
    intro member
    exact absurd (signed_subset width number member) (by decide)
  have after : rest.head? ≠ some 'x' := by
    intro marked
    simpa using ends 'x' marked
  rw [numerals_append unmarked (by simp), numerals, leading_signed_append ends,
    numerals_append inside after]

end Chip8.Text.Hexadecimal

namespace Chip8

open Text.Hexadecimal

namespace Error

/-- What the message says of the address. -/
def addressChars : Option Int → List Char
  | none => []
  | some place => " at ".toList ++ '0' :: 'x' :: signed 3 place

theorem toList_illegalOpcodeText (opcode : Int) (address : Option Int) :
    (illegalOpcodeText opcode address).toList =
      "Illegal opcode ".toList ++ '0' :: 'x' :: (signed 4 opcode ++ addressChars address) := by
  have wordMark : "Illegal opcode 0x".toList = "Illegal opcode ".toList ++ ['0', 'x'] := rfl
  have placeMark : " at 0x".toList = " at ".toList ++ ['0', 'x'] := rfl
  cases address with
  | none =>
      have text : illegalOpcodeText opcode none = "Illegal opcode 0x" ++ padded 4 opcode := rfl
      rw [text, String.toList_append, toList_padded, wordMark, List.append_assoc, addressChars,
        List.append_nil]
      rfl
  | some place =>
      have text : illegalOpcodeText opcode (some place) =
          "Illegal opcode 0x" ++ padded 4 opcode ++ " at 0x" ++ padded 3 place := rfl
      simp only [text, String.toList_append, toList_padded, wordMark, placeMark, addressChars,
        List.append_assoc]
      rfl

theorem not_mem_of_head?_addressChars {address : Option Int} :
    ∀ char ∈ (addressChars address).head?, char ∉ 'x' :: symbols := by
  cases address <;> simp [addressChars, symbols]

theorem numerals_addressChars (address : Option Int) :
    numerals (addressChars address) = address.toList := by
  cases address with
  | none => rfl
  | some place =>
      have ended : signed 3 place = signed 3 place ++ [] := (List.append_nil _).symm
      rw [addressChars, ended, numerals_marked (by simp) (by simp)]
      rfl

theorem numerals_illegalOpcodeText (opcode : Int) (address : Option Int) :
    numerals (illegalOpcodeText opcode address).toList = opcode :: address.toList := by
  rw [toList_illegalOpcodeText, numerals_marked (by simp) not_mem_of_head?_addressChars,
    numerals_addressChars]

/-- The width of a numeral counts its minus sign. -/
example : illegalOpcodeText (-1) (some 0x200) = "Illegal opcode 0x-001 at 0x200" ∧
    numerals "Illegal opcode 0x-001 at 0x200".toList = [-1, 0x200] := by
  decide +kernel

/-- The message about an illegal word names the word and its address, which may be absent: both
are read back from the numerals, so that no other word or address has the same message. -/
theorem illegalOpcode_identified_by_message (opcode : Int) (address : Option Int) :
    (∃ text, (Error.illegalOpcode opcode address).message? = some text ∧
        numerals text.toList = opcode :: address.toList) ∧
      ∀ (other : Int) (place : Option Int),
        (Error.illegalOpcode opcode address).message? =
            (Error.illegalOpcode other place).message? ↔
          opcode = other ∧ address = place := by
  refine ⟨⟨_, rfl, numerals_illegalOpcodeText opcode address⟩, ?_⟩
  intro other place
  constructor
  · intro same
    have read := congrArg (fun text => numerals text.toList) (Option.some.inj same)
    simp only [numerals_illegalOpcodeText, List.cons.injEq] at read
    obtain ⟨sameWord, samePlaces⟩ := read
    refine ⟨sameWord, ?_⟩
    cases address <;> cases place <;> simp_all
  · rintro ⟨rfl, rfl⟩
    rfl

end Error

/-- A machine that has faulted reports its illegal word and the counter, to be read back from the
message. -/
theorem Machine.numerals_of_faulted {machine : Machine} (faulted : machine.faulted = true) :
    ∃ error text, machine.fault? = some error ∧ error.message? = some text ∧
      numerals text.toList = [(machine.illegalOpcode.toNat : Int), (machine.pc.toNat : Int)] :=
  ⟨_, _, if_pos faulted, rfl, Error.numerals_illegalOpcodeText _ _⟩

end Chip8

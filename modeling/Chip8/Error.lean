import Chip8.Text.Hexadecimal

/-!
# Errors

Everything that can go wrong, by cause. `Error.message?` gives the text shown to
the user; causes that lie outside the machine, such as a missing file or a
number that does not fit its word, have none.
-/

namespace Chip8

/-- What stands against reading or writing a file. -/
inductive FileFault where
  | missing
  | isDirectory
  /-- The path goes on behind a file. -/
  | notDirectory
  | nameTooLong
  | nulInName
  deriving DecidableEq

inductive Error where
  /-- A word that is not an instruction, with the address it was fetched from. -/
  | illegalOpcode (opcode : Int) (address : Option Int)
  /-- A cycle was asked for before a program was loaded. -/
  | notPowered
  /-- A program that does not fit, refused by the host. -/
  | programTooLong (length : Nat)
  /-- A program that does not fit, refused by memory itself. -/
  | programOverrun
  | keyOutOfRange (key : Int)
  | keyStatesShape (shape : List Nat)
  /-- Key states that are no array. -/
  | shapelessKeyStates
  /-- The value is given in its quoted form. -/
  | unknownDialect (value : String)
  /-- The value is given in its quoted form. -/
  | unknownWrapMode (value : String)
  | scaleNotPositive (scale : Int)
  /-- A scale given as a no. -/
  | scaleDenied
  | scaleNotNumber
  | scaleOutOfRange
  | imageTooLarge
  | unknownScheme (name : String)
  /-- A scheme asked for by a list or a table. -/
  | schemeNotName
  /-- A level that no logger can be created with. -/
  | unknownThreshold (name : String)
  /-- A level that no line can be logged at. -/
  | unknownLevel
  | levelNotText
  | wordOutOfRange
  | seedMissing
  | seedNotNumber
  | seedOutOfRange
  | cyclesMissing
  /-- Nothing that a caption could count. -/
  | cyclesNotNumber
  /-- A text where a caption counts in groups of three digits. -/
  | cyclesNotGrouped
  | colorOutOfRange
  | pathNotText
  | fileNotRead (fault : FileFault)
  | fileNotWritten (fault : FileFault)
  | unknownImageFormat
  /-- A bar's option that the request for the bar settles. -/
  | optionTaken
  /-- A bar's option that its opening settles. -/
  | optionRefused
  deriving DecidableEq

namespace Error

/-- A list of sizes in parentheses; a single one keeps its comma. -/
def shapeText : List Nat → String
  | [] => "()"
  | [size] => "(" ++ toString size ++ ",)"
  | sizes => "(" ++ ", ".intercalate (sizes.map toString) ++ ")"

/-- The text that names an illegal word and, if known, its address. -/
def illegalOpcodeText (opcode : Int) (address : Option Int) : String :=
  let word := "Illegal opcode 0x" ++ Text.Hexadecimal.padded 4 opcode
  match address with
  | none => word
  | some place => word ++ " at 0x" ++ Text.Hexadecimal.padded 3 place

def message? : Error → Option String
  | .illegalOpcode opcode address => some (illegalOpcodeText opcode address)
  | .notPowered => some "Must load a ROM before stepping the machine"
  | .programTooLong length =>
      some ("ROM is " ++ toString length ++ " bytes, at most 3584 fit above 0x200")
  | .keyOutOfRange key => some ("Key must be in range 0-F, got " ++ toString key)
  | .keyStatesShape shape => some ("Expected 16 key states, got shape " ++ shapeText shape)
  | .unknownDialect value => some (value ++ " is not a valid Dialect")
  | .unknownWrapMode value => some (value ++ " is not a valid WrapMode")
  | .scaleNotPositive scale =>
      some ("Scale must be a positive integer, got " ++ toString scale)
  | .scaleDenied => some "Scale must be a positive integer, got False"
  | .unknownScheme name =>
      some ("Unknown color scheme '" ++ name ++ "'. Available: " ++
        "['chipjax', 'classic', 'amber', 'white', 'blue', 'retro']")
  | .unknownThreshold name =>
      some ("Unknown log level '" ++ name ++ "'. Available: " ++
        "['DEBUG', 'INFO', 'WARNING', 'ERROR', 'CRITICAL']")
  | .unknownLevel => some "tuple.index(x): x not in tuple"
  | .cyclesNotGrouped => some "Cannot specify ',' with 's'."
  | .fileNotRead .nulInName => some "embedded null byte"
  | .programOverrun | .shapelessKeyStates | .scaleNotNumber | .scaleOutOfRange | .imageTooLarge
  | .schemeNotName | .levelNotText | .wordOutOfRange | .seedMissing | .seedNotNumber
  | .seedOutOfRange | .cyclesMissing | .cyclesNotNumber | .colorOutOfRange | .pathNotText
  | .fileNotRead _ | .fileNotWritten _ | .unknownImageFormat | .optionTaken
  | .optionRefused => none

/-- Of two stages that can fail both have to succeed. -/
theorem bind_eq_ok_iff {First Second : Type} {first : Except Error First}
    {second : First → Except Error Second} {result : Second} :
    first >>= second = .ok result ↔ ∃ value, first = .ok value ∧ second value = .ok result := by
  cases first <;> simp [bind, Except.bind]

theorem mapError_eq_ok_iff {Fault Result : Type} {attempt : Except Fault Result}
    {cause : Fault → Error} {result : Result} :
    attempt.mapError cause = .ok result ↔ attempt = .ok result := by
  cases attempt with
  | error fault => exact ⟨nofun, nofun⟩
  | ok value =>
      constructor
      · exact fun done => congrArg Except.ok (Except.ok.inj done)
      · exact fun done => congrArg Except.ok (Except.ok.inj done)

end Error

end Chip8

import Chip8.Arithmetic
import Chip8.CallStack
import Chip8.Dialect
import Chip8.Error
import Chip8.Execution
import Chip8.Files
import Chip8.Font
import Chip8.Headless.Argument
import Chip8.Headless.Config
import Chip8.Headless.Path
import Chip8.Headless.Run
import Chip8.Instruction
import Chip8.Keypad
import Chip8.Log.Clock
import Chip8.Log.Level
import Chip8.Log.Logger
import Chip8.Machine
import Chip8.Main
import Chip8.Memory
import Chip8.Nested
import Chip8.Picture.Bitmap
import Chip8.Picture.Bmp
import Chip8.Picture.Bytes
import Chip8.Picture.Color
import Chip8.Picture.Frame
import Chip8.Picture.Image
import Chip8.Picture.Library
import Chip8.Picture.Png
import Chip8.Progress
import Chip8.Proofs.Aliasing
import Chip8.Proofs.Batch
import Chip8.Proofs.Calculation
import Chip8.Proofs.Calls
import Chip8.Proofs.Changes
import Chip8.Proofs.Configuration
import Chip8.Proofs.Cycle
import Chip8.Proofs.Drawing
import Chip8.Proofs.Enlarging
import Chip8.Proofs.Fault
import Chip8.Proofs.FaultReport
import Chip8.Proofs.Footprint
import Chip8.Proofs.Forms
import Chip8.Proofs.Frames
import Chip8.Proofs.Glyphs
import Chip8.Proofs.History
import Chip8.Proofs.HostState
import Chip8.Proofs.Hundredths
import Chip8.Proofs.IndexSum
import Chip8.Proofs.Loading
import Chip8.Proofs.Logging
import Chip8.Proofs.Matching
import Chip8.Proofs.Nesting
import Chip8.Proofs.Noninterference
import Chip8.Proofs.Numerals
import Chip8.Proofs.Outcome
import Chip8.Proofs.Plotting
import Chip8.Proofs.ProgramCounter
import Chip8.Proofs.Provenance
import Chip8.Proofs.Randomness
import Chip8.Proofs.Redrawing
import Chip8.Proofs.Refusal
import Chip8.Proofs.Subroutine
import Chip8.Proofs.Timers
import Chip8.Proofs.Transfers
import Chip8.Proofs.Waiting
import Chip8.Proofs.Watching
import Chip8.Random
import Chip8.Registers
import Chip8.Screen
import Chip8.Session
import Chip8.Setting
import Chip8.Sprite
import Chip8.Text.Fixed
import Chip8.Text.Grouped
import Chip8.Text.Hexadecimal
import Chip8.Text.Padding
import Chip8.Text.Printable
import Chip8.Text.Quoted
import Chip8.Text.UpperCase
import Chip8.Word

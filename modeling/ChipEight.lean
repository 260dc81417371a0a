import ChipEight.Catalog
import ChipEight.CommandLine.Options
import ChipEight.CommandLine.Run
import ChipEight.Console
import ChipEight.Dimensions
import ChipEight.Fault
import ChipEight.FileTree
import ChipEight.Flow
import ChipEight.Font
import ChipEight.Instruction
import ChipEight.Instruction.Execution
import ChipEight.Instruction.Mnemonic
import ChipEight.Instruction.Record
import ChipEight.Json.Token
import ChipEight.Json.Value
import ChipEight.KeyStream
import ChipEight.Keyboard
import ChipEight.Listing
import ChipEight.Machine
import ChipEight.Main
import ChipEight.Memory
import ChipEight.Notice
import ChipEight.Path
import ChipEight.Phase
import ChipEight.Proofs.CommandLine.Selection
import ChipEight.Proofs.Console.Batching
import ChipEight.Proofs.Console.Deeds
import ChipEight.Proofs.Console.Halting
import ChipEight.Proofs.Console.Pausing
import ChipEight.Proofs.Console.Phases
import ChipEight.Proofs.Console.Restart
import ChipEight.Proofs.Console.Sampling
import ChipEight.Proofs.Console.Sounds
import ChipEight.Proofs.Console.Transcript
import ChipEight.Proofs.Instruction.Footprint
import ChipEight.Proofs.Instruction.Frame
import ChipEight.Proofs.Instruction.Operands
import ChipEight.Proofs.Instruction.Overlooked
import ChipEight.Proofs.Listing.Iteration
import ChipEight.Proofs.Machine.Effect
import ChipEight.Proofs.Machine.Failure
import ChipEight.Proofs.Machine.Rearrangement
import ChipEight.Proofs.Machine.Ring
import ChipEight.Proofs.Machine.Stimuli
import ChipEight.Proofs.Screen.Binary
import ChipEight.Proofs.Screen.Overlay
import ChipEight.Proofs.Service.Requests
import ChipEight.Proofs.State.CallStack
import ChipEight.Proofs.State.Faults
import ChipEight.Proofs.State.Guarded
import ChipEight.Proofs.State.History
import ChipEight.Proofs.State.Index
import ChipEight.Proofs.State.Safety
import ChipEight.Proofs.State.Sprites
import ChipEight.Screen
import ChipEight.Screen.Texture
import ChipEight.Service
import ChipEight.Session
import ChipEight.Settings
import ChipEight.Signal
import ChipEight.State
import ChipEight.Text.Numeral
import ChipEight.Text.Quoted
import ChipEight.Text.Units
import ChipEight.Text.Unprintable
import ChipEight.Ticker
import ChipEight.Proofs.Instruction.Arithmetic
import ChipEight.Proofs.State.Dump
import ChipEight.Proofs.Ticker.Draining
import ChipEight.Proofs.Console.Workload
import ChipEight.Proofs.Ticker.Rate
import ChipEight.Proofs.Screen.Texture
import ChipEight.Proofs.Console.Frames
import ChipEight.Proofs.Machine.Waiting
import ChipEight.Proofs.Machine.Reset
import ChipEight.Proofs.Text.Numeral
import ChipEight.Proofs.Instruction.Assembling
import ChipEight.Proofs.Json.Number
import ChipEight.Proofs.Json.Layout
import ChipEight.Proofs.Json.Written
import ChipEight.Proofs.Text.Units
import ChipEight.Proofs.Catalog.Reading

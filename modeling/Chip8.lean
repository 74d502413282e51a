import Chip8.Host.Session
import Chip8.Main
import Chip8.Progress
import Chip8.Machine.Strict
import Chip8.Machine.Dispatch
import Chip8.Proofs.Access
import Chip8.Proofs.Effect
import Chip8.Proofs.Outcome
import Chip8.History
import Chip8.Proofs.Frames
import Chip8.Proofs.Invariant
import Chip8.Proofs.Subroutine
import Chip8.Proofs.BoundedList
import Chip8.Proofs.KeyWait
import Chip8.Proofs.Rollback
import Chip8.Proofs.Iteration
import Chip8.Proofs.Session
import Chip8.Proofs.Decode
import Chip8.Proofs.Mnemonic
import Chip8.Proofs.Footprint
import Chip8.Proofs.Listing
import Chip8.Proofs.RandomStream
import Chip8.Proofs.Redraw
import Chip8.Proofs.Plotting
import Chip8.Proofs.Overdraw
import Chip8.Proofs.Report
import Chip8.Proofs.Arithmetic
import Chip8.Proofs.Transfer
import Chip8.Proofs.Address
import Chip8.Proofs.KeyEvents
import Chip8.Proofs.Timers
import Chip8.Proofs.Termination
import Chip8.Proofs.Creation
import Chip8.Log.Call
import Chip8.Proofs.Lines
import Chip8.Proofs.LogOutput
import Chip8.Proofs.Trace

import ChipEight.Main
import ChipEight.Proofs.Memory
import ChipEight.Proofs.Machine.Atomicity
import ChipEight.Proofs.Machine.Invariant
import ChipEight.Proofs.Assembly.Decoding
import ChipEight.Proofs.Assembly.Disassembly
import ChipEight.Proofs.Assembly.Resolution
import ChipEight.Proofs.Machine.Loaded
import ChipEight.Proofs.Machine.Subroutines
import ChipEight.Proofs.Assembly.Totality
import ChipEight.Proofs.Assembly.Remarks
import ChipEight.Proofs.Assembly.Renaming
import ChipEight.Proofs.Display
import ChipEight.Proofs.Machine.Drawing
import ChipEight.Proofs.Settings
import ChipEight.Proofs.Host.Assembler
import ChipEight.Proofs.Host.Canvas
import ChipEight.Proofs.Host.Emulator
import ChipEight.Proofs.Machine.Parts
import ChipEight.Proofs.Machine.Faults
import ChipEight.Proofs.Machine.Arithmetic
import ChipEight.Proofs.Machine.Redrawing
import ChipEight.Proofs.Accesses
import ChipEight.Proofs.Machine.Blocks
import ChipEight.Proofs.Machine.Glyphs
import ChipEight.Proofs.Machine.Flow
import ChipEight.Proofs.Machine.Pacing
import ChipEight.Proofs.Machine.Countdown
import ChipEight.Proofs.Machine.Waiting
import ChipEight.Proofs.Host.Events
import ChipEight.Proofs.Assembly.Bookkeeping
import ChipEight.Proofs.Machine.Randomness
import ChipEight.Proofs.Settings.Validity
import ChipEight.Proofs.Display.Toggling

import ChipEight.Console.Laws
import ChipEight.Keypad.Laws
import ChipEight.Main
import ChipEight.Memory.Laws
import ChipEight.Screen.Laws
import ChipEight.Shared.Laws
import ChipEight.Text.HexadecimalLaws
import ChipEight.Proofs.Fault.Message
import ChipEight.Proofs.Instruction.Opcode
import ChipEight.Proofs.Machine.Execute
import ChipEight.Proofs.Machine.Drawing
import ChipEight.Proofs.Machine.Step
import ChipEight.Proofs.Machine.Failure
import ChipEight.Proofs.Machine.Stall
import ChipEight.Proofs.Console.Steps
import ChipEight.Proofs.Session.Account
import ChipEight.Proofs.Machine.Reachable
import ChipEight.Proofs.Session.EarlyStop
import ChipEight.Proofs.Session.FirstStall
import ChipEight.Proofs.Session.DeadEnd
import ChipEight.Proofs.Timers.Rounding
import ChipEight.Proofs.Timers.Period
import ChipEight.Proofs.Timers.History
import ChipEight.Proofs.Machine.Calls
import ChipEight.Proofs.Machine.Clock
import ChipEight.Proofs.Console.Course
import ChipEight.Proofs.Console.Time
import ChipEight.Proofs.Console.Reset
import ChipEight.Proofs.Memory.HexText
import ChipEight.Proofs.Machine.Footprint
import ChipEight.Proofs.Console.Sharing
import ChipEight.Proofs.Console.Usage
import ChipEight.Proofs.Console.Font
import ChipEight.Proofs.Machine.Guarded
import ChipEight.Proofs.Machine.Sound
import ChipEight.Proofs.Console.Bounds
import ChipEight.Proofs.Console.KeyLatch
import ChipEight.Proofs.Screen.SpriteRows
import ChipEight.Proofs.Screen.LitCount
import ChipEight.Proofs.Screen.Sprite
import ChipEight.Proofs.Machine.Sprite
import ChipEight.Proofs.Memory.Access
import ChipEight.Proofs.Memory.LastPosition
import ChipEight.Proofs.Console.Loading
import ChipEight.Proofs.Machine.StoreLoad
import ChipEight.Proofs.Console.KeyWait
import ChipEight.Proofs.Screen.Picture
import ChipEight.Proofs.Machine.FlagArithmetic
import ChipEight.Proofs.Instruction.Reading
import ChipEight.Proofs.Machine.SameText
import ChipEight.Proofs.Session.SoundRecords
import ChipEight.Proofs.Session.Live
import ChipEight.Proofs.Options.KeyText
import ChipEight.Proofs.Options.KeyValues
import ChipEight.Proofs.Session.HeldKeys

import NandRig.Lib.BitField
import NandRig.Lib.RingMem
import NandRig.Device.Emu
import NandRig.Device.Store
import NandRig.Device.Cursor
import NandRig.Device.Parser
import NandRig.Device.Moves
import NandRig.Device.Ioregs
import NandRig.Lib.Machine
import NandRig.Lib.Simulation
import NandRig.Device.Run
import NandRig.Device.Readiness
import NandRig.Device.Reading
import NandRig.Device.Session
import NandRig.Device.Storage
import NandRig.Device.Protocol
import NandRig.Device.Chip
import NandRig.Lib.Chain
import NandRig.Lib.Cut
import NandRig.Framework.Dib
import NandRig.Lib.Interact
import NandRig.Lib.Rounds
import NandRig.Lib.Transcript
import NandRig.Lib.Coupling
import NandRig.Framework.Interface
import NandRig.Driver.Sound
import NandRig.Driver.KiloFamily
import NandRig.Driver.Kilo0
import NandRig.Driver.Wait
import NandRig.Framework.JumpTable
import NandRig.Framework.ExecOp
import NandRig.Framework.Agreement
import NandRig.Framework.Counts
import NandRig.Framework.Chunks
import NandRig.Driver.Interpreter
import NandRig.Driver.FlawedFoxtrot
import NandRig.Driver.FlawedAlpha
import NandRig.Stack.System
import NandRig.Stack.Reads
import NandRig.Stack.Polling
import NandRig.Stack.Timing
import NandRig.Stack.Progress
import NandRig.Stack.Transfer
import NandRig.Stack.Conformance
import NandRig.Stack.Lockstep
import NandRig.Stack.Reset
import NandRig.Stack.Recovery
import NandRig.Tester.Mirror
import NandRig.Tester.Law
import NandRig.Tester.DibTest
import NandRig.Tester.Stochastic
import NandRig.Stack.Refinement
import NandRig.Stack.Erasing
import NandRig.Lib.Ghost
import NandRig.Tester.Data
import NandRig.Tester.Harness
import NandRig.Tester.Verdict
import NandRig.Tester.KiloTest
import NandRig.Stack.Drivers
import NandRig.Stack.SystemTests
import NandRig.Driver.FlawedReads
import NandRig.Driver.FlawedLoops
import NandRig.Driver.FlawedWaits
import NandRig.Stack.FlawedReads
import NandRig.Stack.FlawedLoops
import NandRig.Stack.FlawedTests
import NandRig.Stack.FlawedWaits
import NandRig.Stack.FailingWaits
import NandRig.Stack.History
import NandRig.Device.TestDevice
import NandRig.Stack.TraceeRules
import NandRig.Stack.DeviceTests
